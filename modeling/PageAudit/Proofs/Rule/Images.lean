import PageAudit.Proofs.Decimal.Signed
import PageAudit.Proofs.Html.Order
import PageAudit.Proofs.Rule.Charge
/-!
What rules count among the images of a document: those without an alternative text (`muteImages`), and those
that declare themselves larger than a full screen (`Oversized`).

A dimension is a whole number of any length, but the rule reads it into a word of 64 bits, and one that does
not fit is taken for none at all. So it counts the oversized images whose dimensions fit (`Held`), and those
that declare the largest numbers of all go unreported (`oversized_counted`, `oversized_unreported`).
-/
namespace PageAudit.Rule
open Html

/-! ### Alternative texts -/

/-- An image whose alternative text is absent or empty. -/
def Mute (n : Node) : Prop := n.name = "img" ∧ ∀ alt ∈ n.attribute? "alt", alt = ""

instance (n : Node) : Decidable (Mute n) := by
  unfold Mute
  infer_instance

/-- The number of images without an alternative text. -/
def muteImages (d : Document) : Nat := d.elements.countP (Mute ·)

theorem imagesMissingAlt_eq (d : Document) : d.imagesMissingAlt = muteImages d := by
  rw [Document.imagesMissingAlt, Document.findAll_eq (by decide +kernel), List.filter_filter,
    ← List.countP_eq_length_filter, muteImages]
  refine List.countP_congr fun n _ => ?_
  cases halt : n.attribute? "alt" with
  | none => simp [Mute, halt]
  | some alt => simp [Mute, halt, and_comm]

/-- The penalty on accessibility for some images without an alternative text. -/
def Accessibility.muteCharge (n : Nat) : Penalty :=
  charge 15 "Images Missing Alt Text" (toString n ++ " images missing alt text for screen readers")
    .altTextUnspoken

/-- The penalty of search engines for the same images. -/
def Seo.muteCharge (n : Nat) : Penalty :=
  charge 10 "Images Missing Alt Text" (toString n ++ " images missing alt text") .altTextMissing

theorem Accessibility.altText_eq (s : Subject) :
    altText.penalties s = chargeIf (0 < muteImages s.document) (muteCharge (muteImages s.document)) := by
  rw [← imagesMissingAlt_eq]
  exact countedPenalties_eq (Knowledge.mem_of_find? rfl) rfl 15
    (fun n => toString n ++ " images missing alt text for screen readers") _

theorem Seo.altText_eq (s : Subject) :
    altText.penalties s = chargeIf (0 < muteImages s.document) (muteCharge (muteImages s.document)) := by
  rw [← imagesMissingAlt_eq]
  exact countedPenalties_eq (Knowledge.mem_of_find? rfl) rfl 10 (fun n => toString n ++ " images missing alt text") _

/-! ### Dimensions -/

namespace Performance

/-- An image declares a dimension: a whole number of any length, with blanks around it or not. -/
def Declares (image : Node) (key : String) (z : Int) : Prop :=
  ∃ value ∈ image.attribute? key, Decimal.Signed (Text.trim value.toList) z

/-- An image that declares both dimensions, one of them larger than that of a full screen. -/
def Oversized (n : Node) : Prop :=
  n.name = "img" ∧ ∃ w, Declares n "width" w ∧ ∃ h, Declares n "height" h ∧ (1920 < w ∨ 1080 < h)

/-- The dimensions that an element declares fit a word. -/
def Held (n : Node) : Prop := ∀ key ∈ ["width", "height"], ∀ z, Declares n key z → Decimal.FitsWord z

variable {n : Node} {key : String} {z : Int}

/-- The dimension that an element declares. -/
def declared? (n : Node) (key : String) : Option Int :=
  (n.attribute? key).bind fun value => Decimal.signed? (Text.trim value.toList)

theorem declared?_eq_some_iff : declared? n key = some z ↔ Declares n key z := by
  rw [declared?, Option.bind_eq_some_iff]
  exact exists_congr fun value => and_congr_right' Decimal.signed?_eq_some_iff

instance (n : Node) : Decidable (Oversized n) :=
  decidable_of_iff (n.name = "img" ∧
      ∃ w ∈ declared? n "width", ∃ h ∈ declared? n "height", 1920 < w ∨ 1080 < h) <| by
    simp only [Option.mem_def, declared?_eq_some_iff]
    rfl

instance (n : Node) : Decidable (Held n) :=
  decidable_of_iff (∀ key ∈ ["width", "height"], ∀ z ∈ declared? n key, Decimal.FitsWord z) <| by
    simp only [Option.mem_def, declared?_eq_some_iff]
    rfl

/-- The rule reads a dimension that fits a word. -/
theorem dimension?_eq_some_iff :
    (n.attribute? key).bind dimension? = some z ↔ Declares n key z ∧ Decimal.FitsWord z := by
  simp only [Option.bind_eq_some_iff, dimension?, Decimal.integer64?_eq_some_iff, Declares, Option.mem_def]
  constructor
  · rintro ⟨value, hvalue, hsigned, hfits⟩
    exact ⟨⟨value, hvalue, hsigned⟩, hfits⟩
  · rintro ⟨⟨value, hvalue, hsigned⟩, hfits⟩
    exact ⟨value, hvalue, hsigned, hfits⟩

theorem Declares.unique {z' : Int} (h : Declares n key z) (h' : Declares n key z') : z = z' := by
  obtain ⟨value, hvalue, hz⟩ := h
  obtain ⟨value', hvalue', hz'⟩ := h'
  obtain rfl := Option.mem_unique hvalue hvalue'
  exact hz.unique hz'

/-- The images that the rule counts are the oversized ones whose dimensions fit a word. -/
theorem isOversized_iff (himage : n.name = "img") : isOversized n = true ↔ Oversized n ∧ Held n := by
  constructor
  · intro h
    unfold isOversized at h
    split at h
    · next w ht hw hh =>
      obtain ⟨hw, hwfits⟩ := dimension?_eq_some_iff.mp hw
      obtain ⟨hh, hhfits⟩ := dimension?_eq_some_iff.mp hh
      rw [Bool.or_eq_true, decide_eq_true_iff, decide_eq_true_iff] at h
      refine ⟨⟨himage, w, hw, ht, hh, h⟩, ?_⟩
      simp only [Held, List.forall_mem_cons]
      refine ⟨fun z hz => ?_, fun z hz => ?_, List.forall_mem_nil _⟩
      · exact hz.unique hw ▸ hwfits
      · exact hz.unique hh ▸ hhfits
    · cases h
  · rintro ⟨⟨-, w, hw, ht, hh, hlarge⟩, hheld⟩
    have hwread := dimension?_eq_some_iff.mpr ⟨hw, hheld "width" (by decide) w hw⟩
    have hhread := dimension?_eq_some_iff.mpr ⟨hh, hheld "height" (by decide) ht hh⟩
    unfold isOversized
    rw [hwread, hhread, Bool.or_eq_true, decide_eq_true_iff, decide_eq_true_iff]
    exact hlarge

/-- An element declares dimensions that are at least those of another. -/
def AtLeast (larger n : Node) : Prop :=
  ∀ key ∈ ["width", "height"], ∀ z, Declares n key z → ∃ z', Declares larger key z' ∧ z ≤ z'

instance (larger n : Node) : Decidable (AtLeast larger n) :=
  decidable_of_iff (∀ key ∈ ["width", "height"], ∀ z ∈ declared? n key, ∃ z' ∈ declared? larger key, z ≤ z') <| by
    simp only [Option.mem_def, declared?_eq_some_iff]
    rfl

theorem Oversized.mono {larger : Node} (h : Oversized n) (himage : larger.name = "img") (hle : AtLeast larger n) :
    Oversized larger := by
  obtain ⟨-, w, hw, ht, hh, hlarge⟩ := h
  obtain ⟨w', hw', hwle⟩ := hle "width" (by decide) w hw
  obtain ⟨ht', hh', hhle⟩ := hle "height" (by decide) ht hh
  refine ⟨himage, w', hw', ht', hh', ?_⟩
  rcases hlarge with hlarge | hlarge
  · exact .inl (Int.lt_of_lt_of_le hlarge hwle)
  · exact .inr (Int.lt_of_lt_of_le hlarge hhle)

theorem oversizedImages_eq (d : Document) :
    oversizedImages d = d.elements.countP fun n => Oversized n ∧ Held n := by
  rw [oversizedImages, Document.findAll_eq (by decide +kernel), List.filter_filter,
    ← List.countP_eq_length_filter]
  refine List.countP_congr fun n _ => ?_
  rw [Bool.and_eq_true, beq_iff_eq, decide_eq_true_iff]
  constructor
  · rintro ⟨hflag, himage⟩
    exact (isOversized_iff himage).mp hflag
  · intro h
    exact ⟨(isOversized_iff h.1.1).mpr h, h.1.1⟩

/-- The penalty for oversized images. -/
def imageCharge (n : Nat) : Penalty :=
  charge 10 "Large Images Detected" ("Found " ++ toString n ++ " images that may be too large for web use")
    .largeImages

theorem imagesFit_eq (s : Subject) :
    imagesFit.penalties s =
      chargeIf (0 < oversizedImages s.document) (imageCharge (oversizedImages s.document)) :=
  countedPenalties_eq (Knowledge.mem_of_find? rfl) rfl 10
    (fun n => "Found " ++ toString n ++ " images that may be too large for web use") _

/-- **Oversized images are counted, if their dimensions fit a word.** Of the images that declare both
dimensions, and one of them larger than that of a full screen, the rule counts those whose dimensions fit a
word of 64 bits, and no others; it has its one penalty with that number exactly if there is one. The images
that it leaves out are the oversized ones with a number that does not fit. So an image that is counted and
then declares dimensions at least as large stays counted exactly as long as the new ones fit. -/
theorem oversized_counted (d : Document) :
    let told := d.elements.countP fun n => Oversized n ∧ Held n
    oversizedImages d = told ∧
      d.elements.countP (Oversized ·) = told + d.elements.countP (fun n => Oversized n ∧ ¬ Held n) ∧
      (∀ s : Subject, s.document = d → imagesFit.penalties s = chargeIf (0 < told) (imageCharge told)) ∧
      ∀ n larger : Node, n.name = "img" → larger.name = "img" → isOversized n = true → AtLeast larger n →
        (isOversized larger = true ↔ Held larger) := by
  intro told
  have htold : oversizedImages d = told := oversizedImages_eq d
  refine ⟨htold, ?split, fun s hs => ?penalty, fun n larger hn hlarger hflag hle => ?larger⟩
  case split =>
    rw [List.countP_eq_countP_filter_add d.elements _ (Held ·), List.countP_filter, List.countP_filter]
    simp only [told, Bool.decide_and, decide_not]
  case penalty => rw [imagesFit_eq, hs, htold]
  case larger =>
    have hover : Oversized larger := ((isOversized_iff hn).mp hflag).1.mono hlarger hle
    rw [isOversized_iff hlarger]
    exact and_iff_right hover

/-- An image that is counted, stays so as wide as a word can hold, and no longer when it is a pixel wider. -/
theorem oversized_counted_grown :
    let image (width : String) : Node :=
      .element ⟨3, "img", [⟨"width", width, true⟩, ⟨"height", "10", true⟩]⟩ []
    isOversized (image " +2000") = true ∧ isOversized (image "9223372036854775807") = true ∧
      isOversized (image "9223372036854775808") = false := by
  intro image
  have hcounted : isOversized (image " +2000") = true := by decide +kernel
  obtain ⟨-, -, -, hgrown⟩ := oversized_counted ⟨image " +2000"⟩
  have hwidest := hgrown (image " +2000") (image "9223372036854775807") rfl rfl hcounted (by decide +kernel)
  have hwider := hgrown (image " +2000") (image "9223372036854775808") rfl rfl hcounted (by decide +kernel)
  refine ⟨hcounted, hwidest.mpr (by decide +kernel), ?_⟩
  rw [← Bool.not_eq_true, hwider]
  decide +kernel

/-- An image wider than a word can hold is oversized and not reported, while one that is a pixel less wide is. -/
theorem oversized_unreported :
    let page (width : String) : Document := ⟨.element ⟨0, "html", []⟩ [.element ⟨1, "head", []⟩ [],
      .element ⟨2, "body", []⟩ [.element ⟨3, "img", [⟨"width", width, true⟩, ⟨"height", "10", true⟩]⟩ []]]⟩
    oversizedImages (page "9223372036854775807") = 1 ∧
      (page "9223372036854775808").elements.countP (Oversized ·) = 1 ∧
      oversizedImages (page "9223372036854775808") = 0 := by
  intro page
  have hwidest : oversizedImages (page "9223372036854775807") = 1 := by decide +kernel
  have hoversized : (page "9223372036854775808").elements.countP (Oversized ·) = 1 := by decide +kernel
  have hunreported : oversizedImages (page "9223372036854775808") = 0 := by decide +kernel
  exact ⟨hwidest, hoversized, hunreported⟩

end Performance

end PageAudit.Rule
