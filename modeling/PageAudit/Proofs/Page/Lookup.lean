import Mathlib.Data.List.Forall2
import Mathlib.Logic.Relation
import PageAudit.Proofs.Page.Header
import PageAudit.Proofs.Text.Utf8
/-!
Headers by name. The answer for a name is read off the header lines that have the name, in any case of
its ASCII letters, in the order in which they came (`Collected`): there is an answer exactly if there is such
a line, and it is what these lines show, with commas between (`header_by_name`). Lines of other names may
come and go and change places (`Shifted`), and all lines may be spelled in another case (`Respelled`).
-/
namespace PageAudit

/-! ### Names in any case -/

/-- A character and itself, or the two forms of an ASCII letter. -/
inductive SameLetter : Char → Char → Prop
  | refl (c : Char) : SameLetter c c
  | small {c d : Char} : c.isUpper = true → d.toNat = c.toNat + 32 → SameLetter c d
  | capital {c d : Char} : d.isUpper = true → c.toNat = d.toNat + 32 → SameLetter c d

/-- Two names that differ at most in the case of their letters. -/
def SameName (a b : String) : Prop := List.Forall₂ SameLetter a.toList b.toList

theorem isUpper_iff {c : Char} : c.isUpper = true ↔ 65 ≤ c.toNat ∧ c.toNat ≤ 90 := decide_eq_true_iff

theorem isLower_iff {c : Char} : c.isLower = true ↔ 97 ≤ c.toNat ∧ c.toNat ≤ 122 := by
  show (decide (97 ≤ c.toNat) && decide (c.toNat ≤ 122)) = true ↔ _
  rw [Bool.and_eq_true, decide_eq_true_iff, decide_eq_true_iff]

theorem toNat_toLower (c : Char) : c.toLower.toNat = if c.isUpper = true then c.toNat + 32 else c.toNat := by
  unfold Char.toLower
  split
  · next h =>
    have hupper : c.isUpper = true := decide_eq_true h
    have hbounds := isUpper_iff.mp hupper
    rw [if_pos hupper]
    exact (UInt32.toNat_add ..).trans (Nat.mod_eq_of_lt (show c.toNat + 32 < 4294967296 by omega))
  · next h =>
    have hupper : ¬ c.isUpper = true := fun hc => h (of_decide_eq_true hc)
    rw [if_neg hupper]

/-- The case of ASCII letters is all that small letters forget. -/
theorem toLower_eq_iff {c d : Char} : c.toLower = d.toLower ↔ SameLetter c d := by
  rw [← Char.toNat_inj, toNat_toLower, toNat_toLower]
  constructor
  · intro h
    by_cases hc : c.isUpper = true <;> by_cases hd : d.isUpper = true
    · rw [if_pos hc, if_pos hd, Nat.add_right_cancel_iff, Char.toNat_inj] at h
      exact h ▸ .refl c
    · rw [if_pos hc, if_neg hd] at h
      exact .small hc h.symm
    · rw [if_neg hc, if_pos hd] at h
      exact .capital hd h
    · rw [if_neg hc, if_neg hd, Char.toNat_inj] at h
      exact h ▸ .refl c
  · have hbeyond {big small : Char} (hbig : big.isUpper = true) (h : small.toNat = big.toNat + 32) :
        ¬ small.isUpper = true := by
      rw [isUpper_iff] at hbig ⊢
      omega
    rintro (_ | ⟨hc, h⟩ | ⟨hd, h⟩)
    · rfl
    · rw [if_pos hc, if_neg (hbeyond hc h), h]
    · rw [if_neg (hbeyond hd h), if_pos hd, h]

theorem sameName_iff {a b : String} :
    SameName a b ↔ a.toList.map Char.toLower = b.toList.map Char.toLower := by
  rw [SameName, ← List.forall₂_eq_eq_eq, List.forall₂_map_left_iff, List.forall₂_map_right_iff]
  simp only [toLower_eq_iff]

theorem Header.isNamed_iff (h : Header) (name : String) : h.isNamed name = true ↔ SameName h.name name := by
  rw [isNamed_eq, beq_iff_eq, sameName_iff]

/-! ### What the lines of a name show -/

/-- Printable ASCII and the tab. -/
def IsPrintable (b : UInt8) : Prop := 32 ≤ b.toNat ∧ b.toNat ≤ 126 ∨ b.toNat = 9

theorem isTextByte_iff {b : UInt8} : Header.isTextByte b = true ↔ IsPrintable b := by
  rw [Header.isTextByte, Bool.or_eq_true, Bool.and_eq_true, decide_eq_true_iff, decide_eq_true_iff, beq_iff_eq,
    UInt8.le_iff_toNat_le, UInt8.lt_iff_toNat_lt, ← UInt8.toNat_inj]
  show 32 ≤ b.toNat ∧ b.toNat < 127 ∨ b.toNat = 9 ↔ _
  rw [IsPrintable, Nat.lt_succ_iff]

/-- How the bytes of a value show: as they are, if every one of them can be shown. -/
inductive Shows (value : List UInt8) : String → Prop
  | verbatim {text : String} : (∀ b ∈ value, IsPrintable b) → text.toUTF8.toList = value → Shows value text
  | unreadable : (∃ b ∈ value, ¬ IsPrintable b) → Shows value "[Invalid UTF-8]"

theorem shows_text (h : Header) : Shows h.value h.text := by
  unfold Header.text
  by_cases hall : h.value.all Header.isTextByte = true
  · have hprintable : ∀ b ∈ h.value, IsPrintable b :=
      fun b hb => isTextByte_iff.mp (List.all_eq_true.mp hall b hb)
    rw [if_pos hall]
    refine .verbatim hprintable (Text.utf8_ofBytes fun b hb => ?_)
    rcases hprintable b hb with hb | hb <;> omega
  · rw [if_neg hall]
    simp only [List.all_eq_true, isTextByte_iff, not_forall, exists_prop] at hall
    exact .unreadable hall

/-- The texts that the lines of a name show, in the order of the lines. -/
inductive Collected (name : String) : List Header → List String → Prop
  | nil : Collected name [] []
  | named {line : Header} {text : String} {lines : List Header} {texts : List String} :
      SameName line.name name → Shows line.value text → Collected name lines texts →
      Collected name (line :: lines) (text :: texts)
  | other {line : Header} {lines : List Header} {texts : List String} :
      ¬ SameName line.name name → Collected name lines texts → Collected name (line :: lines) texts

theorem collected_headerValues (lines : List Header) (name : String) :
    Collected name lines (headerValues lines name) := by
  induction lines with
  | nil => exact .nil
  | cons line rest ih =>
    unfold headerValues
    by_cases h : line.isNamed name = true
    · rw [List.filter_cons, if_pos h]
      exact .named ((line.isNamed_iff name).mp h) (shows_text line) ih
    · rw [List.filter_cons, if_neg h]
      exact .other (fun hname => h ((line.isNamed_iff name).mpr hname)) ih

theorem Shows.unique {value : List UInt8} {text text' : String} (h : Shows value text)
    (h' : Shows value text') : text = text' := by
  cases h with
  | verbatim hall htext =>
    cases h' with
    | verbatim _ htext' => exact Text.utf8_inj.mp (htext.trans htext'.symm)
    | unreadable hsome =>
      obtain ⟨b, hb, hnot⟩ := hsome
      exact absurd (hall b hb) hnot
  | unreadable hsome =>
    cases h' with
    | verbatim hall _ =>
      obtain ⟨b, hb, hnot⟩ := hsome
      exact absurd (hall b hb) hnot
    | unreadable _ => rfl

theorem Collected.eq_headerValues {lines : List Header} {name : String} {texts : List String}
    (h : Collected name lines texts) : texts = headerValues lines name := by
  have hall := collected_headerValues lines name
  generalize headerValues lines name = values at hall
  induction h generalizing values with
  | nil =>
    cases hall
    rfl
  | named hname hshows _ ih =>
    cases hall with
    | named _ hshows' hrest => rw [hshows.unique hshows', ih _ hrest]
    | other hother _ => exact absurd hname hother
  | other hother _ ih =>
    cases hall with
    | named hname _ _ => exact absurd hname hother
    | other _ hrest => exact ih _ hrest

/-! ### Lines that do not matter -/

/-- A line of another name is added or taken away, or changes places with its neighbour. -/
inductive Shift (name : String) : List Header → List Header → Prop
  | add {before after : List Header} {line : Header} : ¬ SameName line.name name →
      Shift name (before ++ after) (before ++ line :: after)
  | remove {before after : List Header} {line : Header} : ¬ SameName line.name name →
      Shift name (before ++ line :: after) (before ++ after)
  | exchange {before after : List Header} {line line' : Header} :
      ¬ SameName line.name name ∨ ¬ SameName line'.name name →
      Shift name (before ++ line :: line' :: after) (before ++ line' :: line :: after)

/-- Header lines after any number of such changes. -/
def Shifted (name : String) : List Header → List Header → Prop := Relation.ReflTransGen (Shift name)

theorem bytesOf_append (before after : List Header) (name : String) :
    bytesOf (before ++ after) name = bytesOf before name ++ bytesOf after name := by
  rw [bytesOf, List.filter_append, List.map_append]
  rfl

theorem bytesOf_cons_other {line : Header} {name : String} (h : ¬ SameName line.name name)
    (lines : List Header) : bytesOf (line :: lines) name = bytesOf lines name := by
  rw [bytesOf, List.filter_cons, if_neg fun hnamed => h ((line.isNamed_iff name).mp hnamed)]
  rfl

theorem bytesOf_cons_named {line : Header} {name : String} (h : SameName line.name name)
    (lines : List Header) : bytesOf (line :: lines) name = line.value :: bytesOf lines name := by
  rw [bytesOf, List.filter_cons, if_pos ((line.isNamed_iff name).mpr h)]
  rfl

variable {name : String} {lines lines' : List Header}

theorem Shift.bytesOf_eq (h : Shift name lines lines') : bytesOf lines' name = bytesOf lines name := by
  cases h with
  | add hother | remove hother => rw [bytesOf_append, bytesOf_append, bytesOf_cons_other hother]
  | @exchange before after line line' hother =>
    have hpair (a b : Header) : bytesOf (before ++ a :: b :: after) name =
        bytesOf before name ++ (bytesOf [a] name ++ (bytesOf [b] name ++ bytesOf after name)) := by
      rw [← bytesOf_append, ← bytesOf_append, ← bytesOf_append]
      rfl
    rw [hpair, hpair]
    rcases hother with h | h <;> rw [bytesOf_cons_other h []] <;> rfl

theorem Shifted.bytesOf_eq (h : Shifted name lines lines') : bytesOf lines' name = bytesOf lines name := by
  induction h with
  | refl => rfl
  | tail _ hstep ih => exact hstep.bytesOf_eq.trans ih

/-- The same values in the same order, with the names in any case. -/
def Respelled : List Header → List Header → Prop :=
  List.Forall₂ fun line line' => SameName line.name line'.name ∧ line.value = line'.value

theorem Respelled.bytesOf_eq (h : Respelled lines lines') (name : String) :
    bytesOf lines' name = bytesOf lines name := by
  induction h with
  | nil => rfl
  | @cons line line' rest rest' hline _ ih =>
    obtain ⟨hname, hvalue⟩ := hline
    have hsame : SameName line'.name name ↔ SameName line.name name := by
      rw [sameName_iff, sameName_iff, sameName_iff.mp hname]
    by_cases h : SameName line.name name
    · rw [bytesOf_cons_named h, bytesOf_cons_named (hsame.mpr h), ih, hvalue]
    · rw [bytesOf_cons_other h, bytesOf_cons_other (mt hsame.mp h), ih]

/-! ### Names that no line has -/

/-- A name that a header line can have. -/
def IsToken (name : String) : Prop := name ≠ "" ∧ ∀ c ∈ name.toList, Header.isNameChar c = true

theorem isToken_of_ofBytes {bytes value : List UInt8} {line : Header}
    (h : Header.ofBytes bytes value = .ok line) : IsToken line.name := by
  unfold Header.ofBytes at h
  dsimp only at h
  split at h
  · cases h
  · next hname =>
    split at h
    · cases h
    · obtain rfl := Except.ok.inj h
      simp only [Bool.or_eq_true, List.isEmpty_iff, Bool.not_eq_true', not_or, Bool.not_eq_false,
        List.all_eq_true] at hname
      obtain ⟨hne, hall⟩ := hname
      refine ⟨fun hempty => hne ?_, by rwa [String.toList_ofList]⟩
      rw [← String.toList_inj, String.toList_ofList] at hempty
      exact hempty

theorem isAlphanum_of_letter {c : Char} (h : 65 ≤ c.toNat ∧ c.toNat ≤ 90 ∨ 97 ≤ c.toNat ∧ c.toNat ≤ 122) :
    c.isAlphanum = true := by
  have hletter : c.isUpper = true ∨ c.isLower = true := h.imp isUpper_iff.mpr isLower_iff.mpr
  show (c.isUpper || c.isLower || c.isDigit) = true
  rw [Bool.or_eq_true, Bool.or_eq_true]
  exact .inl hletter

theorem SameLetter.isNameChar {c d : Char} (h : SameLetter c d) (hc : Header.isNameChar c = true) :
    Header.isNameChar d = true := by
  have hletter : c = d ∨ d.isAlphanum = true := by
    cases h with
    | refl => exact .inl rfl
    | small hupper hcode =>
      have hbounds := isUpper_iff.mp hupper
      exact .inr (isAlphanum_of_letter (by omega))
    | capital hupper _ => exact .inr (isAlphanum_of_letter (.inl (isUpper_iff.mp hupper)))
  rcases hletter with rfl | hletter
  · exact hc
  · rw [Header.isNameChar, hletter, Bool.true_or]

theorem SameName.isToken {a b : String} (h : SameName a b) (ha : IsToken a) : IsToken b := by
  obtain ⟨hne, hall⟩ := ha
  constructor
  · rintro rfl
    have hnil : a.toList = [] := List.forall₂_nil_right_iff.mp h
    exact hne (String.toList_inj.mp hnil)
  · unfold SameName at h
    generalize a.toList = cs at h hall
    generalize b.toList = ds at h
    induction h with
    | nil => exact List.forall_mem_nil _
    | cons hletter _ ih =>
      rw [List.forall_mem_cons] at hall ⊢
      exact ⟨hletter.isNameChar hall.1, ih hall.2⟩

/-- **Headers by name.** A header is there exactly if a line has its name, in any case of its ASCII letters, and
exactly then it has a value: what the lines of that name show, in the order in which they came, with commas
between. A line shows its bytes as they are if all of them are printable ASCII or the tab, and otherwise the
one text that stands for what cannot be read. The answer stays the same when lines of other names are added,
taken away or moved, and when all lines are written in another case; and there is none for a name that no
header line can have. -/
theorem header_by_name (page : Page) (name : String) :
    (page.hasHeader name = true ↔ ∃ line ∈ page.headers, SameName line.name name) ∧
      page.hasHeader name = (page.header? name).isSome ∧
      (∃ values, (∀ texts, Collected name page.headers texts ↔ texts = values) ∧
        page.header? name = if values = [] then none else some (", ".intercalate values)) ∧
      (∀ lines, Shifted name page.headers lines ∨ Respelled page.headers lines →
        let other := { page with headers := lines }
        other.hasHeader name = page.hasHeader name ∧ other.header? name = page.header? name) ∧
      ((∀ line ∈ page.headers, ∃ bytes value, Header.ofBytes bytes value = .ok line) → ¬ IsToken name →
        page.hasHeader name = false) := by
  have hnamed : page.hasHeader name = true ↔ ∃ line ∈ page.headers, SameName line.name name := by
    simp only [Page.hasHeader, hasHeader, List.any_eq_true, Header.isNamed_iff]
  refine ⟨hnamed, page.hasHeader_eq name, ⟨headerValues page.headers name, fun texts => ?collected, ?value⟩,
    fun lines hlines => ?lines, fun hreceived hname => ?absent⟩
  case collected =>
    exact ⟨Collected.eq_headerValues, fun htexts => htexts ▸ collected_headerValues page.headers name⟩
  case value =>
    unfold Page.header? PageAudit.header?
    cases headerValues page.headers name <;> simp
  case lines =>
    intro other
    have hbytes : bytesOf lines name = bytesOf page.headers name :=
      hlines.elim Shifted.bytesOf_eq (·.bytesOf_eq name)
    have hvalue : other.header? name = page.header? name := header?_congr hbytes
    exact ⟨by rw [Page.hasHeader_eq, Page.hasHeader_eq, hvalue], hvalue⟩
  case absent =>
    rw [← Bool.not_eq_true, hnamed]
    rintro ⟨line, hline, hsame⟩
    obtain ⟨bytes, value, hbytes⟩ := hreceived line hline
    exact hname (hsame.isToken (isToken_of_ofBytes hbytes))

end PageAudit
