import Mathlib.Data.List.Infix
import PageAudit.Proofs.Rule.Images
import PageAudit.Proofs.Rule.Spelled
/-!
What is reported on accessibility, told from the document. A form owes a label if it has an input, at any
depth, that people have to be told of (`Unlabelled`): not of a type that explains itself, and without an id
that some label of the document is for. Each such form costs the same, and there is no bound on their number;
the other findings come once at the most (`accessibility_explained`).

Labels are looked for in the whole document, so wherever more of them are put, no form owes a label that did
not owe one before. `MoreLabels` says what putting labels into a document may do: they may stand between
other nodes or around them, with any text in them. All other elements stay where they are relative to each
other (`MoreLabels.others`), and all labels stay (`MoreLabels.kept`).
-/
namespace PageAudit

namespace Rule.Accessibility
open Html Text

/-! ### Forms -/

/-- An input that needs a label and has none. -/
structure Unlabelled (d : Document) (input : Node) : Prop where
  asks : ∀ kind ∈ input.attribute? "type", kind ≠ "hidden" ∧ kind ≠ "submit" ∧ kind ≠ "button"
  nameless : ∀ id ∈ input.attribute? "id", id = "" ∨
    ∀ label ∈ d.elements, label.name = "label" → label.attribute? "for" ≠ some id

/-- A form with an input below it, at any depth, that needs a label and has none. -/
def OwesLabel (d : Document) (n : Node) : Prop :=
  n.name = "form" ∧ ∃ input : Node, input.Below n ∧ input.name = "input" ∧ Unlabelled d input

theorem needsLabel_iff (input : Node) : needsLabel input = true ↔
    ∀ kind ∈ input.attribute? "type", kind ≠ "hidden" ∧ kind ≠ "submit" ∧ kind ≠ "button" := by
  unfold needsLabel
  cases input.attribute? "type" <;> simp [selfExplaining]

theorem isLabelled_eq_false_iff (d : Document) (input : Node) : isLabelled d input = false ↔
    ∀ id ∈ input.attribute? "id", id = "" ∨
      ∀ label ∈ d.elements, label.name = "label" → label.attribute? "for" ≠ some id := by
  have hlabel (id : String) : (d.findFirst "label" "for" id).isSome = false ↔
      ∀ label ∈ d.elements, label.name = "label" → label.attribute? "for" ≠ some id := by
    rw [Document.findFirst, Document.findAll_eq (by decide +kernel)]
    simp
  unfold isLabelled
  cases input.attribute? "id" with
  | none => simp
  | some id =>
    by_cases hempty : id = ""
    · subst hempty
      exact iff_of_true rfl fun _ hid => .inl (Option.some.inj hid).symm
    · have hkept : (some id).filter (!·.isEmpty) = some id := Option.filter_some_pos (by simpa using hempty)
      simp only [hkept, Option.mem_some_iff, forall_eq', hempty, false_or]
      exact hlabel id

theorem lacksLabel_iff (d : Document) (form : Node) : lacksLabel d form = true ↔
    ∃ input : Node, input.Below form ∧ input.name = "input" ∧ Unlabelled d input := by
  have htag : "input".toLower = "input" := by decide +kernel
  simp only [lacksLabel, Document.findWithin, htag, List.any_eq_true, List.mem_filter, beq_iff_eq,
    Bool.and_eq_true, Bool.not_eq_true', needsLabel_iff, isLabelled_eq_false_iff, Node.mem_innerElements_iff]
  constructor
  · rintro ⟨input, ⟨⟨-, hbelow⟩, hname⟩, hasks, hnameless⟩
    exact ⟨input, hbelow, hname, hasks, hnameless⟩
  · rintro ⟨input, hbelow, hname, hasks, hnameless⟩
    have helement : input.IsElement := Node.isElement_of_name (by rw [hname]; decide)
    exact ⟨input, ⟨⟨helement, hbelow⟩, hname⟩, hasks, hnameless⟩

instance (d : Document) (n : Node) : Decidable (OwesLabel d n) :=
  decidable_of_iff (n.name = "form" ∧ lacksLabel d n = true) (and_congr_right' (lacksLabel_iff d n))

/-- The number of forms that owe a label. -/
def unlabelledForms (d : Document) : Nat := d.elements.countP (OwesLabel d ·)

/-- The penalty for a form that owes a label. -/
def labelCharge : Penalty :=
  charge 5 "Form Input Missing Label" "Form input field missing proper label association" .labelMissing

theorem formLabels_eq (s : Subject) :
    formLabels.penalties s = List.replicate (unlabelledForms s.document) labelCharge := by
  have hcharge : ⟨5, Finding.ofCode Knowledge.labelMissing.code "Form input field missing proper label association"⟩ =
      labelCharge := penalty_eq_charge (Knowledge.mem_of_find? rfl) rfl 5 _
  have hcount : ((s.document.findAll "form").filter (lacksLabel s.document)).length =
      unlabelledForms s.document := by
    rw [Document.findAll_eq (by decide +kernel), List.filter_filter, ← List.countP_eq_length_filter,
      unlabelledForms]
    refine List.countP_congr fun n _ => ?_
    rw [Bool.and_eq_true, beq_iff_eq, decide_eq_true_iff, OwesLabel, lacksLabel_iff, and_comm]
  simp only [formLabels, hcharge, List.map_const', hcount]

/-! ### The keyboard -/

/-- A document without a link and without a button. -/
def Unreachable (d : Document) : Prop := ∀ n ∈ d.elements, n.name ≠ "a" ∧ n.name ≠ "button"

instance (d : Document) : Decidable (Unreachable d) := by
  unfold Unreachable
  infer_instance

/-- The penalty for a page with nothing to reach with the keyboard. -/
def keyboardCharge : Penalty :=
  charge 10 "Keyboard Navigation Issues" "Page may have keyboard navigation problems" .nothingToFocus

theorem keyboard_eq (s : Subject) :
    keyboard.penalties s = chargeIf (Unreachable s.document) keyboardCharge := by
  have hcharge : ⟨10, Finding.ofCode Knowledge.nothingToFocus.code
      "Page may have keyboard navigation problems"⟩ = keyboardCharge :=
    penalty_eq_charge (Knowledge.mem_of_find? rfl) rfl 10 _
  have hfound : (s.document.contains "a" || s.document.contains "button") = true ↔
      ¬ Unreachable s.document := by
    rw [Document.contains, Document.contains, Document.count_eq (by decide +kernel),
      Document.count_eq (by decide +kernel)]
    simp only [Unreachable, Bool.or_eq_true, decide_eq_true_eq, List.countP_pos_iff, beq_iff_eq]
    grind
  simp only [keyboard, hcharge, hfound, chargeIf, ite_not]

/-! ### More labels -/

/-- Nodes next to each other, and the same after labels were put between them or around some of them, and
texts anywhere. -/
inductive MoreLabels : List Node → List Node → Prop
  | nil : MoreLabels [] []
  | text {ns ms : List Node} (s : String) : MoreLabels ns ms → MoreLabels (.text s :: ns) (.text s :: ms)
  | element {children children' ns ms : List Node} {e e' : Element} :
      e'.name = e.name → e'.attributes = e.attributes → MoreLabels children children' → MoreLabels ns ms →
      MoreLabels (.element e children :: ns) (.element e' children' :: ms)
  | newText {ns ms : List Node} (s : String) : MoreLabels ns ms → MoreLabels ns (.text s :: ms)
  | newLabel {inner inner' ns ms : List Node} {e : Element} :
      e.name = "label" → MoreLabels inner inner' → MoreLabels ns ms →
      MoreLabels (inner ++ ns) (.element e inner' :: ms)

/-- An element, and what became of it. -/
structure Became (n m : Node) : Prop where
  name : m.name = n.name
  attributes : m.attributes = n.attributes
  children : MoreLabels n.children m.children

/-- The elements of some nodes that are no labels, in document order. -/
def others (ns : List Node) : List Node := (ns.flatMap Node.elements).filter (·.name != "label")

theorem others_append (ns ms : List Node) : others (ns ++ ms) = others ns ++ others ms := by
  rw [others, List.flatMap_append, List.filter_append]
  rfl

theorem others_label {e : Element} (h : e.name = "label") (children ns : List Node) :
    others (.element e children :: ns) = others children ++ others ns := by
  simp [others, Node.name, h]

theorem others_element {e : Element} (h : e.name ≠ "label") (children ns : List Node) :
    others (.element e children :: ns) = .element e children :: (others children ++ others ns) := by
  simp [others, Node.name, h]

namespace MoreLabels

variable {ns ms : List Node}

/-- The other elements stay in their order. -/
theorem others (h : MoreLabels ns ms) : List.Forall₂ Became (others ns) (others ms) := by
  induction h with
  | nil => exact .nil
  | text s _ ih => exact ih
  | newText s _ ih => exact ih
  | @element children children' ns ms e e' hname hattributes hchildren _ ihchildren ih =>
    by_cases hlabel : e.name = "label"
    · rw [others_label hlabel, others_label (hname.trans hlabel)]
      exact List.rel_append ihchildren ih
    · rw [others_element hlabel, others_element (hname ▸ hlabel)]
      exact .cons ⟨hname, hattributes, hchildren⟩ (List.rel_append ihchildren ih)
  | newLabel hname _ _ ihinner ih =>
    rw [others_append, others_label hname]
    exact List.rel_append ihinner ih

/-- Every element stays, labels included. -/
theorem kept (h : MoreLabels ns ms) {n : Node} (hn : n ∈ ns.flatMap Node.elements) :
    ∃ m ∈ ms.flatMap Node.elements, m.name = n.name ∧ m.attributes = n.attributes := by
  induction h with
  | nil => cases hn
  | text s _ ih => exact ih hn
  | newText s _ ih => exact ih hn
  | element hname hattributes _ _ ihchildren ih =>
    simp only [List.flatMap_cons, Node.elements_element, List.cons_append, List.mem_cons, List.mem_append] at hn ⊢
    rcases hn with rfl | hn | hn
    · exact ⟨_, .inl rfl, hname, hattributes⟩
    · obtain ⟨m, hm, hsame⟩ := ihchildren hn
      exact ⟨m, .inr (.inl hm), hsame⟩
    · obtain ⟨m, hm, hsame⟩ := ih hn
      exact ⟨m, .inr (.inr hm), hsame⟩
  | newLabel hname _ _ ihinner ih =>
    simp only [List.flatMap_cons, List.flatMap_append, Node.elements_element, List.cons_append, List.mem_cons,
      List.mem_append] at hn ⊢
    rcases hn with hn | hn
    · obtain ⟨m, hm, hsame⟩ := ihinner hn
      exact ⟨m, .inr (.inl hm), hsame⟩
    · obtain ⟨m, hm, hsame⟩ := ih hn
      exact ⟨m, .inr (.inr hm), hsame⟩

end MoreLabels

/-- A document, and the same with more labels in it. -/
def Relabelled (d d' : Document) : Prop := MoreLabels [d.root] [d'.root]

theorem attribute?_congr {n m : Node} (h : m.attributes = n.attributes) (key : String) :
    m.attribute? key = n.attribute? key := by
  rw [Node.attribute?, h]
  rfl

variable {d d' : Document}

/-- An input without a label with more labels in the document had none before. -/
theorem Unlabelled.of_relabelled (h : Relabelled d d') {n m : Node} (hsame : m.attributes = n.attributes)
    (hm : Unlabelled d' m) : Unlabelled d n := by
  have hkey := attribute?_congr hsame
  refine ⟨fun kind hkind => hm.asks kind (hkey "type" ▸ hkind), fun id hid => ?_⟩
  refine (hm.nameless id (hkey "id" ▸ hid)).imp_right fun hnone label hlabel hname => ?_
  obtain ⟨label', hlabel', hname', hattributes⟩ :=
    h.kept (n := label) (by rwa [List.flatMap_singleton])
  rw [List.flatMap_singleton] at hlabel'
  rw [← attribute?_congr hattributes "for"]
  exact hnone label' hlabel' (hname'.trans hname)

theorem exists_of_mem_right {α β : Type} {R : α → β → Prop} {xs : List α} {ys : List β}
    (h : List.Forall₂ R xs ys) {y : β} (hy : y ∈ ys) : ∃ x ∈ xs, R x y := by
  induction h with
  | nil => cases hy
  | @cons x z xs ys hxz _ ih =>
    rcases List.mem_cons.mp hy with rfl | hy
    · exact ⟨x, List.mem_cons_self .., hxz⟩
    · obtain ⟨x', hx', hR⟩ := ih hy
      exact ⟨x', List.mem_cons_of_mem x hx', hR⟩

theorem countP_le_of_forall₂ {α β : Type} {R : α → β → Prop} {xs : List α} {ys : List β}
    (h : List.Forall₂ R xs ys) {p : α → Bool} {q : β → Bool}
    (hpq : ∀ x y, R x y → q y = true → p x = true) : ys.countP q ≤ xs.countP p := by
  induction h with
  | nil => exact Nat.le_refl 0
  | @cons x y xs ys hxy _ ih =>
    rw [List.countP_cons, List.countP_cons]
    by_cases hq : q y = true
    · rw [if_pos hq, if_pos (hpq x y hxy hq)]
      exact Nat.add_le_add_right ih 1
    · rw [if_neg hq]
      exact Nat.le_add_right_of_le ih

/-- Elements below a node that are no labels. -/
theorem below_iff_mem_others {n scope : Node} (hname : n.name ≠ "") (hlabel : n.name ≠ "label") :
    n.Below scope ↔ n ∈ others scope.children := by
  rw [others, List.mem_filter, ← Node.innerElements_eq, Node.mem_innerElements_iff]
  simp [Node.isElement_of_name hname, hlabel]

/-- A form that owes a label with more labels in the document did so before. -/
theorem OwesLabel.of_relabelled (h : Relabelled d d') {n m : Node} (hnm : Became n m)
    (hm : OwesLabel d' m) : OwesLabel d n := by
  obtain ⟨hform, input', hbelow', hinput', hunlabelled'⟩ := hm
  rw [below_iff_mem_others (by rw [hinput']; decide) (by rw [hinput']; decide)] at hbelow'
  obtain ⟨input, hbelow, hbecame⟩ := exists_of_mem_right hnm.children.others hbelow'
  have hinput : input.name = "input" := hbecame.name ▸ hinput'
  rw [← below_iff_mem_others (by rw [hinput]; decide) (by rw [hinput]; decide)] at hbelow
  exact ⟨hnm.name ▸ hform, input, hbelow, hinput, hunlabelled'.of_relabelled h hbecame.attributes⟩

theorem unlabelledForms_eq (d : Document) : unlabelledForms d = (others [d.root]).countP (OwesLabel d ·) := by
  rw [unlabelledForms, others, List.countP_filter, List.flatMap_singleton]
  refine List.countP_congr fun n _ => ?_
  simp only [decide_eq_true_eq, Bool.and_eq_true, bne_iff_ne, iff_self_and]
  -- a form is no label
  exact fun howes => by rw [howes.1]; decide

/-- More labels never make more forms owe one. -/
theorem unlabelledForms_le (h : Relabelled d d') : unlabelledForms d' ≤ unlabelledForms d := by
  rw [unlabelledForms_eq, unlabelledForms_eq]
  refine countP_le_of_forall₂ h.others fun n m hnm hm => ?_
  exact decide_eq_true ((of_decide_eq_true hm).of_relabelled h hnm)

/-! ### Results -/

/-- What a page owes on accessibility. -/
def due (d : Document) (body : String) : List Penalty :=
  chargeIf (0 < muteImages d) (muteCharge (muteImages d)) ++ List.replicate (unlabelledForms d) labelCharge ++
    chargeIf (Colored body) colorCharge ++ chargeIf (Unreachable d) keyboardCharge

theorem penaltiesIn_rules (url : String) (page : Page) :
    penaltiesIn rules (Subject.ofPage url page) = due (Document.parse page.body) page.body := by
  simp only [penaltiesIn, rules, List.flatMap_cons, List.flatMap_nil, List.append_nil, altText_eq,
    formLabels_eq, colorContrast_eq, keyboard_eq, due, List.append_assoc]
  rfl

/-- Of the findings, one for each form that owes a label is on labels. -/
theorem countP_due (d : Document) (body : String) :
    ((due d body).map (·.finding)).countP (·.name == "Form Input Missing Label") = unlabelledForms d := by
  rw [List.countP_map]
  simp [due, List.countP_append, List.countP_replicate, muteCharge, labelCharge, colorCharge, keyboardCharge, charge]

theorem pointsOf_due (d : Document) (body : String) :
    pointsOf (due d body) = (if 0 < muteImages d then 15 else 0) + 5 * unlabelledForms d +
      (if Colored body then 5 else 0) + (if Unreachable d then 10 else 0) := by
  simp only [due, pointsOf_append, pointsOf_chargeIf, pointsOf_replicate]
  rfl

end Rule.Accessibility

open Rule Rule.Accessibility Html

/-- **The accessibility result is told by the document.** There is a finding on alternative texts if some image
has none, one on labels for each form that owes one, one on colours if the text of the body sets some by
number, and one on the keyboard if there is neither a link nor a button, in this order; and the score is what
their points leave. The same images have a finding in the search engine result exactly if they have one here,
and both say how many there are. However many labels are put into a document, wherever they stand, no more
forms owe one than before. -/
theorem accessibility_explained (url : String) (page : Page) (scanTime : ZonedTime) :
    let r := AuditResult.evaluate url page scanTime
    let d := Document.parse page.body
    let mute := muteImages d
    r.accessibility.findings = (due d page.body).map (·.finding) ∧
      r.accessibility.findings.countP (·.name == "Form Input Missing Label") = unlabelledForms d ∧
      r.accessibility.score.toNat = 100 - ((if 0 < mute then 15 else 0) + 5 * unlabelledForms d +
        (if Colored page.body then 5 else 0) + (if Unreachable d then 10 else 0)) ∧
      (∀ f, f ∈ r.accessibility.findings ∧ f.name = "Images Missing Alt Text" ↔
        0 < mute ∧ f = (muteCharge mute).finding) ∧
      (∀ f, f ∈ r.seo.findings ∧ f.name = "Images Missing Alt Text" ↔
        0 < mute ∧ f = (Seo.muteCharge mute).finding) ∧
      ∀ d d', Relabelled d d' → unlabelledForms d' ≤ unlabelledForms d := by
  intro r d mute
  obtain ⟨hfindings, hscore⟩ := explained_of_penalties (c := .accessibility) (penaltiesIn_rules url page)
  have hhere : rank .accessibility "Images Missing Alt Text" = 0 := by decide +kernel
  have hthere : rank .seo "Images Missing Alt Text" = 3 := by decide +kernel
  refine ⟨hfindings, ?count, ?score, fun f => ?here, fun f => ?there, fun d d' h => unlabelledForms_le h⟩
  case count => exact (congrArg _ hfindings).trans (countP_due d page.body)
  case score => exact hscore.trans (congrArg (100 - ·) (pointsOf_due d page.body))
  case here => exact mem_findings_iff rfl (altText_eq (Subject.ofPage url page)) hhere f
  case there => exact mem_findings_iff rfl (Seo.altText_eq (Subject.ofPage url page)) hthere f

/-- A form with an input in a paragraph, which owes no label once there is one around the input. -/
theorem accessibility_explained_wrapped :
    let input : Node := .element ⟨5, "input", [⟨"id", "q", true⟩, ⟨"type", "Hidden", true⟩]⟩ []
    let label : Node := .element ⟨5, "label", [⟨"for", "q", true⟩]⟩ [.text "Search", input]
    let page (inside : Node) : Document := ⟨.element ⟨0, "html", []⟩ [.element ⟨3, "form", []⟩
      [.element ⟨4, "p", []⟩ [inside]]]⟩
    Relabelled (page input) (page label) ∧ unlabelledForms (page input) = 1 ∧
      unlabelledForms (page label) ≤ 1 ∧ unlabelledForms (page label) = 0 := by
  intro input label page
  have hinput : MoreLabels [input] [input] := .element rfl rfl .nil .nil
  have hlabel : MoreLabels ([input] ++ []) [label] := .newLabel rfl (.newText "Search" hinput) .nil
  have hpage : Relabelled (page input) (page label) :=
    .element rfl rfl (.element rfl rfl (.element rfl rfl hlabel .nil) .nil) .nil
  obtain ⟨-, -, -, -, -, hlabels⟩ := accessibility_explained "https://a" default ⟨⟨⟨2025, 3, 14⟩, 9, 26, 53, 0⟩, 0⟩
  have hone : unlabelledForms (page input) = 1 := by decide +kernel
  exact ⟨hpage, hone, hone ▸ hlabels _ _ hpage, by decide +kernel⟩

end PageAudit
