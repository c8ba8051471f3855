import PageAudit.Proofs.Rule.Images
import PageAudit.Proofs.Text.Blank
/-!
What is reported to search engines, told from the document. The title is the text of the first title element,
however deep it is (`IsTitle`), and the description is what the first meta element of that name has as its
content (`IsDescription`). Either is missing, or else too long, or else fits (`Wanted.Owes`), and what a page
owes for it is always one of these and never two (`owes_iff`).

A title of blanks is as good as none, but one that is not blank is measured with the blanks around it, and a
description of blanks is a description.
-/
namespace PageAudit

namespace Rule.Seo
open Html Text

/-! ### Texts that a page should have -/

/-- What is charged for a text that a page should have: if it is missing, and if it is longer than `most`
characters. -/
structure Wanted where
  most : Nat
  missing : Penalty
  tooLong : Nat → Penalty

/-- The penalties for a text that a page should have, where `IsText` says what the text is. -/
inductive Wanted.Owes (w : Wanted) (IsText : String → Prop) : List Penalty → Prop
  | missing : (∀ t, ¬ IsText t) → w.Owes IsText [w.missing]
  | tooLong {t : String} : IsText t → w.most < t.length → w.Owes IsText [w.tooLong t.length]
  | fits {t : String} : IsText t → t.length ≤ w.most → w.Owes IsText []

/-- What a rule charges for a text, once it was looked for. -/
def Wanted.charged (w : Wanted) : Option String → List Penalty
  | none => [w.missing]
  | some t => chargeIf (w.most < t.length) (w.tooLong t.length)

/-- The penalties for a text are those that the rule charges, and no others. -/
theorem Wanted.owes_iff {w : Wanted} {IsText : String → Prop} {text? : Option String}
    (h : ∀ t, text? = some t ↔ IsText t) (ps : List Penalty) :
    w.Owes IsText ps ↔ ps = w.charged text? := by
  constructor
  · rintro (hnone | ⟨ht, hlong⟩ | ⟨ht, hfits⟩)
    · rw [Option.eq_none_iff_forall_ne_some.mpr fun t ht => hnone t ((h t).mp ht), charged]
    · rw [(h _).mpr ht, charged, chargeIf_pos hlong]
    · rw [(h _).mpr ht, charged, chargeIf_neg (Nat.not_lt.mpr hfits)]
  · rintro rfl
    cases htext : text? with
    | none =>
      refine .missing fun t ht => ?_
      rw [← h, htext] at ht
      cases ht
    | some t =>
      have ht : IsText t := (h t).mp htext
      rw [charged]
      by_cases hlong : w.most < t.length
      · rw [chargeIf_pos hlong]
        exact .tooLong ht hlong
      · rw [chargeIf_neg hlong]
        exact .fits ht (Nat.not_lt.mp hlong)

theorem Wanted.length_charged_le (w : Wanted) (text? : Option String) : (w.charged text?).length ≤ 1 := by
  cases text? with
  | none => exact Nat.le_refl 1
  | some t => exact (chargeIf_sublist ..).length_le

/-! ### The title -/

/-- The title of a document: all text in its first title element. -/
def IsTitle (d : Document) (t : String) : Prop :=
  ∃ n, d.First (·.name = "title") n ∧ t = String.join n.texts

/-- A title of blanks does not count. -/
def CountsAsTitle (d : Document) (t : String) : Prop := IsTitle d t ∧ trimmed t ≠ ""

/-- The charges for a title. -/
def wantedTitle : Wanted where
  most := 60
  missing := charge 20 "Missing Title Tag" "Page has no title tag or empty title" .titleMissing
  tooLong n := charge 10 "Title Too Long" ("Title is " ++ toString n ++ " characters (should be 50-60)")
    .titleTooLong

theorem title?_eq_some_iff {d : Document} {t : String} :
    title? d = some t ↔ CountsAsTitle d t := by
  have hfirst (n : Node) : (d.findAll "title").head? = some n ↔ d.First (·.name = "title") n := by
    rw [Document.findAll_eq (by decide +kernel), List.head?_filter, Document.find?_eq_some_iff]
    simp only [beq_iff_eq]
  have hblank : (!isBlankText t) = true ↔ trimmed t ≠ "" := by
    rw [Ne, trimmed_eq_empty_iff, Bool.not_eq_true, Bool.not_eq_true']
  simp only [title?, Option.filter_eq_some_iff, Option.map_eq_some_iff, hfirst, hblank,
    CountsAsTitle, IsTitle, Node.innerText_eq, eq_comm (a := t)]

theorem title_eq (s : Subject) : title.penalties s = wantedTitle.charged (title? s.document) := by
  simp only [title]
  cases title? s.document with
  | none => exact congrArg ([·]) (penalty_eq_charge (Knowledge.mem_of_find? rfl) rfl 20 _)
  | some t =>
    exact limitedPenalties_eq (Knowledge.mem_of_find? rfl) rfl 10
      (fun n => "Title is " ++ toString n ++ " characters (should be 50-60)") 60 t.length

/-! ### The description -/

/-- The description of a document: the content of the first meta element that is called so. -/
def IsDescription (d : Document) (t : String) : Prop :=
  ∃ n, d.First (fun n => n.name = "meta" ∧ n.attribute? "name" = some "description") n ∧
    n.attribute? "content" = some t

/-- An empty description does not count, while one of blanks does. -/
def CountsAsDescription (d : Document) (t : String) : Prop := IsDescription d t ∧ t ≠ ""

/-- The charges for a description. -/
def wantedDescription : Wanted where
  most := 160
  missing := charge 15 "Missing Meta Description" "Page has no meta description" .descriptionMissing
  tooLong n := charge 5 "Meta Description Too Long" ("Meta description is " ++ toString n ++ " characters")
    .descriptionTooLong

theorem description?_eq_some_iff {d : Document} {t : String} :
    description? d = some t ↔ CountsAsDescription d t := by
  have hfirst (n : Node) : d.findFirst "meta" "name" "description" = some n ↔
      d.First (fun n => n.name = "meta" ∧ n.attribute? "name" = some "description") n := by
    rw [Document.findFirst, Document.findAll_eq (by decide +kernel), List.find?_filter,
      Document.find?_eq_some_iff]
    simp only [beq_iff_eq, decide_eq_true_eq]
  simp only [description?, Option.filter_eq_some_iff, Option.bind_eq_some_iff, hfirst,
    CountsAsDescription, IsDescription, Bool.not_eq_true', String.isEmpty_eq_false_iff]

theorem description_eq (s : Subject) :
    description.penalties s = wantedDescription.charged (description? s.document) := by
  simp only [description]
  cases description? s.document with
  | none => exact congrArg ([·]) (penalty_eq_charge (Knowledge.mem_of_find? rfl) rfl 15 _)
  | some t =>
    exact limitedPenalties_eq (Knowledge.mem_of_find? rfl) rfl 5
      (fun n => "Meta description is " ++ toString n ++ " characters") 160 t.length

/-! ### The heading -/

/-- What a page owes for the number of its main headings. -/
def headingDue (n : Nat) : List Penalty :=
  chargeIf (n = 0) (charge 15 "Missing H1 Tag" "Page has no H1 heading tag" .headingMissing) ++
    chargeIf (1 < n) (charge 10 "Multiple H1 Tags"
      ("Page has " ++ toString n ++ " H1 tags (should have only one)") .headingRepeated)

theorem heading_eq (s : Subject) :
    heading.penalties s = headingDue (s.document.elements.countP (·.name = "h1")) := by
  have hcount : s.document.count "h1" = s.document.elements.countP (·.name = "h1") :=
    Document.count_eq (by decide +kernel)
  simp only [heading, hcount]
  generalize s.document.elements.countP (·.name = "h1") = n
  rcases n with _ | _ | n
  · exact congrArg ([·]) (penalty_eq_charge (Knowledge.mem_of_find? rfl) rfl 15 _)
  · rfl
  · exact congrArg ([·]) (penalty_eq_charge (Knowledge.mem_of_find? rfl) rfl 10 _)

theorem length_headingDue_le (n : Nat) : (headingDue n).length ≤ 1 := by
  rcases n with _ | _ | n
  · exact Nat.le_refl 1
  · exact Nat.zero_le 1
  · exact Nat.le_refl 1

theorem pointsOf_headingDue (n : Nat) :
    pointsOf (headingDue n) = if n = 0 then 15 else if 1 < n then 10 else 0 := by
  rcases n with _ | _ | n
  · rfl
  · rfl
  · rfl

/-! ### Results -/

/-- What a document owes to search engines. -/
def due (d : Document) : List Penalty :=
  wantedTitle.charged (title? d) ++ wantedDescription.charged (description? d) ++
    headingDue (d.elements.countP (·.name = "h1")) ++ chargeIf (0 < muteImages d) (muteCharge (muteImages d))

theorem penaltiesIn_rules (s : Subject) : penaltiesIn rules s = due s.document := by
  simp only [penaltiesIn, rules, List.flatMap_cons, List.flatMap_nil, List.append_nil, title_eq, description_eq,
    heading_eq, altText_eq, due, List.append_assoc]

theorem pointsOf_due (d : Document) :
    let headings := d.elements.countP (·.name = "h1")
    pointsOf (due d) = pointsOf (wantedTitle.charged (title? d)) +
      pointsOf (wantedDescription.charged (description? d)) +
      (if headings = 0 then 15 else if 1 < headings then 10 else 0) + if 0 < muteImages d then 10 else 0 := by
  simp only [due, pointsOf_append, pointsOf_headingDue, pointsOf_chargeIf]
  rfl

end Rule.Seo

open Rule Rule.Seo Html

/-- **The search engine result is told by the document.** There is at the most one penalty for the title, one
for the description, one for the number of main headings and one for images without an alternative text, and
these are the findings, in this order. For the title and for the description exactly one list of penalties is
owed, by what the text is, if there is one, and by its number of characters. The score is what the points
leave, and they never take more than there is. -/
theorem seo_explained (url : String) (page : Page) (scanTime : ZonedTime) :
    let r := AuditResult.evaluate url page scanTime
    let d := Document.parse page.body
    let headings := d.elements.countP (·.name = "h1")
    let mute := muteImages d
    ∃ title description : List Penalty,
      (∀ ps, wantedTitle.Owes (CountsAsTitle d) ps ↔ ps = title) ∧ title.length ≤ 1 ∧
      (∀ ps, wantedDescription.Owes (CountsAsDescription d) ps ↔ ps = description) ∧ description.length ≤ 1 ∧
      (headingDue headings).length ≤ 1 ∧
      r.seo.findings = (title ++ description ++ headingDue headings ++
        chargeIf (0 < mute) (muteCharge mute)).map (·.finding) ∧
      r.seo.score.toNat + (pointsOf title + pointsOf description +
        (if headings = 0 then 15 else if 1 < headings then 10 else 0) + if 0 < mute then 10 else 0) = 100 ∧
      40 ≤ r.seo.score.toNat := by
  intro r d headings mute
  let s := Subject.ofPage url page
  obtain ⟨hfindings, hscore⟩ := explained_of_penalties (c := .seo) (penaltiesIn_rules s)
  have hleft : 40 ≤ r.seo.score.toNat := score_ge_of_bounded seo_bounded s
  refine ⟨_, _, Wanted.owes_iff fun t => title?_eq_some_iff, Wanted.length_charged_le ..,
    Wanted.owes_iff fun t => description?_eq_some_iff, Wanted.length_charged_le .., length_headingDue_le _,
    hfindings, ?score, hleft⟩
  case score =>
    -- as something is left, nothing was cut off
    have hscore : r.seo.score.toNat = 100 - pointsOf (due d) := hscore
    rw [← pointsOf_due d]
    omega

end PageAudit
