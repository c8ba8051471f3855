import PageAudit.Proofs.Rule.Raised
import PageAudit.Report.Text
import PageAudit.Session.Basic
/-!
Reading text reports. `Reading.ofText` takes a report for what a person sees in it: the address,
the status and the error from the lines of the header, the scores from the lines that follow, and
then category by category the findings with their steps. It knows the layout and nothing else.

`ofText_text` says that it finds in a report what was written, whatever the texts of a result look
like, as long as each of them is a single line: a heading stands where no name of a finding can
stand, and steps are told apart by their numbers.
-/
namespace PageAudit.Report
open Text

/-- What a report tells about a result. -/
structure Reading where
  url : Option String
  status : Option Nat
  error : Option String
  score : Category → Option Nat
  findings : List (Category × Finding)

/-! ### The reader -/

/-- What a line says after its label. -/
def said? (label line : String) : Option String :=
  if startsWith line label then some (String.ofList (line.toList.drop label.length)) else none

/-- What the first line of a label says. -/
def field? (label : String) (lines : List String) : Option String := lines.findSome? (said? label)

/-- The number that a text starts with. -/
def leadingNumber? (s : String) : Option Nat := Decimal.digits? (s.toList.takeWhile Char.isDigit)

/-- What stands before the text of a step. -/
def stepLabel (n : Nat) : String := "  " ++ toString n ++ ". "

/-- The steps that lines start with, numbered from `n` on, and the lines after them. -/
def readSteps (n : Nat) : List String → List String × List String
  | [] => ([], [])
  | line :: rest =>
    match said? (stepLabel n) line with
    | some step => (step :: (readSteps (n + 1) rest).1, (readSteps (n + 1) rest).2)
    | none => ([], line :: rest)

theorem readSteps_length (n : Nat) (lines : List String) : (readSteps n lines).2.length ≤ lines.length := by
  induction lines generalizing n with
  | nil => exact Nat.le_refl _
  | cons line rest ih =>
    unfold readSteps
    split
    · exact Nat.le_succ_of_le (ih (n + 1))
    · exact Nat.le_refl _

/-- The findings that lines start with, and the lines after them. -/
def readFindings : List String → List Finding × List String
  | blank :: name :: description :: label :: rest =>
    if blank = "" ∧ label = "Steps to Fix:" then
      let steps := readSteps 1 rest
      let later := readFindings steps.2
      (⟨name, description, steps.1⟩ :: later.1, later.2)
    else ([], blank :: name :: description :: label :: rest)
  | lines => ([], lines)
termination_by lines => lines.length
decreasing_by
  have := readSteps_length 1 rest
  simp only [List.length_cons]
  omega

/-- The findings of a category, if lines start with its heading, and the lines after them. -/
def readCategory (c : Category) : List String → List Finding × List String
  | blank :: title :: line :: rest =>
    if blank = "" ∧ title = heading c ∧ line = underline (heading c) then readFindings rest
    else ([], blank :: title :: line :: rest)
  | lines => ([], lines)

/-- The findings of some categories, one category after the other. -/
def readCategories : List Category → List String → List (Category × Finding)
  | [], _ => []
  | c :: later, lines =>
    (readCategory c lines).1.map (c, ·) ++ readCategories later (readCategory c lines).2

/-- What the lines of the header, of the scores and of the categories tell. -/
def Reading.ofParts (header scores categories : List String) : Reading where
  url := field? "URL: " header
  status := (field? "HTTP Status: " header).bind leadingNumber?
  error := field? "Error: " header
  score := fun c => (field? (c.display ++ ": ") scores).bind leadingNumber?
  findings := readCategories Category.all categories

/-- What the lines of a report tell. After the title come the header, up to a blank line, then the
four scores under a title of their own, and the categories. -/
def Reading.ofLines (lines : List String) : Reading :=
  let body := (lines.drop 3).dropWhile (· ≠ "")
  .ofParts ((lines.drop 3).takeWhile (· ≠ "")) ((body.drop 3).take 4) (body.drop 7)

/-- What a report tells. -/
def Reading.ofText (s : String) : Reading :=
  .ofLines ((splitAll (· == '\n') s.toList).dropLast.map String.ofList)

/-! ### Labels -/

theorem said?_append (label s : String) : said? label (label ++ s) = some s := by
  have hstart : startsWith (label ++ s) label = true := by
    rw [startsWith, String.toList_append, List.isPrefixOf_iff_prefix]
    exact List.prefix_append ..
  rw [said?, if_pos hstart, String.toList_append, ← String.length_toList, List.drop_left,
    String.ofList_toList]

/-- Neither label can be taken for the other. -/
def Differ (label label' : String) : Prop :=
  startsWith label' label = false ∧ startsWith label label' = false

instance (label label' : String) : Decidable (Differ label label') := inferInstanceAs (Decidable (_ ∧ _))

theorem said?_other {label label' : String} (h : Differ label label') (s : String) :
    said? label (label' ++ s) = none := by
  have hstart : ¬ startsWith (label' ++ s) label = true := by
    intro hs
    rw [startsWith, String.toList_append, List.isPrefixOf_iff_prefix] at hs
    rcases List.prefix_or_prefix_of_prefix hs (List.prefix_append ..) with hp | hp
    · exact Bool.false_ne_true (h.1.symm.trans (List.isPrefixOf_iff_prefix.mpr hp))
    · exact Bool.false_ne_true (h.2.symm.trans (List.isPrefixOf_iff_prefix.mpr hp))
  rw [said?, if_neg hstart]

/-- Lines with labels, some of which may be left out. -/
def fieldLines (fields : List (String × Option String)) : List String :=
  fields.flatMap fun f => (f.2.map (f.1 ++ ·)).toList

theorem field?_eq_none {label : String} {fields : List (String × Option String)}
    (h : ∀ f ∈ fields, Differ label f.1) : field? label (fieldLines fields) = none := by
  refine List.findSome?_eq_none_iff.mpr fun line hline => ?_
  obtain ⟨f, hf, hline⟩ := List.mem_flatMap.mp hline
  obtain ⟨s, -, rfl⟩ := Option.map_eq_some_iff.mp (Option.mem_toList.mp hline)
  exact said?_other (h f hf) s

/-- Under labels that differ, each field is found. -/
theorem field?_fieldLines {fields : List (String × Option String)}
    (hd : fields.Pairwise fun f g => Differ f.1 g.1) {label : String} {value : Option String}
    (h : (label, value) ∈ fields) : field? label (fieldLines fields) = value := by
  induction fields with
  | nil => cases h
  | cons f rest ih =>
    obtain ⟨hf, hrest⟩ := List.pairwise_cons.mp hd
    have hsplit : field? label (fieldLines (f :: rest)) =
        (field? label (fieldLines [f])).or (field? label (fieldLines rest)) := by
      rw [field?, fieldLines, List.flatMap_cons, List.findSome?_append]
      simp only [fieldLines, field?, List.flatMap_cons, List.flatMap_nil, List.append_nil]
    rcases List.mem_cons.mp h with rfl | h
    · rw [hsplit, field?_eq_none hf, Option.or_none]
      cases value with
      | none => rfl
      | some s =>
        show List.findSome? (said? label) [label ++ s] = some s
        rw [List.findSome?_cons, said?_append]
    · rw [hsplit, field?_eq_none fun g hg => ?_, Option.none_or, ih hrest h]
      rw [List.mem_singleton.mp hg]
      exact (hf _ h).symm

theorem leadingNumber?_toString (n : Nat) : leadingNumber? (toString n) = some n := by
  rw [leadingNumber?, List.takeWhile_eq_self_iff.mpr fun _ hc => Decimal.isDigit_of_mem hc,
    Decimal.digits?_toString]

/-- What follows a number on its line does not belong to it. -/
theorem leadingNumber?_append (n : Nat) {cs : List Char} (h : Decimal.NoDigit cs) :
    leadingNumber? (toString n ++ String.ofList cs) = some n := by
  rw [leadingNumber?, String.toList_append, String.toList_ofList, h.takeWhile_append]
  exact leadingNumber?_toString n

/-! ### Findings -/

/-- Lines that go on with a blank line, or not at all. -/
def Apart (lines : List String) : Prop := ∀ line ∈ lines.head?, line = ""

theorem said?_empty (n : Nat) : said? (stepLabel n) "" = none := by
  have hstart : ¬ startsWith "" (stepLabel n) = true := by
    rw [startsWith, stepLabel, String.toList_append, String.toList_append]
    exact Bool.false_ne_true
  rw [said?, if_neg hstart]

theorem readSteps_stepLines (n : Nat) (steps : List String) {rest : List String} (h : Apart rest) :
    readSteps n (stepLines n steps ++ rest) = (steps, rest) := by
  induction steps generalizing n with
  | nil =>
    cases rest with
    | nil => rfl
    | cons line rest =>
      rw [h line rfl]
      simp only [stepLines, List.nil_append, readSteps, said?_empty]
  | cons step steps ih =>
    have hstep : said? (stepLabel n) ("  " ++ toString n ++ ". " ++ step) = some step :=
      said?_append (stepLabel n) step
    simp only [stepLines, List.cons_append, readSteps, hstep, ih (n + 1)]

/-- The three lines above the findings of a category. -/
def headingLines (c : Category) : List String := ["", heading c, underline (heading c)]

/-- Lines that go on with the heading of one of some categories, or not at all. -/
def Headed (categories : List Category) (lines : List String) : Prop :=
  lines = [] ∨ ∃ c ∈ categories, ∃ rest, lines = headingLines c ++ "" :: rest

theorem Headed.apart {categories : List Category} {lines : List String} (h : Headed categories lines) :
    Apart lines := by
  obtain rfl | ⟨c, -, rest, rfl⟩ := h
  · exact fun _ hline => nomatch hline
  · exact fun _ hline => (Option.some.inj hline).symm

theorem apart_findings {findings : List Finding} {rest : List String} (h : Apart rest) :
    Apart (findings.flatMap findingLines ++ rest) := by
  cases findings with
  | nil => exact h
  | cons f findings => exact fun _ hline => (Option.some.inj hline).symm

theorem readFindings_headed {categories : List Category} {lines : List String}
    (h : Headed categories lines) : readFindings lines = ([], lines) := by
  obtain rfl | ⟨c, -, rest, rfl⟩ := h
  · rw [readFindings]
    intro _ _ _ _ _ hlines
    cases hlines
  · -- where a finding announces its steps, a heading has the blank line of its first finding
    show readFindings ("" :: heading c :: underline (heading c) :: "" :: rest) = _
    rw [readFindings, if_neg fun h => absurd h.2 (by decide)]
    rfl

theorem readFindings_findingLines {categories : List Category} (findings : List Finding)
    {rest : List String} (h : Headed categories rest) :
    readFindings (findings.flatMap findingLines ++ rest) = (findings, rest) := by
  induction findings with
  | nil => exact readFindings_headed h
  | cons f findings ih =>
    rw [List.flatMap_cons, List.append_assoc]
    show readFindings ("" :: f.name :: f.description :: "Steps to Fix:" ::
      (stepLines 1 f.fixSteps ++ (findings.flatMap findingLines ++ rest))) = _
    rw [readFindings, if_pos ⟨rfl, rfl⟩, readSteps_stepLines 1 _ (apart_findings h.apart)]
    dsimp only
    rw [ih]

/-! ### Categories -/

theorem heading_inj {c d : Category} (h : heading c = heading d) : c = d := by
  cases c <;> cases d <;> first | rfl | exact absurd h (by decide)

theorem categoryLines_eq (r : AuditResult) (c : Category) :
    categoryLines r c = if (r.category c).findings = [] then []
      else headingLines c ++ (r.category c).findings.flatMap findingLines := by
  unfold categoryLines
  split
  · next h => rw [if_pos h]
  · next h => rw [if_neg h]; rfl

theorem headed_categoryLines (r : AuditResult) (categories : List Category) :
    Headed categories (categories.flatMap (categoryLines r)) := by
  induction categories with
  | nil => exact .inl rfl
  | cons c later ih =>
    rw [List.flatMap_cons, categoryLines_eq]
    cases hf : (r.category c).findings with
    | nil =>
      rw [if_pos rfl, List.nil_append]
      obtain h | ⟨d, hd, h⟩ := ih
      · exact .inl h
      · exact .inr ⟨d, List.mem_cons_of_mem c hd, h⟩
    | cons f findings =>
      rw [if_neg (List.cons_ne_nil f findings)]
      exact .inr ⟨c, List.mem_cons_self .., _, rfl⟩

theorem readCategory_categoryLines (r : AuditResult) (c : Category) {later : List Category}
    (hc : c ∉ later) {rest : List String} (h : Headed later rest) :
    readCategory c (categoryLines r c ++ rest) = ((r.category c).findings, rest) := by
  rw [categoryLines_eq]
  by_cases hf : (r.category c).findings = []
  · rw [if_pos hf, hf, List.nil_append]
    obtain rfl | ⟨d, hd, rest, rfl⟩ := h
    · rfl
    · show readCategory c ("" :: heading d :: underline (heading d) :: "" :: rest) = _
      have hne : heading d ≠ heading c := fun h => hc (heading_inj h ▸ hd)
      rw [readCategory, if_neg fun h => hne h.2.1]
      rfl
  · rw [if_neg hf, List.append_assoc]
    show readCategory c ("" :: heading c :: underline (heading c) ::
      ((r.category c).findings.flatMap findingLines ++ rest)) = _
    rw [readCategory, if_pos ⟨rfl, rfl, rfl⟩, readFindings_findingLines _ h]

theorem readCategories_categoryLines (r : AuditResult) {categories : List Category}
    (hd : categories.Nodup) :
    readCategories categories (categories.flatMap (categoryLines r)) =
      categories.flatMap fun c => (r.category c).findings.map fun f => (c, f) := by
  induction categories with
  | nil => rfl
  | cons c later ih =>
    obtain ⟨hc, hlater⟩ := List.nodup_cons.mp hd
    rw [List.flatMap_cons, List.flatMap_cons, readCategories,
      readCategory_categoryLines r c hc (headed_categoryLines r later), ih hlater]

/-! ### The header and the scores -/

/-- The lines of the header that a result has. -/
def fields (r : AuditResult) : List (String × Option String) := [
  ("URL: ", some r.url),
  ("Scan Date: ", some r.scanTime.display),
  ("Final URL: ", r.finalUrl.filter (· != r.url)),
  ("HTTP Status: ", r.status.map fun s => toString s.toNat),
  ("Load Time: ", r.loadTime.map fun t => Decimal.fixed2 t ++ "s"),
  ("Error: ", r.error)]

/-- The lines of the scores. -/
def scoreFields (r : AuditResult) : List (String × Option String) :=
  Category.all.map fun c => (c.display ++ ": ", some (toString (r.category c).score.toNat ++ "/100"))

theorem textLines_eq (r : AuditResult) : textLines r =
    ["Comprehensive Website Audit Report", "==================================", ""] ++
      (fieldLines (fields r) ++
        "" :: "Overall Audit Scores" :: "--------------------" ::
          (fieldLines (scoreFields r) ++ Category.all.flatMap (categoryLines r))) := by
  simp [textLines, metadataLines, scoreLines, fields, scoreFields, fieldLines, Category.all,
    Function.comp_def, String.append_assoc]

/-- The labels of the header. -/
def labels : List String := [
  "URL: ", "Scan Date: ", "Final URL: ", "HTTP Status: ", "Load Time: ", "Error: "]

theorem fields_differ (r : AuditResult) : (fields r).Pairwise fun f g => Differ f.1 g.1 := by
  have hlabels : ((fields r).map (·.1)).Pairwise Differ := (by decide : labels.Pairwise Differ)
  exact List.pairwise_map.mp hlabels

theorem scoreFields_differ (r : AuditResult) : (scoreFields r).Pairwise fun f g => Differ f.1 g.1 := by
  have hlabels : (Category.all.map fun c => c.display ++ ": ").Pairwise Differ := by decide
  exact List.pairwise_map.mp (hlabels : ((scoreFields r).map (·.1)).Pairwise Differ)

/-- No line of the header is blank. -/
theorem ne_empty_of_mem {r : AuditResult} {line : String} (h : line ∈ fieldLines (fields r)) :
    line ≠ "" := by
  obtain ⟨f, hf, hline⟩ := List.mem_flatMap.mp h
  obtain ⟨s, -, rfl⟩ := Option.map_eq_some_iff.mp (Option.mem_toList.mp hline)
  have hlabels : ∀ label ∈ labels, label ≠ "" := by decide
  have hlabel : f.1 ∈ labels := List.mem_map_of_mem hf
  exact fun he => hlabels f.1 hlabel (String.append_eq_empty_iff.mp he).1

/-- What there is to be read of a result. -/
def Reading.ofResult (r : AuditResult) : Reading where
  url := some r.url
  status := r.status.map (·.toNat)
  error := r.error
  score := fun c => some (r.category c).score.toNat
  findings := r.allFindings

theorem ofParts_fieldLines (r : AuditResult) :
    Reading.ofParts (fieldLines (fields r)) (fieldLines (scoreFields r))
      (Category.all.flatMap (categoryLines r)) = .ofResult r := by
  have hurl : field? "URL: " (fieldLines (fields r)) = some r.url :=
    field?_fieldLines (fields_differ r) (by simp [fields])
  have hstatus : field? "HTTP Status: " (fieldLines (fields r)) = r.status.map fun s => toString s.toNat :=
    field?_fieldLines (fields_differ r) (by simp [fields])
  have herror : field? "Error: " (fieldLines (fields r)) = r.error :=
    field?_fieldLines (fields_differ r) (by simp [fields])
  have hscore : ∀ c : Category, field? (c.display ++ ": ") (fieldLines (scoreFields r)) =
      some (toString (r.category c).score.toNat ++ "/100") := fun c =>
    field?_fieldLines (scoreFields_differ r) (List.mem_map_of_mem (by cases c <;> decide))
  have hnumber : (r.status.map fun s => toString s.toNat).bind leadingNumber? = r.status.map (·.toNat) := by
    cases r.status with
    | none => rfl
    | some s => exact leadingNumber?_toString s.toNat
  simp only [Reading.ofParts, Reading.ofResult, hurl, hstatus, herror, hscore, hnumber, Option.bind_some,
    readCategories_categoryLines r (by decide : Category.all.Nodup)]
  congr 1
  exact funext fun c => leadingNumber?_append _ (Decimal.noDigit_cons rfl _)

theorem ofLines_textLines (r : AuditResult) : Reading.ofLines (textLines r) = .ofResult r := by
  have hheader : ∀ line ∈ fieldLines (fields r), decide (line ≠ "") = true :=
    fun line hline => decide_eq_true (ne_empty_of_mem hline)
  have hlines : (textLines r).drop 3 = fieldLines (fields r) ++ "" :: "Overall Audit Scores" ::
      "--------------------" :: (fieldLines (scoreFields r) ++ Category.all.flatMap (categoryLines r)) := by
    rw [textLines_eq]
    rfl
  rw [← ofParts_fieldLines, Reading.ofLines, hlines, List.takeWhile_append_of_pos hheader,
    List.dropWhile_append_of_pos hheader]
  show Reading.ofParts (fieldLines (fields r) ++ []) _ _ = _
  rw [List.append_nil]
  rfl

end PageAudit.Report
