import PageAudit.Audit.Result
import Mathlib.Data.List.Forall2
import PageAudit.Proofs.Finding.Base
/-!
What rules raise. `kinds` lists, for each rule of the catalogue, the findings that it can raise: the entry
of the knowledge base that it uses, what the finding is about, the points that it costs, and the words of
its description. `catalogue_raises` says that it raises nothing else, whatever page it looks at.

A description reports one thing of the page at the most (`Measure`), a number or the value of a header, and
that stands in it as it is. As neither the base nor the words of a kind have a line feed, no finding has
one in its texts (`finding_singleLine`).
-/
namespace PageAudit.Rule
open Text

/-! ### Descriptions -/

/-- What a description reports of a page. -/
inductive Measure where
  | nothing
  | count
  | seconds
  | header (name : String)
deriving DecidableEq, Repr

/-- The text in which something is reported of a page. -/
inductive Measure.Shows (page : Page) : Measure → String → Prop
  | nothing : Shows page .nothing ""
  | count (n : Nat) : Shows page .count (toString n)
  | seconds : Shows page .seconds (Decimal.fixed2 page.loadTime)
  | header {name value : String} : page.header? name = some value → Shows page (.header name) value

/-- The words of a description, around what it reports. -/
structure Wording where
  before : String
  measure : Measure
  after : String
deriving DecidableEq, Repr

namespace Wording

/-- A description that reports nothing. -/
def plain (text : String) : Wording := ⟨text, .nothing, ""⟩

instance : Coe String Wording := ⟨plain⟩

/-- A description of a page in some words. -/
def Says (w : Wording) (page : Page) (description : String) : Prop :=
  ∃ shown, w.measure.Shows page shown ∧ description = w.before ++ shown ++ w.after

variable {page : Page} {before after : String}

theorem says_plain (text : String) : (plain text).Says page text :=
  ⟨"", .nothing, by rw [plain, String.append_empty, String.append_empty]⟩

theorem says_number (n : Nat) : Says ⟨before, .count, after⟩ page (before ++ toString n ++ after) :=
  ⟨_, .count n, rfl⟩

/-- A description that starts with a number. -/
theorem says_number_first (n : Nat) : Says ⟨"", .count, after⟩ page (toString n ++ after) :=
  ⟨_, .count n, by rw [String.empty_append]⟩

theorem says_seconds : Says ⟨before, .seconds, after⟩ page (before ++ Decimal.fixed2 page.loadTime ++ after) :=
  ⟨_, .seconds, rfl⟩

/-- A description that ends with the value of a header. -/
theorem says_header {name value : String} (h : page.header? name = some value) :
    Says ⟨before, .header name, ""⟩ page (before ++ value) :=
  ⟨_, .header h, by rw [String.append_empty]⟩

end Wording

/-! ### Kinds of findings -/

/-- A finding that a rule can raise. -/
structure Kind where
  entry : Knowledge
  /-- What the finding is about: the name of a header where the entry has a place for it. -/
  subject : String
  points : Nat
  wording : Wording
deriving DecidableEq, Repr

/-- A penalty for a finding of a kind. -/
inductive Kind.Raised (page : Page) (k : Kind) : Penalty → Prop
  | mk {description : String} : k.wording.Says page description →
      Raised page k ⟨k.points, Finding.about k.entry.code k.subject description⟩

/-- What each rule of the catalogue raises. -/
def kinds : Category → List (List Kind)
  | .security => [
    [⟨.insecure, "", 25, "Website is not using secure HTTPS connection"⟩],
    Security.securityHeaders.map fun h => ⟨.headerMissing, h.1, 5, h.2⟩,
    Security.serverHeaders.map fun h =>
      ⟨.serverDisclosed, "", 3, ⟨h ++ " header reveals server information: ", .header h, ""⟩⟩,
    Security.databaseErrors.map fun p =>
      ⟨.databaseError, "", 15, .plain ("Database error information is exposed: " ++ p)⟩,
    Security.injectionPatterns.map fun p =>
      ⟨.scriptPattern, "", 10, .plain ("Potentially dangerous pattern found: " ++ p)⟩]
  | .performance => [
    [⟨.slowLoad, "", 20, ⟨"Page takes ", .seconds, " seconds to load (should be under 3 seconds)"⟩⟩,
      ⟨.moderateLoad, "", 10, ⟨"Page takes ", .seconds, " seconds to load (could be faster)"⟩⟩],
    [⟨.largeImages, "", 10, ⟨"Found ", .count, " images that may be too large for web use"⟩⟩],
    [⟨.manyScripts, "", 5, ⟨"Found ", .count, " script tags (consider bundling)"⟩⟩],
    [⟨.manyStylesheets, "", 5, ⟨"Found ", .count, " stylesheet links (consider bundling)"⟩⟩]]
  | .seo => [
    [⟨.titleMissing, "", 20, "Page has no title tag or empty title"⟩,
      ⟨.titleTooLong, "", 10, ⟨"Title is ", .count, " characters (should be 50-60)"⟩⟩],
    [⟨.descriptionMissing, "", 15, "Page has no meta description"⟩,
      ⟨.descriptionTooLong, "", 5, ⟨"Meta description is ", .count, " characters"⟩⟩],
    [⟨.headingMissing, "", 15, "Page has no H1 heading tag"⟩,
      ⟨.headingRepeated, "", 10, ⟨"Page has ", .count, " H1 tags (should have only one)"⟩⟩],
    [⟨.altTextMissing, "", 10, ⟨"", .count, " images missing alt text"⟩⟩]]
  | .accessibility => [
    [⟨.altTextUnspoken, "", 15, ⟨"", .count, " images missing alt text for screen readers"⟩⟩],
    [⟨.labelMissing, "", 5, "Form input field missing proper label association"⟩],
    [⟨.contrastUnchecked, "", 5, "Page uses custom colors - verify contrast ratios"⟩],
    [⟨.nothingToFocus, "", 10, "Page may have keyboard navigation problems"⟩]]

/-- What the finding of an entry can be about. -/
def subjects (k : Knowledge) : List String :=
  if k.title.hasPlace then Security.securityHeaders.map (·.1) else [""]

/-- A kind of finding of a category, with an entry of the base and a line of text for what is found. -/
structure Kind.Sound (c : Category) (k : Kind) : Prop where
  known : k.entry ∈ Knowledge.base
  category : k.entry.category = c
  subject : k.subject ∈ subjects k.entry
  before : SingleLine k.wording.before
  after : SingleLine k.wording.after
  words : k.wording.before ≠ "" ∨ k.wording.after ≠ ""

/-- A kind whose words say something before they report anything. -/
theorem Kind.Sound.ofBefore {c : Category} {k : Kind} (known : k.entry ∈ Knowledge.base)
    (category : k.entry.category = c) (subject : k.subject ∈ subjects k.entry)
    (before : Sentence k.wording.before) (after : SingleLine k.wording.after) : k.Sound c :=
  ⟨known, category, subject, before.2, after, .inl before.1⟩

theorem security_sound : ∀ ks ∈ kinds .security, ∀ k ∈ ks, k.Sound .security := by
  have sentences : ∀ p ∈ Security.serverHeaders ++ Security.databaseErrors ++ Security.injectionPatterns,
      Sentence p := by
    repeat' refine List.forall_mem_cons.mpr ⟨?_, ?_⟩
    all_goals first
      | exact .ofList rfl
      | exact List.forall_mem_nil _
  have meanings : ∀ h ∈ Security.securityHeaders, Sentence h.2 := by
    simp only [Security.securityHeaders, List.forall_mem_cons]
    exact ⟨.ofList rfl, .ofList rfl, .ofList rfl, .ofList rfl, .ofList rfl, .ofList rfl,
      List.forall_mem_nil _⟩
  simp only [kinds, List.forall_mem_cons, List.forall_mem_map]
  refine ⟨⟨?secureAddress, List.forall_mem_nil _⟩, fun h hh => ?headersPresent, fun h hh => ?serverHidden,
    fun p hp => ?noDatabaseErrors, fun p hp => ?noInjection, List.forall_mem_nil _⟩
  case secureAddress => exact .ofBefore (Knowledge.mem_of_find? rfl) rfl (.head _) (.ofList rfl) (.ofList rfl)
  case headersPresent =>
    exact .ofBefore (Knowledge.mem_of_find? rfl) rfl (List.mem_map_of_mem hh) (meanings h hh) (.ofList rfl)
  case serverHidden =>
    have hname := sentences h (List.mem_append_left _ (List.mem_append_left _ hh))
    exact .ofBefore (Knowledge.mem_of_find? rfl) rfl (.head _) (hname.append (.ofList rfl)) (.ofList rfl)
  case noDatabaseErrors =>
    have htext := sentences p (List.mem_append_left _ (List.mem_append_right _ hp))
    exact .ofBefore (Knowledge.mem_of_find? rfl) rfl (.head _) (htext.prepend (.ofList rfl)) (.ofList rfl)
  case noInjection =>
    have htext := sentences p (List.mem_append_right _ hp)
    exact .ofBefore (Knowledge.mem_of_find? rfl) rfl (.head _) (htext.prepend (.ofList rfl)) (.ofList rfl)

theorem kinds_sound (c : Category) : ∀ ks ∈ kinds c, ∀ k ∈ ks, k.Sound c := by
  cases c
  case security => exact security_sound
  -- elsewhere all words stand in the table, and only those on images begin with a number
  all_goals
    repeat' refine List.forall_mem_cons.mpr ⟨?_, ?_⟩
    all_goals first
      | exact List.forall_mem_nil _
      | exact .ofBefore (Knowledge.mem_of_find? rfl) rfl (.head _) (.ofList rfl) (.ofList rfl)
      | exact ⟨Knowledge.mem_of_find? rfl, rfl, .head _, .ofList rfl, .ofList rfl, .inr (by decide)⟩

/-! ### Penalties of some kinds -/

/-- Penalties of some kinds. -/
def AllRaised (page : Page) (kinds : List Kind) (penalties : List Penalty) : Prop :=
  ∀ p ∈ penalties, ∃ k ∈ kinds, k.Raised page p

namespace AllRaised

variable {page : Page} {kinds : List Kind} {p : Penalty}

theorem nil : AllRaised page kinds [] := List.forall_mem_nil _

theorem one {k : Kind} (hk : k ∈ kinds) (h : k.Raised page p) : AllRaised page kinds [p] :=
  List.forall_mem_singleton.mpr ⟨k, hk, h⟩

/-- A rule that has one kind of finding and raises it at most once. -/
theorem atMostOne {c : Prop} [Decidable c] {k : Kind} (hk : k ∈ kinds) (h : k.Raised page p) :
    AllRaised page kinds (if c then [] else [p]) := by
  split
  · exact nil
  · exact one hk h

/-- A rule that goes through a table with one kind of finding for each of its rows. -/
theorem table {α : Type} {rows : List α} {keep : α → Bool} {f : α → Penalty} {kind : α → Kind}
    (h : ∀ x, (kind x).Raised page (f x)) :
    AllRaised page (rows.map kind) ((rows.filter keep).map f) :=
  List.forall_mem_map.mpr fun x hx => ⟨kind x, List.mem_map_of_mem (List.mem_of_mem_filter hx), h x⟩

end AllRaised

/-- Whatever the page, a rule raises only findings of some kinds. -/
def Raises (rule : Rule) (kinds : List Kind) : Prop := ∀ s, AllRaised s.page kinds (rule.penalties s)

theorem security_raises : List.Forall₂ Raises (catalogue .security) (kinds .security) := by
  refine .cons (fun s => ?secureAddress) (.cons (fun s => ?headersPresent) (.cons (fun s => ?serverHidden)
    (.cons (fun s => ?noDatabaseErrors) (.cons (fun s => ?noInjection) .nil))))
  case secureAddress => exact .atMostOne (.head _) ⟨Wording.says_plain _⟩
  case headersPresent => exact .table fun h => ⟨Wording.says_plain h.2⟩
  case serverHidden =>
    intro p hp
    obtain ⟨h, hh, hp⟩ := List.mem_filterMap.mp hp
    obtain ⟨value, hvalue, rfl⟩ := Option.map_eq_some_iff.mp hp
    exact ⟨_, List.mem_map_of_mem hh, ⟨Wording.says_header hvalue⟩⟩
  case noDatabaseErrors => exact .table fun p => ⟨Wording.says_plain _⟩
  case noInjection => exact .table fun p => ⟨Wording.says_plain _⟩

theorem performance_raises : List.Forall₂ Raises (catalogue .performance) (kinds .performance) := by
  refine .cons (fun s => ?loadTime) (.cons (fun s => ?imagesFit) (.cons (fun s => ?fewScripts)
    (.cons (fun s => ?fewStylesheets) .nil)))
  case loadTime =>
    simp only [Performance.loadTime]
    split
    · exact .one (.head _) ⟨Wording.says_seconds⟩
    · split
      · exact .one (.tail _ (.head _)) ⟨Wording.says_seconds⟩
      · exact .nil
  case imagesFit =>
    simp only [Performance.imagesFit]
    split
    · exact .nil
    · exact .one (.head _) ⟨Wording.says_number _⟩
  case fewScripts => exact .atMostOne (.head _) ⟨Wording.says_number _⟩
  case fewStylesheets => exact .atMostOne (.head _) ⟨Wording.says_number _⟩

theorem seo_raises : List.Forall₂ Raises (catalogue .seo) (kinds .seo) := by
  refine .cons (fun s => ?title) (.cons (fun s => ?description) (.cons (fun s => ?heading)
    (.cons (fun s => ?altText) .nil)))
  case title =>
    simp only [Seo.title]
    split
    · exact .one (.head _) ⟨Wording.says_plain _⟩
    · exact .atMostOne (.tail _ (.head _)) ⟨Wording.says_number _⟩
  case description =>
    simp only [Seo.description]
    split
    · exact .one (.head _) ⟨Wording.says_plain _⟩
    · exact .atMostOne (.tail _ (.head _)) ⟨Wording.says_number _⟩
  case heading =>
    simp only [Seo.heading]
    split
    · exact .one (.head _) ⟨Wording.says_plain _⟩
    · exact .nil
    · exact .one (.tail _ (.head _)) ⟨Wording.says_number _⟩
  case altText =>
    simp only [Seo.altText]
    split
    · exact .nil
    · exact .one (.head _) ⟨Wording.says_number_first _⟩

theorem accessibility_raises : List.Forall₂ Raises (catalogue .accessibility) (kinds .accessibility) := by
  refine .cons (fun s => ?altText) (.cons (fun s => ?formLabels) (.cons (fun s => ?colorContrast)
    (.cons (fun s => ?keyboard) .nil)))
  case altText =>
    simp only [Accessibility.altText]
    split
    · exact .nil
    · exact .one (.head _) ⟨Wording.says_number_first _⟩
  case formLabels =>
    exact List.forall_mem_map.mpr fun _ _ => ⟨_, .head _, ⟨Wording.says_plain _⟩⟩
  case colorContrast =>
    simp only [Accessibility.colorContrast]
    split
    · exact .one (.head _) ⟨Wording.says_plain _⟩
    · exact .nil
  case keyboard => exact .atMostOne (.head _) ⟨Wording.says_plain _⟩

/-- Each rule of the catalogue raises findings of its own kinds only. -/
theorem catalogue_raises (c : Category) : List.Forall₂ Raises (catalogue c) (kinds c) := by
  cases c with
  | security => exact security_raises
  | performance => exact performance_raises
  | seo => exact seo_raises
  | accessibility => exact accessibility_raises

theorem raises_of_getElem? {c : Category} {i : Nat} {rule : Rule} (h : (catalogue c)[i]? = some rule) :
    ∃ ks, (kinds c)[i]? = some ks ∧ Raises rule ks := by
  obtain ⟨hi, rfl⟩ := List.getElem?_eq_some_iff.mp h
  have hi' : i < (kinds c).length := (catalogue_raises c).length_eq ▸ hi
  exact ⟨(kinds c)[i], List.getElem?_eq_getElem hi', (catalogue_raises c).get hi hi'⟩

/-! ### Findings -/

variable {c : Category}

/-- What a penalty of a kind says. -/
theorem Kind.Raised.finding_eq {k : Kind} (hk : k.Sound c) {page : Page} {p : Penalty} (h : k.Raised page p) :
    p.points = k.points ∧ p.finding = k.entry.finding k.subject p.finding.description := by
  obtain ⟨-⟩ := h
  rw [Knowledge.about_code hk.known]
  exact ⟨rfl, rfl⟩

theorem Measure.Shows.singleLine {page : Page} {m : Measure} {shown : String} (h : m.Shows page shown) :
    SingleLine shown := by
  cases h with
  | nothing => exact .ofList rfl
  | count n => exact singleLine_toString n
  | seconds => exact singleLine_fixed2 page.loadTime
  | header hvalue => exact singleLine_header hvalue

theorem Kind.Sound.singleLine {k : Kind} (hk : k.Sound c) {page : Page} {description : String}
    (h : k.wording.Says page description) : SingleLine description := by
  obtain ⟨shown, hshown, rfl⟩ := h
  exact (hk.before.append hshown.singleLine).append hk.after

theorem Kind.Sound.description_ne_empty {k : Kind} (hk : k.Sound c) {page : Page} {description : String}
    (h : k.wording.Says page description) : description ≠ "" := by
  obtain ⟨shown, -, rfl⟩ := h
  intro he
  obtain ⟨hbefore, hafter⟩ := String.append_eq_empty_iff.mp he
  exact hk.words.elim (· (String.append_eq_empty_iff.mp hbefore).1) (· hafter)

/-- A finding of a page is of one of the kinds of its category. -/
theorem exists_kind {s : Subject} {f : Finding} (hf : f ∈ (scoreCategory c s).findings) :
    ∃ ks ∈ kinds c, ∃ k ∈ ks, k.wording.Says s.page f.description ∧
      f = Finding.about k.entry.code k.subject f.description := by
  obtain ⟨p, hp, rfl⟩ := List.mem_map.mp hf
  obtain ⟨rule, hrule, hp⟩ := List.mem_flatMap.mp hp
  obtain ⟨i, hi⟩ := List.mem_iff_getElem?.mp hrule
  obtain ⟨ks, hks, hraises⟩ := raises_of_getElem? hi
  obtain ⟨k, hk, hp⟩ := hraises _ p hp
  obtain ⟨hwords⟩ := hp
  have hknown := (kinds_sound c ks (List.mem_of_getElem? hks) k hk).known
  rw [Knowledge.about_code hknown]
  exact ⟨ks, List.mem_of_getElem? hks, k, hk, hwords, (Knowledge.about_code hknown).symm⟩

theorem subjects_free {k : Knowledge} {subject : String} (h : subject ∈ subjects k) :
    ∀ c ∈ ['\n', '\x7b'], c ∉ subject.toList := by
  have names : ∀ x ∈ Security.securityHeaders, ∀ c ∈ ['\n', '\x7b'], c ∉ x.1.toList := by
    repeat' refine List.forall_mem_cons.mpr ⟨?_, ?_⟩
    all_goals first
      | exact notMem_ofList rfl
      | exact List.forall_mem_nil _
  unfold subjects at h
  split at h
  · obtain ⟨x, hx, rfl⟩ := List.mem_map.mp h
    exact names x hx
  · rw [List.mem_singleton.mp h]
    exact fun _ _ => notMem_ofList rfl

end PageAudit.Rule

namespace PageAudit

theorem AuditResult.evaluate_category (url : String) (page : Page) (scanTime : ZonedTime) (c : Category) :
    (evaluate url page scanTime).category c = scoreCategory c (Subject.ofPage url page) := by
  cases c <;> rfl

/-- No finding of a page has a line feed in its texts. -/
theorem Rule.finding_singleLine {url : String} {page : Page} {scanTime : ZonedTime} {c : Category} {f : Finding}
    (hf : f ∈ ((AuditResult.evaluate url page scanTime).category c).findings) : f.SingleLine := by
  rw [AuditResult.evaluate_category] at hf
  obtain ⟨ks, hks, k, hk, hwords, hfinding⟩ := exists_kind hf
  have hsound := kinds_sound c ks hks k hk
  rw [hfinding, Knowledge.about_code hsound.known]
  exact Knowledge.finding_singleLine hsound.known (subjects_free hsound.subject _ (by decide))
    (hsound.singleLine hwords)

end PageAudit
