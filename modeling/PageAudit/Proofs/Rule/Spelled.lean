import Mathlib.Data.List.Count
import PageAudit.Proofs.Rule.Charge
import PageAudit.Proofs.Text.Lowered
/-!
Rules that search the body for texts. The body is searched in lower case for a table of patterns. What such
a rule reports can be told from the body itself: one finding for each pattern that some run of the body
spells, up to the case of ASCII letters (`Reports`). `patterns_spelled` says so for every body, whatever
letters of other scripts it has.
-/
namespace PageAudit.Rule
open Text

/-- The penalties of a rule that charges for the patterns of a table which a body spells. -/
structure Reports (penalties : List Penalty) (body : String) (patterns : List String)
    (charge : String → Penalty) : Prop where
  inOrder : penalties = (patterns.filter (Spells body ·)).map charge
  once : ∀ p ∈ patterns, penalties.count (charge p) = if Spells body p then 1 else 0

/-- The penalty for a finding whose description ends with a pattern. -/
def patternPenalty (points : Nat) (k : Knowledge) (words pattern : String) : Penalty :=
  ⟨points, Finding.ofCode k.code (words ++ pattern)⟩

theorem patternPenalty_injective (points : Nat) (k : Knowledge) (words : String) :
    Function.Injective (patternPenalty points k words) := by
  intro p q h
  have hdescription := congrArg (·.finding.description) h
  simp only [patternPenalty, Finding.ofCode, Finding.description_about] at hdescription
  exact (String.append_right_inj words).mp hdescription

/-- A rule that goes through a table of patterns reports what the body spells, if search finds just that. -/
theorem reports_of_mentions {s : Subject} {body : String} {patterns : List String} (hpatterns : patterns.Nodup)
    (hmentions : ∀ p ∈ patterns, s.mentions p = true ↔ Spells body p) (points : Nat) (k : Knowledge)
    (words : String) :
    Reports ((patterns.filter s.mentions).map (patternPenalty points k words)) body patterns
      (patternPenalty points k words) := by
  have hfilter : patterns.filter s.mentions = patterns.filter (Spells body ·) :=
    List.filter_congr fun p hp => by rw [Bool.eq_iff_iff, hmentions p hp, decide_eq_true_iff]
  refine ⟨by rw [hfilter], fun p hp => ?_⟩
  rw [hfilter, List.count_map_of_injective _ _ (patternPenalty_injective points k words),
    List.Nodup.count (hpatterns.filter _)]
  simp only [List.mem_filter, decide_eq_true_eq, hp, true_and]

/-! ### The patterns -/

/-- The patterns that decide what the rules report. -/
def decisivePatterns : List String :=
  Security.databaseErrors ++ Security.injectionPatterns ++ ["color: #"]

theorem decisivePatterns_steady : ∀ p ∈ decisivePatterns,
    Case.Steady p.toList ∧ p.toList.map Char.toLower = p.toList := by
  decide +kernel

variable {url : String} {page : Page} {p : String}

/-- Lower case neither makes nor hides a pattern. -/
theorem mentions_iff (hp : p ∈ decisivePatterns) :
    (Subject.ofPage url page).mentions p = true ↔ Spells page.body p := by
  obtain ⟨hsteady, hsmall⟩ := decisivePatterns_steady p hp
  exact occursIn_lower_iff hsteady hsmall page.body

/-! ### Colours -/

namespace Accessibility

/-- A body whose text, in lower case, has one of the patterns for colours. -/
def Colored (body : String) : Prop :=
  ∃ pattern ∈ ["color: #", "background-color: #"], pattern.toList <:+: Case.lower body.toList

instance (body : String) : Decidable (Colored body) := by
  unfold Colored
  infer_instance

/-- The longer of the two patterns ends with the shorter one, so that it makes no difference. -/
theorem colored_iff (body : String) : Colored body ↔ Spells body "color: #" := by
  have hends : "color: #".toList <:+: "background-color: #".toList :=
    List.IsSuffix.isInfix ⟨"background-".toList, by decide⟩
  obtain ⟨hsteady, hsmall⟩ := decisivePatterns_steady "color: #" (by decide)
  rw [← occursIn_lower_iff hsteady hsmall, occursIn_iff]
  simp only [Colored, List.mem_cons, List.not_mem_nil, or_false, exists_eq_or_imp, exists_eq_left]
  exact or_iff_left_of_imp hends.trans

/-- The penalty for colours that are set by number. -/
def colorCharge : Penalty :=
  charge 5 "Color Contrast Check Needed" "Page uses custom colors - verify contrast ratios" .contrastUnchecked

theorem colorContrast_eq (url : String) (page : Page) :
    colorContrast.penalties (Subject.ofPage url page) = chargeIf (Colored page.body) colorCharge := by
  have hcharge : ⟨5, Finding.ofCode Knowledge.contrastUnchecked.code
      "Page uses custom colors - verify contrast ratios"⟩ = colorCharge :=
    penalty_eq_charge (Knowledge.mem_of_find? rfl) rfl 5 _
  have hany : colorPatterns.any (Subject.ofPage url page).mentions = true ↔ Colored page.body := by
    rw [List.any_eq_true]
    exact exists_congr fun pattern => and_congr_right' (occursIn_iff ..)
  simp only [colorContrast, hcharge, hany, chargeIf]

end Accessibility

/-- **Searching in lower case reports what the body spells.** Whatever text the body is, the rules on
database errors and on injection have one penalty for each pattern of their tables that some run of the body
spells up to the case of ASCII letters, one however often it does, in the order of the table; and the rule on
colours has its penalty exactly if the body spells the shorter of its patterns. No letter beyond ASCII makes
a match in lower case or hides one. -/
theorem patterns_spelled (url : String) (page : Page) :
    let s := Subject.ofPage url page
    Reports (Security.noDatabaseErrors.penalties s) page.body Security.databaseErrors
        (patternPenalty 15 .databaseError "Database error information is exposed: ") ∧
      Reports (Security.noInjection.penalties s) page.body Security.injectionPatterns
        (patternPenalty 10 .scriptPattern "Potentially dangerous pattern found: ") ∧
      Accessibility.colorContrast.penalties s =
        (if Spells page.body "color: #" then [Accessibility.colorCharge] else []) ∧
      ∀ p ∈ decisivePatterns, s.mentions p = true ↔ Spells page.body p := by
  refine ⟨?databaseErrors, ?injection, ?colors, fun p hp => mentions_iff hp⟩
  case databaseErrors =>
    exact reports_of_mentions (by decide) (fun p hp => mentions_iff (by simp [decisivePatterns, hp])) ..
  case injection =>
    exact reports_of_mentions (by decide) (fun p hp => mentions_iff (by simp [decisivePatterns, hp])) ..
  case colors =>
    rw [Accessibility.colorContrast_eq]
    exact chargeIf_congr (Accessibility.colored_iff page.body) _

end PageAudit.Rule
