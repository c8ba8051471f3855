import PageAudit.Proofs.Binary64.Amount
import PageAudit.Proofs.Rule.Images
import PageAudit.Proofs.Text.Words
/-!
What is reported on performance, told from the load of a page: the time it took, and how many oversized
images, scripts and stylesheets it has (`Load`). Nothing else of a page matters, and a page whose load is
nowhere less has no higher score (`performance_explained`).

A time counts by what it amounts to, so an infinite one is beyond every limit, and a NaN is beyond none.
-/
namespace PageAudit

namespace Rule.Performance
open Html Text

/-! ### Times -/

/-- A time that amounts to more than a number of seconds. -/
def Exceeds (t : Binary64) (limit : ℚ) : Prop :=
  ∃ a ∈ t.amount?, Binary64.Amount.ofRat limit < a

theorem slowLoad_amount : slowLoad.amount? = some (.ofRat 3) := by
  rw [Binary64.amount?_of_parts (m := 3 * 2 ^ 51) (e := -51) (by decide) (by decide) (by decide) (by decide)]
  norm_num

theorem moderateLoad_amount : moderateLoad.amount? = some (.ofRat (3 / 2)) := by
  rw [Binary64.amount?_of_parts (m := 3 * 2 ^ 51) (e := -52) (by decide) (by decide) (by decide) (by decide)]
  norm_num

variable {t t' : Binary64} {limit : ℚ}

theorem lt_iff_exceeds {x : Binary64} (h : x.amount? = some (.ofRat limit)) :
    x.lt t = true ↔ Exceeds t limit := by
  rw [Binary64.lt_iff, h]
  simp only [Option.mem_some_iff, exists_eq_left']
  rfl

theorem slowLoad_lt_iff : slowLoad.lt t = true ↔ Exceeds t 3 := lt_iff_exceeds slowLoad_amount

theorem moderateLoad_lt_iff : moderateLoad.lt t = true ↔ Exceeds t (3 / 2) := lt_iff_exceeds moderateLoad_amount

instance (t : Binary64) (limit : ℚ) : Decidable (Exceeds t limit) := by
  unfold Exceeds
  infer_instance

/-- A time amounts to no more than another. -/
def NoLater (t t' : Binary64) : Prop := ∃ a ∈ t.amount?, ∃ b ∈ t'.amount?, a ≤ b

theorem Exceeds.of_noLater (hle : NoLater t t') (h : Exceeds t limit) : Exceeds t' limit := by
  obtain ⟨a, ha, b, hb, hab⟩ := hle
  obtain ⟨a', ha', hlimit⟩ := h
  obtain rfl := Option.mem_unique ha ha'
  exact ⟨b, hb, lt_of_lt_of_le hlimit hab⟩

theorem not_exceeds_of_isNan (h : t.isNan = true) (limit : ℚ) : ¬ Exceeds t limit := by
  rintro ⟨a, ha, -⟩
  rw [Binary64.amount?_eq_none_iff.mpr h] at ha
  cases ha

/-- Points that are charged if something is so are no more than those charged if what follows from it is so. -/
theorem pointsIf_mono (points : Nat) {c c' : Prop} [Decidable c] [Decidable c'] (h : c → c') :
    (if c then points else 0) ≤ if c' then points else 0 := by
  by_cases hc : c
  · rw [if_pos hc, if_pos (h hc)]
  · rw [if_neg hc]
    exact Nat.zero_le _

theorem pointsIf_le (points : Nat) (c : Prop) [Decidable c] : (if c then points else 0) ≤ points := by
  by_cases hc : c
  · rw [if_pos hc]
  · rw [if_neg hc]
    exact Nat.zero_le points

/-- The penalty for a slow page. -/
def slowCharge (t : Binary64) : Penalty :=
  charge 20 "Slow Page Load Time"
    ("Page takes " ++ Decimal.fixed2 t ++ " seconds to load (should be under 3 seconds)") .slowLoad

/-- The penalty for a page that could be faster. -/
def moderateCharge (t : Binary64) : Penalty :=
  charge 10 "Moderate Page Load Time"
    ("Page takes " ++ Decimal.fixed2 t ++ " seconds to load (could be faster)") .moderateLoad

/-- What is owed for a time. -/
def timeDue (t : Binary64) : List Penalty :=
  chargeIf (Exceeds t 3) (slowCharge t) ++ chargeIf (Exceeds t (3 / 2) ∧ ¬ Exceeds t 3) (moderateCharge t)

/-- The points that a time costs. -/
def timeCost (t : Binary64) : Nat := if Exceeds t 3 then 20 else if Exceeds t (3 / 2) then 10 else 0

theorem pointsOf_timeDue (t : Binary64) : pointsOf (timeDue t) = timeCost t := by
  rw [timeDue, timeCost, pointsOf_append, pointsOf_chargeIf, pointsOf_chargeIf]
  by_cases h : Exceeds t 3
  · rw [if_pos h, if_pos h, if_neg fun hc => hc.2 h]
    rfl
  · simp only [h, not_false_eq_true, and_true, if_false, Nat.zero_add]
    rfl

theorem timeCost_le (t : Binary64) : timeCost t ≤ 20 := by
  unfold timeCost
  split_ifs
  · exact Nat.le_refl 20
  · decide
  · exact Nat.zero_le 20

/-- A time that passes a limit still does so if it is later. -/
theorem timeCost_le_timeCost (h : NoLater t t') : timeCost t ≤ timeCost t' := by
  by_cases hslow : Exceeds t' 3
  · rw [show timeCost t' = 20 from if_pos hslow]
    exact timeCost_le t
  · rw [timeCost, timeCost, if_neg hslow, if_neg fun hold => hslow (hold.of_noLater h)]
    exact pointsIf_mono 10 fun hmoderate => hmoderate.of_noLater h

theorem loadTime_eq (s : Subject) : loadTime.penalties s = timeDue s.page.loadTime := by
  simp only [loadTime, slowLoad_lt_iff, moderateLoad_lt_iff, timeDue]
  by_cases hslow : Exceeds s.page.loadTime 3
  · rw [if_pos hslow, chargeIf_pos hslow, chargeIf_neg fun hc => hc.2 hslow]
    exact congrArg ([·]) (penalty_eq_charge (Knowledge.mem_of_find? rfl) rfl 20 _)
  rw [if_neg hslow, chargeIf_neg hslow, List.nil_append]
  by_cases hmoderate : Exceeds s.page.loadTime (3 / 2)
  · rw [if_pos hmoderate, chargeIf_pos ⟨hmoderate, hslow⟩]
    exact congrArg ([·]) (penalty_eq_charge (Knowledge.mem_of_find? rfl) rfl 10 _)
  · rw [if_neg hmoderate, chargeIf_neg fun hc => hmoderate hc.1]

/-! ### Stylesheets -/

/-- A link that lists a stylesheet among its relations. -/
def Stylesheet (n : Node) : Prop :=
  n.name = "link" ∧ ∃ rel ∈ n.attribute? "rel", StandsIn "stylesheet".toList rel.toList

theorem mem_words_stylesheet_iff {rel : String} :
    "stylesheet" ∈ words rel ↔ StandsIn "stylesheet".toList rel.toList := by
  have hsolid : Solid "stylesheet".toList := ⟨by simp, by simp [isAsciiBlank]⟩
  rw [mem_words_iff, and_iff_right hsolid]

instance (n : Node) : Decidable (Stylesheet n) :=
  decidable_of_iff (n.name = "link" ∧ ∃ rel ∈ n.attribute? "rel", "stylesheet" ∈ words rel) <| by
    simp only [mem_words_stylesheet_iff]
    rfl

theorem stylesheets_eq (d : Document) : stylesheets d = d.elements.countP (Stylesheet ·) := by
  rw [stylesheets, Document.findAllWithToken_eq, Document.findAll_eq (by decide +kernel), List.filter_filter,
    ← List.countP_eq_length_filter]
  refine List.countP_congr fun n _ => ?_
  rw [Bool.and_eq_true, beq_iff_eq, decide_eq_true_iff, decide_eq_true_iff, Stylesheet, and_comm]
  simp only [mem_words_stylesheet_iff]

/-! ### Counts -/

/-- The penalty for many scripts. -/
def scriptCharge (n : Nat) : Penalty :=
  charge 5 "Too Many JavaScript Files" ("Found " ++ toString n ++ " script tags (consider bundling)") .manyScripts

/-- The penalty for many stylesheets. -/
def stylesheetCharge (n : Nat) : Penalty :=
  charge 5 "Too Many CSS Files" ("Found " ++ toString n ++ " stylesheet links (consider bundling)")
    .manyStylesheets

theorem fewScripts_eq (s : Subject) :
    let n := s.document.elements.countP (·.name = "script")
    fewScripts.penalties s = chargeIf (10 < n) (scriptCharge n) := by
  intro n
  have hcount : s.document.count "script" = n := Document.count_eq (by decide +kernel)
  simp only [fewScripts, hcount]
  exact limitedPenalties_eq (Knowledge.mem_of_find? rfl) rfl 5
    (fun n => "Found " ++ toString n ++ " script tags (consider bundling)") 10 n

theorem fewStylesheets_eq (s : Subject) :
    let n := s.document.elements.countP (Stylesheet ·)
    fewStylesheets.penalties s = chargeIf (5 < n) (stylesheetCharge n) := by
  intro n
  simp only [fewStylesheets, stylesheets_eq]
  exact limitedPenalties_eq (Knowledge.mem_of_find? rfl) rfl 5
    (fun n => "Found " ++ toString n ++ " stylesheet links (consider bundling)") 5 n

/-! ### Loads -/

/-- All that the performance of a page is judged by. -/
structure Load where
  time : Binary64
  images : Nat
  scripts : Nat
  stylesheets : Nat

/-- The load of a page. Of the oversized images those count whose dimensions fit a word. -/
def Load.ofPage (page : Page) : Load :=
  let elements := (Document.parse page.body).elements
  { time := page.loadTime
    images := elements.countP fun n => Oversized n ∧ Held n
    scripts := elements.countP (·.name = "script")
    stylesheets := elements.countP (Stylesheet ·) }

namespace Load

/-- What a load owes. -/
def due (l : Load) : List Penalty :=
  timeDue l.time ++
    chargeIf (0 < l.images) (imageCharge l.images) ++
    chargeIf (10 < l.scripts) (scriptCharge l.scripts) ++
    chargeIf (5 < l.stylesheets) (stylesheetCharge l.stylesheets)

/-- The points that a load costs. -/
def cost (l : Load) : Nat :=
  timeCost l.time + (if 0 < l.images then 10 else 0) + (if 10 < l.scripts then 5 else 0) +
    if 5 < l.stylesheets then 5 else 0

/-- A load that is nowhere more than another. -/
structure AtMost (l l' : Load) : Prop where
  time : NoLater l.time l'.time
  images : l.images ≤ l'.images
  scripts : l.scripts ≤ l'.scripts
  stylesheets : l.stylesheets ≤ l'.stylesheets

variable {l l' : Load}

theorem pointsOf_due (l : Load) : pointsOf l.due = l.cost := by
  simp only [due, pointsOf_append, pointsOf_chargeIf, pointsOf_timeDue, cost]
  rfl

theorem cost_le (l : Load) : l.cost ≤ 40 :=
  Nat.add_le_add (Nat.add_le_add (Nat.add_le_add (timeCost_le l.time) (pointsIf_le 10 _)) (pointsIf_le 5 _))
    (pointsIf_le 5 _)

/-- Another time changes what the time costs, and nothing else. -/
theorem cost_retimed (l : Load) (t : Binary64) :
    cost { l with time := t } + timeCost l.time = l.cost + timeCost t := by
  simp only [cost]
  omega

/-- A limit that is passed stays passed, so what it costs does not fall. -/
theorem cost_le_cost (h : l.AtMost l') : l.cost ≤ l'.cost := by
  have himages := pointsIf_mono 10 fun himages : 0 < l.images => himages.trans_le h.images
  have hscripts := pointsIf_mono 5 fun hscripts : 10 < l.scripts => hscripts.trans_le h.scripts
  have hsheets := pointsIf_mono 5 fun hsheets : 5 < l.stylesheets => hsheets.trans_le h.stylesheets
  exact Nat.add_le_add (Nat.add_le_add (Nat.add_le_add (timeCost_le_timeCost h.time) himages) hscripts) hsheets

/-- The names of the findings of a load, all different and in the order of the rules. -/
theorem names_sublist (l : Load) : (l.due.map (·.finding.name)).Sublist
    ["Slow Page Load Time", "Moderate Page Load Time", "Large Images Detected", "Too Many JavaScript Files",
      "Too Many CSS Files"] := by
  have hdue : l.due.Sublist ([slowCharge l.time] ++ [moderateCharge l.time] ++ [imageCharge l.images] ++
      [scriptCharge l.scripts] ++ [stylesheetCharge l.stylesheets]) := by
    refine .append (.append (.append (.append ?_ ?_) ?_) ?_) ?_
    all_goals exact chargeIf_sublist ..
  exact hdue.map _

theorem explained (url : String) (page : Page) :
    Explained (scoreCategory .performance (Subject.ofPage url page)) (ofPage page).due := by
  refine explained_of_penalties (c := .performance) ?_
  show penaltiesIn rules _ = _
  simp only [penaltiesIn, rules, List.flatMap_cons, List.flatMap_nil, List.append_nil, loadTime_eq, imagesFit_eq,
    oversizedImages_eq, fewScripts_eq, fewStylesheets_eq, due, List.append_assoc]
  rfl

/-- What a load costs is taken off, and never more than there is. -/
theorem score_add_cost (url : String) (page : Page) :
    (scoreCategory .performance (Subject.ofPage url page)).score.toNat + (ofPage page).cost = 100 := by
  rw [(explained url page).score, pointsOf_due]
  exact Nat.sub_add_cancel ((cost_le _).trans (by decide))

end Load

end Rule.Performance

open Rule Rule.Performance

/-- **The performance result is told by the load.** There is a finding on a slow page beyond three seconds, or
else one on a page that could be faster beyond one and a half, and none of the two if the time is a NaN; then
one on oversized images if there is any, one on more than ten scripts and one on more than five stylesheets,
each with the number it is about. The score is one hundred less their points. A page with the same load has the
same result, whatever else it is, and a page with at least this load has at the most this score. -/
theorem performance_explained (url : String) (page : Page) (scanTime : ZonedTime) :
    let r := AuditResult.evaluate url page scanTime
    let l := Load.ofPage page
    r.performance.findings = l.due.map (·.finding) ∧
      (r.performance.findings.map (·.name)).Nodup ∧
      (page.loadTime.isNan = true → timeDue l.time = []) ∧
      r.performance.score.toNat + ((if Exceeds l.time 3 then 20 else if Exceeds l.time (3 / 2) then 10 else 0) +
        (if 0 < l.images then 10 else 0) + (if 10 < l.scripts then 5 else 0) +
        if 5 < l.stylesheets then 5 else 0) = 100 ∧
      (∀ url' page' scanTime', Load.ofPage page' = l →
        (AuditResult.evaluate url' page' scanTime').performance = r.performance) ∧
      ∀ url' page' scanTime', l.AtMost (Load.ofPage page') →
        (AuditResult.evaluate url' page' scanTime').performance.score ≤ r.performance.score := by
  intro r l
  obtain ⟨hfindings, -⟩ := Load.explained url page
  refine ⟨hfindings, ?once, fun hnan => ?nan, Load.score_add_cost url page,
    fun url' page' scanTime' hsame => ?same, fun url' page' scanTime' hmore => ?more⟩
  case once =>
    rw [show r.performance.findings = l.due.map (·.finding) from hfindings, List.map_map]
    exact (Load.names_sublist l).nodup (by decide)
  case nan =>
    have hnone (limit : ℚ) : ¬ Exceeds l.time limit := not_exceeds_of_isNan hnan limit
    rw [timeDue, chargeIf_neg (hnone 3), chargeIf_neg fun hc => hnone (3 / 2) hc.1, List.append_nil]
  case same => exact (Load.explained url' page').unique (hsame ▸ Load.explained url page)
  case more =>
    have hcost := Load.cost_le_cost hmore
    have hhere : r.performance.score.toNat + l.cost = 100 := Load.score_add_cost url page
    have hthere : (AuditResult.evaluate url' page' scanTime').performance.score.toNat +
        (Load.ofPage page').cost = 100 := Load.score_add_cost url' page'
    rw [UInt8.le_iff_toNat_le]
    omega

/-- A page that is just fast enough, and the same page if it takes for ever. -/
theorem performance_explained_endless :
    let page : Page := { (default : Page) with loadTime := moderateLoad }
    let endless : Page := { page with loadTime := .infinity false }
    let score (p : Page) : UInt8 := (AuditResult.evaluate "https://a" p default).performance.score
    (Load.ofPage page).AtMost (Load.ofPage endless) ∧ score endless ≤ score page ∧
      (score endless).toNat + 20 = (score page).toNat := by
  intro page endless score
  have htime : NoLater moderateLoad (.infinity false) := ⟨_, moderateLoad_amount, ⊤, rfl, le_top⟩
  have hmore : (Load.ofPage page).AtMost (Load.ofPage endless) :=
    ⟨htime, Nat.le_refl _, Nat.le_refl _, Nat.le_refl _⟩
  obtain ⟨-, -, -, hpage, -, hlower⟩ := performance_explained "https://a" page default
  obtain ⟨-, -, -, hendless, -, -⟩ := performance_explained "https://a" endless default
  refine ⟨hmore, hlower "https://a" endless default hmore, ?_⟩
  have hfast : timeCost moderateLoad = 0 := by
    simp only [timeCost, ← slowLoad_lt_iff, ← moderateLoad_lt_iff]
    decide
  have hslow : timeCost (.infinity false) = 20 := by
    simp only [timeCost, ← slowLoad_lt_iff]
    decide
  have hcost : (Load.ofPage endless).cost = (Load.ofPage page).cost + 20 := by
    have hretimed := (Load.ofPage page).cost_retimed (.infinity false)
    rwa [hslow, show (Load.ofPage page).time = moderateLoad from rfl, hfast] at hretimed
  have hpage : (score page).toNat + (Load.ofPage page).cost = 100 := hpage
  have hendless : (score endless).toNat + (Load.ofPage endless).cost = 100 := hendless
  omega

end PageAudit
