import Mathlib.Data.List.Dedup
import PageAudit.Proofs.Rule.Raised
/-!
What findings cost. The points of a penalty are fixed by the category and by the name of its
finding: `tariff` lists them, rule by rule, and `charged_of_mem` says that each rule of the
catalogue charges what its row of the tariff says and nothing else.

`findings_explain_score` follows: a score can be computed from the names of the findings alone,
the findings come in the order of the rules, and a full score means that there are none.
-/
namespace PageAudit.Rule

/-- The names of the findings that a rule can raise, with the points that each costs. -/
abbrev Row := List (String × Nat)

/-- The points of all findings, one row for each rule of the catalogue. -/
def tariff : Category → List Row
  | .security => [
    [("HTTPS Not Enabled", 25)],
    [("Missing X-Frame-Options", 5), ("Missing X-Content-Type-Options", 5), ("Missing X-XSS-Protection", 5),
      ("Missing Strict-Transport-Security", 5), ("Missing Content-Security-Policy", 5),
      ("Missing Referrer-Policy", 5)],
    [("Server Information Disclosure", 3)],
    [("SQL Error Information Disclosure", 15)],
    [("Potential XSS Vulnerability", 10)]]
  | .performance => [
    [("Slow Page Load Time", 20), ("Moderate Page Load Time", 10)],
    [("Large Images Detected", 10)],
    [("Too Many JavaScript Files", 5)],
    [("Too Many CSS Files", 5)]]
  | .seo => [
    [("Missing Title Tag", 20), ("Title Too Long", 10)],
    [("Missing Meta Description", 15), ("Meta Description Too Long", 5)],
    [("Missing H1 Tag", 15), ("Multiple H1 Tags", 10)],
    [("Images Missing Alt Text", 10)]]
  | .accessibility => [
    [("Images Missing Alt Text", 15)],
    [("Form Input Missing Label", 5)],
    [("Color Contrast Check Needed", 5)],
    [("Keyboard Navigation Issues", 10)]]

/-- The points that a finding of a category costs, by its name. -/
def price (c : Category) (name : String) : Nat := ((tariff c).flatten.lookup name).getD 0

/-- The place in the catalogue of the rule that a finding of a category comes from, by its name. -/
def rank (c : Category) (name : String) : Nat := (tariff c).findIdx fun row => row.any (·.1 == name)

/-- The points that a list of findings costs. -/
def bill (c : Category) (findings : List Finding) : Nat := findings.foldr (fun f n => price c f.name + n) 0

/-! ### The tariff -/

theorem price_of_mem {c : Category} {e : String × Nat} (he : e ∈ (tariff c).flatten) :
    price c e.1 = e.2 := by
  have table : ∀ c ∈ Category.all, ∀ e ∈ (tariff c).flatten, price c e.1 = e.2 := by decide +kernel
  exact table c (by cases c <;> decide) e he

theorem rank_of_mem {c : Category} {i : Nat} {row : Row} (hrow : (tariff c)[i]? = some row)
    {e : String × Nat} (he : e ∈ row) : rank c e.1 = i := by
  have table : ∀ c ∈ Category.all, ∀ x ∈ (tariff c).zipIdx, ∀ e ∈ x.1, rank c e.1 = x.2 := by
    decide +kernel
  exact table c (by cases c <;> decide) (row, i) (List.mem_zipIdx_iff_getElem?.mpr hrow) e he

theorem tariff_pos {c : Category} {e : String × Nat} (he : e ∈ (tariff c).flatten) : 0 < e.2 := by
  have table : ∀ c ∈ Category.all, ∀ e ∈ (tariff c).flatten, 0 < e.2 := by decide +kernel
  exact table c (by cases c <;> decide) e he

/-- The row of the tariff for what a rule raises. -/
def rowOf (ks : List Kind) : Row := (ks.map fun k => (k.entry.title.fill k.subject, k.points)).dedup

theorem tariff_eq (c : Category) : tariff c = (kinds c).map rowOf := by
  cases c <;> decide +kernel

/-! ### What rules charge -/

variable {c : Category} {s : Subject} {p : Penalty}

theorem Kind.Raised.charged {ks : List Kind} {k : Kind} (hk : k ∈ ks) (hsound : k.Sound c) {page : Page}
    (h : k.Raised page p) : (p.finding.name, p.points) ∈ rowOf ks := by
  obtain ⟨hpoints, hfinding⟩ := h.finding_eq hsound
  rw [hpoints, hfinding]
  exact List.mem_dedup.mpr (List.mem_map_of_mem hk)

/-- Each rule of the catalogue charges what its row of the tariff says. -/
theorem charged_of_mem {i : Nat} {rule : Rule} (hrule : (catalogue c)[i]? = some rule)
    (hp : p ∈ rule.penalties s) :
    ∃ row, (tariff c)[i]? = some row ∧ (p.finding.name, p.points) ∈ row := by
  obtain ⟨ks, hks, hraises⟩ := raises_of_getElem? hrule
  obtain ⟨k, hk, hraised⟩ := hraises s p hp
  have hsound := kinds_sound c ks (List.mem_of_getElem? hks) k hk
  exact ⟨rowOf ks, by rw [tariff_eq, List.getElem?_map, hks]; rfl, hraised.charged hk hsound⟩

/-- A penalty costs what its finding is listed for. -/
theorem points_eq_price {i : Nat} {rule : Rule} (hrule : (catalogue c)[i]? = some rule)
    (hp : p ∈ rule.penalties s) : p.points = price c p.finding.name ∧ 0 < p.points := by
  obtain ⟨row, hrow, hmem⟩ := charged_of_mem hrule hp
  have hflat := List.mem_flatten_of_mem (List.mem_of_getElem? hrow) hmem
  exact ⟨(price_of_mem hflat).symm, tariff_pos hflat⟩

/-- A finding tells its rule. -/
theorem rank_eq {i : Nat} {rule : Rule} (hrule : (catalogue c)[i]? = some rule)
    (hp : p ∈ rule.penalties s) : rank c p.finding.name = i := by
  obtain ⟨row, hrow, hmem⟩ := charged_of_mem hrule hp
  exact rank_of_mem hrow hmem

/-! ### Scores -/

/-- All penalties of a category, in the order of its rules. -/
def penaltiesOf (c : Category) (s : Subject) : List Penalty := (catalogue c).flatMap (·.penalties s)

theorem penaltiesOf_price (hp : p ∈ penaltiesOf c s) : p.points = price c p.finding.name ∧ 0 < p.points := by
  obtain ⟨rule, hrule, hp⟩ := List.mem_flatMap.mp hp
  obtain ⟨i, hi⟩ := List.mem_iff_getElem?.mp hrule
  exact points_eq_price hi hp

theorem scoreCategory_findings (c : Category) (s : Subject) :
    (scoreCategory c s).findings = (penaltiesOf c s).map (·.finding) := rfl

/-- The bill of the findings is the sum of the penalties. -/
theorem bill_findings {penalties : List Penalty}
    (h : ∀ p ∈ penalties, p.points = price c p.finding.name ∧ 0 < p.points) :
    bill c (penalties.map (·.finding)) = penalties.foldr (fun p n => p.points + n) 0 := by
  induction penalties with
  | nil => rfl
  | cons p rest ih =>
    show price c p.finding.name + bill c (rest.map (·.finding)) = p.points + rest.foldr _ 0
    rw [ih fun q hq => h q (List.mem_cons_of_mem _ hq), (h p (List.mem_cons_self ..)).1]

theorem scoreCategory_score (c : Category) (s : Subject) :
    (scoreCategory c s).score.toNat = 100 - bill c (scoreCategory c s).findings := by
  rw [scoreCategory_findings, bill_findings fun p hp => penaltiesOf_price hp]
  exact UInt8.toNat_ofNat_of_lt' (Nat.lt_of_le_of_lt (Nat.sub_le ..) (by decide))

/-- Findings come in the order of their rules. -/
theorem findings_pairwise (c : Category) (s : Subject) :
    (scoreCategory c s).findings.Pairwise fun f g => rank c f.name ≤ rank c g.name := by
  rw [scoreCategory_findings, List.pairwise_map, penaltiesOf, List.pairwise_flatMap]
  refine ⟨fun rule hrule => ?_, List.pairwise_iff_getElem.mpr fun i j hi hj hij p hp q hq => ?_⟩
  · obtain ⟨i, hi⟩ := List.mem_iff_getElem?.mp hrule
    exact List.pairwise_of_forall_mem_list fun p hp q hq =>
      Nat.le_of_eq ((rank_eq hi hp).trans (rank_eq hi hq).symm)
  · rw [rank_eq (List.getElem?_eq_getElem hi) hp, rank_eq (List.getElem?_eq_getElem hj) hq]
    exact Nat.le_of_lt hij

/-- Every finding costs something. -/
theorem score_eq_full_iff (c : Category) (s : Subject) :
    (scoreCategory c s).score = 100 ↔ (scoreCategory c s).findings = [] := by
  rw [← UInt8.toNat_inj, scoreCategory_score, scoreCategory_findings]
  cases hp : penaltiesOf c s with
  | nil => simp [bill]
  | cons p rest =>
    have hprice := penaltiesOf_price (hp ▸ List.mem_cons_self : p ∈ penaltiesOf c s)
    simp only [List.map_cons, reduceCtorEq, iff_false, bill, List.foldr_cons]
    show ¬ 100 - _ = 100
    omega

/-- **Findings explain scores.** A score is one hundred less the bill of the findings, down to zero
at the least, and the bill goes by the tariff: a finding of the `i`-th rule has the name and the
points of the `i`-th row, so two findings of one name cost the same. The findings come in the order
of the rules, and there are none exactly when the score is full. -/
theorem findings_explain_score (url : String) (page : Page) (scanTime : ZonedTime) (c : Category) :
    let r := (AuditResult.evaluate url page scanTime).category c
    let penalties := penaltiesOf c (Subject.ofPage url page)
    r.score.toNat = 100 - bill c r.findings ∧
      r.findings = penalties.map (·.finding) ∧
      (∀ i rule, (catalogue c)[i]? = some rule → ∀ p ∈ rule.penalties (Subject.ofPage url page),
        p.points = price c p.finding.name ∧ rank c p.finding.name = i) ∧
      (∀ p ∈ penalties, ∀ q ∈ penalties, p.finding.name = q.finding.name → p.points = q.points) ∧
      r.findings.Pairwise (fun f g => rank c f.name ≤ rank c g.name) ∧
      (r.score = 100 ↔ r.findings = []) := by
  simp only [AuditResult.evaluate_category]
  refine ⟨scoreCategory_score .., scoreCategory_findings .., fun i rule hrule p hp => ?_,
    fun p hp q hq hname => ?_, findings_pairwise .., score_eq_full_iff ..⟩
  · exact ⟨(points_eq_price hrule hp).1, rank_eq hrule hp⟩
  · rw [(penaltiesOf_price hp).1, (penaltiesOf_price hq).1, hname]

end PageAudit.Rule
