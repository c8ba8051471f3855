import PageAudit.Proofs.Rule.Tariff
/-!
How much a page can be charged. A rule that looks at the page as a whole has at most one penalty
(`Once`); the others have at most one for each entry of a table. With the points that a rule charges
(`Raises`) that bounds what the rules of a category charge together, in penalties (`length_le_of_bounded`)
and in points (`points_le_of_bounded`).

The one rule without a bound is that of form labels, as a page can have any number of forms.
-/
namespace PageAudit.Rule

/-- The most penalties that a rule has for one page, and the most points that one of them costs. -/
structure Bound where
  penalties : Nat
  points : Nat
deriving DecidableEq, Repr

/-- Whatever the page, a rule keeps to a bound. -/
structure Bounded (rule : Rule) (b : Bound) : Prop where
  penalties : ∀ s, (rule.penalties s).length ≤ b.penalties
  points : ∀ s, ∀ p ∈ rule.penalties s, p.points ≤ b.points

/-- Whatever the page, a rule has one penalty at the most. -/
def Once (rule : Rule) : Prop := ∀ s, (rule.penalties s).length ≤ 1

/-- Rules cost no more than the dearest of the findings that they raise. -/
theorem bounded_of_raises {rules : List Rule} {kinds : List (List Kind)} {bounds : List Bound}
    (h : List.Forall₂ Raises rules kinds)
    (hcount : List.Forall₂ (fun rule b => ∀ s, (rule.penalties s).length ≤ b.penalties) rules bounds)
    (hpoints : List.Forall₂ (fun ks b => ∀ k ∈ ks, k.points ≤ b.points) kinds bounds) :
    List.Forall₂ Bounded rules bounds := by
  induction h generalizing bounds with
  | nil => cases hcount; exact .nil
  | cons hraises _ ih =>
    obtain _ | ⟨hcount, hcounts⟩ := hcount
    obtain _ | ⟨hpoints, hpointss⟩ := hpoints
    refine .cons ⟨hcount, fun s p hp => ?_⟩ (ih hcounts hpointss)
    obtain ⟨k, hk, hraised⟩ := hraises s p hp
    obtain ⟨-⟩ := hraised
    exact hpoints k hk

/-! ### How many penalties -/

theorem length_ite_le {α : Type} (c : Prop) [Decidable c] {xs ys : List α} {n : Nat}
    (hx : xs.length ≤ n) (hy : ys.length ≤ n) : (if c then xs else ys).length ≤ n := by
  split
  · exact hx
  · exact hy

/-- Penalties for some of the entries of a table. -/
theorem length_map_filter_le {α β : Type} (table : List α) (keep : α → Bool) (f : α → β) :
    ((table.filter keep).map f).length ≤ table.length := by
  rw [List.length_map]
  exact List.length_filter_le keep table

theorem Security.secureAddress_once : Once Security.secureAddress := fun _ =>
  length_ite_le _ (Nat.zero_le 1) (Nat.le_refl 1)

theorem Performance.once : ∀ rule ∈ catalogue .performance, Once rule := by
  simp only [catalogue, Performance.rules, List.forall_mem_cons]
  refine ⟨fun s => ?loadTime, fun s => ?imagesFit, fun s => ?fewScripts, fun s => ?fewStylesheets,
    List.forall_mem_nil _⟩
  case loadTime =>
    exact length_ite_le _ (Nat.le_refl 1) (length_ite_le _ (Nat.le_refl 1) (Nat.zero_le 1))
  case imagesFit =>
    simp only [Performance.imagesFit]
    split
    · exact Nat.zero_le 1
    · exact Nat.le_refl 1
  case fewScripts => exact length_ite_le _ (Nat.zero_le 1) (Nat.le_refl 1)
  case fewStylesheets => exact length_ite_le _ (Nat.zero_le 1) (Nat.le_refl 1)

theorem Seo.once : ∀ rule ∈ catalogue .seo, Once rule := by
  simp only [catalogue, Seo.rules, List.forall_mem_cons]
  refine ⟨fun s => ?title, fun s => ?description, fun s => ?heading, fun s => ?altText,
    List.forall_mem_nil _⟩
  case title =>
    simp only [Seo.title]
    split
    · exact Nat.le_refl 1
    · exact length_ite_le _ (Nat.zero_le 1) (Nat.le_refl 1)
  case description =>
    simp only [Seo.description]
    split
    · exact Nat.le_refl 1
    · exact length_ite_le _ (Nat.zero_le 1) (Nat.le_refl 1)
  case heading =>
    simp only [Seo.heading]
    split
    · exact Nat.le_refl 1
    · exact Nat.zero_le 1
    · exact Nat.le_refl 1
  case altText =>
    simp only [Seo.altText]
    split
    · exact Nat.zero_le 1
    · exact Nat.le_refl 1

/-! ### The catalogue -/

theorem security_bounded :
    List.Forall₂ Bounded (catalogue .security) [⟨1, 25⟩, ⟨6, 5⟩, ⟨3, 3⟩, ⟨4, 15⟩, ⟨4, 10⟩] := by
  refine bounded_of_raises security_raises (.cons Security.secureAddress_once
    (.cons (fun _ => ?headersPresent) (.cons (fun _ => ?serverHidden) (.cons (fun _ => ?noDatabaseErrors)
      (.cons (fun _ => ?noInjection) .nil))))) (by decide)
  case headersPresent => exact length_map_filter_le ..
  case serverHidden => exact List.length_filterMap_le ..
  case noDatabaseErrors => exact length_map_filter_le ..
  case noInjection => exact length_map_filter_le ..

theorem performance_bounded :
    List.Forall₂ Bounded (catalogue .performance) [⟨1, 20⟩, ⟨1, 10⟩, ⟨1, 5⟩, ⟨1, 5⟩] := by
  have once : ∀ rule ∈ Performance.rules, Once rule := Performance.once
  simp only [Performance.rules, List.forall_mem_cons] at once
  obtain ⟨loadTime, imagesFit, fewScripts, fewStylesheets, -⟩ := once
  exact bounded_of_raises performance_raises
    (.cons loadTime (.cons imagesFit (.cons fewScripts (.cons fewStylesheets .nil)))) (by decide)

theorem seo_bounded :
    List.Forall₂ Bounded (catalogue .seo) [⟨1, 20⟩, ⟨1, 15⟩, ⟨1, 15⟩, ⟨1, 10⟩] := by
  have once : ∀ rule ∈ Seo.rules, Once rule := Seo.once
  simp only [Seo.rules, List.forall_mem_cons] at once
  obtain ⟨title, description, heading, altText, -⟩ := once
  exact bounded_of_raises seo_raises
    (.cons title (.cons description (.cons heading (.cons altText .nil)))) (by decide)

/-! ### Rules together -/

/-- The points that some penalties cost. -/
def pointsOf (penalties : List Penalty) : Nat := penalties.foldr (fun p n => p.points + n) 0

theorem pointsOf_append (ps qs : List Penalty) : pointsOf (ps ++ qs) = pointsOf ps + pointsOf qs := by
  induction ps with
  | nil => exact (Nat.zero_add _).symm
  | cons p rest ih =>
    show p.points + pointsOf (rest ++ qs) = p.points + pointsOf rest + pointsOf qs
    rw [ih, Nat.add_assoc]

theorem pointsOf_le {penalties : List Penalty} {most : Nat} (h : ∀ p ∈ penalties, p.points ≤ most) :
    pointsOf penalties ≤ penalties.length * most := by
  induction penalties with
  | nil => exact Nat.zero_le _
  | cons p rest ih =>
    have hp := h p (List.mem_cons_self ..)
    have hrest := ih fun q hq => h q (List.mem_cons_of_mem _ hq)
    show p.points + pointsOf rest ≤ (rest.length + 1) * most
    rw [Nat.succ_mul]
    omega

/-- The most penalties, and the most points, of rules that keep to some bounds. -/
def mostPenalties (bounds : List Bound) : Nat := bounds.foldr (fun b n => b.penalties + n) 0

def mostPoints (bounds : List Bound) : Nat := bounds.foldr (fun b n => b.penalties * b.points + n) 0

variable {rules : List Rule} {bounds : List Bound}

theorem length_le_of_bounded (h : List.Forall₂ Bounded rules bounds) (s : Subject) :
    (rules.flatMap (·.penalties s)).length ≤ mostPenalties bounds := by
  induction h with
  | nil => exact Nat.le_refl 0
  | @cons rule b rules bounds hrule _ ih =>
    rw [List.flatMap_cons, List.length_append]
    exact Nat.add_le_add (hrule.penalties s) ih

theorem points_le_of_bounded (h : List.Forall₂ Bounded rules bounds) (s : Subject) :
    pointsOf (rules.flatMap (·.penalties s)) ≤ mostPoints bounds := by
  induction h with
  | nil => exact Nat.le_refl 0
  | @cons rule b rules bounds hrule _ ih =>
    have hone : pointsOf (rule.penalties s) ≤ b.penalties * b.points :=
      (pointsOf_le (hrule.points s)).trans (Nat.mul_le_mul_right _ (hrule.penalties s))
    rw [List.flatMap_cons, pointsOf_append]
    exact Nat.add_le_add hone ih

variable {c : Category}

theorem findings_le_of_bounded (h : List.Forall₂ Bounded (catalogue c) bounds) (s : Subject) :
    (scoreCategory c s).findings.length ≤ mostPenalties bounds := by
  rw [scoreCategory_findings, List.length_map]
  exact length_le_of_bounded h s

theorem score_le_full (c : Category) (s : Subject) : (scoreCategory c s).score.toNat ≤ 100 := by
  rw [scoreCategory_score]
  exact Nat.sub_le ..

/-- A category loses no more points than its rules can charge. -/
theorem score_ge_of_bounded (h : List.Forall₂ Bounded (catalogue c) bounds) (s : Subject) :
    100 - mostPoints bounds ≤ (scoreCategory c s).score.toNat := by
  have hpoints : pointsOf (penaltiesOf c s) ≤ mostPoints bounds := points_le_of_bounded h s
  have hbill : bill c (scoreCategory c s).findings = pointsOf (penaltiesOf c s) := by
    rw [scoreCategory_findings]
    exact bill_findings fun p hp => penaltiesOf_price hp
  rw [scoreCategory_score, hbill]
  omega

/-! ### Findings that exclude each other -/

/-- Pairs of findings that one page never has both of. -/
def alternatives : List (Category × String × String) := [
  (.performance, "Slow Page Load Time", "Moderate Page Load Time"),
  (.seo, "Missing Title Tag", "Title Too Long"),
  (.seo, "Missing Meta Description", "Meta Description Too Long"),
  (.seo, "Missing H1 Tag", "Multiple H1 Tags")]

theorem eq_of_length_le_one {α : Type} {xs : List α} (h : xs.length ≤ 1) {x y : α} (hx : x ∈ xs)
    (hy : y ∈ xs) : x = y := by
  cases xs with
  | nil => cases hx
  | cons z rest =>
    obtain rfl : rest = [] := List.length_eq_zero_iff.mp (Nat.le_zero.mp (Nat.le_of_succ_le_succ h))
    rw [List.mem_singleton.mp hx, List.mem_singleton.mp hy]

/-- If the rules of a category have one penalty at the most, two findings of one rule are the same. -/
theorem finding_eq_of_rank_eq (once : ∀ rule ∈ catalogue c, Once rule) {s : Subject} {f g : Finding}
    (hf : f ∈ (scoreCategory c s).findings) (hg : g ∈ (scoreCategory c s).findings)
    (hrank : rank c f.name = rank c g.name) : f = g := by
  rw [scoreCategory_findings] at hf hg
  obtain ⟨p, hp, rfl⟩ := List.mem_map.mp hf
  obtain ⟨q, hq, rfl⟩ := List.mem_map.mp hg
  obtain ⟨rule, hrule, hp⟩ := List.mem_flatMap.mp hp
  obtain ⟨rule', hrule', hq⟩ := List.mem_flatMap.mp hq
  obtain ⟨i, hi⟩ := List.mem_iff_getElem?.mp hrule
  obtain ⟨j, hj⟩ := List.mem_iff_getElem?.mp hrule'
  -- the rank of a finding is the place of its rule
  rw [rank_eq hi hp, rank_eq hj hq] at hrank
  rw [← hrank, hi] at hj
  obtain rfl := Option.some.inj hj
  rw [eq_of_length_le_one (once rule hrule s) hp hq]

/-- A page never has both findings of a pair. -/
theorem alternatives_exclusive {x : Category × String × String} (hx : x ∈ alternatives) (s : Subject) :
    ¬ (x.2.1 ∈ (scoreCategory x.1 s).findings.map (·.name) ∧
      x.2.2 ∈ (scoreCategory x.1 s).findings.map (·.name)) := by
  have table : ∀ x ∈ alternatives, (x.1 = .performance ∨ x.1 = .seo) ∧
      rank x.1 x.2.1 = rank x.1 x.2.2 ∧ x.2.1 ≠ x.2.2 := by
    decide +kernel
  obtain ⟨hc, hrank, hne⟩ := table x hx
  have once : ∀ rule ∈ catalogue x.1, Once rule := by
    rcases hc with hc | hc <;> rw [hc]
    · exact Performance.once
    · exact Seo.once
  rintro ⟨hf, hg⟩
  obtain ⟨f, hf, hfname⟩ := List.mem_map.mp hf
  obtain ⟨g, hg, hgname⟩ := List.mem_map.mp hg
  rw [← hfname, ← hgname] at hrank hne
  exact hne (congrArg Finding.name (finding_eq_of_rank_eq once hf hg hrank))

end PageAudit.Rule
