import PageAudit.Proofs.Audit.Composition
/-!
Results in words. What a category owes for a page can be said without its rules: a list of penalties with the
names and descriptions that they have in a report (`charge`). A result is explained by such a list if its
findings are those of the list, in order, and its score is what the points of the list leave (`Explained`).

A finding tells its rule by its name, so those of one rule can be picked out of a result by their rank
(`mem_findings_of_rank`).
-/
namespace PageAudit

namespace Rule

/-- A penalty as it is reported: its points, what its finding is called and what it says, and the steps of an
entry of the base. -/
def charge (points : Nat) (name description : String) (k : Knowledge) : Penalty :=
  ⟨points, ⟨name, description, k.fixSteps.map (·.fill "")⟩⟩

/-- One penalty if something is so, and otherwise none. -/
def chargeIf (c : Prop) [Decidable c] (p : Penalty) : List Penalty := if c then [p] else []

variable {k : Knowledge} {name : String}

/-- A code of the base reports the title of its entry. -/
theorem penalty_eq_charge (hk : k ∈ Knowledge.base) (hname : k.title.fill "" = name) (points : Nat)
    (description : String) :
    ⟨points, Finding.ofCode k.code description⟩ = charge points name description k := by
  rw [Finding.ofCode, Knowledge.about_code hk, Knowledge.finding, hname, charge]

theorem chargeIf_pos {c : Prop} [Decidable c] (h : c) (p : Penalty) : chargeIf c p = [p] := if_pos h

theorem chargeIf_neg {c : Prop} [Decidable c] (h : ¬ c) (p : Penalty) : chargeIf c p = [] := if_neg h

theorem chargeIf_congr {c c' : Prop} [Decidable c] [Decidable c'] (h : c ↔ c') (p : Penalty) :
    chargeIf c p = chargeIf c' p := if_congr h rfl rfl

/-- A rule that counts something has one penalty as soon as there is one, and says how many there are. -/
theorem countedPenalties_eq (hk : k ∈ Knowledge.base) (hname : k.title.fill "" = name) (points : Nat)
    (words : Nat → String) (n : Nat) :
    (match n with
      | 0 => []
      | n => [⟨points, Finding.ofCode k.code (words n)⟩]) =
      chargeIf (0 < n) (charge points name (words n) k) := by
  cases n with
  | zero => exact (chargeIf_neg (Nat.lt_irrefl 0) _).symm
  | succ n =>
    rw [chargeIf_pos (Nat.succ_pos n), ← penalty_eq_charge hk hname]
    rfl

/-- A rule that sets a limit has one penalty beyond it, and says how many there are. -/
theorem limitedPenalties_eq (hk : k ∈ Knowledge.base) (hname : k.title.fill "" = name) (points : Nat)
    (words : Nat → String) (limit n : Nat) :
    (if n ≤ limit then [] else [⟨points, Finding.ofCode k.code (words n)⟩]) =
      chargeIf (limit < n) (charge points name (words n) k) := by
  rw [penalty_eq_charge hk hname]
  by_cases h : n ≤ limit
  · rw [if_pos h, chargeIf_neg (Nat.not_lt.mpr h)]
  · rw [if_neg h, chargeIf_pos (Nat.not_le.mp h)]

theorem chargeIf_sublist (c : Prop) [Decidable c] (p : Penalty) : (chargeIf c p).Sublist [p] := by
  by_cases h : c
  · rw [chargeIf_pos h]
  · rw [chargeIf_neg h]
    exact List.nil_sublist [p]

@[simp]
theorem pointsOf_chargeIf (c : Prop) [Decidable c] (p : Penalty) :
    pointsOf (chargeIf c p) = if c then p.points else 0 := by
  unfold chargeIf
  split <;> rfl

@[simp]
theorem countP_chargeIf (c : Prop) [Decidable c] (p : Penalty) (q : Penalty → Bool) :
    (chargeIf c p).countP q = if c ∧ q p = true then 1 else 0 := by
  by_cases h : c
  · simp [chargeIf, h, List.countP_singleton]
  · simp [chargeIf, h]

theorem mem_chargeIf {c : Prop} [Decidable c] {p q : Penalty} : q ∈ chargeIf c p ↔ c ∧ q = p := by
  by_cases h : c <;> simp [chargeIf, h]

@[simp]
theorem pointsOf_replicate (n : Nat) (p : Penalty) : pointsOf (List.replicate n p) = p.points * n := by
  induction n with
  | zero => rfl
  | succ n ih =>
    show p.points + pointsOf (List.replicate n p) = p.points * (n + 1)
    rw [ih, Nat.mul_succ, Nat.add_comm]

/-! ### Results -/

/-- A result that some penalties explain. -/
structure Explained (r : CategoryResult) (due : List Penalty) : Prop where
  findings : r.findings = due.map (·.finding)
  score : r.score.toNat = 100 - pointsOf due

/-- One list of penalties explains one result. -/
theorem Explained.unique {r r' : CategoryResult} {due : List Penalty} (h : Explained r due)
    (h' : Explained r' due) : r = r' := by
  cases r
  cases r'
  have hfindings := h.findings.trans h'.findings.symm
  have hscore := UInt8.toNat_inj.mp (h.score.trans h'.score.symm)
  exact congr (congrArg CategoryResult.mk hscore) hfindings

variable {c : Category} {s : Subject}

theorem explained_of_penalties {due : List Penalty} (h : penaltiesIn (catalogue c) s = due) :
    Explained (scoreCategory c s) due := by
  subst h
  exact ⟨rfl, scoreRules_score ..⟩

/-- The findings of one rule are those of its rank. -/
theorem mem_findings_of_rank {i : Nat} {rule : Rule} (hrule : (catalogue c)[i]? = some rule) (f : Finding) :
    (f ∈ (scoreCategory c s).findings ∧ rank c f.name = i) ↔ f ∈ (rule.penalties s).map (·.finding) := by
  rw [scoreCategory_findings]
  constructor
  · rintro ⟨hf, hrank⟩
    obtain ⟨p, hp, rfl⟩ := List.mem_map.mp hf
    obtain ⟨rule', hrule', hp⟩ := List.mem_flatMap.mp hp
    obtain ⟨j, hj⟩ := List.mem_iff_getElem?.mp hrule'
    rw [rank_eq hj hp] at hrank
    rw [hrank, hrule] at hj
    obtain rfl := Option.some.inj hj
    exact List.mem_map_of_mem hp
  · intro hf
    obtain ⟨p, hp, rfl⟩ := List.mem_map.mp hf
    have hmem : rule ∈ catalogue c := List.mem_of_getElem? hrule
    exact ⟨List.mem_map_of_mem (List.mem_flatMap.mpr ⟨rule, hmem, hp⟩), rank_eq hrule hp⟩

/-- A rule with one penalty at the most can be told from a result, finding by finding. -/
theorem mem_findings_iff {i : Nat} {rule : Rule} {due : Prop} [Decidable due] {p : Penalty}
    (hrule : (catalogue c)[i]? = some rule) (hpenalties : rule.penalties s = chargeIf due p)
    (hrank : rank c p.finding.name = i) (f : Finding) :
    (f ∈ (scoreCategory c s).findings ∧ f.name = p.finding.name) ↔ due ∧ f = p.finding := by
  have hrule := mem_findings_of_rank (s := s) hrule f
  rw [hpenalties, List.mem_map] at hrule
  constructor
  · rintro ⟨hf, hname⟩
    obtain ⟨q, hq, rfl⟩ := hrule.mp ⟨hf, hname ▸ hrank⟩
    obtain ⟨hdue, rfl⟩ := mem_chargeIf.mp hq
    exact ⟨hdue, rfl⟩
  · rintro ⟨hdue, rfl⟩
    exact ⟨(hrule.mpr ⟨p, mem_chargeIf.mpr ⟨hdue, rfl⟩, rfl⟩).1, rfl⟩

end Rule

end PageAudit
