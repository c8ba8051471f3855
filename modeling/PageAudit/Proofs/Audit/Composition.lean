import PageAudit.Proofs.Rule.Bound
/-!
Scores of rules together. All penalties are added up before anything is taken off, so the score of two lists
of rules follows from the two scores (`score_append`), the order of rules does not matter to it (`score_perm`),
and a further rule never raises it (`score_insert_le`).

The sum is one of natural numbers. `Counted` says that a machine which adds in words of 64 bits and keeps a
score in a byte finds the same, as long as points fit half a word and there are not too many penalties: no sum
on the way is cut off, and neither is the score.
-/
namespace PageAudit
open Rule (pointsOf)

variable {s : Subject}

/-! ### Lists of rules -/

/-- The penalties of a list of rules. -/
def penaltiesIn (rules : List Rule) (s : Subject) : List Penalty := rules.flatMap (·.penalties s)

theorem scoreRules_findings (rules : List Rule) (s : Subject) :
    (scoreRules rules s).findings = (penaltiesIn rules s).map (·.finding) := rfl

theorem scoreRules_score (rules : List Rule) (s : Subject) :
    (scoreRules rules s).score.toNat = 100 - pointsOf (penaltiesIn rules s) :=
  UInt8.toNat_ofNat_of_lt' (Nat.lt_of_le_of_lt (Nat.sub_le ..) (by decide))

theorem penaltiesIn_append (rules more : List Rule) (s : Subject) :
    penaltiesIn (rules ++ more) s = penaltiesIn rules s ++ penaltiesIn more s :=
  List.flatMap_append

theorem pointsOf_perm {ps qs : List Penalty} (h : ps.Perm qs) : pointsOf ps = pointsOf qs :=
  h.foldr_eq' (fun p _ q _ n => Nat.add_left_comm q.points p.points n) 0

theorem score_append (rules more : List Rule) (s : Subject) :
    (scoreRules (rules ++ more) s).score.toNat =
      (scoreRules rules s).score.toNat + (scoreRules more s).score.toNat - 100 := by
  rw [scoreRules_score, scoreRules_score, scoreRules_score, penaltiesIn_append, Rule.pointsOf_append]
  omega

theorem score_perm {rules rules' : List Rule} (h : rules.Perm rules') :
    (scoreRules rules s).score = (scoreRules rules' s).score := by
  have hpenalties : (penaltiesIn rules s).Perm (penaltiesIn rules' s) := h.flatMap_right _
  rw [← UInt8.toNat_inj, scoreRules_score, scoreRules_score, pointsOf_perm hpenalties]

theorem findings_perm {rules rules' : List Rule} (h : rules.Perm rules') :
    (scoreRules rules s).findings.Perm (scoreRules rules' s).findings :=
  (h.flatMap_right _).map _

/-- A further rule, wherever it stands, never raises the score. -/
theorem score_insert_le (rules : List Rule) (rule : Rule) (more : List Rule) (s : Subject) :
    (scoreRules (rules ++ rule :: more) s).score ≤ (scoreRules (rules ++ more) s).score := by
  have hfront : (rules ++ rule :: more).Perm (rule :: (rules ++ more)) := List.perm_middle
  have hscore := score_append [rule] (rules ++ more) s
  have hrule := scoreRules_score [rule] s
  rw [score_perm hfront, UInt8.le_iff_toNat_le]
  rw [List.singleton_append] at hscore
  omega

/-! ### Words of a machine -/

/-- The points of some penalties, added up one by one in words of 64 bits from a sum so far. -/
def wordSum (start : Int64) (penalties : List Penalty) : Int64 :=
  penalties.foldl (fun sum p => sum + Int64.ofNat p.points) start

/-- A word kept between zero and one hundred. -/
def clampWord (x : Int64) : Int64 := if x < 0 then 0 else if 100 < x then 100 else x

/-- What penalties leave, before it is cut down to a byte. -/
def wordLeft (penalties : List Penalty) : Int64 := clampWord (100 - wordSum 0 penalties)

/-- Penalties whose points are words of 32 bits, and not too many of them. -/
structure FitsWords (penalties : List Penalty) : Prop where
  points : ∀ p ∈ penalties, p.points < 0x100000000
  count : penalties.length < 0x80000000

/-- A score that a machine finds as well. -/
structure Counted (penalties : List Penalty) (score : UInt8) : Prop where
  /-- After each penalty the sum is the one of natural numbers. -/
  sum : ∀ n, (wordSum 0 (penalties.take n)).toInt = pointsOf (penalties.take n)
  cut : (wordLeft penalties).toUInt64.toUInt8 = score
  /-- Nothing is lost where the word is cut down to a byte. -/
  whole : (score.toNat : Int) = (wordLeft penalties).toInt

theorem pointsOf_lt_word {penalties : List Penalty} (h : FitsWords penalties) :
    pointsOf penalties < 0x7fffffffffffffff := by
  have hsum : pointsOf penalties ≤ penalties.length * 0xffffffff :=
    Rule.pointsOf_le fun p hp => Nat.le_of_lt_succ (h.points p hp)
  have hcount := h.count
  omega

theorem FitsWords.take {penalties : List Penalty} (h : FitsWords penalties) (n : Nat) :
    FitsWords (penalties.take n) where
  points p hp := h.points p (List.mem_of_mem_take hp)
  count := Nat.lt_of_le_of_lt (List.length_take_le' ..) h.count

theorem toInt_add_ofNat {x : Int64} {m n : Nat} (hx : x.toInt = m) (hfits : m + n < 0x7fffffffffffffff) :
    (x + Int64.ofNat n).toInt = (m + n : Nat) := by
  rw [Int64.toInt_add, hx, Int64.toInt_ofNat_of_lt (by omega), Int.bmod_eq_of_le (by omega) (by omega)]
  rfl

theorem toInt_wordSum {penalties : List Penalty} {start : Int64} {m : Nat} (hstart : start.toInt = m)
    (hfits : m + pointsOf penalties < 0x7fffffffffffffff) :
    (wordSum start penalties).toInt = (m + pointsOf penalties : Nat) := by
  induction penalties generalizing start m with
  | nil => exact hstart
  | cons p rest ih =>
    have hsplit : pointsOf (p :: rest) = p.points + pointsOf rest := rfl
    rw [hsplit, ← Nat.add_assoc] at hfits ⊢
    have hstep : (start + Int64.ofNat p.points).toInt = (m + p.points : Nat) :=
      toInt_add_ofNat hstart (Nat.lt_of_le_of_lt (Nat.le_add_right ..) hfits)
    exact ih hstep hfits

/-- One hundred less a sum, kept between zero and one hundred, is the score of the sum. -/
theorem clampWord_sub {x : Int64} {m : Nat} (hx : x.toInt = m) (hfits : m < 0x7fffffffffffffff) :
    clampWord (100 - x) = Int64.ofNat (100 - m) := by
  have hzero : (0 : Int64).toInt = 0 := rfl
  have hfull : (100 : Int64).toInt = 100 := rfl
  have hleft : (100 - x).toInt = 100 - m := by
    rw [Int64.toInt_sub, hx, hfull]
    exact Int.bmod_eq_of_le (by omega) (by omega)
  rw [← Int64.toInt_inj, Int64.toInt_ofNat_of_lt (by omega), clampWord]
  split
  · next hneg =>
    rw [Int64.lt_iff_toInt_lt, hleft, hzero] at hneg
    omega
  split
  · next hbig =>
    rw [Int64.lt_iff_toInt_lt, hleft, hfull] at hbig
    omega
  · next hneg _ =>
    rw [Int64.lt_iff_toInt_lt, hleft, hzero] at hneg
    omega

theorem counted_of_fits {rules : List Rule} (h : FitsWords (penaltiesIn rules s)) :
    Counted (penaltiesIn rules s) (scoreRules rules s).score := by
  have hsum : ∀ n, (wordSum 0 ((penaltiesIn rules s).take n)).toInt = pointsOf ((penaltiesIn rules s).take n) := by
    intro n
    have hfits := pointsOf_lt_word (h.take n)
    rw [toInt_wordSum (m := 0) rfl (by omega), Nat.zero_add]
  have hall : (wordSum 0 (penaltiesIn rules s)).toInt = pointsOf (penaltiesIn rules s) := by
    rw [toInt_wordSum (m := 0) rfl (by have := pointsOf_lt_word h; omega), Nat.zero_add]
  have hleft : wordLeft (penaltiesIn rules s) = Int64.ofNat (100 - pointsOf (penaltiesIn rules s)) :=
    clampWord_sub hall (pointsOf_lt_word h)
  refine ⟨hsum, ?cut, ?whole⟩
  case cut =>
    rw [hleft, Int64.toUInt64_ofNat', UInt64.toUInt8_ofNat']
    rfl
  case whole =>
    rw [hleft, scoreRules_score, Int64.toInt_ofNat_of_lt (by omega)]

/-- **Scores compose.** For any lists of rules, whatever their penalties, the findings of two lists are those of
one followed by those of the other, and the score is the sum of both less one hundred, down to zero at the
least; in another order the rules have the same score and the same findings in another order; and a further
rule never raises the score. The score is one hundred less all points, from zero to one hundred, and a machine
with words of 64 bits finds it without losing anything in a sum or in the last cut. -/
theorem scores_compose (s : Subject) :
    (∀ rules more,
      (scoreRules (rules ++ more) s).findings = (scoreRules rules s).findings ++ (scoreRules more s).findings ∧
      (scoreRules (rules ++ more) s).score.toNat =
        (scoreRules rules s).score.toNat + (scoreRules more s).score.toNat - 100) ∧
    (∀ rules rules', rules.Perm rules' →
      (scoreRules rules s).score = (scoreRules rules' s).score ∧
      (scoreRules rules s).findings.Perm (scoreRules rules' s).findings) ∧
    (∀ rules,
      (scoreRules rules s).score.toNat = 100 - pointsOf (penaltiesIn rules s) ∧
      (scoreRules rules s).score ≤ 100 ∧
      (FitsWords (penaltiesIn rules s) → Counted (penaltiesIn rules s) (scoreRules rules s).score)) ∧
    ∀ rules rule more, (scoreRules (rules ++ rule :: more) s).score ≤ (scoreRules (rules ++ more) s).score := by
  refine ⟨fun rules more => ⟨?_, score_append ..⟩, fun _ _ h => ⟨score_perm h, findings_perm h⟩,
    fun rules => ⟨scoreRules_score .., ?_, counted_of_fits⟩, fun _ _ _ => score_insert_le ..⟩
  · rw [scoreRules_findings, penaltiesIn_append, List.map_append]
    rfl
  · rw [UInt8.le_iff_toNat_le, scoreRules_score]
    exact Nat.sub_le ..

/-- A rule with the most points that a word of 32 bits can hold, before and after a light one. -/
theorem scores_compose_heavy :
    let s : Subject := ⟨"https://a", default, default, []⟩
    let heavy : Rule := ⟨"heavy", fun _ => [⟨0xffffffff, ⟨"heavy", "", []⟩⟩]⟩
    let light : Rule := ⟨"light", fun _ => [⟨60, ⟨"light", "", []⟩⟩, ⟨5, ⟨"light", "", []⟩⟩]⟩
    (scoreRules [light] s).score = 35 ∧ (scoreRules [light, heavy] s).score = 0 ∧
      (scoreRules [heavy, light] s).score = 0 ∧ FitsWords (penaltiesIn [light, heavy] s) ∧
      (wordSum 0 (penaltiesIn [light, heavy] s)).toInt = 0x100000040 := by
  intro s heavy light
  have hfits : FitsWords (penaltiesIn [light, heavy] s) := ⟨by decide, by decide⟩
  obtain ⟨happend, hperm, hwords, -⟩ := scores_compose s
  have hswap := hperm [light, heavy] [heavy, light] (.swap ..)
  have hboth : (scoreRules [light, heavy] s).score.toNat = 35 + 0 - 100 := (happend [light] [heavy]).2
  have hzero : (scoreRules [light, heavy] s).score = 0 := UInt8.toNat_inj.mp hboth
  have hcounted := (hwords [light, heavy]).2.2 hfits
  exact ⟨by decide, hzero, hswap.1 ▸ hzero, hfits, (hcounted.sum 3).trans (by decide)⟩

end PageAudit
