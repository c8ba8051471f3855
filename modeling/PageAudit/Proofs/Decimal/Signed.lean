import PageAudit.Decimal.Whole
/-!
Whole numbers with a sign. A run of digits denotes a number however long it is, and a sign may stand in front
of it (`Signed`), or at most a plus if the number is never below zero (`Unsigned`). A reader that holds its
numbers in a word of 64 bits reads such a text exactly if the number fits (`integer64?_eq_some_iff`,
`natural64?_eq_some_iff`); it cannot be told from its answer whether a text denotes no number or one that is
too far from zero.
-/
namespace PageAudit.Decimal

/-- A run of digits, at least one of them. -/
structure IsRun (ds : List Char) : Prop where
  ne_nil : ds ≠ []
  digits : ∀ c ∈ ds, c.isDigit = true

/-- The number that a run of digits denotes. -/
def runValue (ds : List Char) : Nat := Nat.ofDigitChars 10 ds 0

/-- A text that denotes a whole number: a run of digits, with a sign in front of it or without. -/
inductive Signed : List Char → Int → Prop
  | unsigned {ds : List Char} : IsRun ds → Signed ds (runValue ds)
  | plus {ds : List Char} : IsRun ds → Signed ('+' :: ds) (runValue ds)
  | minus {ds : List Char} : IsRun ds → Signed ('-' :: ds) (-(runValue ds : Int))

/-- A number that a word of 64 bits holds with its sign. -/
def FitsWord (z : Int) : Prop := -0x8000000000000000 ≤ z ∧ z < 0x8000000000000000

instance (z : Int) : Decidable (FitsWord z) := by
  unfold FitsWord
  infer_instance

variable {cs : List Char} {z : Int}

theorem digits?_eq_some_iff {n : Nat} : digits? cs = some n ↔ IsRun cs ∧ n = runValue cs := by
  have hrun : (cs.isEmpty || !cs.all Char.isDigit) = false ↔ IsRun cs := by
    simp only [Bool.or_eq_false_iff, List.isEmpty_eq_false_iff, Bool.not_eq_false', List.all_eq_true]
    exact ⟨fun ⟨hne, hall⟩ => ⟨hne, hall⟩, fun h => ⟨h.ne_nil, h.digits⟩⟩
  rw [digits?, runValue, Nat.ofDigitChars_eq_foldl, ← hrun]
  cases cs.isEmpty || !cs.all Char.isDigit with
  | true => simp
  | false => simp [eq_comm]

/-- The whole number that a text denotes, however far from zero. -/
def signed? : List Char → Option Int
  | '+' :: rest => (digits? rest).map Int.ofNat
  | '-' :: rest => (digits? rest).map fun n => -Int.ofNat n
  | cs => (digits? cs).map Int.ofNat

theorem IsRun.digits? (h : IsRun cs) : digits? cs = some (runValue cs) := digits?_eq_some_iff.mpr ⟨h, rfl⟩

theorem signed?_eq_some_iff : signed? cs = some z ↔ Signed cs z := by
  constructor
  · intro h
    unfold signed? at h
    split at h
    all_goals
      obtain ⟨n, hn, rfl⟩ := Option.map_eq_some_iff.mp h
      obtain ⟨hrun, rfl⟩ := digits?_eq_some_iff.mp hn
    · exact .plus hrun
    · exact .minus hrun
    · exact .unsigned hrun
  · intro h
    cases h with
    | plus hrun => rw [signed?, hrun.digits?]; rfl
    | minus hrun => rw [signed?, hrun.digits?]; rfl
    | unsigned hrun =>
      -- a sign is no digit, so the text has none in front
      unfold signed?
      split
      · exact absurd (hrun.digits '+' (List.mem_cons_self ..)) (by decide)
      · exact absurd (hrun.digits '-' (List.mem_cons_self ..)) (by decide)
      · rw [hrun.digits?]; rfl

/-- A text denotes one number at the most. -/
theorem Signed.unique {z' : Int} (h : Signed cs z) (h' : Signed cs z') : z = z' :=
  Option.some.inj ((signed?_eq_some_iff.mpr h).symm.trans (signed?_eq_some_iff.mpr h'))

theorem integer64?_eq (cs : List Char) : integer64? cs = (signed? cs).filter (fun z => decide (FitsWord z)) := by
  have hfits : (fun z : Int => decide (-0x8000000000000000 ≤ z) && decide (z < 0x8000000000000000)) =
      fun z => decide (FitsWord z) := by
    funext z
    exact (Bool.decide_and ..).symm
  have hread : signed? cs = match cs with
      | '+' :: rest => (digits? rest).map Int.ofNat
      | '-' :: rest => (digits? rest).map (fun n => -(n : Int))
      | _ => (digits? cs).map Int.ofNat := by
    unfold signed?
    split
    · rfl
    · next rest => cases digits? rest <;> rfl
    · rfl
  rw [← hfits, hread]
  rfl

/-- A word holds what a text denotes exactly if it fits. -/
theorem integer64?_eq_some_iff : integer64? cs = some z ↔ Signed cs z ∧ FitsWord z := by
  rw [integer64?_eq, Option.filter_eq_some_iff, signed?_eq_some_iff, decide_eq_true_iff]

/-! ### Numbers that are never below zero -/

/-- A text that denotes such a number: a run of digits, with a plus in front of it or without. -/
inductive Unsigned : List Char → Nat → Prop
  | plain {ds : List Char} : IsRun ds → Unsigned ds (runValue ds)
  | plus {ds : List Char} : IsRun ds → Unsigned ('+' :: ds) (runValue ds)

theorem natural64?_eq_some_iff {n : Nat} :
    natural64? cs = some n ↔ Unsigned cs n ∧ n < 0x10000000000000000 := by
  unfold natural64?
  rw [Option.filter_eq_some_iff, decide_eq_true_iff]
  refine and_congr_left fun _ => ⟨fun h => ?reads, fun h => ?denotes⟩
  case reads =>
    split at h
    · obtain ⟨hrun, rfl⟩ := digits?_eq_some_iff.mp h
      exact .plus hrun
    · obtain ⟨hrun, rfl⟩ := digits?_eq_some_iff.mp h
      exact .plain hrun
  case denotes =>
    cases h with
    | plus hrun => exact hrun.digits?
    | plain hrun =>
      -- a plus is no digit, so the text has none in front
      split
      · exact absurd (hrun.digits '+' (List.mem_cons_self ..)) (by decide)
      · exact hrun.digits?

end PageAudit.Decimal
