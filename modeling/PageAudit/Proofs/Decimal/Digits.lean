import PageAudit.Decimal.Whole
import Mathlib.Data.List.TakeWhile
/-!
Digits of natural numbers. A number is written in ASCII digits only, at least one of them, and the
digits denote the number (`digits_value`). Where no digit follows, a reader that takes all digits
takes the ones that were written (`takeWhile_isDigit`).
-/
namespace PageAudit.Decimal

theorem toList_toString (n : Nat) : (toString n).toList = Nat.toDigits 10 n := by
  rw [Nat.toString_eq_repr, Nat.toList_repr]

theorem isDigit_of_mem {n : Nat} {c : Char} (hc : c ∈ (toString n).toList) : c.isDigit = true := by
  rw [toList_toString] at hc
  exact Nat.isDigit_of_mem_toDigits (by decide) (by decide) hc

theorem toString_ne_nil (n : Nat) : (toString n).toList ≠ [] := by
  rw [toList_toString]
  exact Nat.toDigits_ne_nil

/-- The value of a run of digits, the same for every reader of numbers. -/
theorem digits_value (n : Nat) :
    (toString n).toList.foldl (fun n c => 10 * n + (c.toNat - 48)) 0 = n := by
  rw [toList_toString]
  exact Nat.ofDigitChars_eq_foldl.symm.trans Nat.ofDigitChars_ten_toDigits

theorem digits?_toString (n : Nat) : digits? (toString n).toList = some n := by
  have hall : (toString n).toList.all Char.isDigit = true :=
    List.all_eq_true.mpr fun _ hc => isDigit_of_mem hc
  have hempty : (toString n).toList.isEmpty = false := List.isEmpty_eq_false_iff.mpr (toString_ne_nil n)
  rw [digits?, hempty, hall, digits_value]
  rfl

theorem zero_of_head : ∀ n : Nat, (Nat.toDigits 10 n).head? = some '0' → n = 0 := by
  intro n
  induction n using Nat.strongRecOn with
  | ind n ih =>
    intro h
    rw [Nat.toDigits_eq_if (by decide)] at h
    split at h
    · next hn => exact (by decide : ∀ n < 10, [Nat.digitChar n].head? = some '0' → n = 0) n hn h
    · next hn =>
      rw [List.head?_append, Option.or_of_isSome (List.isSome_head?.mpr Nat.toDigits_ne_nil)] at h
      have := ih (n / 10) (by omega) h
      omega

/-- Only the number zero begins with a zero. -/
theorem no_leading_zero (n : Nat) :
    ((toString n).toList.length > 1 && (toString n).toList.head? == some '0') = false := by
  rw [toList_toString]
  by_cases h : (Nat.toDigits 10 n).head? = some '0'
  · rw [zero_of_head n h]
    rfl
  · rw [beq_eq_false_iff_ne.mpr h, Bool.and_false]

/-- A text that does not go on with a digit. -/
def NoDigit (cs : List Char) : Prop := ∀ c ∈ cs.head?, c.isDigit = false

theorem noDigit_cons {c : Char} (h : c.isDigit = false) (cs : List Char) : NoDigit (c :: cs) :=
  fun _ hd => Option.some.inj hd ▸ h

theorem NoDigit.takeWhile {cs : List Char} (h : NoDigit cs) : cs.takeWhile Char.isDigit = [] := by
  cases cs with
  | nil => rfl
  | cons c rest => exact List.takeWhile_cons_of_neg (by rw [h c rfl]; exact Bool.false_ne_true)

theorem NoDigit.dropWhile {cs : List Char} (h : NoDigit cs) : cs.dropWhile Char.isDigit = cs := by
  cases cs with
  | nil => rfl
  | cons c rest => exact List.dropWhile_cons_of_neg (by rw [h c rfl]; exact Bool.false_ne_true)

/-- What follows a run of digits does not change which digits it has. -/
theorem NoDigit.takeWhile_append {rest : List Char} (h : NoDigit rest) (cs : List Char) :
    (cs ++ rest).takeWhile Char.isDigit = cs.takeWhile Char.isDigit := by
  induction cs with
  | nil => exact h.takeWhile
  | cons c cs ih =>
    cases hc : c.isDigit with
    | true => simp only [List.cons_append, List.takeWhile_cons_of_pos hc, ih]
    | false => simp [hc]

theorem NoDigit.dropWhile_append {rest : List Char} (h : NoDigit rest) (cs : List Char) :
    (cs ++ rest).dropWhile Char.isDigit = cs.dropWhile Char.isDigit ++ rest := by
  induction cs with
  | nil => exact h.dropWhile
  | cons c cs ih =>
    cases hc : c.isDigit with
    | true => simp only [List.cons_append, List.dropWhile_cons_of_pos hc, ih]
    | false => simp [hc]

/-- All digits of a run are taken and nothing else. -/
theorem takeWhile_isDigit {ds rest : List Char} (hds : ∀ c ∈ ds, c.isDigit = true) (h : NoDigit rest) :
    (ds ++ rest).takeWhile Char.isDigit = ds := by
  rw [h.takeWhile_append, List.takeWhile_eq_self_iff.mpr hds]

end PageAudit.Decimal
