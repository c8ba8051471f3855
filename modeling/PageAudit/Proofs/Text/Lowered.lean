import Mathlib.Data.List.Infix
import PageAudit.Text.Case
import PageAudit.Text.Search
/-!
Literal search in lower case. A body is searched in the lower case of all of Unicode, where a character can
become two and a few letters beyond ASCII become ASCII ones; people who read a pattern think of the letters
of ASCII alone. For a pattern without the letter `k` that does not end in `i` both are the same
(`occursIn_lower_iff`): no character beyond ASCII turns into what the pattern looks for, as only the Kelvin sign
becomes a `k`, and the `i` of the dotted capital I has its dot after it.
-/
namespace PageAudit.Text

/-- Search finds a pattern exactly where it is a contiguous run. -/
theorem occursIn_iff (pattern text : List Char) : occursIn pattern text = true ↔ pattern <:+: text := by
  induction text with
  | nil => rw [occursIn, List.isEmpty_iff, List.infix_nil]
  | cons c rest ih =>
    rw [occursIn, Bool.or_eq_true, ih, List.isPrefixOf_iff_prefix, List.infix_cons_iff]

/-- A text spells a pattern in some contiguous run, up to the case of the letters of ASCII. -/
def Spells (text pattern : String) : Prop :=
  ∃ run, run <:+: text.toList ∧ run.map Char.toLower = pattern.toList.map Char.toLower

theorem spells_iff (text pattern : String) :
    Spells text pattern ↔ pattern.toList.map Char.toLower <:+: text.toList.map Char.toLower := by
  rw [List.infix_map_iff, Spells]
  exact exists_congr fun run => and_congr_right' eq_comm

instance (text pattern : String) : Decidable (Spells text pattern) :=
  decidable_of_iff (occursIn (pattern.toList.map Char.toLower) (text.toList.map Char.toLower) = true)
    ((occursIn_iff ..).trans (spells_iff ..).symm)

namespace Case

/-! ### One character -/

/-- Beyond ASCII no letter has a small one in ASCII. -/
theorem toLower_of_beyond {c : Char} (h : 128 ≤ c.toNat) : c.toLower = c := by
  refine dif_neg fun hcapital => ?_
  have hle : c.toNat ≤ 'Z'.toNat := hcapital.2
  exact absurd (h.trans hle) (by decide)

/-- The code points of a run stay beyond ASCII. -/
def Run.StaysBeyond (r : Run) : Prop :=
  128 ≤ r.first + r.shift ∧
    (r.last + r.shift < 0xD800 ∨ 0xDFFF < r.first + r.shift ∧ r.last + r.shift < 0x110000)

instance (r : Run) : Decidable r.StaysBeyond := by
  unfold Run.StaysBeyond
  infer_instance

/-- The Kelvin sign, the one character whose small letter is in ASCII. -/
def kelvinSign : Char := '\u212A'

theorem lowering_stays : ∀ r ∈ lowering,
    r.StaysBeyond ∨ r.first = kelvinSign.toNat ∧ r.last = kelvinSign.toNat := by
  decide +kernel

theorem Run.StaysBeyond.toNat_ofNat {r : Run} (h : r.StaysBeyond) {n : Nat} (hn : r.holds n = true) :
    128 ≤ (Char.ofNat ((n : Int) + r.shift).toNat).toNat := by
  obtain ⟨hfirst, hvalid⟩ := h
  simp only [holds, Bool.and_eq_true, decide_eq_true_eq] at hn
  have hchar : ((n : Int) + r.shift).toNat.isValidChar := by
    unfold Nat.isValidChar
    omega
  rw [Char.ofNat, dif_pos hchar]
  show 128 ≤ ((n : Int) + r.shift).toNat
  omega

theorem lowerChar_beyond {c : Char} (hc : 128 ≤ c.toNat) (hkelvin : c ≠ kelvinSign) :
    128 ≤ (lowerChar c).toNat := by
  rw [lowerChar, if_neg (Nat.not_lt.mpr hc)]
  split
  · next r hr =>
    have hholds := List.find?_some hr
    rcases lowering_stays r (List.mem_of_find?_eq_some hr) with hstays | ⟨hfirst, hlast⟩
    · exact hstays.toNat_ofNat hholds
    · simp only [Run.holds, hfirst, hlast, Bool.and_eq_true, decide_eq_true_eq] at hholds
      exact absurd (Char.toNat_inj.mp (Nat.le_antisymm hholds.1.2 hholds.1.1)) hkelvin
  · exact hc

/-- What the lower case of one character can be. -/
inductive Lowered : Char → List Char → Prop
  | ascii (c : Char) : c.toNat < 128 → Lowered c [c.toLower]
  | beyond {c d : Char} : 128 ≤ c.toNat → 128 ≤ d.toNat → Lowered c [d]
  | kelvin : Lowered kelvinSign ['k']
  | dotted : Lowered '\u0130' ['i', '\u0307']

theorem lowered_lowerIn (before : List Char) (c : Char) (after : List Char) :
    Lowered c (lowerIn before c after) := by
  unfold lowerIn
  split
  · next hdotted => exact hdotted ▸ .dotted
  split
  · next hsigma =>
    subst hsigma
    split <;> exact .beyond (by decide) (by decide)
  by_cases hc : c.toNat < 128
  · rw [lowerChar, if_pos hc]
    exact .ascii c hc
  by_cases hkelvin : c = kelvinSign
  · subst hkelvin
    exact .kelvin
  · have hbeyond := Nat.not_lt.mp hc
    exact .beyond hbeyond (lowerChar_beyond hbeyond hkelvin)

/-! ### Patterns -/

/-- A pattern that lower case can neither make nor hide. -/
structure Steady (pattern : List Char) : Prop where
  ascii : ∀ m ∈ pattern, m.toNat < 128
  not_kelvin : 'k' ∉ pattern
  not_dotted : pattern.getLast? ≠ some 'i'

instance (pattern : List Char) : Decidable (Steady pattern) :=
  decidable_of_iff
    ((pattern.all fun m => decide (m.toNat < 128)) = true ∧ 'k' ∉ pattern ∧ pattern.getLast? ≠ some 'i')
    ⟨fun ⟨h₁, h₂, h₃⟩ => ⟨fun m hm => of_decide_eq_true (List.all_eq_true.mp h₁ m hm), h₂, h₃⟩,
      fun h => ⟨List.all_eq_true.mpr fun m hm => decide_eq_true (h.ascii m hm), h.not_kelvin, h.not_dotted⟩⟩

variable {m : Char} {pattern : List Char}

theorem Steady.tail (h : Steady (m :: pattern)) : Steady pattern where
  ascii n hn := h.ascii n (List.mem_cons_of_mem m hn)
  not_kelvin hk := h.not_kelvin (List.mem_cons_of_mem m hk)
  not_dotted hlast := by
    cases pattern with
    | nil => cases hlast
    | cons n rest => exact h.not_dotted (List.getLast?_cons_cons.trans hlast)

/-- A pattern does not start with a character beyond ASCII. -/
theorem Steady.not_prefix (h : Steady (m :: pattern)) {d : Char} (hd : 128 ≤ d.toNat) (text : List Char) :
    ¬ m :: pattern <+: d :: text := by
  intro hprefix
  obtain ⟨rfl, -⟩ := List.cons_prefix_cons.mp hprefix
  exact absurd (h.ascii m (List.mem_cons_self ..)) (Nat.not_lt.mpr hd)

/-- A text starts with a pattern in lower case if and only if it does when ASCII alone is lowered. -/
theorem prefix_lowerFrom_iff (h : Steady pattern) (before text : List Char) :
    pattern <+: lowerFrom before text ↔ pattern <+: text.map Char.toLower := by
  induction text generalizing before pattern with
  | nil => rfl
  | cons c after ih =>
    cases pattern with
    | nil => exact iff_of_true List.nil_prefix List.nil_prefix
    | cons m rest =>
      have hpiece := lowered_lowerIn before c after
      rw [lowerFrom, List.map_cons]
      generalize lowerIn before c after = piece at hpiece
      cases hpiece with
      | ascii _ hc =>
        rw [List.singleton_append, List.cons_prefix_cons, List.cons_prefix_cons, ih h.tail]
      | beyond hc hd =>
        rw [toLower_of_beyond hc]
        exact iff_of_false (h.not_prefix hd _) (h.not_prefix hc _)
      | kelvin =>
        refine iff_of_false (fun hk => ?_) (h.not_prefix (by decide) _)
        obtain ⟨rfl, -⟩ := List.cons_prefix_cons.mp hk
        exact h.not_kelvin (List.mem_cons_self ..)
      | dotted =>
        refine iff_of_false (fun hi => ?_) (h.not_prefix (by decide) _)
        obtain ⟨rfl, hdot⟩ := List.cons_prefix_cons.mp hi
        cases rest with
        | nil => exact h.not_dotted rfl
        | cons n rest => exact h.tail.not_prefix (by decide) _ hdot

/-- The same for a run that starts anywhere. -/
theorem infix_lowerFrom_iff (h : Steady pattern) (before text : List Char) :
    pattern <:+: lowerFrom before text ↔ pattern <:+: text.map Char.toLower := by
  induction text generalizing before with
  | nil => rfl
  | cons c after ih =>
    have hstart := prefix_lowerFrom_iff h before (c :: after)
    have hpiece := lowered_lowerIn before c after
    rw [List.map_cons, List.infix_cons_iff, ← List.map_cons, ← hstart, ← ih (c :: before), lowerFrom]
    generalize lowerIn before c after = piece at hpiece
    cases hpiece with
    | ascii | beyond | kelvin => exact List.infix_cons_iff
    | dotted =>
      -- a run could also start at the dot, but a pattern does not
      have hdot : pattern <+: '\u0307' :: lowerFrom ('\u0130' :: before) after ↔ pattern = [] := by
        cases pattern with
        | nil => exact iff_of_true List.nil_prefix rfl
        | cons m rest => exact iff_of_false (h.not_prefix (by decide) _) (List.cons_ne_nil m rest)
      rw [List.cons_append, List.cons_append, List.nil_append, List.infix_cons_iff, List.infix_cons_iff, hdot]
      refine or_congr_right (or_iff_right_of_imp ?_)
      rintro rfl
      exact List.nil_infix

end Case

/-- Lower case neither makes nor hides a match: a pattern in small letters is found in the lower case of a text
exactly if the text spells it. -/
theorem occursIn_lower_iff {pattern : String} (h : Case.Steady pattern.toList)
    (hsmall : pattern.toList.map Char.toLower = pattern.toList) (text : String) :
    occursIn pattern.toList (Case.lower text.toList) = true ↔ Spells text pattern := by
  rw [occursIn_iff, Case.lower, Case.infix_lowerFrom_iff h, spells_iff, hsmall]

/-- The letter `k` is left out for a reason: the Kelvin sign makes a match that nobody spelled. -/
example : occursIn "ok".toList (Case.lower "o\u212A".toList) = true ∧ ¬ Spells "o\u212A" "ok" := by decide

end PageAudit.Text
