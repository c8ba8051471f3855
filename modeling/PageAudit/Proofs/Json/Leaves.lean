import PageAudit.Json.Reader
import PageAudit.Json.Writer
import PageAudit.Proofs.Decimal.Digits
/-!
Leaves of JSON texts. A string is read back whatever its characters are (`stringBody_escaped`), and a
number that is read from a text of its own is read as well where a text goes on with a comma, a line
break or nothing (`number?_append`). `number?_natural` is the case of numbers below `2 ^ 64`.
-/
namespace PageAudit.Json
open Decimal

/-! ### Strings -/

theorem hexValue?_hexDigit : ∀ n < 16, hexValue? (hexDigit n) = some n := by decide

/-- A control character is read from its number. -/
theorem unicodeEscape?_control {c : Char} (h : c.toNat < 32) (rest : List Char) :
    unicodeEscape? ('0' :: '0' :: hexDigit (c.toNat / 16) :: hexDigit (c.toNat % 16) :: rest) =
      some (c, rest) := by
  have hhigh := hexValue?_hexDigit (c.toNat / 16) (by omega)
  have hlow := hexValue?_hexDigit (c.toNat % 16) (by omega)
  have hzero : hexValue? '0' = some 0 := rfl
  have hvalue : 0 * 4096 + 0 * 256 + c.toNat / 16 * 16 + c.toNat % 16 = c.toNat := by omega
  have hhex : hex4? ('0' :: '0' :: hexDigit (c.toNat / 16) :: hexDigit (c.toNat % 16) :: rest) =
      some (c.toNat, rest) := by
    simp only [hex4?, hzero, hhigh, hlow, Option.bind_eq_bind, Option.bind_some, hvalue]
  have htrail : ¬ (0xDC00 ≤ c.toNat && c.toNat ≤ 0xDFFF) = true := by simp; omega
  have hlead : ¬ (0xD800 ≤ c.toNat && c.toNat ≤ 0xDBFF) = true := by simp; omega
  rw [unicodeEscape?, hhex, Option.bind_eq_bind, Option.bind_some]
  simp only [if_neg htrail, if_neg hlead, Char.ofNat_toNat]

theorem stringBody_plain {c : Char} (hquote : c ≠ '"') (hslash : c ≠ '\\') (h : ¬ c.toNat < 32)
    (read : List Char) (fuel : Nat) (rest : List Char) :
    stringBody read (fuel + 1) (c :: rest) = stringBody (c :: read) fuel rest := by
  rw [stringBody, if_neg h]
  · exact hquote
  · exact fun _ hc => absurd hc hslash
  · exact fun _ _ hc => absurd hc hslash

theorem stringBody_unicode {c : Char} {cs rest : List Char} (h : unicodeEscape? cs = some (c, rest))
    (read : List Char) (fuel : Nat) :
    stringBody read (fuel + 1) ('\\' :: 'u' :: cs) = stringBody (c :: read) fuel rest := by
  rw [stringBody, h]

/-- A character is read from what is written for it. -/
theorem stringBody_escapeChar (c : Char) (read : List Char) (fuel : Nat) (rest : List Char) :
    stringBody read (fuel + 1) (escapeChar c ++ rest) = stringBody (c :: read) fuel rest := by
  unfold escapeChar
  split
  -- the seven characters that have a letter of their own
  iterate 7 rfl
  · next hquote hslash _ _ _ _ _ =>
    split
    · next h => exact stringBody_unicode (unicodeEscape?_control h rest) read fuel
    · next h => exact stringBody_plain hquote hslash h read fuel rest

/-- A string is read up to its closing quote, whatever its characters are. -/
theorem stringBody_escaped (cs : List Char) {fuel : Nat} (h : cs.length < fuel) (read rest : List Char) :
    stringBody read fuel (cs.flatMap escapeChar ++ '"' :: rest) =
      some (String.ofList (read.reverse ++ cs), rest) := by
  induction cs generalizing fuel read with
  | nil =>
    cases fuel with
    | zero => cases h
    | succ fuel =>
      rw [List.append_nil]
      rfl
  | cons c cs ih =>
    cases fuel with
    | zero => cases h
    | succ fuel =>
      rw [List.flatMap_cons, List.append_assoc, stringBody_escapeChar, ih (Nat.lt_of_succ_lt_succ h),
        List.reverse_cons, List.append_assoc, List.singleton_append]

theorem length_escapeChar (c : Char) : 1 ≤ (escapeChar c).length := by
  unfold escapeChar
  split
  iterate 7 decide
  split <;> simp

theorem length_le_escaped (cs : List Char) : cs.length ≤ (cs.flatMap escapeChar).length := by
  induction cs with
  | nil => exact Nat.le_refl _
  | cons c cs ih =>
    have := length_escapeChar c
    rw [List.flatMap_cons, List.length_append, List.length_cons]
    omega

/-- A string in quotes is read to the closing one. -/
theorem stringBody_quoted (s : String) (rest : List Char) :
    stringBody [] ((s.toList.flatMap escapeChar ++ '"' :: rest).length + 1)
      (s.toList.flatMap escapeChar ++ '"' :: rest) = some (s, rest) := by
  have hlen := length_le_escaped s.toList
  rw [stringBody_escaped _ (by rw [List.length_append]; omega), List.reverse_nil, List.nil_append,
    String.ofList_toList]

/-! ### Numbers among other texts -/

/-- A text that goes on as no number does: with a comma, a line break, or not at all. -/
def Ends (rest : List Char) : Prop := ∀ c ∈ rest.head?, c = ',' ∨ c = '\n'

theorem Ends.noDigit {rest : List Char} (h : Ends rest) : NoDigit rest := by
  intro c hc
  obtain rfl | rfl := h c hc
  · rfl
  · rfl

theorem wholeDigits_append (value scale : Nat) (cs : List Char) {rest : List Char} (h : NoDigit rest) :
    wholeDigits value scale (cs ++ rest) =
      ((wholeDigits value scale cs).1, (wholeDigits value scale cs).2.1,
        (wholeDigits value scale cs).2.2 ++ rest) := by
  induction cs generalizing value scale with
  | nil =>
    cases rest with
    | nil => rfl
    | cons c rest =>
      simp only [List.nil_append, wholeDigits, h c rfl]
      rfl
  | cons c cs ih =>
    simp only [List.cons_append, wholeDigits]
    split
    · split
      · exact ih ..
      · exact ih ..
    · rfl

theorem fractionDigits_append (value places : Nat) (full : Bool) (cs : List Char) {rest : List Char}
    (h : NoDigit rest) :
    fractionDigits value places full (cs ++ rest) =
      ((fractionDigits value places full cs).1, (fractionDigits value places full cs).2.1,
        (fractionDigits value places full cs).2.2 ++ rest) := by
  induction cs generalizing value places full with
  | nil =>
    cases rest with
    | nil => rfl
    | cons c rest =>
      simp only [List.nil_append, fractionDigits, h c rfl]
      rfl
  | cons c cs ih =>
    simp only [List.cons_append, fractionDigits]
    split
    · split
      · exact ih ..
      · exact ih ..
    · rfl

theorem digitRun?_append {cs rest r : List Char} {n : Nat} (h : NoDigit rest)
    (hcs : digitRun? cs = some (n, r)) : digitRun? (cs ++ rest) = some (n, r ++ rest) := by
  simp only [digitRun?, h.takeWhile_append, h.dropWhile_append] at hcs ⊢
  split at hcs
  · cases hcs
  · next hne =>
    rw [if_neg hne]
    obtain ⟨rfl, rfl⟩ := Prod.mk.inj (Option.some.inj hcs)
    rfl

theorem exponentDigits?_plain {c : Char} (hminus : c ≠ '-') (hplus : c ≠ '+') (cs : List Char) :
    exponentDigits? (c :: cs) = (digitRun? (c :: cs)).map fun (n, r) => ((n : Int), r) := by
  rw [exponentDigits?]
  · exact fun _ heq => hminus (List.cons.inj heq).1
  · exact fun _ heq => hplus (List.cons.inj heq).1

/-- With a sign or without one, what follows a run of digits is left over. -/
theorem map_digitRun?_append {cs rest r : List Char} {f : Nat → Int} {e : Int} (h : NoDigit rest)
    (hcs : (digitRun? cs).map (fun x => (f x.1, x.2)) = some (e, r)) :
    (digitRun? (cs ++ rest)).map (fun x => (f x.1, x.2)) = some (e, r ++ rest) := by
  obtain ⟨⟨n, r'⟩, hrun, hr⟩ := Option.map_eq_some_iff.mp hcs
  cases hr
  rw [digitRun?_append h hrun]
  rfl

theorem exponentDigits?_append {cs rest r : List Char} {e : Int} (h : NoDigit rest)
    (hcs : exponentDigits? cs = some (e, r)) : exponentDigits? (cs ++ rest) = some (e, r ++ rest) := by
  cases cs with
  | nil => cases hcs
  | cons c cs =>
    by_cases hminus : c = '-'
    · subst hminus
      exact map_digitRun?_append (f := fun n => -(n : Int)) h hcs
    · by_cases hplus : c = '+'
      · subst hplus
        exact map_digitRun?_append (f := fun n => (n : Int)) h hcs
      · rw [exponentDigits?_plain hminus hplus] at hcs
        rw [List.cons_append, exponentDigits?_plain hminus hplus]
        exact map_digitRun?_append (f := fun n => (n : Int)) h hcs

theorem exponentPart?_ends {rest : List Char} (h : Ends rest) :
    exponentPart? rest = some (0, false, rest) := by
  cases rest with
  | nil => rfl
  | cons c rest =>
    obtain rfl | rfl := h c rfl
    · rfl
    · rfl

theorem exponentPart?_append {cs rest r : List Char} {e : Int} {marked : Bool} (h : Ends rest)
    (hcs : exponentPart? cs = some (e, marked, r)) :
    exponentPart? (cs ++ rest) = some (e, marked, r ++ rest) := by
  cases cs with
  | nil =>
    cases hcs
    exact exponentPart?_ends h
  | cons c cs =>
    simp only [List.cons_append, exponentPart?] at hcs ⊢
    split at hcs
    · next hc =>
      obtain ⟨⟨e', r'⟩, hdigits, hr⟩ := Option.map_eq_some_iff.mp hcs
      cases hr
      rw [if_pos hc, exponentDigits?_append h.noDigit hdigits]
      rfl
    · next hc =>
      cases hcs
      rw [if_neg hc]
      rfl

theorem afterPoint?_append {negative : Bool} {value scale : Nat} {cs rest r : List Char} {n : Number}
    (h : Ends rest) (hcs : afterPoint? negative value scale cs = some (n, r)) :
    afterPoint? negative value scale (cs ++ rest) = some (n, r ++ rest) := by
  simp only [afterPoint?, h.noDigit.takeWhile_append, fractionDigits_append _ _ _ _ h.noDigit] at hcs ⊢
  split at hcs
  · cases hcs
  · next hdigits =>
    obtain ⟨⟨e, marked, after⟩, he, hcs⟩ := Option.bind_eq_some_iff.mp hcs
    obtain ⟨x, hx, hcs⟩ := Option.bind_eq_some_iff.mp hcs
    cases hcs
    simp only [if_neg hdigits, Option.bind_eq_bind, exponentPart?_append h he, Option.bind_some, hx]

theorem withoutPoint?_append {negative : Bool} {value scale : Nat} {cs rest r : List Char} {n : Number}
    (h : Ends rest) (hcs : withoutPoint? negative value scale cs = some (n, r)) :
    withoutPoint? negative value scale (cs ++ rest) = some (n, r ++ rest) := by
  obtain ⟨⟨e, marked, after⟩, he, hcs⟩ := Option.bind_eq_some_iff.mp hcs
  rw [withoutPoint?, exponentPart?_append h he]
  dsimp only [Option.bind_eq_bind, Option.bind_some] at hcs ⊢
  split at hcs
  · next hm =>
    obtain ⟨x, hx, hcs⟩ := Option.bind_eq_some_iff.mp hcs
    cases hcs
    rw [if_pos hm, hx]
    rfl
  · next hm =>
    obtain ⟨x, hx, hcs⟩ := Option.bind_eq_some_iff.mp hcs
    cases hcs
    rw [if_neg hm, hx]
    rfl

/-- A number that ends where the text does ends there as well when a comma or a line break follows. -/
theorem unsigned?_append {negative : Bool} {cs rest r : List Char} {n : Number} (h : Ends rest)
    (hcs : unsigned? negative cs = some (n, r)) : unsigned? negative (cs ++ rest) = some (n, r ++ rest) := by
  simp only [unsigned?, h.noDigit.takeWhile_append, wholeDigits_append _ _ _ h.noDigit] at hcs ⊢
  split at hcs
  · cases hcs
  · next hdigits =>
    rw [if_neg hdigits]
    generalize wholeDigits 0 0 cs = whole at hcs ⊢
    obtain ⟨value, scale, tail⟩ := whole
    dsimp only at hcs ⊢
    split at hcs
    · exact afterPoint?_append h hcs
    · next hpoint =>
      split
      · next more heq =>
        -- neither the rest of the number nor what follows it begins with a point
        cases tail with
        | nil =>
          rw [List.nil_append] at heq
          obtain hc | hc := h '.' (by rw [heq]; rfl)
          · cases hc
          · cases hc
        | cons c tail =>
          obtain ⟨rfl, -⟩ := List.cons.inj heq
          exact absurd rfl (hpoint tail)
      · exact withoutPoint?_append h hcs

theorem number?_plain {c : Char} (h : c ≠ '-') (cs : List Char) :
    number? (c :: cs) = unsigned? false (c :: cs) := by
  rw [number?]
  exact fun _ heq => h (List.cons.inj heq).1

theorem number?_append {cs rest r : List Char} {n : Number} (h : Ends rest)
    (hcs : number? cs = some (n, r)) : number? (cs ++ rest) = some (n, r ++ rest) := by
  cases cs with
  | nil => cases hcs
  | cons c cs =>
    by_cases hminus : c = '-'
    · subst hminus
      show unsigned? true (cs ++ rest) = _
      exact unsigned?_append h hcs
    · rw [number?_plain hminus] at hcs
      rw [List.cons_append, number?_plain hminus]
      exact unsigned?_append h hcs

/-- A number begins with a digit or the minus sign. -/
theorem head_of_number? {cs : List Char} {x : Number × List Char} (h : number? cs = some x) :
    ∃ c rest, cs = c :: rest ∧ (c = '-' ∨ c.isDigit = true) := by
  cases cs with
  | nil => cases h
  | cons c cs =>
    refine ⟨c, cs, rfl, ?_⟩
    by_cases hminus : c = '-'
    · exact .inl hminus
    · refine .inr ?_
      rw [number?_plain hminus] at h
      cases hc : c.isDigit with
      | true => rfl
      | false =>
        have hnone : unsigned? false (c :: cs) = none := by
          simp [unsigned?, hc]
        rw [hnone] at h
        cases h

/-! ### Natural numbers -/

/-- The value that digits lead to is not below the one they start from. -/
theorem le_foldl_digits (ds : List Char) (value : Nat) :
    value ≤ ds.foldl (fun n c => 10 * n + (c.toNat - 48)) value := by
  induction ds generalizing value with
  | nil => exact Nat.le_refl _
  | cons d ds ih => exact Nat.le_trans (by omega) (ih (10 * value + (d.toNat - 48)))

/-- As long as a number stays below the bound, all its digits count. -/
theorem wholeDigits_digits {ds : List Char} (hds : ∀ c ∈ ds, c.isDigit = true) {value : Nat}
    (h : ds.foldl (fun n c => 10 * n + (c.toNat - 48)) value < UInt64.size) :
    wholeDigits value 0 ds = (ds.foldl (fun n c => 10 * n + (c.toNat - 48)) value, 0, []) := by
  induction ds generalizing value with
  | nil => rfl
  | cons d ds ih =>
    rw [List.foldl_cons] at h ⊢
    have hnext : value * 10 + (d.toNat - 48) = 10 * value + (d.toNat - 48) := by rw [Nat.mul_comm]
    have hsmall := Nat.lt_of_le_of_lt (le_foldl_digits ds _) h
    rw [wholeDigits, if_pos (hds d (.head _)), hnext]
    simp only [hsmall, decide_true, Bool.and_true, if_true]
    exact ih (fun c hc => hds c (.tail _ hc)) h

/-- A natural number keeps its class. -/
theorem number?_natural {n : Nat} (h : n < UInt64.size) :
    number? (toString n).toList = some (.natural n, []) := by
  have hdigits : ∀ c ∈ (toString n).toList, c.isDigit = true := fun _ hc => isDigit_of_mem hc
  have hzero := no_leading_zero n
  have hwhole : wholeDigits 0 0 (toString n).toList = (n, 0, []) := by
    rw [wholeDigits_digits hdigits (by rw [digits_value]; exact h), digits_value]
  obtain ⟨c, cs, hcs⟩ := List.exists_cons_of_ne_nil (toString_ne_nil n)
  rw [hcs] at hdigits hzero hwhole ⊢
  have hminus : c ≠ '-' := fun hc => by
    rw [hc] at hdigits
    cases hdigits '-' (.head _)
  rw [number?_plain hminus, unsigned?, List.takeWhile_eq_self_iff.mpr hdigits, hzero, hwhole]
  rfl

end PageAudit.Json
