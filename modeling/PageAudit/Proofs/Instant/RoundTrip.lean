import PageAudit.Instant.Reader
import PageAudit.Instant.Text
import PageAudit.Proofs.Decimal.Digits
import PageAudit.Proofs.Instant.Clock
/-!
Times written in full and read again. `read?_exact` says what the reader makes of a written time:
it takes what the clocks showed, with its fraction, with a sign before a year of other than four
digits, and with the second 60, and goes back by the written offset, which is rounded to minutes.
So `read?_exact_iff`: a time is read as it was exactly if its offset is in whole minutes and its
clocks showed a day of the calendar.

Each part is read from the front of the text, so there is one lemma for each: it gives the part and
the characters after it.
-/
namespace PageAudit

/-! ### Padded numbers -/

theorem toList_padded (width n : Nat) :
    (padded width n).toList = List.replicate (width - (toString n).length) '0' ++ (toString n).toList := by
  rw [padded, String.toList_append, String.toList_ofList]

theorem isDigit_padded {width n : Nat} : ∀ c ∈ (padded width n).toList, c.isDigit = true := by
  rw [toList_padded]
  refine List.forall_mem_append.mpr ⟨fun c hc => ?_, fun c hc => Decimal.isDigit_of_mem hc⟩
  rw [List.eq_of_mem_replicate hc]
  rfl

theorem padded_ne_nil (width n : Nat) : (padded width n).toList ≠ [] := by
  rw [toList_padded]
  exact List.append_ne_nil_of_right_ne_nil _ (Decimal.toString_ne_nil n)

theorem number_padded (width n : Nat) : Instant.number (padded width n).toList = n := by
  have hvalue := Decimal.digits_value n
  have hzeros : (List.replicate (width - (toString n).length) '0').foldl
      (fun n c => 10 * n + Instant.digitValue c) 0 = 0 := by
    generalize width - (toString n).length = k
    induction k with
    | zero => rfl
    | succ k ih => exact ih
  rw [Instant.number, toList_padded, List.foldl_append, hzeros]
  exact hvalue

/-- A number below the bound fills its places exactly. -/
theorem length_padded {width n : Nat} (hw : 0 < width) (h : n < Nat.pow 10 width) :
    (padded width n).toList.length = width := by
  have hle : (toString n).length ≤ width := by
    rw [← String.length_toList, Decimal.toList_toString]
    exact (Nat.length_toDigits_le_iff (by decide) hw).mpr h
  rw [toList_padded, List.length_append, List.length_replicate, String.length_toList]
  omega

namespace Instant
open Text Decimal

/-! ### Parts -/

theorem isBlank_of_isDigit {c : Char} (h : c.isDigit = true) : isBlank c = false := by
  rw [Char.isDigit, Bool.and_eq_true, decide_eq_true_iff, decide_eq_true_iff] at h
  have hlow : 48 ≤ c.toNat := h.1
  have hhigh : c.toNat ≤ 57 := h.2
  simp only [isBlank, Bool.or_eq_false_iff, Bool.and_eq_false_iff, beq_eq_false_iff_ne,
    decide_eq_false_iff_not]
  omega

section Digits

variable {ds rest : List Char} (hds : ∀ c ∈ ds, c.isDigit = true) (hne : ds ≠ [])

include hds hne

/-- Digits are no blanks. -/
theorem trimLeft_digits : trimLeft (ds ++ rest) = ds ++ rest := by
  obtain ⟨d, ds, rfl⟩ := List.exists_cons_of_ne_nil hne
  exact List.dropWhile_cons_of_neg (by rw [isBlank_of_isDigit (hds d (.head _))]; exact Bool.false_ne_true)

/-- A run of digits is read if nothing more may be read or no further digit follows. -/
theorem digits?_run {most : Nat} (hlen : ds.length ≤ most) (hend : ds.length = most ∨ NoDigit rest) :
    digits? most (ds ++ rest) = some (number ds, rest) := by
  have hnext : NoDigit (rest.take (most - ds.length)) := by
    obtain h | h := hend
    · rw [h, Nat.sub_self]
      exact fun _ hc => nomatch hc
    · intro c hc
      rw [List.head?_take] at hc
      split at hc
      · cases hc
      · exact h c hc
  have hrun : ((ds ++ rest).take most).takeWhile Char.isDigit = ds := by
    rw [List.take_append, List.take_of_length_le hlen, takeWhile_isDigit hds hnext]
  rw [digits?, hrun, List.isEmpty_eq_false_iff.mpr hne, List.drop_left]
  rfl

end Digits

theorem part?_padded {n : Nat} (h : n < 100) (rest : List Char) :
    part? ((padded 2 n).toList ++ rest) = some (n, rest) := by
  have hlen : (padded 2 n).toList.length = 2 := length_padded (by decide) h
  rw [part?, trimLeft_digits isDigit_padded (padded_ne_nil 2 n),
    digits?_run isDigit_padded (padded_ne_nil 2 n) (Nat.le_of_eq hlen) (.inl hlen), number_padded]

theorem year?_minus (rest : List Char) :
    year? ('-' :: rest) = (digits? rest.length rest).map fun (n, r) => (-(n : Int), r) := rfl

theorem year?_plus (rest : List Char) :
    year? ('+' :: rest) = (digits? rest.length rest).map fun (n, r) => ((n : Int), r) := rfl

theorem year?_digits {ds rest : List Char} (hds : ∀ c ∈ ds, c.isDigit = true) (hne : ds ≠ []) :
    year? (ds ++ rest) = (digits? 4 (ds ++ rest)).map fun (n, r) => ((n : Int), r) := by
  rw [year?, trimLeft_digits hds hne]
  obtain ⟨d, ds, rfl⟩ := List.exists_cons_of_ne_nil hne
  have hd := hds d (.head _)
  split
  · next h => cases h; cases hd
  · next h => cases h; cases hd
  · rfl

/-- The digits of a year after its sign, as many as there are. -/
theorem digits?_year (n : Nat) (rest : List Char) :
    digits? ((padded 4 n).toList ++ '-' :: rest).length ((padded 4 n).toList ++ '-' :: rest) =
      some (n, '-' :: rest) := by
  rw [digits?_run isDigit_padded (padded_ne_nil 4 n) (by rw [List.length_append]; exact Nat.le_add_right ..)
    (.inr (noDigit_cons rfl rest)), number_padded]

theorem year?_yearText (year : Int) (rest : List Char) :
    year? ((yearText year).toList ++ '-' :: rest) = some (year, '-' :: rest) := by
  unfold yearText
  by_cases hplain : (0 ≤ year && year ≤ 9999) = true
  · rw [if_pos hplain]
    rw [Bool.and_eq_true, decide_eq_true_iff, decide_eq_true_iff] at hplain
    have hlen : (padded 4 year.toNat).toList.length = 4 :=
      length_padded (by decide) (by show year.toNat < 10000; omega)
    rw [year?_digits isDigit_padded (padded_ne_nil _ _), digits?_run isDigit_padded (padded_ne_nil _ _)
      (Nat.le_of_eq hlen) (.inl hlen), number_padded, Option.map_some]
    dsimp only
    rw [Int.toNat_of_nonneg hplain.1]
  · rw [if_neg hplain, String.toList_append, List.append_assoc]
    by_cases hsign : year < 0
    · rw [if_pos hsign]
      rw [show "-".toList = ['-'] from rfl, List.singleton_append, year?_minus, digits?_year, Option.map_some]
      dsimp only
      rw [Int.ofNat_natAbs_of_nonpos (Int.le_of_lt hsign), Int.neg_neg]
    · rw [if_neg hsign]
      rw [show "+".toList = ['+'] from rfl, List.singleton_append, year?_plus, digits?_year, Option.map_some]
      dsimp only
      rw [Int.natAbs_of_nonneg (Int.not_lt.mp hsign)]

/-! ### The fraction of a second -/

theorem fraction?_point {ds rest : List Char} (hds : ∀ c ∈ ds, c.isDigit = true) (hne : ds ≠ [])
    (hlen : ds.length ≤ 9) (hrest : NoDigit rest) :
    fraction? ('.' :: (ds ++ rest)) = some (number ds * Nat.pow 10 (9 - ds.length), rest) := by
  simp only [fraction?, takeWhile_isDigit hds hrest, List.take_of_length_le hlen,
    List.isEmpty_eq_false_iff.mpr hne, List.drop_left]
  rfl

/-- A fraction in as many places as its unit asks for. -/
theorem fraction?_places (width unit : Nat) {nano : Nat} (hw : 0 < width) (hw' : width ≤ 9)
    (hunit : Nat.pow 10 (9 - width) = unit) (hnano : nano % unit = 0)
    (h : nano / unit < Nat.pow 10 width) {rest : List Char} (hrest : NoDigit rest) :
    fraction? (("." ++ padded width (nano / unit)).toList ++ rest) = some (nano, rest) := by
  have hlen := length_padded hw h
  have hread := fraction?_point isDigit_padded (padded_ne_nil width (nano / unit))
    (hlen.trans_le hw') hrest
  rw [hlen, number_padded, hunit, Nat.div_mul_cancel (Nat.dvd_of_mod_eq_zero hnano)] at hread
  rw [String.toList_append, show ".".toList = ['.'] from rfl, List.singleton_append, List.cons_append, hread]

theorem fraction?_none {cs : List Char} (h : cs.head? ≠ some '.') : fraction? cs = some (0, cs) := by
  unfold fraction?
  split
  · exact absurd rfl h
  · rfl

theorem fraction?_fractionText {nano : Nat} (h : nano < 1000000000) {rest : List Char} (hrest : NoDigit rest)
    (hpoint : rest.head? ≠ some '.') :
    fraction? ((fractionText nano).toList ++ rest) = some (nano, rest) := by
  unfold fractionText
  split
  · next h0 =>
    rw [h0]
    exact fraction?_none hpoint
  · split
    · next h6 =>
      exact fraction?_places 3 1000000 (by decide) (by decide) rfl h6 (by show _ < 1000; omega) hrest
    · split
      · next h3 =>
        exact fraction?_places 6 1000 (by decide) (by decide) rfl h3 (by show _ < 1000000; omega) hrest
      · have h9 := fraction?_places 9 1 (by decide) (by decide) rfl (Nat.mod_one _)
          (by rw [Nat.div_one]; exact h) hrest
        rw [Nat.div_one] at h9
        exact h9

/-! ### Offsets -/

/-- The offset that stands in a text, in minutes. -/
def writtenOffset (offset : Int) : Int :=
  if offset < 0 then -(roundedMinutes offset : Int) else roundedMinutes offset

theorem exactDigits?_padded {n : Nat} (h : n < 100) (rest : List Char) :
    exactDigits? 2 ((padded 2 n).toList ++ rest) = some (n, rest) := by
  have hlen : (padded 2 n).toList.length = 2 := length_padded (by decide) h
  have hds : ((padded 2 n).toList ++ rest).take 2 = (padded 2 n).toList := List.take_left' hlen
  have hrun : (padded 2 n).toList.takeWhile Char.isDigit = (padded 2 n).toList :=
    List.takeWhile_eq_self_iff.mpr isDigit_padded
  simp only [exactDigits?, hds, hrun, hlen, if_true, number_padded, List.drop_left' hlen]

theorem skipSeparators_colon {n : Nat} :
    skipSeparators (':' :: (padded 2 n).toList) = some (padded 2 n).toList := by
  obtain ⟨d, ds, hds⟩ := List.exists_cons_of_ne_nil (padded_ne_nil 2 n)
  have hd : d.isDigit = true := isDigit_padded d (hds ▸ List.mem_cons_self)
  have hcolon : d ≠ ':' := by
    rintro rfl
    cases hd
  have hstop : ¬ (d == ':' || isBlank d) = true := by simp [hcolon, isBlank_of_isDigit hd]
  rw [hds, skipSeparators, List.dropWhile_cons_of_pos rfl]
  exact congrArg some (List.dropWhile_cons_of_neg hstop)

/-- Hours and minutes of an offset. -/
theorem offsetMinutes?_padded {n : Nat} (h : n ≤ 1440) :
    offsetMinutes? skipSeparators ((padded 2 (n / 60)).toList ++ ':' :: (padded 2 (n % 60)).toList) =
      some (n, []) := by
  have hhours := exactDigits?_padded (show n / 60 < 100 by omega) (':' :: (padded 2 (n % 60)).toList)
  have hminutes := exactDigits?_padded (show n % 60 < 100 by omega) []
  rw [List.append_nil] at hminutes
  simp only [offsetMinutes?, Option.bind_eq_bind, hhours, Option.bind_some, skipSeparators_colon, hminutes]
  rw [if_pos (Nat.mod_lt _ (by decide)), Nat.div_add_mod']

section Sign

variable {offset : Int}

theorem toList_offsetText (h : offset ≠ 0) :
    (offsetText offset).toList = (if offset < 0 then '-' else '+') ::
      ((padded 2 (roundedMinutes offset / 60)).toList ++ ':' ::
        (padded 2 (roundedMinutes offset % 60)).toList) := by
  have hsign : (if offset < 0 then "-" else "+").toList = [if offset < 0 then '-' else '+'] := by
    by_cases h : offset < 0
    · simp only [h, if_true]; rfl
    · simp only [h, if_false]; rfl
  rw [offsetText, if_neg h]
  simp only [String.toList_append, hsign, List.append_assoc, show ":".toList = [':'] from rfl,
    List.cons_append, List.nil_append]

theorem offsetText_head (offset : Int) :
    ∃ c rest, (offsetText offset).toList = c :: rest ∧ (c = 'Z' ∨ c = '-' ∨ c = '+') := by
  by_cases hzero : offset = 0
  · rw [hzero]
    exact ⟨'Z', [], rfl, .inl rfl⟩
  · refine ⟨_, _, toList_offsetText hzero, .inr ?_⟩
    by_cases hsign : offset < 0
    · exact .inl (if_pos hsign)
    · exact .inr (if_neg hsign)

theorem namesUniversal_cons {c : Char} (h : (c.toUpper == 'U') = false) (rest : List Char) :
    namesUniversal (c :: rest) = false := by
  match rest with
  | [] | [_] => rfl
  | _ :: _ :: _ => simp [namesUniversal, h]

/-- A sign is read before the hours and minutes. -/
theorem lenientOffset?_sign (offset : Int) (rest : List Char) :
    lenientOffset? ((if offset < 0 then '-' else '+') :: rest) =
      ((offsetMinutes? skipSeparators rest).map fun (n, r) => (if offset < 0 then -(n : Int) else n, r)).bind
        fun (minutes, r) => if minutes.natAbs < 1440 then some (minutes, r) else none := by
  by_cases hsign : offset < 0
  · simp only [hsign, if_true]
    rw [lenientOffset?, namesUniversal_cons rfl]
    rfl
  · simp only [hsign, if_false]
    rw [lenientOffset?, namesUniversal_cons rfl]
    rfl

/-- An offset is read in its whole minutes, as long as they stay below a day. -/
theorem lenientOffset?_offsetText (h : offset.natAbs < 86400) :
    lenientOffset? (offsetText offset).toList =
      if roundedMinutes offset < 1440 then some (writtenOffset offset, []) else none := by
  by_cases hzero : offset = 0
  · rw [hzero]
    rfl
  · have hminutes := offsetMinutes?_padded (n := roundedMinutes offset) (by unfold roundedMinutes; omega)
    have hsize : (writtenOffset offset).natAbs = roundedMinutes offset := by unfold writtenOffset; split <;> omega
    rw [toList_offsetText hzero, lenientOffset?_sign, hminutes, Option.map_some, Option.bind_some]
    show (if (writtenOffset offset).natAbs < 1440 then some (writtenOffset offset, []) else none) = _
    rw [hsize]

end Sign

/-! ### Whole times -/

theorem isValid_of_atOffset? {local_ t : Instant} {minutes : Int} (h : atOffset? local_ minutes = some t) :
    t.isValid = true := by
  simp only [atOffset?] at h
  split at h
  · split at h
    · next hv => exact Option.some.inj h ▸ hv
    · cases h
  · cases h

/-- The reader answers instants that exist. -/
theorem isValid_of_read? {s : String} {t : Instant} (h : read? s = some t) : t.isValid = true := by
  simp only [read?, Option.bind_eq_bind, Option.bind_eq_some_iff] at h
  obtain ⟨_, -, _, -, _, -, _, -, _, -, _, -, _, -, _, -, _, -, _, -, _, -, _, -, _, -, h⟩ := h
  split at h
  · exact isValid_of_atOffset? h
  · cases h

theorem toList_full (t : Instant) (rest : List Char) : t.full.toList ++ rest =
    (yearText t.date.year).toList ++ '-' :: ((padded 2 t.date.month).toList ++ '-' ::
      ((padded 2 t.date.day).toList ++ 'T' :: ((padded 2 t.hour).toList ++ ':' ::
        ((padded 2 t.minute).toList ++ ':' :: ((padded 2 t.second).toList ++
          ((fractionText t.nano).toList ++ rest)))))) := by
  simp only [full, String.toList_append, List.append_assoc, show "-".toList = ['-'] from rfl,
    show "T".toList = ['T'] from rfl, show ":".toList = [':'] from rfl, List.cons_append, List.nil_append]

theorem trimLeft_cons {c : Char} (h : isBlank c = false) (rest : List Char) :
    trimLeft (c :: rest) = c :: rest :=
  List.dropWhile_cons_of_neg (by rw [h]; exact Bool.false_ne_true)

theorem dayEnd?_cons (rest : List Char) : dayEnd? ('T' :: rest) = some rest := rfl

theorem mark?_cons (c : Char) (rest : List Char) : mark? c (c :: rest) = some rest := if_pos rfl

/-- What a clock shows is read as it is; what is left is a matter of the offset behind it. -/
theorem read?_full {t : Instant} (h : t.Shown) {offset : Int} (hoffset : offset.natAbs < 86400) :
    read? (t.full ++ offsetText offset) =
      if roundedMinutes offset < 1440 then atOffset? t (writtenOffset offset) else none := by
  obtain ⟨hdate, hhour, hminute, hsecond, hnano⟩ := h
  have hmonth := hdate.month_le
  have hday := Nat.le_trans hdate.day_le (Date.daysInMonth_le ..)
  have hdash := trimLeft_cons (show isBlank '-' = false from rfl)
  have hcolon := trimLeft_cons (show isBlank ':' = false from rfl)
  obtain ⟨c, rest, hchars, hc⟩ := offsetText_head offset
  have hblank : isBlank c = false := by rcases hc with rfl | rfl | rfl <;> rfl
  have hfraction : fraction? ((fractionText t.nano).toList ++ (offsetText offset).toList) =
      some (t.nano, (offsetText offset).toList) := by
    rw [hchars]
    refine fraction?_fractionText hnano (noDigit_cons ?_ rest) ?_
    · rcases hc with rfl | rfl | rfl <;> rfl
    · rcases hc with rfl | rfl | rfl <;> simp
  have htrim : trimLeft (offsetText offset).toList = (offsetText offset).toList := by
    rw [hchars, trimLeft_cons hblank]
  rw [read?, String.toList_append, toList_full]
  simp only [Option.bind_eq_bind, Option.bind_some, year?_yearText, hdash, hcolon, mark?_cons,
    dayEnd?_cons, part?_padded (show t.date.month < 100 by omega),
    part?_padded (show t.date.day < 100 by omega), part?_padded (show t.hour < 100 by omega),
    part?_padded (show t.minute < 100 by omega), part?_padded (show t.second < 100 by omega),
    hfraction, htrim, lenientOffset?_offsetText hoffset]
  split
  · rfl
  · rfl

end Instant

namespace ZonedTime
open Instant

variable {zone : Zone} {t : ZonedTime}

/-- A time as the reader answers it: an instant that exists, on clocks less than a day ahead. -/
structure IsTime (t : ZonedTime) : Prop where
  instant : t.instant.isValid = true
  offset : t.offset.natAbs < 86400

/-- The reader answers times of its own zone. -/
theorem isTime_of_read? {s : String} (h : read? zone s = some t) : t.IsTime ∧ t = zone.time t.instant := by
  obtain ⟨instant, hread, rfl⟩ := Option.map_eq_some_iff.mp h
  exact ⟨⟨isValid_of_read? hread, zone.natAbs_lt instant⟩, rfl⟩

namespace IsTime

variable (h : t.IsTime)

include h

theorem shown : t.clock.Shown := ((isValid_iff _).mp h.instant).1.ahead h.offset

/-- A written time is read as the instant at which clocks with the written offset show it. -/
theorem read?_exact :
    read? zone t.exact =
      if roundedMinutes t.offset < 1440 then
        (atOffset? t.clock (writtenOffset t.offset)).map zone.time
      else none := by
  rw [read?, exact, read?_full h.shown h.offset]
  split
  · rfl
  · rfl

/-- Going back by a written offset restores the instant exactly if nothing was rounded off. -/
theorem ahead_writtenOffset (hminutes : roundedMinutes t.offset < 1440) :
    t.clock.ahead (-60 * writtenOffset t.offset) = t.instant ↔ 60 ∣ t.offset := by
  have hshown := ((isValid_iff _).mp h.instant).1
  have hback : (-60 * writtenOffset t.offset).natAbs < 86400 := by
    unfold writtenOffset
    split <;> omega
  constructor
  · -- The minutes that are taken off leave the second as the clocks show it.
    intro heq
    have hsecond : (t.clock.ahead (-60 * writtenOffset t.offset)).second = t.clock.second :=
      (second_ahead_iff h.shown hback).mpr (Int.dvd_trans (by decide) (Int.dvd_mul_right ..))
    rw [heq] at hsecond
    exact (second_ahead_iff hshown h.offset).mp hsecond.symm
  · intro hwhole
    have hexact : -60 * writtenOffset t.offset = -t.offset := by
      unfold writtenOffset roundedMinutes
      split <;> omega
    rw [hexact]
    exact ahead_ahead_neg hshown h.offset hwhole

/-- A time is read as it was exactly if its offset is in whole minutes and its clocks showed a day of
the calendar. -/
theorem read?_exact_iff :
    read? zone t.exact = some (zone.time t.instant) ↔ t.clock.isValid = true ∧ 60 ∣ t.offset := by
  rw [h.read?_exact]
  by_cases hminutes : roundedMinutes t.offset < 1440
  · rw [if_pos hminutes, ← h.ahead_writtenOffset hminutes, atOffset?]
    by_cases hclock : t.clock.isValid = true
    · rw [if_pos hclock]
      by_cases hsame : t.clock.ahead (-60 * writtenOffset t.offset) = t.instant
      · simp only [hsame, h.instant, if_true, Option.map_some, hclock, and_self]
      · simp only [hclock, hsame, and_false, iff_false]
        intro hread
        split at hread
        · exact hsame (congrArg ZonedTime.instant (Option.some.inj hread))
        · cases hread
    · rw [if_neg hclock, Option.map_none]
      exact ⟨nofun, fun hboth => absurd hboth.1 hclock⟩
  · rw [if_neg hminutes]
    have hpart : ¬ 60 ∣ t.offset := by
      have hday := h.offset
      unfold roundedMinutes at hminutes
      omega
    exact ⟨nofun, fun hboth => absurd hboth.2 hpart⟩

/-- On the clocks of Universal Time every time is of the calendar, and elsewhere it is except in the
first and the last year. -/
theorem clock_isValid (hyear : t.offset = 0 ∨
    Date.minYear < t.instant.date.year ∧ t.instant.date.year < Date.maxYear) : t.clock.isValid = true := by
  have hinstant := (isValid_iff _).mp h.instant
  rcases hyear with hzero | ⟨hlow, hhigh⟩
  · rw [clock, hzero, ahead_zero hinstant.1]
    exact h.instant
  · have hyears := year_ahead hinstant.1 h.offset
    exact (isValid_iff _).mpr ⟨h.shown, by rw [clock]; omega⟩

end IsTime

end ZonedTime

end PageAudit
