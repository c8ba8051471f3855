import PageAudit.Instant.Basic
/-!
Clocks that are ahead of each other by less than a day. `ahead` carries a day back or on, or none,
and there is a lemma for each of the three. A clock that is ahead by whole minutes shows the same
second, also a leap second (`second_ahead_iff`), and setting it back gives what was there before
(`ahead_ahead_neg`). By other amounts a leap second is lost on the way.
-/
namespace PageAudit

/-! ### Days -/

namespace Date

/-- A day that exists, in any year. -/
structure IsDay (d : Date) : Prop where
  month_pos : 1 ≤ d.month
  month_le : d.month ≤ 12
  day_pos : 1 ≤ d.day
  day_le : d.day ≤ daysInMonth d.year d.month

theorem isValid_iff (d : Date) : d.isValid = true ↔ d.IsDay ∧ minYear ≤ d.year ∧ d.year ≤ maxYear := by
  simp only [isValid, Bool.and_eq_true, decide_eq_true_iff]
  constructor
  · rintro ⟨⟨⟨⟨⟨hlow, hhigh⟩, hmonth⟩, hmonth'⟩, hday⟩, hday'⟩
    exact ⟨⟨hmonth, hmonth', hday, hday'⟩, hlow, hhigh⟩
  · rintro ⟨⟨hmonth, hmonth', hday, hday'⟩, hlow, hhigh⟩
    exact ⟨⟨⟨⟨⟨hlow, hhigh⟩, hmonth⟩, hmonth'⟩, hday⟩, hday'⟩

theorem daysInMonth_pos (year : Int) (month : Nat) : 1 ≤ daysInMonth year month := by
  unfold daysInMonth
  split
  · split <;> decide
  · split <;> decide

theorem daysInMonth_le (year : Int) (month : Nat) : daysInMonth year month ≤ 31 := by
  unfold daysInMonth
  split
  · split <;> decide
  · split <;> decide

variable {d : Date}

theorem IsDay.next (h : d.IsDay) : d.next.IsDay := by
  obtain ⟨hmonth, hmonth', hday, hday'⟩ := h
  unfold Date.next
  split
  · next hlast => exact ⟨hmonth, hmonth', Nat.le_add_left .., hlast⟩
  · split
    · next hyear => exact ⟨Nat.le_add_left .., hyear, Nat.le_refl 1, daysInMonth_pos ..⟩
    · exact ⟨Nat.le_refl 1, Nat.le_add_left 1 11, Nat.le_refl 1, daysInMonth_pos ..⟩

theorem IsDay.previous (h : d.IsDay) : d.previous.IsDay := by
  obtain ⟨hmonth, hmonth', hday, hday'⟩ := h
  unfold Date.previous
  split
  · next hfirst => exact ⟨hmonth, hmonth', Nat.le_sub_one_of_lt hfirst, Nat.le_trans (Nat.sub_le ..) hday'⟩
  · split
    · next hyear =>
      exact ⟨Nat.le_sub_one_of_lt hyear, Nat.le_trans (Nat.sub_le ..) hmonth', daysInMonth_pos .., Nat.le_refl _⟩
    · exact ⟨Nat.le_add_left 1 11, Nat.le_refl 12, Nat.le_add_left 1 30, Nat.le_refl 31⟩

theorem IsDay.previous_next (h : d.IsDay) : d.next.previous = d := by
  obtain ⟨year, month, day⟩ := d
  obtain ⟨hmonth, hmonth', hday, hday'⟩ := h
  dsimp only at hmonth hmonth' hday hday'
  simp only [Date.next]
  split
  · simp only [Date.previous, if_pos (Nat.lt_add_of_pos_left hday), Nat.add_sub_cancel]
  · next hlast =>
    have hlast : daysInMonth year month = day := Nat.le_antisymm (Nat.not_lt.mp hlast) hday'
    split
    · next hyear =>
      simp only [Date.previous, Nat.lt_irrefl, if_false, if_pos (Nat.lt_add_of_pos_left hmonth),
        Nat.add_sub_cancel, hlast]
    · next hyear =>
      obtain rfl : month = 12 := Nat.le_antisymm hmonth' (Nat.not_lt.mp hyear)
      obtain rfl : 31 = day := hlast
      simp only [Date.previous, Nat.lt_irrefl, if_false, Int.add_sub_cancel]

theorem IsDay.next_previous (h : d.IsDay) : d.previous.next = d := by
  obtain ⟨year, month, day⟩ := d
  obtain ⟨hmonth, hmonth', hday, hday'⟩ := h
  dsimp only at hmonth hmonth' hday hday'
  simp only [Date.previous]
  split
  · next hfirst =>
    have hlast : day - 1 < daysInMonth year month := Nat.lt_of_lt_of_le (Nat.sub_lt hday (by decide)) hday'
    simp only [Date.next, if_pos hlast, Nat.sub_add_cancel hday]
  · next hfirst =>
    obtain rfl : day = 1 := Nat.le_antisymm (Nat.not_lt.mp hfirst) hday
    split
    · next hyear =>
      have hbelow : month - 1 < 12 := Nat.lt_of_lt_of_le (Nat.sub_lt hmonth (by decide)) hmonth'
      simp only [Date.next, Nat.lt_irrefl, if_false, if_pos hbelow, Nat.sub_add_cancel hmonth]
    · next hyear =>
      obtain rfl : month = 1 := Nat.le_antisymm (Nat.not_lt.mp hyear) hmonth
      have hdecember : ¬ 31 < daysInMonth (year - 1) 12 := Nat.lt_irrefl 31
      simp only [Date.next, if_neg hdecember, Nat.lt_irrefl, if_false, Int.sub_add_cancel]

theorem year_next (d : Date) : d.year ≤ d.next.year ∧ d.next.year ≤ d.year + 1 := by
  unfold Date.next
  split
  · exact ⟨Int.le_refl _, by dsimp only; omega⟩
  · split
    · exact ⟨Int.le_refl _, by dsimp only; omega⟩
    · exact ⟨by dsimp only; omega, Int.le_refl _⟩

theorem year_previous (d : Date) : d.year - 1 ≤ d.previous.year ∧ d.previous.year ≤ d.year := by
  unfold Date.previous
  split
  · exact ⟨by dsimp only; omega, Int.le_refl _⟩
  · split
    · exact ⟨by dsimp only; omega, Int.le_refl _⟩
    · exact ⟨Int.le_refl _, by dsimp only; omega⟩

end Date

/-! ### Times of a day -/

namespace Instant

/-- A time that a clock can show, on a day that exists in any year. -/
structure Shown (t : Instant) : Prop where
  date : t.date.IsDay
  hour : t.hour < 24
  minute : t.minute < 60
  second : t.second ≤ 60
  nano : t.nano < 1000000000

theorem isValid_iff (t : Instant) :
    t.isValid = true ↔ t.Shown ∧ Date.minYear ≤ t.date.year ∧ t.date.year ≤ Date.maxYear := by
  simp only [isValid, Bool.and_eq_true, decide_eq_true_iff, Date.isValid_iff]
  constructor
  · rintro ⟨⟨⟨⟨⟨hdate, hyear⟩, hhour⟩, hminute⟩, hsecond⟩, hnano⟩
    exact ⟨⟨hdate, hhour, hminute, hsecond, hnano⟩, hyear⟩
  · rintro ⟨⟨hdate, hhour, hminute, hsecond, hnano⟩, hyear⟩
    exact ⟨⟨⟨⟨⟨hdate, hyear⟩, hhour⟩, hminute⟩, hsecond⟩, hnano⟩

/-- The second of its day, in which a leap second is the one before it. -/
def secondOfDay (t : Instant) : Nat := (t.hour * 60 + t.minute) * 60 + min t.second 59

/-- The same part of a second of another day. -/
def atSecond (t : Instant) (date : Date) (n : Nat) : Instant :=
  ⟨date, n / 3600, n / 60 % 60, n % 60 + (t.second - 59), t.nano⟩

variable {t : Instant} {s : Int}

theorem Shown.secondOfDay_lt (h : t.Shown) : t.secondOfDay < 86400 := by
  have hhour := h.hour
  have hminute := h.minute
  unfold secondOfDay
  omega

theorem Shown.atSecond (h : t.Shown) {date : Date} (hdate : date.IsDay) {n : Nat} (hn : n < 86400) :
    (t.atSecond date n).Shown where
  date := hdate
  hour := Nat.div_lt_of_lt_mul hn
  minute := Nat.mod_lt _ (by decide)
  second := by
    have hsecond := h.second
    simp only [Instant.atSecond]
    omega
  nano := h.nano

theorem atSecond_secondOfDay (hminute : t.minute < 60) : t.atSecond t.date t.secondOfDay = t := by
  have hhour : t.secondOfDay / 3600 = t.hour := by unfold secondOfDay; omega
  have hmin : t.secondOfDay / 60 % 60 = t.minute := by unfold secondOfDay; omega
  have hsec : t.secondOfDay % 60 + (t.second - 59) = t.second := by unfold secondOfDay; omega
  simp only [atSecond, hhour, hmin, hsec]

theorem ahead_before (h : (t.secondOfDay : Int) + s < 0) :
    t.ahead s = t.atSecond t.date.previous (t.secondOfDay + s + 86400).toNat := by
  simp only [ahead, secondOfDay] at h ⊢
  rw [if_pos h]
  rfl

theorem ahead_within (h : 0 ≤ (t.secondOfDay : Int) + s) (h' : (t.secondOfDay : Int) + s < 86400) :
    t.ahead s = t.atSecond t.date (t.secondOfDay + s).toNat := by
  simp only [ahead, secondOfDay] at h h' ⊢
  rw [if_neg (Int.not_lt.mpr h), if_neg (Int.not_le.mpr h')]
  rfl

theorem ahead_after (h : 86400 ≤ (t.secondOfDay : Int) + s) :
    t.ahead s = t.atSecond t.date.next (t.secondOfDay + s - 86400).toNat := by
  have hpos : ¬ (t.secondOfDay : Int) + s < 0 := by omega
  simp only [ahead, secondOfDay] at h hpos ⊢
  rw [if_neg hpos, if_pos h]
  rfl

/-- The clock shows a second of the day before, of the same day or of the next one. -/
theorem ahead_cases (h : t.Shown) (hs : s.natAbs < 86400) :
    ∃ date n, n < 86400 ∧ t.ahead s = t.atSecond date n ∧
      (date = t.date.previous ∧ (n : Int) = t.secondOfDay + s + 86400 ∨
        date = t.date ∧ (n : Int) = t.secondOfDay + s ∨
        date = t.date.next ∧ (n : Int) = t.secondOfDay + s - 86400) := by
  have hday := h.secondOfDay_lt
  by_cases hlow : (t.secondOfDay : Int) + s < 0
  · exact ⟨_, _, by omega, ahead_before hlow, .inl ⟨rfl, by omega⟩⟩
  · by_cases hhigh : 86400 ≤ (t.secondOfDay : Int) + s
    · exact ⟨_, _, by omega, ahead_after hhigh, .inr (.inr ⟨rfl, by omega⟩)⟩
    · exact ⟨_, _, by omega, ahead_within (Int.not_lt.mp hlow) (Int.not_le.mp hhigh), .inr (.inl ⟨rfl, by omega⟩)⟩

theorem Shown.ahead (h : t.Shown) (hs : s.natAbs < 86400) : (t.ahead s).Shown := by
  obtain ⟨date, n, hn, heq, hdate⟩ := ahead_cases h hs
  rw [heq]
  refine h.atSecond ?_ hn
  rcases hdate with ⟨rfl, -⟩ | ⟨rfl, -⟩ | ⟨rfl, -⟩
  · exact h.date.previous
  · exact h.date
  · exact h.date.next

/-- Only clocks that differ by whole minutes show the same second. -/
theorem second_ahead_iff (h : t.Shown) (hs : s.natAbs < 86400) : (t.ahead s).second = t.second ↔ 60 ∣ s := by
  obtain ⟨date, n, -, heq, hdate⟩ := ahead_cases h hs
  have hn : ∃ k : Int, (n : Int) = t.secondOfDay + s + 86400 * k := by
    rcases hdate with ⟨-, hn⟩ | ⟨-, hn⟩ | ⟨-, hn⟩
    · exact ⟨1, by omega⟩
    · exact ⟨0, by omega⟩
    · exact ⟨-1, by omega⟩
  obtain ⟨k, hn⟩ := hn
  rw [heq]
  simp only [atSecond, secondOfDay] at hn ⊢
  omega

theorem ahead_zero (h : t.Shown) : t.ahead 0 = t := by
  have hday := h.secondOfDay_lt
  rw [ahead_within (by omega) (by omega), Int.add_zero, Int.toNat_natCast, atSecond_secondOfDay h.minute]

/-- A second of a day that differs by whole minutes is a leap second if the other one is. -/
theorem secondOfDay_atSecond (h : t.second ≤ 60) (date : Date) {n : Nat} (hn : n % 60 = t.secondOfDay % 60) :
    (t.atSecond date n).secondOfDay = n ∧ (t.atSecond date n).second - 59 = t.second - 59 := by
  simp only [atSecond, secondOfDay] at hn ⊢
  omega

/-- Going on by whole minutes and back again ends where it began. -/
theorem ahead_ahead_neg (h : t.Shown) (hs : s.natAbs < 86400) (hwhole : 60 ∣ s) :
    (t.ahead s).ahead (-s) = t := by
  obtain ⟨date, n, hn, heq, hdate⟩ := ahead_cases h hs
  have hday := h.secondOfDay_lt
  obtain ⟨hsecond, hleap⟩ := secondOfDay_atSecond h.second date (show n % 60 = _ by omega)
  have hback (d : Date) (m : Nat) : (t.atSecond date n).atSecond d m = t.atSecond d m := by
    rw [atSecond, hleap]
    rfl
  have hsame : t.atSecond t.date t.secondOfDay = t := atSecond_secondOfDay h.minute
  rw [heq]
  rcases hdate with ⟨rfl, hn'⟩ | ⟨rfl, hn'⟩ | ⟨rfl, hn'⟩
  · rw [ahead_after (by omega), hback, hsecond, show (n + -s - 86400 : Int).toNat = t.secondOfDay by omega]
    exact (congrArg (t.atSecond · _) h.date.next_previous).trans hsame
  · rw [ahead_within (by omega) (by omega), hback, hsecond, show (n + -s : Int).toNat = t.secondOfDay by omega]
    exact hsame
  · rw [ahead_before (by omega), hback, hsecond, show (n + -s + 86400 : Int).toNat = t.secondOfDay by omega]
    exact (congrArg (t.atSecond · _) h.date.previous_next).trans hsame

/-- A clock may show the year before or after, at the ends of a year. -/
theorem year_ahead (h : t.Shown) (hs : s.natAbs < 86400) :
    t.date.year - 1 ≤ (t.ahead s).date.year ∧ (t.ahead s).date.year ≤ t.date.year + 1 := by
  obtain ⟨date, n, -, heq, hdate⟩ := ahead_cases h hs
  rw [heq]
  show _ ≤ date.year ∧ date.year ≤ _
  have hprevious := t.date.year_previous
  have hnext := t.date.year_next
  rcases hdate with ⟨rfl, -⟩ | ⟨rfl, -⟩ | ⟨rfl, -⟩ <;> omega

end Instant

end PageAudit
