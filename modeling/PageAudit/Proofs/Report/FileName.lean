import PageAudit.Proofs.Instant.RoundTrip
import PageAudit.Proofs.Report.Folder
import PageAudit.Proofs.Text.SingleLine
/-!
Names of saved reports. Addresses are written by anybody, but of the host in one only letters, digits,
points and hyphens come into the name, and a stamp has digits and hyphens, and a sign if the year needs one.
`fileName_contained` says what follows: whatever the address and the year, the name is one name along a
path, so a report stands in its folder and nowhere else, and no report in one format takes the place of one
in the other.
-/
namespace PageAudit

/-! ### The characters of a stamp -/

namespace Instant

/-- A character of a stamp that is not the sign of a year after 9999. -/
def isStampChar (c : Char) : Bool := c.isDigit || c == '-'

theorem padded_stampChars (width n : Nat) : ∀ c ∈ (padded width n).toList, isStampChar c = true := by
  intro c hc
  simp [isStampChar, isDigit_padded c hc]

/-- A year after 9999 has a plus sign in front, and no other character of a year is special. -/
theorem yearText_chars (year : Int) :
    ∃ digits : String, (∀ c ∈ digits.toList, isStampChar c = true) ∧
      yearText year = (if 9999 < year then "+" else "") ++ digits := by
  unfold yearText
  by_cases hyear : 0 ≤ year ∧ year ≤ 9999
  · refine ⟨padded 4 year.toNat, padded_stampChars _ _, ?_⟩
    simp [hyear.1, hyear.2, Int.not_lt.mpr hyear.2]
  · by_cases hneg : year < 0
    · refine ⟨"-" ++ padded 4 year.natAbs, ?_, ?_⟩
      · rw [String.toList_append]
        exact List.forall_mem_append.mpr ⟨by simp [isStampChar], padded_stampChars _ _⟩
      · have hsmall : ¬ 9999 < year := by omega
        simp [hneg, hsmall, Int.not_le.mpr hneg]
    · have hlate : 9999 < year := by omega
      exact ⟨padded 4 year.natAbs, padded_stampChars _ _, by simp [hneg, hlate, Int.not_le.mpr hlate]⟩

theorem stamp_chars (t : Instant) :
    ∃ rest : String, (∀ c ∈ rest.toList, isStampChar c = true) ∧
      t.stamp = (if 9999 < t.date.year then "+" else "") ++ rest := by
  obtain ⟨year, hyear, htext⟩ := yearText_chars t.date.year
  refine ⟨year ++ padded 2 t.date.month ++ padded 2 t.date.day ++ "-" ++ padded 2 t.hour ++
    padded 2 t.minute ++ padded 2 t.second, ?_, ?_⟩
  · simp only [String.toList_append, List.forall_mem_append]
    have hpart (n : Nat) := padded_stampChars 2 n
    have hhyphen : ∀ c ∈ "-".toList, isStampChar c = true := by simp [isStampChar]
    exact ⟨⟨⟨⟨⟨⟨hyear, hpart _⟩, hpart _⟩, hhyphen⟩, hpart _⟩, hpart _⟩, hpart _⟩
  · simp only [stamp, htext, String.append_assoc]

end Instant

namespace Report
open Instant

/-! ### The characters of a name -/

/-- A character that every name of a report may have. -/
def isPlainChar (c : Char) : Bool := isNameChar c || c == '_'

theorem isPlainChar_of_isStampChar {c : Char} (h : isStampChar c = true) : isPlainChar c = true := by
  rw [isStampChar, Bool.or_eq_true] at h
  rcases h with h | h <;> simp [isPlainChar, isNameChar, Char.isAlphanum, h]

theorem plainName_chars (host : String) : ∀ c ∈ (plainName host).toList, isPlainChar c = true := by
  intro c hc
  rw [plainName, String.toList_ofList, List.mem_map] at hc
  obtain ⟨d, -, rfl⟩ := hc
  by_cases hd : isNameChar d = true
  · simp [isPlainChar, hd]
  · simp [isPlainChar, hd]

/-- A name has plain characters around the sign of its year. -/
theorem fileName_chars (r : AuditResult) (format : Format) :
    ∃ front back : String, (∀ c ∈ front.toList, isPlainChar c = true) ∧
      (∀ c ∈ back.toList, isPlainChar c = true) ∧
      fileName r format = front ++ (if 9999 < r.scanTime.clock.date.year then "+" else "") ++ back ∧
      "audit-".toList <+: front.toList ∧ ("." ++ format.ending).toList <:+ back.toList := by
  obtain ⟨rest, hrest, hstamp⟩ := stamp_chars r.scanTime.clock
  refine ⟨"audit-" ++ plainName (hostOf r.url) ++ "-", rest ++ "." ++ format.ending, ?_, ?_, ?_, ?_, ?_⟩
  · simp only [String.toList_append, List.forall_mem_append]
    exact ⟨⟨by simp [isPlainChar, isNameChar], plainName_chars _⟩, by simp [isPlainChar, isNameChar]⟩
  · simp only [String.toList_append, List.forall_mem_append]
    refine ⟨⟨fun c hc => isPlainChar_of_isStampChar (hrest c hc), by simp [isPlainChar, isNameChar]⟩, ?_⟩
    cases format <;> simp [Format.ending, isPlainChar, isNameChar]
  · simp only [fileName, ZonedTime.stamp, hstamp, String.append_assoc]
  · simp only [String.toList_append, List.append_assoc]
    exact List.prefix_append ..
  · simp only [String.toList_append, List.append_assoc]
    exact List.suffix_append ..

variable {r : AuditResult} {format : Format}

theorem mem_fileName {c : Char} (hc : c ∈ (fileName r format).toList) : isPlainChar c = true ∨ c = '+' := by
  obtain ⟨front, back, hfront, hback, hname, -⟩ := fileName_chars r format
  rw [hname, String.toList_append, String.toList_append, List.mem_append, List.mem_append] at hc
  rcases hc with (hc | hc) | hc
  · exact .inl (hfront c hc)
  · by_cases hyear : 9999 < r.scanTime.clock.date.year
    · exact .inr (by simpa [hyear] using hc)
    · simp [hyear] at hc
  · exact .inl (hback c hc)

/-- No other character gets into a name. -/
theorem notMem_fileName {c : Char} (hplain : isPlainChar c = false) (hplus : c ≠ '+') :
    c ∉ (fileName r format).toList := by
  intro hc
  rcases mem_fileName hc with h | h
  · rw [hplain] at h
    cases h
  · exact hplus h

theorem count_plus (r : AuditResult) (format : Format) :
    (fileName r format).toList.count '+' = if 9999 < r.scanTime.clock.date.year then 1 else 0 := by
  obtain ⟨front, back, hfront, hback, hname, -⟩ := fileName_chars r format
  have hplus (s : String) (h : ∀ c ∈ s.toList, isPlainChar c = true) : s.toList.count '+' = 0 :=
    List.count_eq_zero.mpr fun hc => absurd (h _ hc) (by decide)
  rw [hname, String.toList_append, String.toList_append, List.count_append, List.count_append,
    hplus front hfront, hplus back hback]
  split <;> rfl

theorem prefix_fileName (r : AuditResult) (format : Format) : "audit-".toList <+: (fileName r format).toList := by
  obtain ⟨front, back, -, -, hname, hprefix, -⟩ := fileName_chars r format
  rw [hname, String.toList_append, String.toList_append, List.append_assoc]
  exact hprefix.trans (List.prefix_append ..)

theorem suffix_fileName (r : AuditResult) (format : Format) :
    ("." ++ format.ending).toList <:+ (fileName r format).toList := by
  obtain ⟨front, back, -, -, hname, -, hsuffix⟩ := fileName_chars r format
  refine hsuffix.trans ?_
  rw [hname, String.toList_append]
  exact List.suffix_append ..

/-- The format can be told from the end of a name. -/
theorem fileName_ne (r other : AuditResult) : fileName r .text ≠ fileName other .json := by
  intro h
  have htext := suffix_fileName r .text
  have hjson := suffix_fileName other .json
  rw [← h] at hjson
  have hends := List.suffix_of_suffix_length_le htext hjson (by decide)
  revert hends
  decide

/-! ### Paths -/

/-- The names along a path. -/
def pathNames (path : String) : List String :=
  (Text.splitAll (· == '/') path.toList).map String.ofList

/-- A name without a slash is one more name along the path. -/
theorem pathNames_append {name : String} (h : '/' ∉ name.toList) (dir : String) :
    pathNames (dir ++ "/" ++ name) = pathNames dir ++ [name] := by
  have hname : ∀ c ∈ name.toList, (c == '/') = false := by
    intro c hc
    exact beq_eq_false_iff_ne.mpr fun he => h (he ▸ hc)
  have htext : (dir ++ "/" ++ name).toList = dir.toList ++ '/' :: name.toList := by
    simp
  rw [pathNames, htext, Text.splitAll_append rfl, Text.splitAll_solid hname, List.map_append]
  simp [pathNames]

/-- **A report stays in its folder.** Whatever was audited and whenever, the name of a report has no
characters but letters and digits of ASCII, points, hyphens, underscores and the plus sign of a late year;
it has its beginning and the ending of its format; it is one further name along the path of the folder, and
neither the folder itself nor the one above; and no report in text is named like one in JSON. -/
theorem fileName_contained (r : AuditResult) (format : Format) :
    let name := fileName r format
    (∀ c ∈ name.toList, c.isAlphanum = true ∨ c ∈ ['.', '-', '_', '+']) ∧
    name.toList.count '+' = (if 9999 < r.scanTime.clock.date.year then 1 else 0) ∧
    "audit-".toList <+: name.toList ∧
    (match format with | .text => ".txt" | .json => ".json").toList <:+ name.toList ∧
    '/' ∉ name.toList ∧ '\\' ∉ name.toList ∧ '\x00' ∉ name.toList ∧
    name ≠ "." ∧ name ≠ ".." ∧
    (∀ dir, pathNames (dir ++ "/" ++ name) = pathNames dir ++ [name]) ∧
    (∀ (f : Folder) dir target, (f.save dir r format).2 = .ok target →
      pathNames target = pathNames dir ++ [name]) ∧
    (∀ other, fileName r .text ≠ fileName other .json) := by
  intro name
  have hslash : '/' ∉ name.toList := notMem_fileName (by decide) (by decide)
  have hprefix : "audit-".toList <+: name.toList := prefix_fileName r format
  have hne {other : String} (h : ¬ "audit-".toList <+: other.toList) : name ≠ other := by
    rintro rfl
    exact h hprefix
  refine ⟨fun c hc => ?_, count_plus r format, hprefix, ?_, hslash, notMem_fileName (by decide) (by decide),
    notMem_fileName (by decide) (by decide), hne (by decide), hne (by decide), pathNames_append hslash,
    fun f dir target h => ?_, fileName_ne r⟩
  · rcases mem_fileName hc with h | h
    · simp only [isPlainChar, isNameChar, Bool.or_eq_true, beq_iff_eq] at h
      rcases h with ((h | h) | h) | h <;> simp [h]
    · simp [h]
  · have hending : (match format with | .text => ".txt" | .json => ".json") = "." ++ format.ending := by
      cases format <;> rfl
    rw [hending]
    exact suffix_fileName r format
  · rw [Folder.path_of_save h]
    exact pathNames_append hslash dir

/-- A host in brackets and a year of five digits: the report is saved, and it stands in the folder. -/
theorem fileName_contained_brackets :
    let r := AuditResult.failed "http://[::1]:8080/../a" ⟨⟨⟨12025, 3, 14⟩, 9, 26, 53, 0⟩, 0⟩ "no answer"
    fileName r .json = "audit-___1_-+120250314-092653.json" ∧
    (Folder.absent.save "data/reports" r .json).2 =
      .ok "data/reports/audit-___1_-+120250314-092653.json" ∧
    pathNames "data/reports/audit-___1_-+120250314-092653.json" =
      pathNames "data/reports" ++ ["audit-___1_-+120250314-092653.json"] := by
  intro r
  have hname : fileName r .json = "audit-___1_-+120250314-092653.json" := by decide +kernel
  have hadmits : Folder.absent.Admits (fileName r .json) := by decide +kernel
  have hsaved : (Folder.absent.save "data/reports" r .json).2 =
      .ok "data/reports/audit-___1_-+120250314-092653.json" := by
    rw [Folder.save_of_admits hadmits, hname]
    decide +kernel
  obtain ⟨-, -, -, -, -, -, -, -, -, -, hplaced, -⟩ := fileName_contained r .json
  exact ⟨hname, hsaved, hname ▸ hplaced _ _ _ hsaved⟩

end Report

end PageAudit
