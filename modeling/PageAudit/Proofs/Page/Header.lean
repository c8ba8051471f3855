import PageAudit.Page.Basic
/-!
Looking up headers. What the lookup answers depends on nothing but the values of the lines with that name,
in their order (`header?_congr`): not on the case in which a name is written, and on no line between them.
A further line matters to its own name alone, for which it is the value (`header?_append_first`) or is added
to the value there is (`header?_append_again`).
-/
namespace PageAudit

/-- A name is told by its letters in lower case. -/
theorem Header.isNamed_eq (h : Header) (name : String) :
    h.isNamed name = (h.name.toList.map Char.toLower == name.toList.map Char.toLower) := by
  rw [isNamed, Bool.eq_iff_iff, beq_iff_eq, beq_iff_eq, ← String.toList_inj]
  show (h.name.map Char.toLower).toList = (name.map Char.toLower).toList ↔ _
  rw [String.toList_map, String.toList_map]

/-- The bytes of the lines of a name, in order. -/
def bytesOf (headers : List Header) (name : String) : List (List UInt8) :=
  (headers.filter (·.isNamed name)).map (·.value)

/-- How a header line reads, by its bytes. -/
def Header.textOf (value : List UInt8) : String :=
  if value.all isTextByte then String.ofList (value.map fun b => Char.ofNat b.toNat) else unreadable

theorem headerValues_eq (headers : List Header) (name : String) :
    headerValues headers name = (bytesOf headers name).map Header.textOf := by
  rw [headerValues, bytesOf, List.map_map]
  rfl

theorem header?_congr {headers headers' : List Header} {name : String}
    (h : bytesOf headers name = bytesOf headers' name) : header? headers name = header? headers' name := by
  rw [header?, header?, headerValues_eq, headerValues_eq, h]

/-- A header has a value exactly when there is a line of its name. -/
theorem hasHeader_eq (headers : List Header) (name : String) :
    hasHeader headers name = (header? headers name).isSome := by
  unfold hasHeader header? headerValues
  cases hlines : headers.filter (·.isNamed name) with
  | nil =>
    rw [List.any_eq_false.mpr (List.filter_eq_nil_iff.mp hlines)]
    rfl
  | cons line rest =>
    have hline : line ∈ headers.filter (·.isNamed name) := hlines ▸ List.mem_cons_self ..
    exact List.any_eq_true.mpr ⟨line, List.mem_filter.mp hline⟩

/-! ### A further line -/

section
variable {headers : List Header} {line : Header} {name : String}

theorem headerValues_append_named (h : line.isNamed name = true) :
    headerValues (headers ++ [line]) name = headerValues headers name ++ [line.text] := by
  have hone : [line].filter (·.isNamed name) = [line] := List.filter_cons_of_pos h
  rw [headerValues, List.filter_append, hone, List.map_append]
  rfl

theorem header?_append_other (h : line.isNamed name = false) :
    header? (headers ++ [line]) name = header? headers name := by
  have hnone : [line].filter (·.isNamed name) = [] := List.filter_cons_of_neg (by rw [h]; decide)
  have hvalues : headerValues (headers ++ [line]) name = headerValues headers name := by
    rw [headerValues, List.filter_append, hnone, List.append_nil]
    rfl
  rw [header?, header?, hvalues]

theorem headerValues_of_header? {value : String} (h : header? headers name = some value) :
    headerValues headers name ≠ [] ∧ value = ", ".intercalate (headerValues headers name) := by
  unfold header? at h
  split at h
  · cases h
  · next hne => exact ⟨hne, (Option.some.inj h).symm⟩

theorem headerValues_of_none (h : header? headers name = none) : headerValues headers name = [] := by
  unfold header? at h
  split at h
  · assumption
  · cases h

/-- The first line of a name is its value. -/
theorem header?_append_first (h : line.isNamed name = true) (hnone : header? headers name = none) :
    header? (headers ++ [line]) name = some line.text := by
  rw [header?, headerValues_append_named h, headerValues_of_none hnone]
  exact congrArg some String.intercalate_singleton

/-- A repeated line is added to the value, after a comma. -/
theorem header?_append_again {value : String} (h : line.isNamed name = true)
    (hvalue : header? headers name = some value) :
    header? (headers ++ [line]) name = some (value ++ ", " ++ line.text) := by
  obtain ⟨hne, rfl⟩ := headerValues_of_header? hvalue
  have hcons : headerValues headers name ++ [line.text] ≠ [] := List.append_ne_nil_of_left_ne_nil hne _
  rw [header?, headerValues_append_named h]
  split
  · contradiction
  · rw [String.intercalate_append_of_ne_nil hne (List.cons_ne_nil _ _), String.intercalate_singleton]

end

theorem Page.hasHeader_eq (page : Page) (name : String) :
    page.hasHeader name = (page.header? name).isSome :=
  PageAudit.hasHeader_eq ..

end PageAudit
