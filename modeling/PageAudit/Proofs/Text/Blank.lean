import PageAudit.Text.Blank
import Mathlib.Data.List.DropRight
/-!
Trimming. What is left of a text neither begins nor ends with a blank (`trim_trim`, `trim_eq_self_iff`),
nothing is left exactly when the text is blank (`trimmed_eq_empty_iff`), and blanks around a text do not
change what is left of it (`trim_blank_append`, `trim_append_blank`).
-/
namespace PageAudit.Text

theorem trim_eq (cs : List Char) : trim cs = (cs.dropWhile isBlank).rdropWhile isBlank := rfl

/-- Dropping the blanks at the end uncovers no blank in front. -/
theorem trimLeft_trim (cs : List Char) : trimLeft (trim cs) = trim cs := by
  refine List.dropWhile_eq_self_iff.mpr fun hpos hblank => ?_
  obtain ⟨rest, hrest⟩ := List.rdropWhile_prefix isBlank (cs.dropWhile isBlank)
  -- the first character that is left is the first one that is not blank
  have hne : cs.dropWhile isBlank ≠ [] := fun h => by
    rw [trim_eq, h] at hpos
    simp at hpos
  have hhead : (cs.dropWhile isBlank).head hne = (trim cs)[0] := by
    rw [List.head_eq_getElem, List.getElem_of_eq hrest.symm, List.getElem_append_left]
    rfl
  have := List.head_dropWhile_not isBlank hne
  rw [hhead, hblank] at this
  cases this

theorem trim_trim (cs : List Char) : trim (trim cs) = trim cs := by
  show trimRight (trimLeft (trim cs)) = trim cs
  rw [trimLeft_trim]
  exact List.rdropWhile_idempotent isBlank _

theorem trimmed_trimmed (s : String) : trimmed (trimmed s) = trimmed s := by
  unfold trimmed
  rw [String.toList_ofList, trim_trim]

theorem trim_eq_nil_iff {cs : List Char} : trim cs = [] ↔ ∀ c ∈ cs, isBlank c = true := by
  rw [trim_eq, List.rdropWhile_eq_nil_iff, ← List.dropWhile_eq_nil_iff, List.dropWhile_idempotent,
    List.dropWhile_eq_nil_iff]

/-- A text that neither begins nor ends with a blank is left as it is. -/
theorem trim_eq_self_iff {cs : List Char} :
    trim cs = cs ↔ (∀ c ∈ cs.head?, isBlank c = false) ∧ ∀ c ∈ cs.getLast?, isBlank c = false := by
  have hfront (ds : List Char) : ds.dropWhile isBlank = ds ↔ ∀ c ∈ ds.head?, isBlank c = false := by
    cases ds <;> simp
  have hback : cs.rdropWhile isBlank = cs ↔ ∀ c ∈ cs.getLast?, isBlank c = false := by
    rw [← List.head?_reverse, ← hfront, List.rdropWhile, List.reverse_eq_iff]
  rw [← hfront, ← hback]
  constructor
  · intro h
    have hleft := trimLeft_trim cs
    rw [h] at hleft
    refine ⟨hleft, ?_⟩
    rw [trim_eq, show cs.dropWhile isBlank = cs from hleft] at h
    exact h
  · rintro ⟨hleft, hright⟩
    rw [trim_eq, hleft, hright]

/-- Blanks in front do not matter. -/
theorem trim_blank_append {before : List Char} (h : ∀ c ∈ before, isBlank c = true) (cs : List Char) :
    trim (before ++ cs) = trim cs := by
  rw [trim_eq, trim_eq, List.dropWhile_append_of_pos h]

/-- Blanks behind do not matter. -/
theorem trim_append_blank {after : List Char} (h : ∀ c ∈ after, isBlank c = true) (cs : List Char) :
    trim (cs ++ after) = trim cs := by
  by_cases hcs : ∀ c ∈ cs, isBlank c = true
  · rw [trim_eq_nil_iff.mpr hcs, trim_eq_nil_iff]
    exact List.forall_mem_append.mpr ⟨hcs, h⟩
  · have hleft : (cs ++ after).dropWhile isBlank = cs.dropWhile isBlank ++ after := by
      rw [List.dropWhile_append, if_neg]
      simpa [List.isEmpty_iff] using hcs
    rw [trim_eq, trim_eq, hleft, List.rdropWhile, List.reverse_append,
      List.dropWhile_append_of_pos fun c hc => h c (List.mem_reverse.mp hc)]
    rfl

/-- Of a text something is left unless it is blank. -/
theorem trimmed_eq_empty_iff {s : String} : trimmed s = "" ↔ isBlankText s = true := by
  rw [trimmed, ← String.toList_inj, String.toList_ofList, String.toList_empty, trim_eq_nil_iff,
    isBlankText, List.all_eq_true]

end PageAudit.Text
