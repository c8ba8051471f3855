import PageAudit.Report.Folder
/-!
Saving in a folder, seen by the entries of its names. A folder `Admits` a name if nothing keeps a report
from being written there, and that is all a save depends on: with it the one entry is the report and every
other entry is as before, without it all entries are (`lookup_save`). What a folder admits does not change
by saving (`admits_save`), so saves follow each other in any order.
-/
namespace PageAudit.Report.Folder

/-! ### Entries -/

theorem lookup_cons_eq (n old : String) (x : Entry) (rest : List (String × Entry)) :
    ((old, x) :: rest).lookup n = if n = old then some x else rest.lookup n := by
  by_cases h : n = old
  · simp [h]
  · rw [if_neg h, List.lookup_cons, beq_eq_false_iff_ne.mpr h]

theorem lookup_put (name : String) (e : Entry) (entries : List (String × Entry)) (n : String) :
    (put name e entries).lookup n = if n = name then some e else entries.lookup n := by
  induction entries with
  | nil => exact lookup_cons_eq n name e []
  | cons entry rest ih =>
    obtain ⟨old, x⟩ := entry
    by_cases hold : old = name
    · subst hold
      rw [put, if_pos rfl, lookup_cons_eq, lookup_cons_eq]
      by_cases h : n = old <;> simp [h]
    · rw [put, if_neg hold, lookup_cons_eq, lookup_cons_eq, ih]
      -- the name that is looked for is not both of the others
      by_cases h : n = old
      · simp [h, hold]
      · simp [h]

/-- An entry that is put where it is already leaves all as it is. -/
theorem put_of_lookup {name : String} {e : Entry} {entries : List (String × Entry)}
    (h : entries.lookup name = some e) : put name e entries = entries := by
  induction entries with
  | nil => cases h
  | cons entry rest ih =>
    obtain ⟨old, x⟩ := entry
    rw [lookup_cons_eq] at h
    by_cases hold : old = name
    · rw [if_pos hold.symm] at h
      rw [put, if_pos hold, Option.some.inj h]
    · rw [if_neg (Ne.symm hold)] at h
      rw [put, if_neg hold, ih h]

/-! ### Saving -/

/-- A folder in which a report can be written under a name. -/
structure Admits (f : Folder) (name : String) : Prop where
  folder : f ≠ .blocked
  short : name.utf8ByteSize ≤ maxName
  free : f.entry? name ≠ some .blocked

instance (f : Folder) (name : String) : Decidable (f.Admits name) :=
  decidable_of_iff (f ≠ .blocked ∧ name.utf8ByteSize ≤ maxName ∧ f.entry? name ≠ some .blocked)
    ⟨fun ⟨h₁, h₂, h₃⟩ => ⟨h₁, h₂, h₃⟩, fun h => ⟨h.folder, h.short, h.free⟩⟩

/-- Why a report is not saved in a folder that does not admit its name. -/
def refusal (f : Folder) (path name : String) : SaveError :=
  if f = .blocked then .folder path else .file (path ++ "/" ++ name)

variable {f : Folder} {path : String} {r : AuditResult} {format : Format}

theorem save_eq (hf : f ≠ .blocked) (path : String) (r : AuditResult) (format : Format) :
    f.save path r format =
      if maxName < (fileName r format).utf8ByteSize || f.entry? (fileName r format) = some .blocked then
        (.holding f.entries, .error (.file (path ++ "/" ++ fileName r format)))
      else (.holding (put (fileName r format) (.file (contents r format)) f.entries),
        .ok (path ++ "/" ++ fileName r format)) := by
  cases f with
  | blocked => exact absurd rfl hf
  | absent | holding => rfl

theorem save_of_admits (h : f.Admits (fileName r format)) (path : String) :
    f.save path r format =
      (.holding (put (fileName r format) (.file (contents r format)) f.entries),
        .ok (path ++ "/" ++ fileName r format)) := by
  have hshort : ¬ maxName < (fileName r format).utf8ByteSize := Nat.not_lt.mpr h.short
  rw [save_eq h.folder, if_neg]
  simp [hshort, h.free]

theorem save_of_not_admits (h : ¬ f.Admits (fileName r format)) (path : String) :
    (f.save path r format).1.entries = f.entries ∧
      ((f.save path r format).1 = .blocked ↔ f = .blocked) ∧
      (f.save path r format).2 = .error (f.refusal path (fileName r format)) := by
  by_cases hf : f = .blocked
  · rw [hf, refusal, if_pos rfl]
    exact ⟨rfl, Iff.rfl, rfl⟩
  · have hrefused : maxName < (fileName r format).utf8ByteSize ∨
        f.entry? (fileName r format) = some .blocked := by
      by_cases hfree : f.entry? (fileName r format) = some .blocked
      · exact .inr hfree
      · exact .inl (Nat.lt_of_not_le fun hshort => h ⟨hf, hshort, hfree⟩)
    rw [save_eq hf, if_pos (by simpa using hrefused), refusal, if_neg hf]
    exact ⟨rfl, iff_of_false nofun hf, rfl⟩

/-- A report is saved under its own name, and its entry is the only one that changes. -/
theorem lookup_save (f : Folder) (path : String) (r : AuditResult) (format : Format) (n : String) :
    entry? (f.save path r format).1 n =
      if f.Admits (fileName r format) ∧ n = fileName r format then some (.file (contents r format))
      else f.entry? n := by
  by_cases h : f.Admits (fileName r format)
  · rw [save_of_admits h]
    show (put _ _ _).lookup n = _
    simp only [lookup_put, h, true_and]
    rfl
  · rw [if_neg fun hn => h hn.1, entry?, (save_of_not_admits h path).1]
    rfl

/-- Saving opens no name to reports and closes none. -/
theorem admits_save (f : Folder) (path : String) (r : AuditResult) (format : Format) (n : String) :
    (f.save path r format).1.Admits n ↔ f.Admits n := by
  have hfolder : (f.save path r format).1 = .blocked ↔ f = .blocked := by
    by_cases h : f.Admits (fileName r format)
    · rw [save_of_admits h]
      exact iff_of_false nofun h.folder
    · exact (save_of_not_admits h path).2.1
  have hfree : entry? (f.save path r format).1 n ≠ some .blocked ↔ f.entry? n ≠ some .blocked := by
    rw [lookup_save]
    split
    · next h => exact iff_of_true nofun (h.2 ▸ h.1.free)
    · rfl
  constructor
  · intro h
    exact ⟨mt hfolder.mpr h.folder, h.short, hfree.mp h.free⟩
  · intro h
    exact ⟨mt hfolder.mp h.folder, h.short, hfree.mpr h.free⟩

/-- A report is saved under its own name in the folder. -/
theorem path_of_save {target : String} (h : (f.save path r format).2 = .ok target) :
    target = path ++ "/" ++ fileName r format := by
  by_cases hadmits : f.Admits (fileName r format)
  · rw [save_of_admits hadmits] at h
    exact (Except.ok.inj h).symm
  · rw [(save_of_not_admits hadmits path).2.2] at h
    cases h

/-- A report that is there already is saved by leaving the folder as it is. -/
theorem save_again (hshort : (fileName r format).utf8ByteSize ≤ maxName)
    (h : f.entry? (fileName r format) = some (.file (contents r format))) (path : String) :
    f.save path r format = (f, .ok (path ++ "/" ++ fileName r format)) := by
  cases f with
  | absent | blocked => cases h
  | holding entries =>
    have hadmits : (Folder.holding entries).Admits (fileName r format) := ⟨nofun, hshort, by simp [h]⟩
    rw [save_of_admits hadmits]
    exact congrArg (fun kept => (Folder.holding kept, _)) (put_of_lookup h)

end PageAudit.Report.Folder
