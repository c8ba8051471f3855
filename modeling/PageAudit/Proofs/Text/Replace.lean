import PageAudit.Text.Search
/-!
Replacing a mark. A text is gone through from left to right, and wherever the mark stands another text
takes its place; what has been put there is not looked at again (`replacedFrom_mark`). Before the first
letter of a mark nothing changes (`replacedFrom_append`), so a text without that letter stays as it is.
-/
namespace PageAudit.Text

/-- A text with another one in each place of a mark. The first `skip` characters belong to a mark whose
place has been taken. -/
def replacedFrom (mark new : List Char) : Nat → List Char → List Char
  | _, [] => []
  | skip + 1, _ :: rest => replacedFrom mark new skip rest
  | 0, c :: rest =>
    if mark.isPrefixOf (c :: rest) then new ++ replacedFrom mark new (mark.length - 1) rest
    else c :: replacedFrom mark new 0 rest

def replaced (mark new s : String) : String :=
  String.ofList (replacedFrom mark.toList new.toList 0 s.toList)

variable {m : Char} {mark new before text : List Char}

theorem replacedFrom_skip (n : Nat) (cs : List Char) :
    replacedFrom mark new n cs = replacedFrom mark new 0 (cs.drop n) := by
  induction cs generalizing n with
  | nil => rw [List.drop_nil, replacedFrom, replacedFrom]
  | cons c rest ih =>
    cases n with
    | zero => rfl
    | succ n => rw [replacedFrom, ih, List.drop_succ_cons]

/-- What is put in the place of a mark is left alone. -/
theorem replacedFrom_mark (rest : List Char) :
    replacedFrom (m :: mark) new 0 (m :: mark ++ rest) = new ++ replacedFrom (m :: mark) new 0 rest := by
  have hmark : (m :: mark).isPrefixOf (m :: (mark ++ rest)) = true :=
    List.isPrefixOf_iff_prefix.mpr (List.prefix_append (m :: mark) rest)
  rw [List.cons_append, replacedFrom, if_pos hmark, replacedFrom_skip, List.length_cons,
    Nat.add_sub_cancel, List.drop_left]

/-- A mark does not stand where its first letter does not. -/
theorem isPrefixOf_of_ne {c : Char} (h : m ≠ c) (rest : List Char) :
    (m :: mark).isPrefixOf (c :: rest) = false := by
  rw [List.isPrefixOf, beq_eq_false_iff_ne.mpr h, Bool.false_and]

theorem replacedFrom_append (h : m ∉ before) (rest : List Char) :
    replacedFrom (m :: mark) new 0 (before ++ rest) = before ++ replacedFrom (m :: mark) new 0 rest := by
  induction before with
  | nil => rfl
  | cons c before ih =>
    rw [List.mem_cons, not_or] at h
    rw [List.cons_append, replacedFrom, isPrefixOf_of_ne h.1, ih h.2]
    rfl

theorem replacedFrom_eq_self (h : m ∉ text) : replacedFrom (m :: mark) new 0 text = text := by
  have happend : replacedFrom (m :: mark) new 0 (text ++ []) = text ++ replacedFrom (m :: mark) new 0 [] :=
    replacedFrom_append h []
  rwa [List.append_nil, replacedFrom, List.append_nil] at happend

theorem occursIn_eq_false (h : m ∉ text) : occursIn (m :: mark) text = false := by
  induction text with
  | nil => rfl
  | cons c rest ih =>
    rw [List.mem_cons, not_or] at h
    rw [occursIn, isPrefixOf_of_ne h.1, ih h.2]
    rfl

end PageAudit.Text
