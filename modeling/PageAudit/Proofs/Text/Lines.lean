import PageAudit.Text.Lines
/-!
Lines of a text, and the last of them. There is one way only to cut a text into lines (`Lined`,
`lines_eq_iff`). A line that has ended is not touched by what comes behind it, so the lines of two texts,
the first of which leaves no line open, are those of the one and then those of the other (`lines_append`).

`tail_follows` draws from this that the last lines of a log need not be read again when the log grows: those
that were kept and those that came in are enough, part after part.
-/
namespace PageAudit.Text

/-- A text cut into its lines. A line feed ends a line, and one carriage return right before it goes with it.
What stands behind the last line feed is one more line as it is, unless nothing stands there. -/
inductive Lined : List Char → List (List Char) → Prop
  | nil : Lined [] []
  | last {line : List Char} : line ≠ [] → '\n' ∉ line → Lined line [line]
  | feed {line rest : List Char} {ls : List (List Char)} : '\n' ∉ line → line.getLast? ≠ some '\r' →
      Lined rest ls → Lined (line ++ '\n' :: rest) (line :: ls)
  | returnFeed {line rest : List Char} {ls : List (List Char)} : '\n' ∉ line →
      Lined rest ls → Lined (line ++ '\r' :: '\n' :: rest) (line :: ls)

/-- A text that leaves no line open: nothing, or something that ends with a line feed. -/
def Ended (s : String) : Prop := s = "" ∨ ∃ t, s = t ++ "\n"

variable {current line rest cs : List Char} {ls : List (List Char)} {s t : String}

/-! ### Cutting -/

theorem closeLine_of_ne (h : current.head? ≠ some '\r') : closeLine current = current.reverse := by
  unfold closeLine
  split
  · exact absurd rfl h
  · rfl

theorem linesFrom_cons {c : Char} (hc : c ≠ '\n') (rest : List Char) :
    linesFrom current (c :: rest) = linesFrom (c :: current) rest := by
  rw [linesFrom]
  exact hc

/-- Characters that end no line belong to the line that is being read. -/
theorem linesFrom_append (h : '\n' ∉ line) (rest : List Char) :
    linesFrom current (line ++ rest) = linesFrom (line.reverse ++ current) rest := by
  induction line generalizing current with
  | nil => rfl
  | cons c line ih =>
    rw [List.mem_cons, not_or] at h
    rw [List.cons_append, linesFrom_cons (Ne.symm h.1), ih h.2, List.reverse_cons, List.append_assoc,
      List.singleton_append]

theorem linesFrom_feed (h : '\n' ∉ line) (rest : List Char) :
    linesFrom [] (line ++ '\n' :: rest) = closeLine line.reverse :: linesFrom [] rest := by
  rw [linesFrom_append h, List.append_nil, linesFrom]

/-- A line feed ends the line that is being read, whether a carriage return stands before it or not. -/
theorem Lined.close (h : '\n' ∉ current) (hrest : Lined rest ls) :
    Lined (current.reverse ++ '\n' :: rest) (closeLine current :: ls) := by
  by_cases hreturn : current.head? = some '\r'
  · obtain ⟨line, rfl⟩ := List.head?_eq_some_iff.mp hreturn
    have hline : '\n' ∉ line.reverse := fun hm => h (List.mem_cons_of_mem _ (List.mem_reverse.mp hm))
    rw [List.reverse_cons, List.append_assoc, List.singleton_append]
    exact .returnFeed hline hrest
  · have hline : '\n' ∉ current.reverse := fun hm => h (List.mem_reverse.mp hm)
    rw [closeLine_of_ne hreturn]
    exact .feed hline (by rwa [List.getLast?_reverse]) hrest

/-- What is read are the lines of a text that begins with the line being read. -/
theorem lined_linesFrom (h : '\n' ∉ current) : Lined (current.reverse ++ cs) (linesFrom current cs) := by
  induction cs generalizing current with
  | nil =>
    have hline : '\n' ∉ current.reverse := fun hm => h (List.mem_reverse.mp hm)
    rw [linesFrom, List.append_nil]
    split
    · next hempty =>
      rw [List.isEmpty_iff.mp hempty]
      exact .nil
    · next hne => exact .last (by simpa using hne) hline
  | cons c rest ih =>
    by_cases hc : c = '\n'
    · rw [hc, linesFrom]
      exact .close h (ih List.not_mem_nil)
    · have hmore : '\n' ∉ c :: current := by
        rw [List.mem_cons, not_or]
        exact ⟨Ne.symm hc, h⟩
      have hlined := ih hmore
      rwa [List.reverse_cons, List.append_assoc, List.singleton_append, ← linesFrom_cons hc] at hlined

/-- There is no other way to cut a text. -/
theorem Lined.linesFrom_eq (h : Lined cs ls) : linesFrom [] cs = ls := by
  induction h with
  | nil => rfl
  | @last line hne hline =>
    have hread : linesFrom [] (line ++ []) = [line] := by
      rw [linesFrom_append hline, linesFrom, List.append_nil, List.reverse_reverse, if_neg (by simpa using hne)]
    rwa [List.append_nil] at hread
  | @feed line rest ls hline hreturn _ ih =>
    rw [linesFrom_feed hline, closeLine_of_ne (by rwa [List.head?_reverse]), List.reverse_reverse, ih]
  | @returnFeed line rest ls hline _ ih =>
    have hmore : '\n' ∉ line ++ ['\r'] := by simpa using hline
    have hread := linesFrom_feed hmore rest
    rwa [List.append_assoc, List.singleton_append, List.reverse_append, List.reverse_singleton,
      List.singleton_append, closeLine, List.reverse_reverse, ih] at hread

theorem lines_eq_iff {ls : List String} : lines s = ls ↔ Lined s.toList (ls.map String.toList) := by
  constructor
  · rintro rfl
    have hread : (lines s).map String.toList = linesFrom [] s.toList := by
      simp [lines, Function.comp_def]
    rw [hread]
    exact lined_linesFrom List.not_mem_nil
  · intro h
    rw [lines, h.linesFrom_eq]
    simp [Function.comp_def]

/-! ### Lines of a longer text -/

/-- What comes behind a line feed is read apart. -/
theorem linesFrom_append_feed (current xs ys : List Char) :
    linesFrom current (xs ++ '\n' :: ys) = linesFrom current (xs ++ ['\n']) ++ linesFrom [] ys := by
  induction xs generalizing current with
  | nil => rfl
  | cons c xs ih =>
    rw [List.cons_append, List.cons_append]
    by_cases hc : c = '\n'
    · rw [hc, linesFrom, linesFrom, ih, List.cons_append]
    · rw [linesFrom_cons hc, linesFrom_cons hc, ih]

theorem lines_append (h : Ended s) (t : String) : lines (s ++ t) = lines s ++ lines t := by
  obtain rfl | ⟨u, rfl⟩ := h
  · rw [String.empty_append]
    rfl
  · have hread := linesFrom_append_feed [] u.toList t.toList
    simp only [lines, String.toList_append, List.append_assoc, ← List.map_append]
    exact congrArg (List.map String.ofList) hread

theorem Ended.append (hs : Ended s) (ht : Ended t) : Ended (s ++ t) := by
  obtain rfl | ⟨u, rfl⟩ := ht
  · rwa [String.append_empty]
  · exact .inr ⟨s ++ u, (String.append_assoc ..).symm⟩

theorem ended_join {parts : List String} (h : ∀ part ∈ parts, Ended part) : Ended (String.join parts) := by
  induction parts with
  | nil => exact .inl rfl
  | cons part parts ih =>
    obtain ⟨hpart, hparts⟩ := List.forall_mem_cons.mp h
    rw [String.join_cons]
    exact hpart.append (ih hparts)

/-! ### The last lines -/

section LastOf
variable {α : Type} (n : Nat) (xs ys : List α)

theorem lastOf_suffix : lastOf n xs <:+ xs := List.drop_suffix _ _

theorem length_lastOf : (lastOf n xs).length = min n xs.length := by
  rw [lastOf, List.length_drop]
  omega

/-- Of a list that grows at its end, nothing is needed but its last elements. -/
theorem lastOf_lastOf_append : lastOf n (lastOf n xs ++ ys) = lastOf n (xs ++ ys) := by
  have hkept : lastOf n xs ++ ys = (xs ++ ys).drop (xs.length - n) :=
    (List.drop_append_of_le_length (Nat.sub_le ..)).symm
  have hcount : (xs.length - n) + (xs.length + ys.length - (xs.length - n) - n) = xs.length + ys.length - n := by
    omega
  rw [hkept, lastOf, lastOf, List.drop_drop, List.length_drop, List.length_append, hcount]

end LastOf

/-- The last lines of a log, from those that were kept and the part that has come in. -/
def follow (n : Nat) (kept : List String) (part : String) : List String := lastOf n (kept ++ lines part)

variable {n : Nat}

theorem lastLines_empty : lastLines n "" = [] := List.drop_nil

/-- One part is followed as if the log was read from its beginning. -/
theorem follow_lastLines (hs : Ended s) (part : String) :
    follow n (lastLines n s) part = lastLines n (s ++ part) := by
  rw [follow, lastLines, lastOf_lastOf_append, lastLines, lines_append hs]

theorem foldl_follow {parts : List String} (hs : Ended s) (hparts : ∀ part ∈ parts, Ended part) :
    parts.foldl (follow n) (lastLines n s) = lastLines n (s ++ String.join parts) := by
  induction parts generalizing s with
  | nil => rw [String.join_nil, String.append_empty, List.foldl_nil]
  | cons part parts ih =>
    obtain ⟨hpart, hparts⟩ := List.forall_mem_cons.mp hparts
    rw [List.foldl_cons, follow_lastLines hs, ih (hs.append hpart) hparts, String.join_cons, String.append_assoc]

/-- **The end of a log can be followed.** A text is cut into lines at its line feeds, a carriage return right
before one goes with it, and there is no other way; the last lines of a text are the last of these in order, as
many as are asked for or else all. Where a text leaves no line open, the last lines of it and of a text behind it
are the last of those that were kept and those that came in. So a log that comes in parts ends, after any number
of them, with the lines that reading it from its beginning gives. -/
theorem tail_follows :
    (∀ s ls, lines s = ls ↔ Lined s.toList (ls.map String.toList)) ∧
    (∀ n s, lastLines n s <:+ lines s ∧ (lastLines n s).length = min n (lines s).length) ∧
    (∀ c d n, Ended c → lastLines n (c ++ d) = lastOf n (lastLines n c ++ lines d)) ∧
    ∀ parts d n, (∀ part ∈ parts, Ended part) →
      follow n (parts.foldl (follow n) []) d = lastLines n (String.join parts ++ d) := by
  refine ⟨fun s ls => lines_eq_iff, fun n s => ⟨lastOf_suffix n _, length_lastOf n _⟩, fun c d n hc => ?grown,
    fun parts d n hparts => ?parts⟩
  case grown => exact (follow_lastLines hc d).symm
  case parts =>
    have hrun := foldl_follow (n := n) (.inl rfl : Ended "") hparts
    rw [lastLines_empty, String.empty_append] at hrun
    rw [hrun, follow_lastLines (ended_join hparts)]

/-- Lines that end in both ways, an empty one, a part in which nothing came, and a carriage return that ends no
line. -/
theorem tail_follows_returns :
    Ended "up\r\n\n" ∧ lastLines 2 ("up\r\n\n" ++ "ready\r") = ["", "ready\r"] ∧
    (∀ part ∈ ["up\r\n", "", "\n"], Ended part) ∧
      follow 2 (["up\r\n", "", "\n"].foldl (follow 2) []) "ready\r" = ["", "ready\r"] := by
  have htext : Ended "up\r\n\n" := .inr ⟨"up\r\n", rfl⟩
  have hparts : ∀ part ∈ ["up\r\n", "", "\n"], Ended part := by
    simp only [List.forall_mem_cons]
    exact ⟨.inr ⟨"up\r", rfl⟩, .inl rfl, .inr ⟨"", rfl⟩, List.forall_mem_nil _⟩
  obtain ⟨-, -, hgrown, hfollow⟩ := tail_follows
  refine ⟨htext, ?_, hparts, ?_⟩
  · rw [hgrown _ _ 2 htext]
    decide +kernel
  · rw [hfollow _ _ 2 hparts]
    decide +kernel

end PageAudit.Text
