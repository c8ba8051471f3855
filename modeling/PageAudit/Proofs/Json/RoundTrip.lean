import PageAudit.Proofs.Json.Leaves
/-!
JSON texts over several lines, read again. `read?_pretty` says that a tree is read back from its
indented text, whatever its strings and keys are and however deep it is, if its numbers are read
back from theirs.

The induction is on the tree. A reader that is handed the text of a value, with something after it
that ends the value, gives the value and what comes after; line breaks and indentation in front
are passed over (`valueAt_newline`), and the fuel that is left covers twice the text that is left.
-/
namespace PageAudit.Json

/-- A tree whose numbers are read back from their texts. -/
inductive Readable : Json → Prop
  | null : Readable .null
  | bool (b : Bool) : Readable (.bool b)
  | string (s : String) : Readable (.string s)
  | number {n : Number} : number? n.text = some (n, []) → Readable (.number n)
  | array {items : List Json} : (∀ v ∈ items, Readable v) → Readable (.array items)
  | object {members : List (String × Json)} : (∀ m ∈ members, Readable m.2) → Readable (.object members)

/-! ### Blanks -/

theorem skipBlanks_newline (depth : Nat) (cs : List Char) :
    skipBlanks (newline depth ++ cs) = skipBlanks cs := by
  refine List.dropWhile_append_of_pos fun c hc => ?_
  rcases List.mem_cons.mp hc with rfl | hc
  · rfl
  · rw [List.eq_of_mem_replicate hc]
    rfl

theorem skipBlanks_cons {c : Char} (h : isBlank c = false) (cs : List Char) :
    skipBlanks (c :: cs) = c :: cs :=
  List.dropWhile_cons_of_neg (by rw [h]; exact Bool.false_ne_true)

section Skipping

attribute [local simp] valueAt itemsAt membersAt

theorem valueAt_newline (fuel depth : Nat) (cs : List Char) :
    valueAt fuel (newline depth ++ cs) = valueAt fuel cs := by
  cases fuel with
  | zero => rfl
  | succ fuel => simp [skipBlanks_newline]

theorem valueAt_space (fuel : Nat) (cs : List Char) : valueAt fuel (' ' :: cs) = valueAt fuel cs := by
  cases fuel with
  | zero => rfl
  | succ fuel =>
    have hskip : skipBlanks (' ' :: cs) = skipBlanks cs := rfl
    simp [hskip]

theorem itemsAt_newline (fuel depth : Nat) (cs : List Char) :
    itemsAt fuel (newline depth ++ cs) = itemsAt fuel cs := by
  cases fuel with
  | zero => rfl
  | succ fuel => simp [valueAt_newline]

theorem membersAt_newline (fuel depth : Nat) (cs : List Char) :
    membersAt fuel (newline depth ++ cs) = membersAt fuel cs := by
  cases fuel with
  | zero => rfl
  | succ fuel => simp [skipBlanks_newline]

end Skipping

theorem ends_newline (depth : Nat) (cs : List Char) : Ends (newline depth ++ cs) :=
  fun _ hc => .inr (Option.some.inj hc).symm

theorem ends_comma (cs : List Char) : Ends (',' :: cs) := fun _ hc => .inl (Option.some.inj hc).symm

/-! ### One step of a reader -/

theorem valueAt_string (fuel : Nat) (s : String) (rest : List Char) :
    valueAt (fuel + 1) (quoted s ++ rest) = some (.string s, rest) := by
  rw [quoted, List.append_assoc, List.singleton_append, List.cons_append, valueAt,
    skipBlanks_cons (show isBlank '"' = false from rfl)]
  show (stringBody [] _ _).map _ = _
  rw [stringBody_quoted]
  rfl

/-- What begins as a number does is read as a number. -/
theorem valueAt_number {c : Char} (hc : c = '-' ∨ c.isDigit = true) (fuel : Nat) (cs : List Char) :
    valueAt (fuel + 1) (c :: cs) = (number? (c :: cs)).map fun (n, r) => (.number n, r) := by
  have hother : ∀ d : Char, d.isDigit = false → d ≠ '-' → c ≠ d := by
    rintro d hd hminus rfl
    rcases hc with hc | hc
    · exact hminus hc
    · exact Bool.false_ne_true (hd.symm.trans hc)
  have hblank : isBlank c = false := by
    simp [isBlank, hother ' ' rfl (by decide), hother '\n' rfl (by decide), hother '\t' rfl (by decide),
      hother '\r' rfl (by decide)]
  rw [valueAt, skipBlanks_cons hblank]
  split
  -- the other kinds of values begin with other characters
  · next heq => exact absurd (List.cons.inj heq).1 (hother '"' rfl (by decide))
  · next heq => exact absurd (List.cons.inj heq).1 (hother '[' rfl (by decide))
  · next heq => exact absurd (List.cons.inj heq).1 (hother '{' rfl (by decide))
  · next heq => exact absurd (List.cons.inj heq).1 (hother 'n' rfl (by decide))
  · next heq => exact absurd (List.cons.inj heq).1 (hother 't' rfl (by decide))
  · next heq => exact absurd (List.cons.inj heq).1 (hother 'f' rfl (by decide))
  · rfl

/-- No value begins with a closing bracket. -/
theorem valueAt_bracket {cs more : List Char} (h : skipBlanks cs = ']' :: more) (fuel : Nat) :
    valueAt fuel cs = none := by
  cases fuel with
  | zero => rfl
  | succ fuel =>
    rw [valueAt, h]
    rfl

theorem itemsAt_bracket {cs more : List Char} (h : skipBlanks cs = ']' :: more) (fuel : Nat) :
    itemsAt fuel cs = none := by
  cases fuel with
  | zero => rfl
  | succ fuel => rw [itemsAt, valueAt_bracket h]

/-- No member begins with a closing brace. -/
theorem membersAt_brace {cs more : List Char} (h : skipBlanks cs = '}' :: more) (fuel : Nat) :
    membersAt fuel cs = none := by
  cases fuel with
  | zero => rfl
  | succ fuel =>
    rw [membersAt, h]
    rfl

theorem valueAt_array {fuel : Nat} {cs rest : List Char} {items : List Json}
    (h : itemsAt fuel cs = some (items, rest)) :
    valueAt (fuel + 1) ('[' :: cs) = some (.array items, rest) := by
  rw [valueAt, skipBlanks_cons (show isBlank '[' = false from rfl)]
  simp only [h, Option.map_some]
  split
  · next heq =>
    rw [itemsAt_bracket heq] at h
    cases h
  · rfl

theorem valueAt_object {fuel : Nat} {cs rest : List Char} {members : List (String × Json)}
    (h : membersAt fuel cs = some (members, rest)) :
    valueAt (fuel + 1) ('{' :: cs) = some (.object members, rest) := by
  rw [valueAt, skipBlanks_cons (show isBlank '{' = false from rfl)]
  simp only [h, Option.map_some]
  split
  · next heq =>
    rw [membersAt_brace heq] at h
    cases h
  · rfl

section Items

variable {fuel : Nat} {cs rest more r : List Char} {v : Json} (hv : valueAt fuel cs = some (v, rest))

include hv

theorem itemsAt_last (h : skipBlanks rest = ']' :: more) : itemsAt (fuel + 1) cs = some ([v], more) := by
  rw [itemsAt, hv]
  dsimp only
  rw [h]
  rfl

theorem itemsAt_more (h : skipBlanks rest = ',' :: more) {vs : List Json}
    (hvs : itemsAt fuel more = some (vs, r)) : itemsAt (fuel + 1) cs = some (v :: vs, r) := by
  rw [itemsAt, hv]
  dsimp only
  rw [h]
  show (itemsAt fuel more).map _ = _
  rw [hvs]
  rfl

theorem membersAt_last (k : String) (h : skipBlanks rest = '}' :: more) :
    membersAt (fuel + 1) (quoted k ++ ':' :: ' ' :: cs) = some ([(k, v)], more) := by
  rw [quoted, List.append_assoc, List.singleton_append, List.cons_append, membersAt,
    skipBlanks_cons (show isBlank '"' = false from rfl)]
  simp only [stringBody_quoted, skipBlanks_cons (show isBlank ':' = false from rfl), valueAt_space, hv, h]

theorem membersAt_more (k : String) (h : skipBlanks rest = ',' :: more) {ms : List (String × Json)}
    (hms : membersAt fuel more = some (ms, r)) :
    membersAt (fuel + 1) (quoted k ++ ':' :: ' ' :: cs) = some ((k, v) :: ms, r) := by
  rw [quoted, List.append_assoc, List.singleton_append, List.cons_append, membersAt,
    skipBlanks_cons (show isBlank '"' = false from rfl)]
  simp only [stringBody_quoted, skipBlanks_cons (show isBlank ':' = false from rfl), valueAt_space, hv, h,
    hms, Option.map_some]

end Items

/-! ### Whole values -/

/-- A reader that is given enough fuel reads a value from its text and leaves what follows. -/
def ReadAt (depth : Nat) (v : Json) : Prop :=
  ∀ {fuel : Nat} {rest : List Char}, 2 * (prettyAt depth v).length + 1 ≤ fuel → Ends rest →
    valueAt fuel (prettyAt depth v ++ rest) = some (v, rest)

theorem skipBlanks_close {c : Char} (h : isBlank c = false) (depth : Nat) (rest : List Char) :
    skipBlanks (newline depth ++ c :: rest) = c :: rest := by
  rw [skipBlanks_newline, skipBlanks_cons h]

/-- Items are read up to their closing bracket. -/
theorem itemsAt_pretty {depth outer : Nat} {vs : List Json} {v : Json} (h : ∀ w ∈ v :: vs, ReadAt depth w)
    {fuel : Nat} {rest : List Char}
    (hfuel : 2 * ((prettyAt depth v).length + (prettyItems depth vs).length) + 2 ≤ fuel) :
    itemsAt fuel (prettyAt depth v ++ (prettyItems depth vs ++ (newline outer ++ ']' :: rest))) =
      some (v :: vs, rest) := by
  induction vs generalizing v fuel with
  | nil =>
    obtain ⟨fuel, rfl⟩ : ∃ f, fuel = f + 1 := ⟨fuel - 1, by omega⟩
    have hlen : 2 * (prettyAt depth v).length + 1 ≤ fuel := by omega
    have hv := h v (.head _) hlen (ends_newline outer (']' :: rest))
    exact itemsAt_last hv (skipBlanks_close rfl outer rest)
  | cons w ws ih =>
    obtain ⟨fuel, rfl⟩ : ∃ f, fuel = f + 1 := ⟨fuel - 1, by omega⟩
    simp only [prettyItems, List.cons_append, List.append_assoc, List.length_cons, List.length_append]
      at hfuel ⊢
    have hlen : 2 * (prettyAt depth v).length + 1 ≤ fuel := by omega
    have hv := h v (.head _) hlen (ends_comma (newline depth ++ (prettyAt depth w ++
      (prettyItems depth ws ++ (newline outer ++ ']' :: rest)))))
    refine itemsAt_more hv (skipBlanks_cons rfl _) ?_
    rw [itemsAt_newline]
    exact ih (fun u hu => h u (.tail _ hu)) (by omega)

/-- Members are read up to their closing brace. -/
theorem membersAt_pretty {depth outer : Nat} {ms : List (String × Json)} {k : String} {v : Json}
    (h : ∀ m ∈ (k, v) :: ms, ReadAt depth m.2) {fuel : Nat} {rest : List Char}
    (hfuel : 2 * ((prettyAt depth v).length + (prettyMembers depth ms).length) + 2 ≤ fuel) :
    membersAt fuel (quoted k ++ ':' :: ' ' :: (prettyAt depth v ++ (prettyMembers depth ms ++
      (newline outer ++ '}' :: rest)))) = some ((k, v) :: ms, rest) := by
  induction ms generalizing k v fuel with
  | nil =>
    obtain ⟨fuel, rfl⟩ : ∃ f, fuel = f + 1 := ⟨fuel - 1, by omega⟩
    have hlen : 2 * (prettyAt depth v).length + 1 ≤ fuel := by omega
    have hv := h (k, v) (.head _) hlen (ends_newline outer ('}' :: rest))
    exact membersAt_last hv k (skipBlanks_close rfl outer rest)
  | cons m ms ih =>
    obtain ⟨key, w⟩ := m
    obtain ⟨fuel, rfl⟩ : ∃ f, fuel = f + 1 := ⟨fuel - 1, by omega⟩
    simp only [prettyMembers, List.cons_append, List.append_assoc, List.length_cons, List.length_append]
      at hfuel ⊢
    have hlen : 2 * (prettyAt depth v).length + 1 ≤ fuel := by omega
    have hv := h (k, v) (.head _) hlen (ends_comma (newline depth ++ (quoted key ++ (':' :: ' ' ::
      (prettyAt depth w ++ (prettyMembers depth ms ++ (newline outer ++ '}' :: rest)))))))
    refine membersAt_more hv k (skipBlanks_cons rfl _) ?_
    rw [membersAt_newline]
    exact ih (fun u hu => h u (.tail _ hu)) (by omega)

theorem readAt_array {depth : Nat} {items : List Json} (h : ∀ v ∈ items, ReadAt (depth + 1) v) :
    ReadAt depth (.array items) := by
  intro fuel rest hfuel hends
  obtain ⟨fuel, rfl⟩ : ∃ f, fuel = f + 1 := ⟨fuel - 1, by omega⟩
  cases items with
  | nil => rfl
  | cons v vs =>
    simp only [prettyAt, List.cons_append, List.nil_append, List.append_assoc, List.length_cons,
      List.length_append] at hfuel ⊢
    have hlen : 2 * ((prettyAt (depth + 1) v).length + (prettyItems (depth + 1) vs).length) + 2 ≤ fuel := by
      omega
    exact valueAt_array ((itemsAt_newline fuel (depth + 1) _).trans (itemsAt_pretty h hlen))

theorem readAt_object {depth : Nat} {members : List (String × Json)}
    (h : ∀ m ∈ members, ReadAt (depth + 1) m.2) : ReadAt depth (.object members) := by
  intro fuel rest hfuel hends
  obtain ⟨fuel, rfl⟩ : ∃ f, fuel = f + 1 := ⟨fuel - 1, by omega⟩
  cases members with
  | nil => rfl
  | cons m ms =>
    obtain ⟨k, v⟩ := m
    simp only [prettyAt, List.cons_append, List.nil_append, List.append_assoc, List.length_cons,
      List.length_append] at hfuel ⊢
    have hlen : 2 * ((prettyAt (depth + 1) v).length + (prettyMembers (depth + 1) ms).length) + 2 ≤ fuel := by
      omega
    exact valueAt_object ((membersAt_newline fuel (depth + 1) _).trans (membersAt_pretty h hlen))

/-- A value is read from its text at any depth. -/
theorem readAt_pretty {v : Json} (h : Readable v) (depth : Nat) : ReadAt depth v := by
  induction h generalizing depth with
  | null =>
    intro fuel rest hfuel hends
    obtain ⟨fuel, rfl⟩ : ∃ f, fuel = f + 1 := ⟨fuel - 1, by omega⟩
    rfl
  | bool b =>
    intro fuel rest hfuel hends
    obtain ⟨fuel, rfl⟩ : ∃ f, fuel = f + 1 := ⟨fuel - 1, by omega⟩
    cases b <;> rfl
  | string s =>
    intro fuel rest hfuel hends
    obtain ⟨fuel, rfl⟩ : ∃ f, fuel = f + 1 := ⟨fuel - 1, by omega⟩
    exact valueAt_string fuel s rest
  | @number n hn =>
    intro fuel rest hfuel hends
    obtain ⟨fuel, rfl⟩ : ∃ f, fuel = f + 1 := ⟨fuel - 1, by omega⟩
    have hread := number?_append hends hn
    obtain ⟨c, cs, hcs, hc⟩ := head_of_number? hn
    simp only [prettyAt]
    rw [hcs, List.cons_append] at hread ⊢
    rw [valueAt_number hc, hread]
    rfl
  | array _ ih => exact readAt_array fun v hv => ih v hv (depth + 1)
  | object _ ih => exact readAt_object fun m hm => ih m hm (depth + 1)

/-- A tree is read back from its indented text. -/
theorem read?_pretty {v : Json} (h : Readable v) : read? v.pretty = some v := by
  have hlist : v.pretty.toList = prettyAt 0 v ++ [] := by
    rw [pretty, String.toList_ofList, List.append_nil]
  have hlen : v.pretty.length = (prettyAt 0 v).length := by
    rw [← String.length_toList, hlist, List.append_nil]
  have hfuel : 2 * (prettyAt 0 v).length + 1 ≤ 2 * v.pretty.length + 2 := by omega
  have hread : valueAt _ (prettyAt 0 v ++ []) = some (v, []) := readAt_pretty h 0 hfuel nofun
  rw [read?, hlist, hread]
  rfl

end PageAudit.Json
