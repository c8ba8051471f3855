import PageAudit.Decimal.Fixed
import PageAudit.Instant.Text
import PageAudit.Page.Basic
import PageAudit.Proofs.Decimal.Digits
import PageAudit.Text.Span
/-!
Texts of one line. Numbers and the values of headers are such texts, whatever bytes a server sent
(`singleLine_header`), and lines that are written one after the other, each with its line feed, can
be told apart again (`splitAll_joined`).
-/
namespace PageAudit

namespace Text

/-- A text without a line feed. -/
def SingleLine (s : String) : Prop := '\n' ∉ s.toList

instance (s : String) : Decidable (SingleLine s) := inferInstanceAs (Decidable ('\n' ∉ s.toList))

/-- A text of one line that says something. -/
def Sentence (s : String) : Prop := s ≠ "" ∧ SingleLine s

instance (s : String) : Decidable (Sentence s) := inferInstanceAs (Decidable (_ ∧ _))

variable {s t : String}

theorem singleLine_append : SingleLine (s ++ t) ↔ SingleLine s ∧ SingleLine t := by
  simp only [SingleLine, String.toList_append, List.mem_append, not_or]

theorem notMem_ofList {c : Char} {cs : List Char} (h : cs.elem c = false) : c ∉ (String.ofList cs).toList := by
  rw [String.toList_ofList, ← List.elem_iff, h]
  exact Bool.false_ne_true

theorem SingleLine.ofList {cs : List Char} (h : cs.elem '\n' = false) : SingleLine (String.ofList cs) :=
  notMem_ofList h

theorem Sentence.ofList {c : Char} {cs : List Char} (h : (c :: cs).elem '\n' = false) :
    Sentence (String.ofList (c :: cs)) := by
  refine ⟨fun he => ?_, .ofList h⟩
  rw [← String.toList_inj, String.toList_ofList] at he
  cases he

theorem SingleLine.append (hs : SingleLine s) (ht : SingleLine t) : SingleLine (s ++ t) :=
  singleLine_append.mpr ⟨hs, ht⟩

theorem Sentence.append (hs : Sentence s) (ht : SingleLine t) : Sentence (s ++ t) :=
  ⟨fun h => hs.1 (String.append_eq_empty_iff.mp h).1, hs.2.append ht⟩

theorem Sentence.prepend (ht : Sentence t) (hs : SingleLine s) : Sentence (s ++ t) :=
  ⟨fun h => ht.1 (String.append_eq_empty_iff.mp h).2, hs.append ht.2⟩

theorem singleLine_intercalate {sep : String} (hsep : SingleLine sep) {ss : List String}
    (hss : ∀ s ∈ ss, SingleLine s) : SingleLine (sep.intercalate ss) := by
  induction ss with
  | nil => exact List.not_mem_nil
  | cons s rest ih =>
    cases rest with
    | nil => exact hss s (List.mem_cons_self ..)
    | cons t rest =>
      rw [String.intercalate_cons_cons]
      exact ((hss s (List.mem_cons_self ..)).append hsep).append
        (ih fun u hu => hss u (List.mem_cons_of_mem _ hu))

/-! ### Numbers -/

theorem singleLine_toString (n : Nat) : SingleLine (toString n) :=
  fun h => absurd (Decimal.isDigit_of_mem h) (by decide)

theorem singleLine_twoDigits (n : Nat) : SingleLine (Decimal.twoDigits n) := by
  unfold Decimal.twoDigits
  split
  · exact SingleLine.append (by decide) (singleLine_toString n)
  · exact singleLine_toString n

theorem singleLine_fixed2 (x : Binary64) : SingleLine (Decimal.fixed2 x) := by
  have sign : SingleLine (if x.isNegative then "-" else "") := by split <;> decide
  unfold Decimal.fixed2
  split
  · decide
  · dsimp only
    split
    · exact sign.append (by decide)
    · exact ((sign.append (singleLine_toString _)).append (by decide)).append (singleLine_twoDigits _)

/-! ### Instants -/

theorem singleLine_padded (width n : Nat) : SingleLine (padded width n) := by
  refine SingleLine.append ?_ (singleLine_toString n)
  rw [SingleLine, String.toList_ofList]
  exact fun h => absurd (List.eq_of_mem_replicate h) (by decide)

theorem singleLine_yearText (year : Int) : SingleLine (Instant.yearText year) := by
  unfold Instant.yearText
  split
  · exact singleLine_padded _ _
  · exact SingleLine.append (by split <;> decide) (singleLine_padded _ _)

theorem singleLine_display (t : Instant) : SingleLine t.display := by
  have hyear := singleLine_yearText t.date.year
  have hpart := singleLine_padded 2
  exact (((((((((hyear.append (.ofList rfl)).append (hpart _)).append (.ofList rfl)).append (hpart _)).append
    (.ofList rfl)).append (hpart _)).append (.ofList rfl)).append (hpart _)).append (.ofList rfl)).append
    (hpart _)

/-! ### Header values -/

/-- No byte that is shown as text is a line feed. -/
theorem singleLine_headerText (h : Header) : SingleLine h.text := by
  unfold Header.text
  split
  · next ht =>
    intro hm
    rw [String.toList_ofList, List.mem_map] at hm
    obtain ⟨b, hb, hc⟩ := hm
    have shown : ∀ n < UInt8.size, Header.isTextByte (UInt8.ofNat n) = true → Char.ofNat n ≠ '\n' := by
      decide +kernel
    exact shown b.toNat b.toNat_lt (by rw [UInt8.ofNat_toNat]; exact List.all_eq_true.mp ht b hb) hc
  · decide

theorem singleLine_header {p : Page} {name value : String} (h : p.header? name = some value) :
    SingleLine value := by
  unfold Page.header? PageAudit.header? at h
  split at h
  · cases h
  · cases h
    refine singleLine_intercalate (by decide) fun s hs => ?_
    obtain ⟨line, -, rfl⟩ := List.mem_map.mp hs
    exact singleLine_headerText line

/-! ### Lines one after the other -/

/-- Lines as they are written, each with its line feed. -/
theorem toList_foldl_lines (lines : List String) (s : String) :
    (lines.foldl (fun s line => s ++ line ++ "\n") s).toList =
      s.toList ++ lines.flatMap fun line => line.toList ++ ['\n'] := by
  induction lines generalizing s with
  | nil => exact (List.append_nil _).symm
  | cons line rest ih =>
    rw [List.foldl_cons, ih, List.flatMap_cons, String.toList_append, String.toList_append,
      List.append_assoc, List.append_assoc, List.append_assoc]
    rfl

/-- A text has at least one piece. -/
theorem splitAll_ne_nil (isEnd : Char → Bool) (cs : List Char) : splitAll isEnd cs ≠ [] := by
  cases cs with
  | nil => exact List.cons_ne_nil _ _
  | cons c rest =>
    rw [splitAll]
    split
    · exact List.cons_ne_nil _ _
    · split <;> exact List.cons_ne_nil _ _

/-- What stands before an end and what stands behind it are divided apart. -/
theorem splitAll_append {isEnd : Char → Bool} {c : Char} (hc : isEnd c = true) (xs ys : List Char) :
    splitAll isEnd (xs ++ c :: ys) = splitAll isEnd xs ++ splitAll isEnd ys := by
  induction xs with
  | nil => simp [splitAll, hc]
  | cons x rest ih =>
    rw [List.cons_append, splitAll, splitAll, ih]
    by_cases hx : isEnd x = true
    · simp [hx]
    · obtain ⟨piece, pieces, hrest⟩ := List.exists_cons_of_ne_nil (splitAll_ne_nil isEnd rest)
      simp [hx, hrest]

/-- A text without an end is one piece. -/
theorem splitAll_solid {isEnd : Char → Bool} {cs : List Char} (h : ∀ c ∈ cs, isEnd c = false) :
    splitAll isEnd cs = [cs] := by
  induction cs with
  | nil => rfl
  | cons c rest ih =>
    rw [List.forall_mem_cons] at h
    simp [splitAll, h.1, ih h.2]

theorem splitAll_ended {line : List Char} (h : '\n' ∉ line) (rest : List Char) :
    splitAll (· == '\n') (line ++ '\n' :: rest) = line :: splitAll (· == '\n') rest := by
  have hline : ∀ c ∈ line, (c == '\n') = false := by
    intro c hc
    exact beq_eq_false_iff_ne.mpr fun he => h (he ▸ hc)
  rw [splitAll_append rfl, splitAll_solid hline, List.singleton_append]

/-- Lines that are each followed by a line feed are told apart by them. -/
theorem splitAll_joined {lines : List String} (h : ∀ line ∈ lines, SingleLine line) :
    splitAll (· == '\n') (lines.flatMap fun line => line.toList ++ ['\n']) =
      lines.map String.toList ++ [[]] := by
  induction lines with
  | nil => rfl
  | cons line rest ih =>
    rw [List.flatMap_cons, List.append_assoc, List.singleton_append,
      splitAll_ended (h line (List.mem_cons_self ..)), ih fun l hl => h l (List.mem_cons_of_mem _ hl)]
    rfl

end Text

end PageAudit
