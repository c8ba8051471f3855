import Mathlib.Data.List.Basic
/-!
Texts as bytes. In UTF-8 every ASCII character is the one byte of its number, and all bytes of the other
characters are above ASCII. So which ASCII bytes a text has is told by its characters (`mem_utf8_iff`), and
bytes that are all ASCII are those of the text that they spell (`utf8_ofBytes`).
-/
namespace PageAudit.Text

/-! ### Byte arrays as lists -/

theorem toList_loop (bytes : ByteArray) (i : Nat) (read : List UInt8) :
    ByteArray.toList.loop bytes i read = read.reverse ++ bytes.data.toList.drop i := by
  fun_induction ByteArray.toList.loop bytes i read with
  | case1 i read hi ih =>
    have hlength : i < bytes.data.toList.length := by simpa using hi
    have hget : bytes.get! i = bytes.data.toList[i] := by
      obtain ⟨data⟩ := bytes
      exact getElem!_pos data i hi
    rw [ih, List.drop_eq_getElem_cons hlength, hget, List.reverse_cons, List.append_assoc]
    rfl
  | case2 i read hi =>
    rw [List.drop_eq_nil_of_le (by simpa using Nat.le_of_not_lt hi), List.append_nil]

theorem toList_eq (bytes : ByteArray) : bytes.toList = bytes.data.toList := by
  rw [ByteArray.toList, toList_loop]
  rfl

/-! ### The bytes of a text -/

theorem utf8_eq (s : String) : s.toUTF8.toList = s.toList.flatMap String.utf8EncodeChar := by
  show s.toByteArray.toList = _
  rw [← String.utf8Encode_toList, List.utf8Encode, toList_eq, List.toList_data_toByteArray]

theorem utf8_inj {s t : String} : s.toUTF8.toList = t.toUTF8.toList ↔ s = t := by
  rw [toList_eq, toList_eq, Array.toList_inj, ← ByteArray.ext_iff]
  exact String.toByteArray_inj

/-- An ASCII character is one byte. -/
theorem utf8EncodeChar_ascii {c : Char} (h : c.toNat < 128) :
    String.utf8EncodeChar c = [UInt8.ofNat c.toNat] :=
  if_pos (Nat.le_of_lt_succ h)

/-- The bytes of the other characters are above ASCII. -/
theorem utf8EncodeChar_beyond {c : Char} (h : 128 ≤ c.toNat) {b : UInt8}
    (hb : b ∈ String.utf8EncodeChar c) : 128 ≤ b.toNat := by
  have hmark (n : Nat) (hn : 128 ≤ n ∧ n < 256) : 128 ≤ (UInt8.ofNat n).toNat := by
    rw [UInt8.toNat_ofNat', Nat.mod_eq_of_lt hn.2]
    exact hn.1
  unfold String.utf8EncodeChar at hb
  dsimp only at hb
  -- two, three or four bytes, each of which has a mark added
  rw [if_neg (show ¬ c.val.toNat ≤ 127 from Nat.not_le_of_lt h)] at hb
  split at hb
  case isTrue =>
    simp only [List.mem_cons, List.not_mem_nil, or_false] at hb
    rcases hb with rfl | rfl <;> exact hmark _ (by omega)
  case isFalse =>
    split at hb
    case isTrue =>
      simp only [List.mem_cons, List.not_mem_nil, or_false] at hb
      rcases hb with rfl | rfl | rfl <;> exact hmark _ (by omega)
    case isFalse =>
      simp only [List.mem_cons, List.not_mem_nil, or_false] at hb
      rcases hb with rfl | rfl | rfl | rfl <;> exact hmark _ (by omega)

/-- A text has an ASCII byte exactly if it has the character of that number. -/
theorem mem_utf8_iff {s : String} {b : UInt8} (hb : b.toNat < 128) :
    b ∈ s.toUTF8.toList ↔ ∃ c ∈ s.toList, c.toNat = b.toNat := by
  rw [utf8_eq, List.mem_flatMap]
  refine exists_congr fun c => and_congr_right fun _ => ?_
  by_cases hc : c.toNat < 128
  · rw [utf8EncodeChar_ascii hc, List.mem_singleton, ← UInt8.toNat_inj, UInt8.toNat_ofNat',
      Nat.mod_eq_of_lt (by omega), eq_comm]
  · refine iff_of_false (fun hmem => ?_) (by omega)
    have := utf8EncodeChar_beyond (Nat.le_of_not_lt hc) hmem
    omega

/-- ASCII bytes are those of the text that they spell. -/
theorem utf8_ofBytes {bytes : List UInt8} (h : ∀ b ∈ bytes, b.toNat < 128) :
    (String.ofList (bytes.map fun b => Char.ofNat b.toNat)).toUTF8.toList = bytes := by
  rw [utf8_eq, String.toList_ofList]
  induction bytes with
  | nil => rfl
  | cons b rest ih =>
    have hb := h b (List.mem_cons_self ..)
    have hnumber : (Char.ofNat b.toNat).toNat = b.toNat := by
      rw [Char.ofNat, dif_pos (show b.toNat.isValidChar from .inl (by omega))]
      rfl
    rw [List.map_cons, List.flatMap_cons, ih fun b hb => h b (List.mem_cons_of_mem _ hb),
      utf8EncodeChar_ascii (by rw [hnumber]; exact hb), hnumber, UInt8.ofNat_toNat]
    rfl

end PageAudit.Text
