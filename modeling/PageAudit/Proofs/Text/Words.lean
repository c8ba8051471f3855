import PageAudit.Text.Words
import Mathlib.Tactic.SplitIfs
/-!
Words of a text. Whatever stands before a blank and whatever stands behind it is read apart
(`wordsFrom_append_blank`). So a word is a run of characters without blanks that has the ends of the text or
blanks at its own ends (`mem_words_iff`).
-/
namespace PageAudit.Text

/-- What stands before a word: nothing, or something that ends with a blank. -/
def EndsBlank (us : List Char) : Prop := us = [] ∨ ∃ us' b, us = us' ++ [b] ∧ isAsciiBlank b = true

/-- What stands behind a word: nothing, or something that starts with a blank. -/
def StartsBlank (vs : List Char) : Prop := vs = [] ∨ ∃ b vs', vs = b :: vs' ∧ isAsciiBlank b = true

/-- A run of characters, none of them a blank. -/
structure Solid (ws : List Char) : Prop where
  ne_nil : ws ≠ []
  not_blank : ∀ c ∈ ws, isAsciiBlank c = false

/-- A text in which something stands between blanks, or at the ends. -/
def StandsIn (ws cs : List Char) : Prop :=
  ∃ us vs, cs = us ++ ws ++ vs ∧ EndsBlank us ∧ StartsBlank vs

variable {current cs ws : List Char} {b : Char}

theorem EndsBlank.append_cons {us : List Char} (h : EndsBlank us) (hb : isAsciiBlank b = true) (front : List Char) :
    EndsBlank (front ++ b :: us) := by
  rcases h with rfl | ⟨us', b', rfl, hb'⟩
  · exact .inr ⟨front, b, rfl, hb⟩
  · exact .inr ⟨front ++ b :: us', b', by simp, hb'⟩

/-- Words on the two sides of a blank are read apart. -/
theorem wordsFrom_append_blank (hb : isAsciiBlank b = true) (xs ys : List Char) :
    wordsFrom current (xs ++ b :: ys) = wordsFrom current xs ++ wordsFrom [] ys := by
  induction xs generalizing current with
  | nil =>
    simp only [List.nil_append, wordsFrom, if_pos hb]
    split <;> rfl
  | cons c rest ih =>
    simp only [List.cons_append, wordsFrom, ih]
    split_ifs
    · rfl
    · rfl
    · rfl

/-- A run without blanks ends the word that is being read. -/
theorem wordsFrom_solid (hne : current.reverse ++ ws ≠ []) (h : ∀ c ∈ ws, isAsciiBlank c = false) :
    wordsFrom current ws = [current.reverse ++ ws] := by
  induction ws generalizing current with
  | nil =>
    have hcurrent : current ≠ [] := by simpa using hne
    simp [wordsFrom, hcurrent]
  | cons c rest ih =>
    have hc : isAsciiBlank c = false := h c (List.mem_cons_self ..)
    have hrest : wordsFrom (c :: current) rest = [(c :: current).reverse ++ rest] :=
      ih (by simp) fun x hx => h x (List.mem_cons_of_mem c hx)
    rw [wordsFrom, hc, if_neg Bool.false_ne_true, hrest]
    simp

theorem mem_wordsFrom_of_standsIn (hsolid : Solid ws) (h : StandsIn ws cs) : ws ∈ wordsFrom [] cs := by
  obtain ⟨us, vs, rfl, hus, hvs⟩ := h
  have hword : wordsFrom [] ws = [ws] := wordsFrom_solid hsolid.ne_nil hsolid.not_blank
  have hbehind : ws ∈ wordsFrom [] (ws ++ vs) := by
    rcases hvs with rfl | ⟨b, vs, rfl, hb⟩
    · rw [List.append_nil, hword]
      exact List.mem_singleton_self ws
    · rw [wordsFrom_append_blank hb, hword]
      exact List.mem_append_left _ (List.mem_singleton_self ws)
  rcases hus with rfl | ⟨us, b, rfl, hb⟩
  · exact hbehind
  · rw [List.append_assoc, List.append_assoc, List.singleton_append, wordsFrom_append_blank hb]
    exact List.mem_append_right _ hbehind

/-- The characters of the word that is being read are a word if there are any. -/
theorem solid_reverse (hne : current.isEmpty ≠ true) (h : ∀ c ∈ current, isAsciiBlank c = false) :
    Solid current.reverse where
  ne_nil := List.reverse_ne_nil_iff.mpr (by simpa using hne)
  not_blank c hc := h c (List.mem_reverse.mp hc)

/-- What is read as a word has no blank in it, and stands in the text with blanks at its ends, where the text
begins with the word that is being read. -/
theorem standsIn_of_mem_wordsFrom (hcurrent : ∀ c ∈ current, isAsciiBlank c = false)
    (h : ws ∈ wordsFrom current cs) : Solid ws ∧ StandsIn ws (current.reverse ++ cs) := by
  induction cs generalizing current with
  | nil =>
    rw [wordsFrom] at h
    split_ifs at h with hempty
    · cases h
    · obtain rfl := List.mem_singleton.mp h
      exact ⟨solid_reverse hempty hcurrent, [], [], by simp, .inl rfl, .inl rfl⟩
  | cons c rest ih =>
    have hlater (hc : isAsciiBlank c = true) (h : ws ∈ wordsFrom [] rest) :
        Solid ws ∧ StandsIn ws (current.reverse ++ c :: rest) := by
      obtain ⟨hsolid, us, vs, rfl, hus, hvs⟩ := ih (fun x hx => by cases hx) h
      exact ⟨hsolid, current.reverse ++ c :: us, vs, by simp, hus.append_cons hc _, hvs⟩
    rw [wordsFrom] at h
    split_ifs at h with hc hempty
    · exact hlater hc h
    · rcases List.mem_cons.mp h with rfl | h
      · exact ⟨solid_reverse hempty hcurrent, [], c :: rest, by simp, .inl rfl, .inr ⟨c, rest, rfl, hc⟩⟩
      · exact hlater hc h
    · have hmore : ∀ x ∈ c :: current, isAsciiBlank x = false :=
        List.forall_mem_cons.mpr ⟨by simpa using hc, hcurrent⟩
      have hword := ih hmore h
      rwa [List.reverse_cons, List.append_assoc, List.singleton_append] at hword

/-- The words of a text are the runs without blanks that have blanks, or the ends of the text, around them. -/
theorem mem_words_iff {s token : String} :
    token ∈ words s ↔ Solid token.toList ∧ StandsIn token.toList s.toList := by
  have hwords : token ∈ words s ↔ token.toList ∈ wordsFrom [] s.toList := by
    rw [words, List.mem_map]
    constructor
    · rintro ⟨ws, hws, rfl⟩
      rwa [String.toList_ofList]
    · exact fun h => ⟨token.toList, h, String.ofList_toList⟩
  rw [hwords]
  constructor
  · exact standsIn_of_mem_wordsFrom fun c hc => by cases hc
  · exact fun h => mem_wordsFrom_of_standsIn h.1 h.2

end PageAudit.Text
