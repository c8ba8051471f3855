import PageAudit.Finding.Knowledge
import PageAudit.Proofs.Text.Replace
import PageAudit.Proofs.Text.SingleLine
/-!
What the knowledge base gives. Each code of the base leads to its own entry (`find?_code`), so a finding
of such a code is built from that entry and is never a bare one (`about_code`).

No text of the base has a line feed or a brace in it (`base_free`). So a finding has texts of one line if
what it is about has (`finding_singleLine`), and filling the place of a template is the same as replacing
the mark of that place in the raw text (`Free.replaced_raw`).
-/
namespace PageAudit

/-! ### Templates -/

namespace Template

/-- The texts of a template, without its place. -/
def texts : Template → List String
  | .fixed text => [text]
  | .around before after => [before, after]

/-- A template whose texts do not have a character. -/
def Free (c : Char) (t : Template) : Prop := ∀ text ∈ t.texts, c ∉ text.toList

/-- Whether a template has a place for a subject. -/
def hasPlace : Template → Bool
  | .fixed _ => false
  | .around .. => true

variable {t : Template} {c : Char}

theorem Free.fill (h : t.Free c) {subject : String} (hs : c ∉ subject.toList) :
    c ∉ (t.fill subject).toList := by
  cases t with
  | fixed text => exact h text (List.mem_singleton_self _)
  | around before after =>
    have hbefore := h before (List.mem_cons_self ..)
    have hafter := h after (List.mem_cons_of_mem _ (List.mem_singleton_self _))
    simp only [Template.fill, String.toList_append, List.mem_append, not_or]
    exact ⟨⟨hbefore, hs⟩, hafter⟩

/-- Filling is replacing, whatever the subject contains. -/
theorem Free.replaced_raw (h : t.Free '\x7b') (subject : String) :
    Text.replaced placeholder subject t.raw = t.fill subject := by
  rw [← String.toList_inj, Text.replaced, String.toList_ofList]
  cases t with
  | fixed text => exact Text.replacedFrom_eq_self (h text (List.mem_singleton_self _))
  | around before after =>
    have hbefore := h before (List.mem_cons_self ..)
    have hafter := h after (List.mem_cons_of_mem _ (List.mem_singleton_self _))
    have hmark : placeholder.toList = '\x7b' :: "subject\x7d".toList := by decide +kernel
    simp only [raw, Template.fill, String.toList_append, List.append_assoc, hmark]
    rw [Text.replacedFrom_append hbefore, Text.replacedFrom_mark, Text.replacedFrom_eq_self hafter]

/-- Where a template has no place, there is nothing to fill. -/
theorem fill_of_fixed (hplace : t.hasPlace = false) (subject : String) : t.fill subject = t.raw := by
  cases t with
  | fixed text => rfl
  | around before after => cases hplace

/-- Where a template has no place, replacing changes nothing. -/
theorem Free.replaced_of_fixed (h : t.Free '\x7b') (hplace : t.hasPlace = false) (subject : String) :
    Text.replaced placeholder subject t.raw = t.raw := by
  rw [h.replaced_raw, fill_of_fixed hplace]

/-- No mark is left in a filled template, unless the subject brings one along. -/
theorem Free.occursIn_fill (h : t.Free '\x7b') {subject : String} (hs : '\x7b' ∉ subject.toList) :
    Text.occursIn placeholder.toList (t.fill subject).toList = false := by
  have hmark : placeholder.toList = '\x7b' :: "subject\x7d".toList := by decide +kernel
  rw [hmark]
  exact Text.occursIn_eq_false (h.fill hs)

end Template

/-! ### Entries -/

/-- A finding whose texts have no line feed. -/
structure Finding.SingleLine (f : Finding) : Prop where
  name : Text.SingleLine f.name
  description : Text.SingleLine f.description
  fixSteps : ∀ step ∈ f.fixSteps, Text.SingleLine step

namespace Knowledge

/-- The templates of an entry. -/
def templates (k : Knowledge) : List Template := k.title :: k.fixSteps

theorem base_free : ∀ c ∈ ['\n', '\x7b'], ∀ k ∈ base, ∀ t ∈ k.templates, t.Free c := by
  -- character by character, entry by entry, and in each of them text by text
  repeat' refine List.forall_mem_cons.mpr ⟨?_, ?_⟩
  all_goals first
    | exact Text.notMem_ofList rfl
    | exact List.forall_mem_nil _

theorem fixSteps_ne_nil : ∀ k ∈ base, k.fixSteps ≠ [] := by decide +kernel

/-- One entry only has a place for a subject. -/
theorem hasPlace_base : ∀ k ∈ base, k = headerMissing ∨ ∀ t ∈ k.templates, t.hasPlace = false := by
  repeat' refine List.forall_mem_cons.mpr ⟨?_, ?_⟩
  all_goals first
    | exact .inl rfl
    | exact .inr (by decide)
    | exact List.forall_mem_nil _

/-- No two entries have one code. -/
theorem find?_code : ∀ k ∈ base, find? k.code = some k := by
  repeat' refine List.forall_mem_cons.mpr ⟨?_, ?_⟩
  all_goals first
    | rfl
    | exact List.forall_mem_nil _

variable {k : Knowledge} {subject description : String}

theorem mem_of_find? (h : find? k.code = some k) : k ∈ base := List.mem_of_find?_eq_some h

/-- A code of the base never gives a bare finding. -/
theorem about_code (hk : k ∈ base) :
    Finding.about k.code subject description = k.finding subject description := by
  rw [Finding.about, find?_code k hk]

/-- The texts of a finding are those of its entry with the mark replaced, whatever the subject contains. -/
theorem finding_replaced (hk : k ∈ base) (subject description : String) :
    let f := k.finding subject description
    f.name = Text.replaced Template.placeholder subject k.title.raw ∧
      f.fixSteps = k.fixSteps.map fun step => Text.replaced Template.placeholder subject step.raw := by
  have hfree : ∀ t ∈ k.templates, t.Free '\x7b' := base_free _ (by decide) k hk
  refine ⟨((hfree k.title (.head _)).replaced_raw subject).symm, ?_⟩
  exact List.map_congr_left fun t ht => ((hfree t (.tail _ ht)).replaced_raw subject).symm

theorem finding_singleLine (hk : k ∈ base) (hs : Text.SingleLine subject)
    (hd : Text.SingleLine description) : (k.finding subject description).SingleLine where
  name := (base_free _ (by decide) k hk _ (List.mem_cons_self ..)).fill hs
  description := hd
  fixSteps := List.forall_mem_map.mpr fun t ht =>
    (base_free _ (by decide) k hk t (List.mem_cons_of_mem _ ht)).fill hs

end Knowledge

/-- The base gives a finding its name. -/
theorem Finding.name_about {k : Knowledge} (hk : k ∈ Knowledge.base) (subject description : String) :
    (about k.code subject description).name = k.title.fill subject := by
  rw [Knowledge.about_code hk]
  rfl

/-- A finding says what was measured, whatever its code. -/
theorem Finding.description_about (code subject description : String) :
    (about code subject description).description = description := by
  unfold about
  split <;> rfl

end PageAudit
