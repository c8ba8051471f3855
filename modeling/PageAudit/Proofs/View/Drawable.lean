import PageAudit.View.Draw
/-!
Drawing. Of a session it settles the list of findings and changes nothing else (`View.draw_settled`),
and where no list is shown it changes nothing at all (`View.draw_unlisted`). Settling a list moves what
is in view, and the selected entry only if it is out of bounds (`Session.Choice.settled_eq`).

It asks for pictures of the wheel, for rows and for gauges. The rows are always there, because an area
is split into as many rows as there are parts (`Screen.Area.length_rowsOfExtents`), so a session whose
wheel shows one of its pictures while it scans, and whose scores fit a gauge when it has finished, can
be drawn on a screen of any size (`View.draw_ok`).
-/
namespace PageAudit

theorem ok_of_bind {ε α β : Type} {x : Except ε α} {f : α → Except ε β} {b : β}
    (h : (x >>= f) = .ok b) : ∃ a, x = .ok a ∧ f a = .ok b := by
  cases x with
  | error e => cases h
  | ok a => exact ⟨a, rfl, h⟩

namespace Screen

namespace Area

theorem length_sums (total : Nat) (ns : List Nat) : (sums total ns).length = ns.length + 1 := by
  induction ns generalizing total with
  | nil => rfl
  | cons n rest ih =>
    rw [sums, List.length_cons, ih, List.length_cons]

/-- There is a row between each bound and the next. -/
theorem length_rowsAt (a : Area) (bounds : List Nat) : (a.rowsAt bounds).length = bounds.length - 1 := by
  induction bounds with
  | nil => rfl
  | cons first rest ih =>
    cases rest with
    | nil => rfl
    | cons second rest =>
      rw [rowsAt, List.length_cons, ih]
      simp only [List.length_cons]
      omega

/-- An area is split into as many rows as there are parts. -/
theorem length_rowsOfExtents (a : Area) (parts : List Extent) :
    (a.rowsOfExtents parts).length = parts.length := by
  rw [rowsOfExtents, length_rowsAt, extentBounds]
  simp only [List.length_map, length_sums, Nat.add_sub_cancel]

end Area

/-- A gauge can show every percentage. -/
theorem Canvas.gauge_ok (c : Canvas) (a : Area) {percent : Nat} (h : percent ≤ fullGauge) (color : Color) :
    ∃ c', c.gauge? a percent color = some c' := by
  unfold Canvas.gauge?
  rw [if_neg (Nat.not_lt.mpr h)]
  split
  · exact ⟨c, rfl⟩
  · exact ⟨_, rfl⟩

end Screen

/-- Settling a list leaves the selected entry alone, if it is one of the list. -/
theorem Session.Choice.settled_eq {count : Nat} {c : Choice} (hnone : count = 0 → c.selected = none)
    (hbound : ∀ i, c.selected = some i → i < count) (rows : Nat) :
    ∃ offset, c.settled count rows = { c with offset := offset } := by
  obtain ⟨selected, offset⟩ := c
  unfold settled
  by_cases hrows : rows = 0
  · rw [if_pos hrows]
    exact ⟨offset, rfl⟩
  · rw [if_neg hrows]
    by_cases hcount : count = 0
    · rw [if_pos hcount]
      obtain rfl : selected = none := hnone hcount
      exact ⟨0, rfl⟩
    · rw [if_neg hcount]
      have hselected : selected.map (min · (count - 1)) = selected := by
        cases selected with
        | none => rfl
        | some i => exact congrArg some (Nat.min_eq_left (Nat.le_sub_one_of_lt (hbound i rfl)))
      rw [hselected]
      exact ⟨_, rfl⟩

namespace View
open Screen

/-! ### What drawing changes -/

/-- A session with its list settled in a number of rows. -/
def settled (rows : Nat) (s : Session) : Session :=
  { s with choice := s.choice.settled s.findings.length rows }

theorem settled_zero (s : Session) : settled 0 s = s := rfl

theorem drawResult_settled (canvas : Canvas) (a : Area) (s : Session) :
    ∃ rows, (drawResult canvas a s).2 = settled rows s := by
  unfold drawResult
  split
  · exact ⟨0, (settled_zero s).symm⟩
  · exact ⟨_, rfl⟩

theorem drawReport_settled {canvas canvas' : Canvas} {a : Area} {s s' : Session}
    (h : drawReport canvas a s = .ok (canvas', s')) : ∃ rows, s' = settled rows s := by
  unfold drawReport at h
  split at h
  · obtain ⟨rows, hrows⟩ :=
      drawResult_settled (canvas.border a "Audit Report (Navigate with ↑ ↓)" {}) a.inside s
    have hs : (drawResult _ a.inside s).2 = s' := congrArg Prod.snd (Except.ok.inj h)
    exact ⟨rows, by rw [← hs, hrows]⟩
  · obtain ⟨line, -, hl⟩ := ok_of_bind h
    cases hl
    exact ⟨0, (settled_zero s).symm⟩

/-- Drawing settles the list of findings and changes nothing else of a session. -/
theorem draw_settled {width height : Nat} {s s' : Session} {picture : Picture}
    (h : draw width height s = .ok (picture, s')) : ∃ rows, s' = settled rows s := by
  unfold draw at h
  obtain ⟨⟨canvas, s₁⟩, hreport, h⟩ := ok_of_bind h
  obtain ⟨canvas', -, h⟩ := ok_of_bind h
  obtain ⟨rows, rfl⟩ := drawReport_settled hreport
  cases h
  exact ⟨rows, rfl⟩

/-- A session that shows a list of findings: one that has finished and whose result has no error. -/
def Listing (s : Session) : Prop := s.phase = .finished ∧ s.result.bind (·.error) = none

instance (s : Session) : Decidable (Listing s) := inferInstanceAs (Decidable (_ ∧ _))

theorem drawReport_unlisted {canvas canvas' : Canvas} {a : Area} {s s' : Session}
    (hl : ¬ Listing s) (h : drawReport canvas a s = .ok (canvas', s')) : s' = s := by
  unfold drawReport at h
  by_cases hp : s.phase = .finished
  · rw [if_pos hp] at h
    have hs : (drawResult _ a.inside s).2 = s' := congrArg Prod.snd (Except.ok.inj h)
    rw [← hs]
    unfold drawResult
    split
    · rfl
    · next herror => exact absurd ⟨hp, herror⟩ hl
  · rw [if_neg hp] at h
    obtain ⟨line, -, hline⟩ := ok_of_bind h
    cases hline
    rfl

/-- Where there is no list to settle, drawing changes nothing. -/
theorem draw_unlisted {width height : Nat} {s s' : Session} {picture : Picture}
    (hl : ¬ Listing s) (h : draw width height s = .ok (picture, s')) : s' = s := by
  unfold draw at h
  obtain ⟨⟨canvas, s₁⟩, hreport, h⟩ := ok_of_bind h
  obtain ⟨canvas', -, h⟩ := ok_of_bind h
  obtain rfl := drawReport_unlisted hl hreport
  cases h
  rfl

/-! ### What can be drawn -/

theorem summaryRow_ok (rows : List Area) {i : Nat} (h : i < rows.length) :
    ∃ a, summaryRow rows i = .ok a := by
  rw [summaryRow, List.getElem?_eq_getElem h]
  exact ⟨_, rfl⟩

/-- Each score takes two rows, the first of them below the overall score and an empty row. -/
theorem drawScores_ok (canvas : Canvas) (rows : List Area) (i : Nat) (scores : List (Category × UInt8))
    (hrows : 2 + 2 * (i + scores.length) ≤ rows.length)
    (hscores : ∀ x ∈ scores, x.2.toNat ≤ fullGauge) : ∃ c, drawScores canvas rows i scores = .ok c := by
  induction scores generalizing canvas i with
  | nil => exact ⟨canvas, rfl⟩
  | cons x rest ih =>
    obtain ⟨c, score⟩ := x
    rw [List.length_cons] at hrows
    obtain ⟨label, hlabel⟩ := summaryRow_ok rows (i := 2 + 2 * i) (by omega)
    obtain ⟨bar, hbar⟩ := summaryRow_ok rows (i := 3 + 2 * i) (by omega)
    obtain ⟨drawn, hdrawn⟩ := (canvas.paragraph label { lines := [scoreLine c score.toNat] }).gauge_ok bar
      (hscores _ (List.mem_cons_self ..)) (rating score.toNat).2
    obtain ⟨last, hlast⟩ := ih drawn (i + 1) (by omega) fun y hy => hscores y (List.mem_cons_of_mem _ hy)
    refine ⟨last, ?_⟩
    simp only [drawScores, hlabel, hbar, bind, Except.bind]
    rw [hdrawn]
    exact hlast

/-- The summary asks for two rows for each category, and for four more. -/
theorem length_summaryParts (categories : Nat) : (summaryParts categories).length = 2 * categories + 4 := by
  rw [summaryParts]
  simp only [List.length_append, List.length_cons, List.length_nil, List.length_replicate]
  omega

theorem drawSummary_ok (canvas : Canvas) (a : Area) (s : Session)
    (hscores : s.phase = .finished → ∀ x ∈ s.summary.scores, x.2.toNat ≤ fullGauge) :
    ∃ c, drawSummary canvas a s = .ok c := by
  unfold drawSummary
  by_cases hp : s.phase = .finished
  · rw [if_pos hp]
    have hlength : (a.withoutEdge.rowsOfExtents (summaryParts s.summary.scores.length)).length =
        2 * s.summary.scores.length + 4 := by
      rw [Area.length_rowsOfExtents, length_summaryParts]
    generalize a.withoutEdge.rowsOfExtents (summaryParts s.summary.scores.length) = rows at hlength
    obtain ⟨top, htop⟩ := summaryRow_ok rows (i := 0) (by omega)
    obtain ⟨below, hbelow⟩ := summaryRow_ok rows (i := rows.length - 1) (by omega)
    obtain ⟨drawn, hdrawn⟩ := drawScores_ok ((canvas.border a "Summary" {}).paragraph top
      { lines := overallLines s.summary.overall, centered := true }) rows 0 s.summary.scores (by omega)
      (hscores hp)
    simp only [htop, hbelow, hdrawn, bind, Except.bind]
    exact ⟨_, rfl⟩
  · rw [if_neg hp]
    exact ⟨_, rfl⟩

theorem drawReport_ok (canvas : Canvas) (a : Area) (s : Session)
    (hwheel : s.phase = .scanning → s.wheelAt < Session.wheel.length) :
    ∃ x, drawReport canvas a s = .ok x := by
  unfold drawReport
  split
  · exact ⟨_, rfl⟩
  · have hline : ∃ line, waitingLine s = .ok line := by
      unfold waitingLine
      split
      · next hp =>
        rw [List.getElem?_eq_getElem (hwheel hp)]
        exact ⟨_, rfl⟩
      · exact ⟨_, rfl⟩
    obtain ⟨line, hline⟩ := hline
    rw [hline]
    exact ⟨_, rfl⟩

/-- A session can be drawn if its wheel shows a picture and its scores fit a gauge. -/
theorem draw_ok (width height : Nat) (s : Session)
    (hwheel : s.phase = .scanning → s.wheelAt < Session.wheel.length)
    (hscores : s.phase = .finished → ∀ x ∈ s.summary.scores, x.2.toNat ≤ fullGauge) :
    ∃ picture s', draw width height s = .ok (picture, s') := by
  obtain ⟨⟨canvas, s'⟩, hreport⟩ := drawReport_ok
    (drawInput (Canvas.blank width height)
      (Regions.ofScreen (Area.ofSize width height) s.log.shown).input s.input)
    (Regions.ofScreen (Area.ofSize width height) s.log.shown).report s hwheel
  obtain ⟨rows, rfl⟩ := drawReport_settled hreport
  obtain ⟨canvas', hsummary⟩ := drawSummary_ok canvas
    (Regions.ofScreen (Area.ofSize width height) s.log.shown).summary (settled rows s) hscores
  unfold draw
  simp only [hreport, hsummary, bind, Except.bind]
  exact ⟨_, _, rfl⟩

end View

end PageAudit
