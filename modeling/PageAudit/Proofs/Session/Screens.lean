import PageAudit.Proofs.Audit.Outcome
import PageAudit.Proofs.Session.UnderWay
import PageAudit.Proofs.Session.Views
/-!
The screens of a run. `every_screen_drawn` says that no round of a loop fails: at each of them the wheel
shows one of its pictures, the log is cut inside its lines, the summary has every row that it asks for,
and no gauge is asked for more than it can show. What a screen shows stays as it is when it is drawn; only
the place where the list of findings begins moves.

`Presentable` is the invariant. It adds to the agreement of the views that the scores of the result are
percentages, which holds because no result comes from anywhere but an audit (`score_ofFetch_le`).
-/
namespace PageAudit

/-- An audit gives no more than the full score, whatever its fetch ended with. -/
theorem AuditResult.score_ofFetch_le (url : String) (scanTime : ZonedTime) (outcome : Except FetchError Page)
    (c : Category) : ((ofFetch url scanTime outcome).category c).score.toNat ≤ 100 := by
  cases outcome with
  | ok page =>
    show ((evaluate url page scanTime).category c).score.toNat ≤ 100
    rw [evaluate_category]
    exact Rule.score_le_full ..
  | error e =>
    show ((failed url scanTime (failureText e)).category c).score.toNat ≤ 100
    rw [(withoutPage_failed ..).scores c]
    exact Nat.zero_le 100

namespace Session

/-- A session of which every part can be shown. -/
structure Presentable (s : Session) : Prop where
  agrees : Agrees s
  scores : ∀ r, s.result = some r → ∀ c, (r.category c).score.toNat ≤ 100

/-- But for the arrival of a result, no action gives a session another one. -/
theorem Desk.act_result (d : Desk) {a : Action} (ha : ∀ r, a ≠ .finish r) :
    (d.act a).session.result = d.session.result ∨ (d.act a).session.result = none := by
  by_cases hq : a.isQuiet = true
  · exact .inl (d.act_quiet hq).2.2
  · cases a with
    | startScan => exact .inl rfl
    | finish r => exact absurd rfl (ha r)
    | reset => exact .inr rfl
    | _ => exact absurd rfl hq

/-- Settling the list of a session whose views agree moves nothing but its beginning. -/
theorem Agrees.settled_eq {s : Session} (hs : Agrees s) (rows : Nat) :
    ∃ offset, View.settled rows s = { s with choice := { s.choice with offset := offset } } := by
  obtain ⟨offset, hoffset⟩ := Choice.settled_eq
    (fun hcount => hs.chosen.mpr (List.length_eq_zero_iff.mp hcount)) hs.inBounds rows
  exact ⟨offset, by rw [View.settled, hoffset]⟩

namespace Presentable

variable {s : Session} {d : Desk}

theorem start : Presentable Session.start := ⟨Agrees.start, nofun⟩

theorem settled (hs : Presentable s) (rows : Nat) : Presentable (View.settled rows s) := by
  obtain ⟨offset, hoffset⟩ := hs.agrees.settled_eq rows
  obtain ⟨⟨findings, summary, shown, chosen, inBounds, wheel⟩, scores⟩ := hs
  rw [hoffset]
  exact ⟨⟨findings, summary, shown, chosen, inBounds, wheel⟩, scores⟩

/-- What is typed is not part of what an audit shows. -/
theorem typed (hs : Presentable s) (input : String) : Presentable { s with input := input } :=
  ⟨hs.agrees.frame ⟨rfl, rfl, rfl, rfl⟩ id hs.agrees.wheel, hs.scores⟩

theorem act (hs : Presentable d.session) {a : Action} (ha : ∀ r, a ≠ .finish r) :
    Presentable (d.act a).session := by
  refine ⟨hs.agrees.act a, fun r hr => ?_⟩
  rcases d.act_result ha with hsame | hnone
  · exact hs.scores r (hsame ▸ hr)
  · rw [hnone] at hr
    cases hr

theorem finish (hs : Presentable s) {r : AuditResult} (hr : ∀ c, (r.category c).score.toNat ≤ 100) :
    Presentable (s.finish r) := by
  refine ⟨Agrees.finish hs.agrees.wheel r, fun r' hr' => ?_⟩
  obtain rfl : r = r' := Option.some.inj hr'
  exact hr

/-! ### One step at a time -/

theorem handle (hs : Presentable d.session) (e : Event) : Presentable (d.handle e).1.session := by
  unfold Desk.handle
  cases he : Command.ofEvent? d.session e with
  | none => exact hs
  | some c =>
    cases Command.allowed_of_ofEvent? he with
    | insert _ _ _ | erase _ _ => exact hs.typed _
    | close | dismiss _ | audit _ _ _ => exact hs.act nofun
    | finished _ _ ha =>
      refine hs.act fun r hr => ?_
      simp [hr, Command.finishedActions] at ha

theorem deliver {l : Loop} (hs : Presentable l.desk.session) (config : Config) (ended : Ended) :
    Presentable (l.deliver config ended).desk.session := by
  obtain ⟨desk, underWay⟩ := l
  cases underWay with
  | nil => exact hs
  | cons target rest => exact hs.finish (AuditResult.score_ofFetch_le _ _ _)

/-! ### What is shown -/

/-- Every score that is shown fits a gauge. -/
theorem gauges (hs : Presentable s) : ∀ x ∈ s.summary.scores, x.2.toNat ≤ Screen.fullGauge := by
  have hsummary := hs.agrees.summary
  cases hr : s.result with
  | none =>
    rw [hr] at hsummary
    rw [hsummary]
    exact List.forall_mem_nil _
  | some r =>
    rw [hr] at hsummary
    rw [hsummary]
    exact List.forall_mem_map.mpr fun c _ => hs.scores r hr c

theorem draw_ok {l : Loop} (hs : Presentable l.desk.session) (width height : Nat) :
    ∃ picture offset, l.draw width height = .ok (picture, { l with desk := { l.desk with
      session := { l.desk.session with choice := { l.desk.session.choice with offset := offset } } } }) := by
  obtain ⟨picture, s, hdraw⟩ := View.draw_ok width height l.desk.session (fun _ => hs.agrees.wheel)
    fun _ => hs.gauges
  obtain ⟨rows, rfl⟩ := View.draw_settled hdraw
  obtain ⟨offset, hoffset⟩ := hs.agrees.settled_eq rows
  refine ⟨picture, offset, ?_⟩
  rw [hoffset] at hdraw
  unfold Loop.draw
  rw [hdraw]
  rfl

end Presentable

namespace Loop.Reachable

variable {config : Config} {store : Store} {p : Point} {l : Loop} {h : History}

/-- In every state of a loop, in a round or between two of them, the session can be shown. -/
theorem presentable (hr : Reachable config store p l h) : Presentable l.desk.session := by
  induction hr with
  | start => exact Presentable.start
  | draw _ _ hdraw ih =>
    obtain ⟨rows, rfl⟩ := draw_settled hdraw
    exact ih.settled rows
  | pause _ _ ih | wait _ ih => exact ih
  | @event l _ log e _ ih =>
    have hmeet : Presentable (l.meet log).desk.session := ih
    exact hmeet.handle e
  | receive ended _ ih => exact ih.deliver config ended
  | tick _ ih => exact ih.act nofun

/-- No run fails, whatever its rounds meet. -/
theorem run_ok (hr : Reachable config store .top l h) (picture : Option View.Picture) (rounds : List Round) :
    ∃ ending, Loop.run config picture l rounds = .ok ending := by
  induction rounds generalizing l h picture with
  | nil => exact ⟨_, rfl⟩
  | cons r rest ih =>
    unfold Loop.run
    split
    · exact ⟨_, rfl⟩
    · next ho =>
      obtain ⟨drawn, offset, hdraw⟩ := hr.presentable.draw_ok r.width r.height
      have hstep := show l.step config r = .ok (drawn, _) by
        unfold Loop.step
        rw [hdraw]
        rfl
      obtain ⟨h', hr'⟩ := hr.step (by simpa using ho) hstep
      obtain ⟨ending, hrun⟩ := ih hr' (some drawn)
      refine ⟨ending, ?_⟩
      rw [hstep]
      exact hrun

end Loop.Reachable

/-- **Every screen of a run can be drawn.** A run never ends with a screen that fails, whatever its
rounds meet. Wherever it ends, on a screen of any size, the picture of the wheel is there, the log is cut
inside its lines, every row that the summary asks for is there, its scores fit a gauge, and of the whole
loop drawing moves only the place where the list of findings begins. -/
theorem every_screen_drawn (config : Config) (store : Store) (rounds : List Round) :
    ∃ ending, Loop.run config none { desk := { store := store } } rounds = .ok ending ∧
      ∀ width height,
        let l := ending.loop
        let s := l.desk.session
        let regions := View.Regions.ofScreen (.ofSize width height) s.log.shown
        let skip := s.log.lines.length - (regions.log.inside.height - 1)
        let rows := regions.summary.withoutEdge.rowsOfExtents (View.summaryParts s.summary.scores.length)
        s.wheelAt < wheel.length ∧
        (skip ≤ s.log.lines.length ∧ View.linesInView regions.log s.log = s.log.lines.drop skip) ∧
        (0 < rows.length ∧ ∀ i < s.summary.scores.length, 3 + 2 * i < rows.length) ∧
        (∀ x ∈ s.summary.scores, x.2.toNat ≤ Screen.fullGauge) ∧
        ∃ picture offset, l.draw width height = .ok (picture, { l with desk := { l.desk with
          session := { s with choice := { s.choice with offset := offset } } } }) := by
  have begun : Loop.Reachable config store .top { desk := { store := store } } {} := .start
  obtain ⟨ending, hrun⟩ := begun.run_ok none rounds
  obtain ⟨h, hr⟩ := begun.run hrun
  have hs := hr.presentable
  refine ⟨ending, hrun, fun width height => ?_⟩
  refine ⟨hs.agrees.wheel, ⟨Nat.sub_le .., rfl⟩, ?_, hs.gauges, hs.draw_ok width height⟩
  rw [Screen.Area.length_rowsOfExtents, View.length_summaryParts]
  exact ⟨by omega, fun i hi => by omega⟩

end Session

end PageAudit
