import PageAudit.Proofs.Session.Action
/-!
The views of a result. Beside its result a session keeps the list of its findings, the summary, the
selected entry and the picture of the wheel, and every action changes some of them by hand.
`views_agree` says that they never part: whatever actions are taken, in whatever order and on
whatever files, the views are those of the result, an entry is selected exactly while there are
findings, and the wheel shows one of its pictures.

`Agrees` is the invariant. The actions that touch a view have a lemma each; the others keep it by
`Agrees.frame`.
-/
namespace PageAudit

/-- The findings of a result are those of its categories, one after the other. -/
theorem AuditResult.allFindings_eq (r : AuditResult) :
    r.allFindings = r.security.findings.map (Category.security, ·) ++
      r.performance.findings.map (Category.performance, ·) ++
      r.seo.findings.map (Category.seo, ·) ++
      r.accessibility.findings.map (Category.accessibility, ·) := by
  simp only [allFindings, Category.all, List.flatMap_cons, List.flatMap_nil, List.append_nil,
    List.append_assoc]
  rfl

namespace Session

/-- The views of a session are those of its result. -/
structure Agrees (s : Session) : Prop where
  findings : s.findings = s.result.elim [] AuditResult.allFindings
  summary : s.summary = s.result.elim {} fun r => .ofResult r s.findings.length
  shown : s.phase = .finished → s.result.isSome = true
  chosen : s.choice.selected = none ↔ s.findings = []
  inBounds : ∀ i, s.choice.selected = some i → i < s.findings.length
  wheel : s.wheelAt < wheel.length

namespace Agrees

variable {s s' : Session}

theorem wheel_pos : 0 < Session.wheel.length := by decide

theorem start : Agrees Session.start :=
  ⟨rfl, rfl, nofun, ⟨fun _ => rfl, fun _ => rfl⟩, nofun, wheel_pos⟩

/-- Whatever leaves the result and its views alone, and shows none, keeps them in agreement. -/
theorem frame (hs : Agrees s)
    (hviews : s'.result = s.result ∧ s'.findings = s.findings ∧ s'.summary = s.summary ∧
      s'.choice = s.choice)
    (hphase : s'.phase = .finished → s.phase = .finished) (hwheel : s'.wheelAt < Session.wheel.length) :
    Agrees s' := by
  obtain ⟨hresult, hfindings, hsummary, hchoice⟩ := hviews
  refine ⟨?_, ?_, fun hp => ?_, ?_, ?_, hwheel⟩
  · rw [hfindings, hresult]
    exact hs.findings
  · rw [hsummary, hresult, hfindings]
    exact hs.summary
  · rw [hresult]
    exact hs.shown (hphase hp)
  · rw [hchoice, hfindings]
    exact hs.chosen
  · rw [hchoice, hfindings]
    exact hs.inBounds

/-! ### The actions that touch a view -/

theorem tick (hs : Agrees s) (file : LogPanel.File) : Agrees (s.tick file) := by
  obtain ⟨w, p, htick, hturned⟩ := tick_eq file s
  rw [htick]
  exact hs.frame ⟨rfl, rfl, rfl, rfl⟩ id (hturned hs.wheel)

theorem startScan (hs : Agrees s) : Agrees s.startScan :=
  hs.frame ⟨rfl, rfl, rfl, rfl⟩ nofun wheel_pos

/-- The first entry is selected, if there is one. -/
theorem first (count : Nat) :
    ((Choice.first count).selected = none ↔ count = 0) ∧
      ∀ i, (Choice.first count).selected = some i → i < count := by
  unfold Choice.first
  by_cases hcount : count = 0
  · rw [if_pos hcount]
    exact ⟨⟨fun _ => hcount, fun _ => rfl⟩, nofun⟩
  · rw [if_neg hcount]
    refine ⟨⟨nofun, fun h => absurd h hcount⟩, fun i hi => ?_⟩
    rw [← Option.some.inj hi]
    exact Nat.pos_of_ne_zero hcount

/-- A result that arrives brings all of its views with it, whatever was there before. -/
theorem finish (hwheel : s.wheelAt < Session.wheel.length) (r : AuditResult) : Agrees (s.finish r) := by
  obtain ⟨hnone, hsome⟩ := first r.allFindings.length
  refine ⟨rfl, rfl, fun _ => rfl, ?_, hsome, hwheel⟩
  exact hnone.trans List.length_eq_zero_iff

theorem updateSummary (hs : Agrees s) : Agrees s.updateSummary := by
  unfold Session.updateSummary
  cases hr : s.result with
  | none => exact hs
  | some r =>
    -- the summary was that of the result before
    have hsummary : s.summary = .ofResult r s.findings.length := by
      have := hs.summary
      rwa [hr] at this
    exact hs.frame ⟨hr.symm, rfl, hsummary.symm, rfl⟩ id hs.wheel

theorem select (hs : Agrees s) {i : Nat} (hi : s.findings ≠ [] → i < s.findings.length) :
    Agrees (s.select i) := by
  unfold Session.select
  by_cases hempty : s.findings = []
  · rw [if_pos (List.isEmpty_iff.mpr hempty)]
    exact hs
  · rw [if_neg (mt List.isEmpty_iff.mp hempty)]
    refine ⟨hs.findings, hs.summary, hs.shown, ⟨nofun, fun h => absurd h hempty⟩, fun j hj => ?_,
      hs.wheel⟩
    rw [← Option.some.inj hj]
    exact hi hempty

theorem selectPrevious (hs : Agrees s) : Agrees s.selectPrevious := by
  refine hs.select fun hne => ?_
  cases hsel : s.choice.selected with
  | none => exact absurd (hs.chosen.mp hsel) hne
  | some j => exact Nat.lt_of_le_of_lt (Nat.sub_le j 1) (hs.inBounds j hsel)

theorem selectNext (hs : Agrees s) : Agrees s.selectNext := by
  refine hs.select fun hne => ?_
  have hpos : 0 < s.findings.length := List.length_pos_iff.mpr hne
  cases s.choice.selected with
  | none => exact hpos
  | some j => exact Nat.lt_of_le_of_lt (Nat.min_le_right ..) (Nat.sub_lt hpos Nat.one_pos)

theorem reset : Agrees s.reset :=
  start.frame ⟨rfl, rfl, rfl, rfl⟩ nofun wheel_pos

/-! ### Runs -/

/-- Every action keeps the views in agreement. -/
theorem act {d : Desk} (hs : Agrees d.session) (a : Action) : Agrees (d.act a).session := by
  cases a with
  | tick => exact hs.tick d.store.log
  | startScan => exact hs.startScan
  | finish r => exact finish hs.wheel r
  | updateSummary => exact hs.updateSummary
  | selectPrevious => exact hs.selectPrevious
  | selectNext => exact hs.selectNext
  | reset => exact reset
  | save format =>
    obtain ⟨status, hsave⟩ := d.save_session format
    show Agrees (d.save format).session
    rw [hsave]
    exact hs.frame ⟨rfl, rfl, rfl, rfl⟩ id hs.wheel
  | scrollLeft | scrollRight | toggleLog | dismissNotice | close =>
    exact hs.frame ⟨rfl, rfl, rfl, rfl⟩ id hs.wheel

end Agrees

/-- Takes actions one after the other, each on the files as they are by then. -/
def Desk.actAll (d : Desk) : List (Store × Action) → Desk
  | [] => d
  | (store, a) :: rest => ({ d with store := store }.act a).actAll rest

theorem Agrees.actAll {d : Desk} (hs : Agrees d.session) (steps : List (Store × Action)) :
    Agrees (d.actAll steps).session := by
  induction steps generalizing d with
  | nil => exact hs
  | cons step rest ih =>
    have : Agrees { d with store := step.1 }.session := hs
    exact ih (this.act step.2)

theorem Agrees.selectedFinding {s : Session} (hs : Agrees s) :
    s.selectedFinding?.isSome = true ↔ s.findings ≠ [] := by
  unfold selectedFinding?
  cases hsel : s.choice.selected with
  | none =>
    have hempty := hs.chosen.mp hsel
    simp [hempty]
  | some i =>
    have hi := hs.inBounds i hsel
    have hne : s.findings ≠ [] := List.length_pos_iff.mp (Nat.zero_lt_of_lt hi)
    simp [hi, hne]

/-- **The views agree with the result.** After any actions, in any order and on any files, the list
of findings and the summary are those of the result, or empty if there is none; a session that
has finished has a result; an entry is selected, and in bounds, exactly while there are findings; and
the wheel shows one of its pictures. -/
theorem views_agree (store : Store) (steps : List (Store × Action)) :
    let s := (Desk.actAll { session := .start, store := store } steps).session
    (∀ r, s.result = some r →
      s.findings = r.security.findings.map (Category.security, ·) ++
        r.performance.findings.map (Category.performance, ·) ++
        r.seo.findings.map (Category.seo, ·) ++
        r.accessibility.findings.map (Category.accessibility, ·) ∧
      s.summary.overall = r.overallScore ∧
      s.summary.scores = [(.security, r.security.score), (.performance, r.performance.score),
        (.seo, r.seo.score), (.accessibility, r.accessibility.score)] ∧
      s.summary.total = s.findings.length) ∧
    (s.result = none → s.findings = [] ∧ s.summary = {}) ∧
    (s.phase = .finished → s.result.isSome = true) ∧
    (s.choice.selected = none ↔ s.findings = []) ∧
    (∀ i, s.choice.selected = some i → i < s.findings.length) ∧
    (s.selectedFinding?.isSome = true ↔ s.findings ≠ []) ∧
    s.wheelAt < wheel.length := by
  intro s
  have hs : Agrees s := Agrees.start.actAll steps
  refine ⟨fun r hr => ?_, fun hr => ?_, hs.shown, hs.chosen, hs.inBounds, hs.selectedFinding, hs.wheel⟩
  · have hfindings := hs.findings
    have hsummary := hs.summary
    rw [hr] at hfindings hsummary
    rw [hsummary]
    exact ⟨hfindings.trans r.allFindings_eq, rfl, rfl, rfl⟩
  · have hfindings := hs.findings
    have hsummary := hs.summary
    rw [hr] at hfindings hsummary
    exact ⟨hfindings, hsummary⟩

end Session

end PageAudit
