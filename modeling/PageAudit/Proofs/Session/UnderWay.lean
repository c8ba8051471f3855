import PageAudit.Proofs.Audit.Address
import PageAudit.Proofs.Session.Action
import PageAudit.Proofs.Session.Reachable
/-!
The audit that is under way. `scanning_iff_under_way` says that a session scans exactly while one
audit has been started whose result has not been taken over, that every result goes to the audit
it was started for, and that a session which shows a result shows the one for its own input.

`Accounted` is the invariant. It speaks of the phase, the input and the result of a session only,
so whatever leaves these three alone keeps it (`Accounted.frame`), and what is left are the key
that starts an audit, the key that resets, and the arrival of a result.
-/
namespace PageAudit

namespace Session

/-! ### What actions leave alone -/

/-- Actions that neither start, nor end, nor forget an audit. -/
def Action.isQuiet : Action → Bool
  | .startScan | .finish _ | .reset => false
  | _ => true

theorem Desk.act_quiet (d : Desk) {a : Action} (ha : a.isQuiet = true) :
    (d.act a).session.phase = d.session.phase ∧ (d.act a).session.input = d.session.input ∧
      (d.act a).session.result = d.session.result := by
  cases a with
  | startScan | finish | reset => cases ha
  | tick =>
    obtain ⟨w, p, h, -⟩ := tick_eq d.store.log d.session
    simp only [Desk.act, Desk.update, h, and_self]
  | updateSummary =>
    obtain ⟨v, h⟩ := d.session.updateSummary_eq
    simp only [Desk.act, Desk.update, h, and_self]
  | selectPrevious =>
    obtain ⟨c, h⟩ := d.session.selectPrevious_eq
    simp only [Desk.act, Desk.update, h, and_self]
  | selectNext =>
    obtain ⟨c, h⟩ := d.session.selectNext_eq
    simp only [Desk.act, Desk.update, h, and_self]
  | save format =>
    obtain ⟨status, h⟩ := d.save_session format
    simp only [Desk.act, h, and_self]
  | scrollLeft | scrollRight | toggleLog | dismissNotice | close => exact ⟨rfl, rfl, rfl⟩

/-- Of what keys do when a result is shown, only the reset is not quiet. -/
theorem Command.quiet_of_mem {a : Action} (ha : a ∈ Command.finishedActions) (hr : a ≠ .reset) :
    a.isQuiet = true := by
  simp only [Command.finishedActions, List.mem_cons, List.not_mem_nil, or_false] at ha
  rcases ha with rfl | rfl | rfl | rfl | rfl | rfl | rfl | rfl
  · exact absurd rfl hr
  all_goals rfl

/-! ### The invariant -/

/-- Every audit that was started has been taken over or is the one under way, which is there
exactly while the session scans, for the address that stands in the input. -/
structure Accounted (underWay : List String) (s : Session) (h : History) : Prop where
  current : underWay = if s.phase = .scanning then [Text.trimmed s.input] else []
  started : h.started = h.delivered.map (·.target) ++ underWay
  delivered : ∀ d ∈ h.delivered, d.phase = .scanning ∧ d.result.url = normalizeUrl d.target
  typed : s.phase ≠ .idle → Text.isBlankText s.input = false
  shown : s.phase = .finished → ∃ d, h.delivered.getLast? = some d ∧ s.result = some d.result ∧
    d.target = Text.trimmed s.input

namespace Accounted

variable {underWay : List String} {s s' : Session} {h : History}

theorem frame (hs : Accounted underWay s h)
    (hf : s'.phase = s.phase ∧ s'.input = s.input ∧ s'.result = s.result) :
    Accounted underWay s' h := by
  obtain ⟨hp, hi, hr⟩ := hf
  exact ⟨by rw [hp, hi]; exact hs.current, hs.started, hs.delivered,
    by rw [hp, hi]; exact hs.typed, by rw [hp, hi, hr]; exact hs.shown⟩

/-- No audit is under way but while the session scans. -/
theorem underWay_nil (hs : Accounted underWay s h) (hp : s.phase ≠ .scanning) : underWay = [] := by
  rw [hs.current, if_neg hp]

/-- Idle before and after: whatever is typed, nothing is under way. -/
theorem idle (hs : Accounted underWay s h) (hp : s.phase ≠ .scanning) (hp' : s'.phase = .idle) :
    Accounted underWay s' h where
  current := by rw [hs.underWay_nil hp, hp']; rfl
  started := hs.started
  delivered := hs.delivered
  typed hne := absurd hp' hne
  shown hf := by rw [hp'] at hf; cases hf

theorem startScan (hs : Accounted underWay s h) (hp : s.phase = .idle)
    (ht : Text.trimmed s.input ≠ "") :
    Accounted (underWay ++ [Text.trimmed s.input]) s.startScan
      { h with started := h.started ++ [Text.trimmed s.input] } where
  current := by rw [hs.underWay_nil (by rw [hp]; decide)]; rfl
  started := by rw [hs.started, List.append_assoc]
  delivered := hs.delivered
  typed _ := by
    rw [Ne, Text.trimmed_eq_empty_iff, Bool.not_eq_true] at ht
    exact ht
  shown hf := by cases hf

/-- The result of the audit under way is taken over. -/
theorem finish {target : String} {rest : List String} (hs : Accounted (target :: rest) s h)
    {r : AuditResult} (hr : r.url = normalizeUrl target) :
    Accounted rest (s.finish r) { h with delivered := h.delivered ++ [⟨target, r, s.phase⟩] } := by
  have hp : s.phase = .scanning := by
    by_contra hp
    cases hs.underWay_nil hp
  have hu := hs.current
  rw [if_pos hp] at hu
  obtain ⟨htarget, rfl⟩ := List.cons.inj hu
  refine ⟨rfl, ?_, ?_, fun _ => hs.typed (by rw [hp]; decide), fun _ => ?_⟩
  · rw [hs.started]
    simp
  · intro d hd
    rcases List.mem_append.mp hd with hd | hd
    · exact hs.delivered d hd
    · rw [List.mem_singleton.mp hd]
      exact ⟨hp, hr⟩
  · exact ⟨_, List.getLast?_concat .., rfl, htarget⟩

/-! ### One step at a time -/

theorem handle {d : Desk} (hs : Accounted underWay d.session h) (e : Event) :
    Accounted (underWay ++ (d.handle e).2.toList) (d.handle e).1.session
      { h with started := h.started ++ (d.handle e).2.toList } := by
  unfold Desk.handle
  cases he : Command.ofEvent? d.session e with
  | none => simpa using hs
  | some c =>
    cases Command.allowed_of_ofEvent? he with
    | close | dismiss _ =>
      simp only [Command.target?, Option.toList_none, List.append_nil]
      exact hs.frame (d.act_quiet rfl)
    | insert _ _ hp | erase _ hp =>
      simp only [Command.target?, Option.toList_none, List.append_nil]
      exact hs.idle (by rw [hp]; decide) hp
    | audit _ hp ht => exact hs.startScan hp ht
    | @finished a _ hp ha =>
      simp only [Command.target?, Option.toList_none, List.append_nil]
      by_cases hreset : a = .reset
      · subst hreset
        exact hs.idle (by rw [hp]; decide) rfl
      · exact hs.frame (d.act_quiet (Command.quiet_of_mem ha hreset))

theorem deliver {l : Loop} (hs : Accounted l.underWay l.desk.session h) (config : Config)
    (ended : Ended) :
    Accounted (l.deliver config ended).underWay (l.deliver config ended).desk.session
      { h with delivered := h.delivered ++ (l.delivery? config ended).toList } := by
  rw [Loop.deliver_eq]
  obtain ⟨desk, underWay⟩ := l
  cases underWay with
  | nil => simpa [Loop.delivery?] using hs
  | cons target rest => exact hs.finish (audit_url ended.network config ended.time target)

end Accounted

/-- In every state of a loop, in a round or between two of them, every audit is accounted for. -/
theorem Loop.Reachable.accounted {config : Config} {store : Store} {p : Point} {l : Loop} {h : History}
    (hr : Reachable config store p l h) : Accounted l.underWay l.desk.session h := by
  induction hr with
  | start => exact ⟨rfl, rfl, fun _ hd => (nomatch hd), fun hne => absurd rfl hne, fun hf => (nomatch hf)⟩
  | draw _ _ hdraw ih =>
    obtain ⟨c, rfl⟩ := Loop.draw_eq hdraw
    exact ih.frame ⟨rfl, rfl, rfl⟩
  | pause log _ ih => exact ih.frame ⟨rfl, rfl, rfl⟩
  | @event l _ log e _ ih =>
    have hm : Accounted l.underWay (l.meet log).desk.session _ := ih.frame ⟨rfl, rfl, rfl⟩
    exact hm.handle e
  | wait _ ih => exact ih
  | receive ended _ ih => exact ih.deliver config ended
  | @tick l _ _ ih => exact ih.frame (l.desk.act_quiet rfl)

/-- **An audit is under way exactly while the session scans.** Of the audits that were started one
result is still to come in that phase and none in the others; each result was taken over once, in
the order of the starts and while the session scanned; and a session that shows a result was given
an input that is not blank, and shows the result for that input. -/
theorem scanning_iff_under_way {config : Config} {store : Store} {p : Point} {l : Loop} {h : History}
    (hr : Loop.Reachable config store p l h) :
    h.started.length = h.delivered.length + (if l.desk.session.phase = .scanning then 1 else 0) ∧
      h.started = h.delivered.map (·.target) ++ l.underWay ∧
      (∀ d ∈ h.delivered, d.phase = .scanning ∧ d.result.url = normalizeUrl d.target) ∧
      (l.desk.session.phase = .finished → Text.isBlankText l.desk.session.input = false ∧
        ∃ d, h.delivered.getLast? = some d ∧ l.desk.session.result = some d.result ∧
          d.result.url = normalizeUrl l.desk.session.input) := by
  have hs := hr.accounted
  refine ⟨?_, hs.started, hs.delivered, fun hf => ⟨hs.typed (by rw [hf]; decide), ?_⟩⟩
  · rw [hs.started, hs.current, List.length_append, List.length_map]
    split <;> rfl
  · obtain ⟨d, hlast, hresult, htarget⟩ := hs.shown hf
    have hd := (hs.delivered d (List.mem_of_getLast? hlast)).2
    rw [htarget, normalizeUrl_trimmed] at hd
    exact ⟨d, hlast, hresult, hd⟩

/-- The notice is acknowledged, an address is typed and audited, and the result arrives. -/
theorem scanning_iff_under_way_once : ∃ l h,
    Loop.Reachable .default { path := "data" } .received l h ∧ l.desk.session.phase = .finished ∧
      h.started = ["a"] ∧
      h.started.length = h.delivered.length + (if l.desk.session.phase = .scanning then 1 else 0) ∧
      h.started = h.delivered.map (·.target) ++ l.underWay ∧
      (∀ d ∈ h.delivered, d.phase = .scanning ∧ d.result.url = normalizeUrl d.target) ∧
      (l.desk.session.phase = .finished → Text.isBlankText l.desk.session.input = false ∧
        ∃ d, h.delivered.getLast? = some d ∧ l.desk.session.result = some d.result ∧
          d.result.url = normalizeUrl l.desk.session.input) := by
  have begun : Loop.Reachable .default { path := "data" } .top
      { desk := { store := { path := "data" } } } {} := .start
  have acknowledged := ((begun.drawIdle rfl rfl 80 24).event none (.key .press .enter)).wait.tick
  have typed := ((acknowledged.drawIdle rfl rfl 80 24).event none (.key .press (.char 'a'))).wait.tick
  have started := (typed.drawIdle rfl rfl 80 24).event none (.key .press .enter)
  have finished := started.receive ⟨.none, ⟨⟨⟨2025, 3, 14⟩, 9, 26, 53, 0⟩, 0⟩⟩
  exact ⟨_, _, finished, rfl, rfl, scanning_iff_under_way finished⟩

end Session

end PageAudit
