import PageAudit.Proofs.View.Drawable
import PageAudit.Session.Loop
/-!
The states of a loop, in its rounds and between them. `Loop.Reachable` takes a round apart into
drawing, the event, the result that may arrive, and the tick, and it keeps a `History` of what a
loop itself forgets: the audits that were started and the results that were taken over.

`Loop.Reachable.run` says that a run of the loop ends in one of these states, whatever its rounds
met. What an event can ask for is said once, by `Command.allowed_of_ofEvent?`, and what drawing
changes by `draw_eq` and `draw_unlisted`.
-/
namespace PageAudit

namespace Session

/-! ### What an event can ask for -/

namespace Command

/-- The actions that keys ask for when a result is shown. -/
def finishedActions : List Action :=
  [.reset, .save .text, .save .json, .toggleLog, .selectPrevious, .selectNext, .scrollLeft, .scrollRight]

/-- The commands that a session can be given. -/
inductive Allowed (s : Session) : Command → Prop
  | close : Allowed s (.act .close)
  | dismiss : s.noticeShown = true → Allowed s (.act .dismissNotice)
  | insert (c : Char) : s.noticeShown = false → s.phase = .idle → Allowed s (.insert c)
  | erase : s.noticeShown = false → s.phase = .idle → Allowed s .erase
  | audit : s.noticeShown = false → s.phase = .idle → Text.trimmed s.input ≠ "" →
      Allowed s (.audit (Text.trimmed s.input))
  | finished {a : Action} : s.noticeShown = false → s.phase = .finished → a ∈ finishedActions →
      Allowed s (.act a)

theorem allowed_underNotice {s : Session} (hn : s.noticeShown = true) {k : Key} {c : Command}
    (h : underNotice? k = some c) : Allowed s c := by
  cases k with
  | enter => exact Option.some.inj h ▸ .dismiss hn
  | escape => exact Option.some.inj h ▸ .close
  | _ => exact nomatch h

theorem allowed_whenIdle {s : Session} (hn : s.noticeShown = false) (hp : s.phase = .idle) {k : Key}
    {c : Command} (h : whenIdle? s.input k = some c) : Allowed s c := by
  cases k with
  | char ch => exact Option.some.inj h ▸ .insert ch hn hp
  | escape => exact Option.some.inj h ▸ .close
  | backspace => exact Option.some.inj h ▸ .erase hn hp
  | enter =>
    change (if Text.trimmed s.input = "" then none else some (.audit (Text.trimmed s.input))) = some c at h
    by_cases ht : Text.trimmed s.input = ""
    · rw [if_pos ht] at h
      cases h
    · rw [if_neg ht] at h
      exact Option.some.inj h ▸ .audit hn hp ht
  | _ => exact nomatch h

theorem allowed_whenScanning {s : Session} {k : Key} {c : Command} (h : whenScanning? k = some c) :
    Allowed s c := by
  unfold whenScanning? at h
  split at h <;> cases h <;> exact .close

theorem allowed_whenFinished {s : Session} (hn : s.noticeShown = false) (hp : s.phase = .finished)
    {k : Key} {c : Command} (h : whenFinished? k = some c) : Allowed s c := by
  unfold whenFinished? at h
  split at h <;> cases h
  -- the first two keys close the session, all others act on the result
  · exact .close
  · exact .close
  all_goals exact .finished hn hp (by decide)

/-- An event asks a session only for what it can be given. -/
theorem allowed_of_ofEvent? {s : Session} {e : Event} {c : Command} (h : ofEvent? s e = some c) :
    Allowed s c := by
  unfold ofEvent? ofKey? at h
  split at h
  · split at h
    · next hn => exact allowed_underNotice hn h
    · next hn =>
      have hn : s.noticeShown = false := by simpa using hn
      split at h
      · next hp => exact allowed_whenIdle hn hp h
      · exact allowed_whenScanning h
      · next hp => exact allowed_whenFinished hn hp h
  · cases h

end Command

/-! ### The states of a loop -/

/-- Where a loop stands: before a round, after its drawing, after its event, or after the result
that may have arrived. -/
inductive Point where
  | top
  | drawn
  | handled
  | received
deriving DecidableEq, Repr

/-- A result that a session took over. -/
structure Delivery where
  /-- The address that was given when the audit was started. -/
  target : String
  result : AuditResult
  /-- The phase of the session that took it over. -/
  phase : Phase

/-- What has happened in a loop: the addresses of the audits that were started, and the results
that were taken over, both in order. -/
structure History where
  started : List String := []
  delivered : List Delivery := []

namespace Loop

/-- The result that a loop takes over when an audit has ended. -/
def delivery? (config : Config) (ended : Ended) (l : Loop) : Option Delivery :=
  l.underWay.head?.map fun target =>
    ⟨target, (audit ended.network config ended.time target).result, l.desk.session.phase⟩

theorem deliver_eq (config : Config) (ended : Ended) (l : Loop) :
    l.deliver config ended = match l.delivery? config ended with
      | some d => { desk := l.desk.act (.finish d.result), underWay := l.underWay.tail }
      | none => l := by
  obtain ⟨desk, underWay⟩ := l
  cases underWay <;> rfl

/-- Drawing a loop settles its list of findings and changes nothing else. -/
theorem draw_settled {width height : Nat} {l l' : Loop} {picture : View.Picture}
    (h : l.draw width height = .ok (picture, l')) :
    ∃ rows, l' = { l with desk := { l.desk with session := View.settled rows l.desk.session } } := by
  obtain ⟨⟨p, s⟩, hdraw, h⟩ := ok_of_bind h
  obtain ⟨rows, rfl⟩ := View.draw_settled hdraw
  cases h
  exact ⟨rows, rfl⟩

/-- Drawing moves in the list of findings and nowhere else. -/
theorem draw_eq {width height : Nat} {l l' : Loop} {picture : View.Picture}
    (h : l.draw width height = .ok (picture, l')) :
    ∃ c, l' = { l with desk := { l.desk with session := { l.desk.session with choice := c } } } := by
  obtain ⟨rows, rfl⟩ := draw_settled h
  exact ⟨_, rfl⟩

theorem draw_unlisted {width height : Nat} {l l' : Loop} {picture : View.Picture}
    (hl : ¬ View.Listing l.desk.session) (h : l.draw width height = .ok (picture, l')) : l' = l := by
  obtain ⟨⟨p, s⟩, hdraw, h⟩ := ok_of_bind h
  obtain rfl := View.draw_unlisted hl hdraw
  cases h
  rfl

/-- The states of a loop over the files of a store, and what has happened until then. -/
inductive Reachable (config : Config) (store : Store) : Point → Loop → History → Prop
  | start : Reachable config store .top { desk := { store := store } } {}
  | draw {l l' : Loop} {h : History} {width height : Nat} {picture : View.Picture} :
      Reachable config store .top l h → l.desk.session.closed = false →
      l.draw width height = .ok (picture, l') → Reachable config store .drawn l' h
  | pause {l : Loop} {h : History} (log : LogPanel.File) :
      Reachable config store .drawn l h → Reachable config store .handled (l.meet log) h
  | event {l : Loop} {h : History} (log : LogPanel.File) (e : Event) :
      Reachable config store .drawn l h → Reachable config store .handled ((l.meet log).handle e)
        { h with started := h.started ++ ((l.meet log).desk.handle e).2.toList }
  | wait {l : Loop} {h : History} :
      Reachable config store .handled l h → Reachable config store .received l h
  | receive {l : Loop} {h : History} (ended : Ended) :
      Reachable config store .handled l h → Reachable config store .received (l.deliver config ended)
        { h with delivered := h.delivered ++ (l.delivery? config ended).toList }
  | tick {l : Loop} {h : History} :
      Reachable config store .received l h → Reachable config store .top (l.act .tick) h

namespace Reachable

variable {config : Config} {store : Store} {l l' : Loop} {h : History}

/-- A loop whose session has no list to settle can be drawn, and stays as it is. -/
theorem redraw (hr : Reachable config store .top l h) (ho : l.desk.session.closed = false)
    (hl : ¬ View.Listing l.desk.session)
    (hwheel : l.desk.session.phase = .scanning → l.desk.session.wheelAt < wheel.length)
    (hscores : l.desk.session.phase = .finished →
      ∀ x ∈ l.desk.session.summary.scores, x.2.toNat ≤ Screen.fullGauge) (width height : Nat) :
    Reachable config store .drawn l h := by
  obtain ⟨picture, s, hdraw⟩ := View.draw_ok width height l.desk.session hwheel hscores
  obtain rfl := View.draw_unlisted hl hdraw
  exact hr.draw ho (by unfold Loop.draw; rw [hdraw]; rfl)

/-- An idle loop can be drawn, and stays as it is. -/
theorem drawIdle (hr : Reachable config store .top l h) (ho : l.desk.session.closed = false)
    (hp : l.desk.session.phase = .idle) (width height : Nat) : Reachable config store .drawn l h := by
  refine hr.redraw ho (fun hl => ?_) (fun hs => ?_) (fun hf => ?_) width height
  · rw [View.Listing, hp] at hl
    cases hl.1
  · rw [hp] at hs
    cases hs
  · rw [hp] at hf
    cases hf

/-- A round leads from one state between rounds to another. -/
theorem step (hr : Reachable config store .top l h) (ho : l.desk.session.closed = false) {r : Round}
    {picture : View.Picture} (hs : l.step config r = .ok (picture, l')) :
    ∃ h', Reachable config store .top l' h' := by
  obtain ⟨⟨p, drawn⟩, hdraw, hs⟩ := ok_of_bind hs
  cases hs
  have hd := hr.draw ho hdraw
  unfold proceed
  cases r.event with
  | none =>
    have handled := hd.pause r.log
    cases r.ended with
    | none => exact ⟨_, handled.wait.tick⟩
    | some ended => exact ⟨_, (handled.receive ended).tick⟩
  | some e =>
    have handled := hd.event r.log e
    cases r.ended with
    | none => exact ⟨_, handled.wait.tick⟩
    | some ended => exact ⟨_, (handled.receive ended).tick⟩

/-- A run ends in a state of its loop. -/
theorem run (hr : Reachable config store .top l h) {picture : Option View.Picture}
    {rounds : List Round} {ending : Ending} (hrun : Loop.run config picture l rounds = .ok ending) :
    ∃ h', Reachable config store .top ending.loop h' := by
  induction rounds generalizing l h picture with
  | nil =>
    cases hrun
    exact ⟨h, hr⟩
  | cons r rest ih =>
    unfold Loop.run at hrun
    split at hrun
    · cases hrun
      exact ⟨h, hr⟩
    · next ho =>
      obtain ⟨⟨p, l₁⟩, hs, hrun⟩ := ok_of_bind hrun
      obtain ⟨h₁, h₁r⟩ := hr.step (by simpa using ho) hs
      exact ih h₁r hrun

end Reachable

end Loop

end Session

end PageAudit
