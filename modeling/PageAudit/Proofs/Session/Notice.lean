import PageAudit.Proofs.Session.UnderWay
/-!
The notice. `notice_first` says that no audit can start before the notice is acknowledged: whatever
happens to a loop, as long as the notice is shown the session is as it began, unless it was closed;
the notice goes with a press of the enter key and with nothing else; and it never comes back.

Things may happen in any order here (`Happening`), also after the session is closed, and a run of the
loop is one of these orders (`Loop.run_eq_after`). `Untouched` is what holds while the notice is
shown; it is kept by everything but the enter key.
-/
namespace PageAudit.Session

/-- One thing that happens to a loop. -/
inductive Happening where
  | draw (width height : Nat)
  | event (e : Event)
  /-- The end of the oldest audit that is under way. -/
  | ended (e : Ended)
  | tick
  /-- The log file is another one from now on. -/
  | log (file : LogPanel.File)

/-- The press of the enter key. -/
def Happening.acknowledgement : Happening := .event (.key .press .enter)

/-- What happens in a round. -/
def Round.happenings (r : Round) : List Happening :=
  .draw r.width r.height :: .log r.log :: ((r.event.map Happening.event).toList ++
    ((r.ended.map Happening.ended).toList ++ [.tick]))

namespace Loop

/-- A loop after an attempt to draw it. -/
def drawn (width height : Nat) (l : Loop) : Loop :=
  match l.draw width height with
  | .ok (_, drawn) => drawn
  | .error _ => l

def happen (config : Config) (l : Loop) : Happening → Loop
  | .draw width height => l.drawn width height
  | .event e => l.handle e
  | .ended e => l.deliver config e
  | .tick => l.act .tick
  | .log file => l.meet file

/-- A loop after some things have happened to it, one after the other. -/
def after (config : Config) (l : Loop) : List Happening → Loop
  | [] => l
  | x :: rest => (l.happen config x).after config rest

/-- The address of the audit that something starts, if it starts one. -/
def start? (l : Loop) : Happening → Option String
  | .event e => (l.desk.handle e).2
  | _ => none

/-- The addresses of the audits that start while some things happen to a loop. -/
def starts (config : Config) (l : Loop) : List Happening → List String
  | [] => []
  | x :: rest => (l.start? x).toList ++ (l.happen config x).starts config rest

variable {config : Config} {l l' : Loop}

theorem after_append (l : Loop) (xs ys : List Happening) :
    l.after config (xs ++ ys) = (l.after config xs).after config ys := by
  induction xs generalizing l with
  | nil => rfl
  | cons x rest ih => exact ih _

theorem drawn_eq (width height : Nat) (l : Loop) :
    ∃ c, l.drawn width height =
      { l with desk := { l.desk with session := { l.desk.session with choice := c } } } := by
  unfold drawn
  split
  · next hdraw => exact draw_eq hdraw
  · exact ⟨l.desk.session.choice, rfl⟩

theorem drawn_unlisted (width height : Nat) (hl : ¬ View.Listing l.desk.session) :
    l.drawn width height = l := by
  unfold drawn
  split
  · next hdraw => exact draw_unlisted hl hdraw
  · rfl

/-! ### Runs -/

/-- In a round that can be drawn its happenings happen. -/
theorem step_eq_after {r : Round} {picture : View.Picture} (h : l.step config r = .ok (picture, l')) :
    l' = l.after config r.happenings := by
  obtain ⟨⟨p, drawn⟩, hdraw, h⟩ := ok_of_bind h
  cases h
  have hdrawn : l.happen config (.draw r.width r.height) = drawn := by
    simp only [happen, Loop.drawn, hdraw]
  rw [Round.happenings, after, hdrawn]
  unfold proceed
  cases r.event <;> cases r.ended <;> rfl

/-- In a run the happenings of those rounds happen that are not left unread. -/
theorem run_eq_after {picture : Option View.Picture} {rounds : List Round} {ending : Ending}
    (h : Loop.run config picture l rounds = .ok ending) :
    ∃ played, rounds = played ++ ending.unread ∧
      ending.loop = l.after config (played.flatMap Round.happenings) := by
  induction rounds generalizing l picture with
  | nil =>
    cases h
    exact ⟨[], rfl, rfl⟩
  | cons r rest ih =>
    unfold Loop.run at h
    split at h
    · cases h
      exact ⟨[], rfl, rfl⟩
    · obtain ⟨⟨p, l₁⟩, hs, h⟩ := ok_of_bind h
      obtain ⟨played, hrest, hloop⟩ := ih h
      refine ⟨r :: played, by rw [hrest, List.cons_append], ?_⟩
      rw [hloop, step_eq_after hs, List.flatMap_cons, after_append]

end Loop

/-! ### While the notice is shown -/

/-- Under the notice two keys are known. -/
theorem Command.ofEvent?_underNotice {s : Session} (hn : s.noticeShown = true) {e : Event} {c : Command}
    (h : ofEvent? s e = some c) :
    (e = .key .press .enter ∧ c = .act .dismissNotice) ∨ (e = .key .press .escape ∧ c = .act .close) := by
  unfold ofEvent? ofKey? at h
  split at h
  · next k =>
    rw [if_pos hn] at h
    cases k with
    | enter => exact .inl ⟨rfl, (Option.some.inj h).symm⟩
    | escape => exact .inr ⟨rfl, (Option.some.inj h).symm⟩
    | _ => exact nomatch h
  · cases h

/-- A loop as it began, unless it was closed. -/
structure Untouched (reports : Report.Folder) (l : Loop) : Prop where
  session : ∃ closed, l.desk.session = { Session.start with closed := closed }
  underWay : l.underWay = []
  reports : l.desk.store.reports = reports

namespace Untouched

variable {reports : Report.Folder} {l : Loop}

theorem noticeShown (hl : Untouched reports l) : l.desk.session.noticeShown = true := by
  obtain ⟨closed, hs⟩ := hl.session
  rw [hs]
  rfl

theorem phase (hl : Untouched reports l) : l.desk.session.phase = .idle := by
  obtain ⟨closed, hs⟩ := hl.session
  rw [hs]
  rfl

/-- No event but the enter key does more than to close the session, and none starts an audit. -/
theorem handle (hl : Untouched reports l) {e : Event} (he : e ≠ .key .press .enter) :
    Untouched reports (l.handle e) ∧ (l.desk.handle e).2 = none := by
  have hhandle : l.desk.handle e = (l.desk, none) ∨ l.desk.handle e = (l.desk.act .close, none) := by
    unfold Desk.handle
    cases hc : Command.ofEvent? l.desk.session e with
    | none => exact .inl rfl
    | some c =>
      rcases Command.ofEvent?_underNotice hl.noticeShown hc with ⟨rfl, -⟩ | ⟨-, rfl⟩
      · exact absurd rfl he
      · exact .inr rfl
  have hunder : l.underWay ++ [] = [] := by
    rw [List.append_nil]
    exact hl.underWay
  obtain ⟨closed, hs⟩ := hl.session
  unfold Loop.handle
  rcases hhandle with h | h <;> rw [h]
  · exact ⟨⟨⟨closed, hs⟩, hunder, hl.reports⟩, rfl⟩
  · refine ⟨⟨⟨true, ?_⟩, hunder, hl.reports⟩, rfl⟩
    show l.desk.session.close = _
    rw [hs]
    rfl

/-- Nothing but the enter key touches a loop whose notice is shown. -/
theorem happen (config : Config) (hl : Untouched reports l) {x : Happening} (hx : x ≠ .acknowledgement) :
    Untouched reports (l.happen config x) ∧ l.start? x = none := by
  cases x with
  | event e => exact hl.handle fun he => hx (congrArg Happening.event he)
  | draw width height =>
    -- an idle session has no list that the drawing could settle
    have hlist : ¬ View.Listing l.desk.session := fun h => by
      rw [View.Listing, hl.phase] at h
      cases h.1
    have hdrawn : l.happen config (.draw width height) = l := Loop.drawn_unlisted width height hlist
    rw [hdrawn]
    exact ⟨hl, rfl⟩
  | ended e =>
    have hended : l.happen config (.ended e) = l := by
      show l.deliver config e = l
      rw [Loop.deliver, hl.underWay]
    rw [hended]
    exact ⟨hl, rfl⟩
  | tick =>
    refine ⟨⟨?_, hl.underWay, hl.reports⟩, rfl⟩
    obtain ⟨closed, hs⟩ := hl.session
    refine ⟨closed, ?_⟩
    show l.desk.session.tick l.desk.store.log = _
    rw [hs]
    rfl
  | log file => exact ⟨⟨hl.session, hl.underWay, hl.reports⟩, rfl⟩

/-- As long as the enter key is not pressed a loop stays untouched, and no audit starts. -/
theorem after (config : Config) (hl : Untouched reports l) {xs : List Happening}
    (hxs : .acknowledgement ∉ xs) :
    Untouched reports (l.after config xs) ∧ l.starts config xs = [] := by
  induction xs generalizing l with
  | nil => exact ⟨hl, rfl⟩
  | cons x rest ih =>
    rw [List.mem_cons, not_or] at hxs
    obtain ⟨hhappen, hstart⟩ := hl.happen config (Ne.symm hxs.1)
    obtain ⟨hafter, hstarts⟩ := ih hhappen hxs.2
    refine ⟨hafter, ?_⟩
    rw [Loop.starts, hstart, hstarts]
    rfl

end Untouched

/-! ### Once the notice is acknowledged -/

/-- The enter key dismisses a notice that is shown. -/
theorem Loop.acknowledged {config : Config} {l : Loop} (hn : l.desk.session.noticeShown = true) :
    (l.happen config .acknowledgement).desk.session.noticeShown = false := by
  have hcommand : Command.ofEvent? l.desk.session (.key .press .enter) = some (.act .dismissNotice) := by
    show Command.ofKey? l.desk.session .enter = _
    rw [Command.ofKey?, if_pos hn]
    rfl
  show (l.desk.handle (.key .press .enter)).1.session.noticeShown = false
  unfold Desk.handle
  rw [hcommand]
  rfl

/-- No action shows the notice again. -/
theorem Desk.act_dismissed {d : Desk} (hn : d.session.noticeShown = false) (a : Action) :
    (d.act a).session.noticeShown = false := by
  cases a with
  | dismissNotice => rfl
  | tick =>
    obtain ⟨w, p, htick, -⟩ := tick_eq d.store.log d.session
    simp only [Desk.act, Desk.update, htick, hn]
  | finish r => exact hn
  | updateSummary =>
    obtain ⟨v, hsummary⟩ := d.session.updateSummary_eq
    simp only [Desk.act, Desk.update, hsummary, hn]
  | selectPrevious =>
    obtain ⟨c, hselect⟩ := d.session.selectPrevious_eq
    simp only [Desk.act, Desk.update, hselect, hn]
  | selectNext =>
    obtain ⟨c, hselect⟩ := d.session.selectNext_eq
    simp only [Desk.act, Desk.update, hselect, hn]
  | save format =>
    obtain ⟨status, hsave⟩ := d.save_session format
    simp only [Desk.act, hsave, hn]
  | startScan | scrollLeft | scrollRight | toggleLog | close | reset => exact hn

theorem Desk.handle_dismissed {d : Desk} (hn : d.session.noticeShown = false) (e : Event) :
    (d.handle e).1.session.noticeShown = false := by
  unfold Desk.handle
  split
  · next c _ =>
    cases c with
    | insert ch | erase => exact hn
    | audit target => exact d.act_dismissed hn .startScan
    | act a => exact d.act_dismissed hn a
  · exact hn

namespace Loop

variable {config : Config} {l : Loop}

theorem happen_dismissed (hn : l.desk.session.noticeShown = false) (x : Happening) :
    (l.happen config x).desk.session.noticeShown = false := by
  cases x with
  | draw width height =>
    obtain ⟨c, hc⟩ := l.drawn_eq width height
    show (l.drawn width height).desk.session.noticeShown = false
    rw [hc]
    exact hn
  | event e => exact Desk.handle_dismissed hn e
  | ended e =>
    show (l.deliver config e).desk.session.noticeShown = false
    rw [deliver_eq]
    split
    · exact l.desk.act_dismissed hn _
    · exact hn
  | tick => exact l.desk.act_dismissed hn .tick
  | log file => exact hn

/-- The notice never comes back. -/
theorem after_dismissed (hn : l.desk.session.noticeShown = false) (xs : List Happening) :
    (l.after config xs).desk.session.noticeShown = false := by
  induction xs generalizing l with
  | nil => exact hn
  | cons x rest ih => exact ih (happen_dismissed hn x)

/-- After the enter key was pressed the notice is not shown. -/
theorem dismissed_of_mem (config : Config) (l : Loop) {xs : List Happening} (hxs : .acknowledgement ∈ xs) :
    (l.after config xs).desk.session.noticeShown = false := by
  obtain ⟨before, rest, rfl⟩ := List.append_of_mem hxs
  rw [after_append]
  refine after_dismissed ?_ rest
  by_cases hn : (l.after config before).desk.session.noticeShown = true
  · exact acknowledged hn
  · exact happen_dismissed (Bool.not_eq_true _ ▸ hn) _

end Loop

/-- **Nothing comes before the notice.** Whatever happens to a loop from its beginning, as long as the
notice is shown the session is idle with an empty input and a closed log panel, no audit has been
started, and no report has been saved. The notice is gone exactly if the enter key was pressed; the one
thing that takes it away is such a press while it is shown; and it does not come back. -/
theorem notice_first (config : Config) (store : Store) (xs : List Happening) :
    let begun : Loop := { desk := { session := .start, store := store } }
    let l := begun.after config xs
    let s := l.desk.session
    (s.noticeShown = true → s.phase = .idle ∧ s.input = "" ∧ s.log.shown = false ∧
      begun.starts config xs = [] ∧ l.underWay = [] ∧ s.saved = .untried ∧
      l.desk.store.reports = store.reports) ∧
    (s.noticeShown = false ↔ .event (.key .press .enter) ∈ xs) ∧
    (∀ x, s.noticeShown = true → (l.happen config x).desk.session.noticeShown = false →
      x = .event (.key .press .enter)) ∧
    (s.noticeShown = false → ∀ more, (l.after config more).desk.session.noticeShown = false) := by
  intro begun l s
  have hbegun : Untouched store.reports begun := ⟨⟨false, rfl⟩, rfl, rfl⟩
  have huntouched : s.noticeShown = true → Untouched store.reports l ∧ begun.starts config xs = [] := by
    intro hn
    refine hbegun.after config fun hxs => ?_
    have := Loop.dismissed_of_mem config begun hxs
    rw [show (begun.after config xs).desk.session.noticeShown = true from hn] at this
    cases this
  refine ⟨fun hn => ?_, ⟨fun hn => ?_, Loop.dismissed_of_mem config begun⟩, fun x hn hgone => ?_,
    Loop.after_dismissed⟩
  · obtain ⟨hl, hstarts⟩ := huntouched hn
    obtain ⟨closed, hs⟩ := hl.session
    have hs : s = { Session.start with closed := closed } := hs
    rw [hs]
    exact ⟨rfl, rfl, rfl, hstarts, hl.underWay, rfl, hl.reports⟩
  · by_contra hxs
    have := (hbegun.after config hxs).1.noticeShown
    rw [show (begun.after config xs).desk.session.noticeShown = false from hn] at this
    cases this
  · by_contra hx
    have := ((huntouched hn).1.happen config hx).1.noticeShown
    rw [hgone] at this
    cases this

end PageAudit.Session
