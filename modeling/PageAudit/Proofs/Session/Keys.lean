import PageAudit.Proofs.Session.Notice
/-!
What keys do. Of all events only presses of keys count, and a press means one thing in each phase: while a
session scans it can do no more than to close it (`handle_scanning`), and while an address is typed every
character is one of the address, whatever it asks for elsewhere. `keys_by_phase` says this of every state that
a loop can come to, and what it makes of an address: the input is a stack of characters that the characters
typed are put on and that the backspace key takes from, whatever else happens in between.
-/
namespace PageAudit.Session

/-! ### What a press asks for -/

/-- An event that closes a session: the escape key always, and a letter when nothing is typed. -/
inductive Closes (s : Session) : Event → Prop
  | escape : Closes s (.key .press .escape)
  | letter : s.noticeShown = false → s.phase ≠ .idle → Closes s (.key .press (.char 'q'))

namespace Command

variable {s : Session}

theorem ofEvent?_of_not_press {e : Event} (h : ∀ k, e ≠ .key .press k) : ofEvent? s e = none := by
  cases e with
  | other => rfl
  | key stroke k =>
    cases stroke with
    | press => exact absurd rfl (h k)
    | hold | release => rfl

theorem ofEvent?_idle (hn : s.noticeShown = false) (hp : s.phase = .idle) (k : Key) :
    ofEvent? s (.key .press k) = whenIdle? s.input k := by
  simp [ofEvent?, ofKey?, hn, hp]

theorem ofEvent?_scanning (hn : s.noticeShown = false) (hp : s.phase = .scanning) (k : Key) :
    ofEvent? s (.key .press k) = whenScanning? k := by
  simp [ofEvent?, ofKey?, hn, hp]

theorem underNotice?_close_iff {k : Key} : underNotice? k = some (.act .close) ↔ k = .escape := by
  cases k <;> simp [underNotice?]

theorem whenIdle?_close_iff {input : String} {k : Key} :
    whenIdle? input k = some (.act .close) ↔ k = .escape := by
  cases k with
  | escape => exact iff_of_true rfl rfl
  | enter =>
    refine iff_of_false (fun h => ?_) nofun
    obtain ⟨-, h⟩ := Option.ite_none_left_eq_some.mp h
    cases h
  | char | backspace | up | down | left | right | other => exact iff_of_false nofun nofun

theorem whenScanning?_close_iff {k : Key} :
    whenScanning? k = some (.act .close) ↔ k = .escape ∨ k = .char 'q' := by
  unfold whenScanning?
  split <;> simp_all

theorem whenFinished?_close_iff {k : Key} :
    whenFinished? k = some (.act .close) ↔ k = .escape ∨ k = .char 'q' := by
  unfold whenFinished?
  split <;> simp_all

/-- A session is asked to close exactly by the events that close it. -/
theorem ofEvent?_close_iff {e : Event} : ofEvent? s e = some (.act .close) ↔ Closes s e := by
  by_cases hpress : ∃ k, e = .key .press k
  · obtain ⟨k, rfl⟩ := hpress
    have hcloses : Closes s (.key .press k) ↔
        k = .escape ∨ k = .char 'q' ∧ s.noticeShown = false ∧ s.phase ≠ .idle := by
      constructor
      · rintro (_ | ⟨hn, hp⟩)
        · exact .inl rfl
        · exact .inr ⟨rfl, hn, hp⟩
      · rintro (rfl | ⟨rfl, hn, hp⟩)
        · exact .escape
        · exact .letter hn hp
    rw [hcloses]
    unfold ofEvent? ofKey?
    cases hn : s.noticeShown with
    | true => simp [underNotice?_close_iff]
    | false =>
      cases hp : s.phase with
      | idle => simp [whenIdle?_close_iff]
      | scanning => simp [whenScanning?_close_iff]
      | finished => simp [whenFinished?_close_iff]
  · have hnone : ofEvent? s e = none := ofEvent?_of_not_press fun k hk => hpress ⟨k, hk⟩
    rw [hnone]
    refine iff_of_false nofun fun hcloses => hpress ?_
    cases hcloses with
    | escape => exact ⟨_, rfl⟩
    | letter => exact ⟨_, rfl⟩

end Command

/-! ### What an event does to a loop -/

namespace Loop

variable {config : Config} {l : Loop}

/-- A loop whose session has another input. -/
def withInput (l : Loop) (input : String) : Loop :=
  { l with desk := { l.desk with session := { l.desk.session with input := input } } }

theorem handle_eq (l : Loop) (e : Event) : l.handle e = match Command.ofEvent? l.desk.session e with
    | some c => { desk := l.desk.obey c, underWay := l.underWay ++ c.target?.toList }
    | none => l := by
  unfold handle Desk.handle
  cases Command.ofEvent? l.desk.session e with
  | none => simp
  | some c => rfl

theorem handle_of_none {e : Event} (h : Command.ofEvent? l.desk.session e = none) : l.handle e = l := by
  rw [handle_eq, h]

/-- A command that starts no audit is one to the desk. -/
theorem handle_of_some {e : Event} {c : Command} (h : Command.ofEvent? l.desk.session e = some c)
    (hc : c.target? = none) : l.handle e = { l with desk := l.desk.obey c } := by
  rw [handle_eq, h]
  simp [hc]

theorem handle_of_act {e : Event} {a : Action} (h : Command.ofEvent? l.desk.session e = some (.act a)) :
    l.handle e = l.act a :=
  handle_of_some h rfl

/-- While a session scans an event does nothing, or it closes the session. -/
theorem handle_scanning (hn : l.desk.session.noticeShown = false) (hp : l.desk.session.phase = .scanning)
    (e : Event) : l.handle e = l ∨ l.handle e = l.act .close := by
  by_cases hpress : ∃ k, e = .key .press k
  · obtain ⟨k, rfl⟩ := hpress
    have hcommand := Command.ofEvent?_scanning hn hp k
    unfold Command.whenScanning? at hcommand
    split at hcommand
    · exact .inr (handle_of_act hcommand)
    · exact .inr (handle_of_act hcommand)
    · exact .inl (handle_of_none hcommand)
  · exact .inl (handle_of_none (Command.ofEvent?_of_not_press fun k hk => hpress ⟨k, hk⟩))

section Idle
variable (hn : l.desk.session.noticeShown = false) (hp : l.desk.session.phase = .idle)
include hn hp

/-- A character is typed, whatever it asks for in other phases. -/
theorem handle_char (c : Char) :
    l.handle (.key .press (.char c)) = l.withInput (l.desk.session.input.push c) :=
  handle_of_some (Command.ofEvent?_idle hn hp (.char c)) rfl

theorem handle_backspace : l.handle (.key .press .backspace) =
    l.withInput (String.ofList l.desk.session.input.toList.dropLast) :=
  handle_of_some (Command.ofEvent?_idle hn hp .backspace) rfl

theorem handle_escape : l.handle (.key .press .escape) = l.act .close :=
  handle_of_act (Command.ofEvent?_idle hn hp .escape)

theorem handle_enter_blank (hblank : Text.isBlankText l.desk.session.input = true) :
    l.handle (.key .press .enter) = l := by
  refine handle_of_none ?_
  rw [Command.ofEvent?_idle hn hp]
  exact if_pos (Text.trimmed_eq_empty_iff.mpr hblank)

/-- The other keys mean nothing. -/
theorem handle_other {k : Key} (hchar : ∀ c, k ≠ .char c) (hbackspace : k ≠ .backspace)
    (henter : k ≠ .enter) (hescape : k ≠ .escape) : l.handle (.key .press k) = l := by
  refine handle_of_none ?_
  rw [Command.ofEvent?_idle hn hp]
  cases k with
  | char c => exact absurd rfl (hchar c)
  | backspace => exact absurd rfl hbackspace
  | enter => exact absurd rfl henter
  | escape => exact absurd rfl hescape
  | up | down | left | right | other => rfl

end Idle

end Loop

/-! ### Closing -/

/-- Of all actions only closing closes a session, and none opens it again. -/
theorem Desk.act_closed (d : Desk) (a : Action) :
    (d.act a).session.closed = true ↔ d.session.closed = true ∨ a = .close := by
  cases a with
  | close => simp [Desk.act, Desk.update, Session.close]
  | tick =>
    obtain ⟨w, p, htick, -⟩ := tick_eq d.store.log d.session
    simp [Desk.act, Desk.update, htick]
  | finish r =>
    show d.session.closed = true ↔ _
    simp
  | updateSummary =>
    obtain ⟨v, hsummary⟩ := d.session.updateSummary_eq
    simp [Desk.act, Desk.update, hsummary]
  | selectPrevious =>
    obtain ⟨c, hselect⟩ := d.session.selectPrevious_eq
    simp [Desk.act, Desk.update, hselect]
  | selectNext =>
    obtain ⟨c, hselect⟩ := d.session.selectNext_eq
    simp [Desk.act, Desk.update, hselect]
  | save format =>
    obtain ⟨status, hsave⟩ := d.save_session format
    simp [Desk.act, hsave]
  | startScan | scrollLeft | scrollRight | toggleLog | dismissNotice | reset =>
    simp [Desk.act, Desk.update, Session.startScan, onLog, Session.dismissNotice, Session.reset]

theorem Desk.obey_closed (d : Desk) (c : Command) :
    (d.obey c).session.closed = true ↔ d.session.closed = true ∨ c = .act .close := by
  cases c with
  | insert ch => simp [Desk.obey, Desk.update, Session.insert]
  | erase => simp [Desk.obey, Desk.update, Session.erase]
  | audit target => simp [Desk.obey, d.act_closed]
  | act a => simp [Desk.obey, d.act_closed]

namespace Loop

variable {config : Config} {l : Loop}

theorem handle_closed (l : Loop) (e : Event) :
    (l.handle e).desk.session.closed = true ↔ l.desk.session.closed = true ∨ Closes l.desk.session e := by
  rw [handle_eq, ← Command.ofEvent?_close_iff]
  cases Command.ofEvent? l.desk.session e with
  | none => simp
  | some c => simp [Desk.obey_closed]

theorem happen_closed (config : Config) (l : Loop) (x : Happening) :
    (l.happen config x).desk.session.closed = true ↔
      l.desk.session.closed = true ∨ ∃ e, x = .event e ∧ Closes l.desk.session e := by
  cases x with
  | event e => simpa [happen] using l.handle_closed e
  | draw width height =>
    obtain ⟨c, hc⟩ := l.drawn_eq width height
    simp [happen, hc]
  | ended e =>
    simp only [happen, deliver_eq]
    cases l.delivery? config e <;> simp [Desk.act_closed]
  | tick => simp [happen, act, Desk.act_closed]
  | log file => simp [happen, meet]

/-- A session that is closed stays closed. -/
theorem after_closed (h : l.desk.session.closed = true) (xs : List Happening) :
    (l.after config xs).desk.session.closed = true := by
  induction xs generalizing l with
  | nil => exact h
  | cons x rest ih => exact ih ((happen_closed config l x).mpr (.inl h))

end Loop

/-! ### States that a loop can come to -/

/-- Whatever happens to a loop, its audits stay accounted for. -/
theorem Accounted.happen {l : Loop} {h : History} (hl : Accounted l.underWay l.desk.session h)
    (config : Config) (x : Happening) :
    ∃ h', Accounted (l.happen config x).underWay (l.happen config x).desk.session h' := by
  cases x with
  | event e => exact ⟨_, hl.handle e⟩
  | ended e => exact ⟨_, hl.deliver config e⟩
  | draw width height =>
    obtain ⟨c, hc⟩ := l.drawn_eq width height
    refine ⟨h, ?_⟩
    rw [Loop.happen, hc]
    exact hl.frame ⟨rfl, rfl, rfl⟩
  | tick => exact ⟨h, hl.frame (l.desk.act_quiet rfl)⟩
  | log file => exact ⟨h, hl.frame ⟨rfl, rfl, rfl⟩⟩

theorem Accounted.after {l : Loop} {h : History} (hl : Accounted l.underWay l.desk.session h)
    (config : Config) (xs : List Happening) :
    ∃ h', Accounted (l.after config xs).underWay (l.after config xs).desk.session h' := by
  induction xs generalizing l h with
  | nil => exact ⟨h, hl⟩
  | cons x rest ih =>
    obtain ⟨h', hx⟩ := hl.happen config x
    exact ih hx

/-- A loop as it begins. -/
def Loop.begin (store : Store) : Loop := { desk := { session := .start, store := store } }

theorem Loop.accounted_begin (store : Store) :
    Accounted (Loop.begin store).underWay (Loop.begin store).desk.session {} :=
  ⟨rfl, rfl, fun _ hd => (nomatch hd), fun hne => absurd rfl hne, fun hf => (nomatch hf)⟩

/-- An idle session has no audit under way. -/
theorem Loop.underWay_idle (config : Config) (store : Store) (xs : List Happening) :
    let l := (Loop.begin store).after config xs
    l.desk.session.phase = .idle → l.underWay = [] := by
  intro l hp
  obtain ⟨h, hl⟩ := (accounted_begin store).after config xs
  exact hl.underWay_nil (by rw [show _ = Phase.idle from hp]; decide)

/-- The notice is shown in idle sessions only. -/
theorem Loop.idle_noticeShown (config : Config) (store : Store) (xs : List Happening) :
    let l := (Loop.begin store).after config xs
    l.desk.session.noticeShown = true → l.desk.session.phase = .idle := by
  intro l hn
  have hbegin : Untouched store.reports (Loop.begin store) := ⟨⟨false, rfl⟩, rfl, rfl⟩
  refine (hbegin.after config fun hxs => ?_).1.phase
  have hgone := Loop.dismissed_of_mem config (Loop.begin store) hxs
  rw [show ((Loop.begin store).after config xs).desk.session.noticeShown = true from hn] at hgone
  cases hgone

/-! ### Typing -/

/-- What an event makes of a stack of characters, the last one of which is on top. -/
def stacked (stack : List Char) : Happening → List Char
  | .event (.key .press (.char c)) => c :: stack
  | .event (.key .press .backspace) => stack.tail
  | _ => stack

/-- An idle session whose input is a stack of characters. -/
structure Typing (stack : List Char) (l : Loop) : Prop where
  dismissed : l.desk.session.noticeShown = false
  phase : l.desk.session.phase = .idle
  underWay : l.underWay = []
  input : l.desk.session.input.toList = stack.reverse

namespace Typing

variable {stack : List Char} {l : Loop}

/-- Whatever leaves these alone, leaves the typing alone. -/
theorem frame {l' : Loop} (h : Typing stack l)
    (hn : l'.desk.session.noticeShown = l.desk.session.noticeShown)
    (hp : l'.desk.session.phase = l.desk.session.phase) (hu : l'.underWay = l.underWay)
    (hi : l'.desk.session.input = l.desk.session.input) : Typing stack l' :=
  ⟨hn.trans h.dismissed, hp.trans h.phase, hu.trans h.underWay, by rw [hi, h.input]⟩

theorem press (h : Typing stack l) {k : Key} (hk : k ≠ .enter) :
    Typing (stacked stack (.event (.key .press k))) (l.handle (.key .press k)) := by
  cases k with
  | char c =>
    rw [Loop.handle_char h.dismissed h.phase]
    exact ⟨h.dismissed, h.phase, h.underWay, by simp [Loop.withInput, stacked, h.input]⟩
  | backspace =>
    rw [Loop.handle_backspace h.dismissed h.phase]
    exact ⟨h.dismissed, h.phase, h.underWay, by simp [Loop.withInput, stacked, h.input]⟩
  | enter => exact absurd rfl hk
  | escape =>
    rw [Loop.handle_escape h.dismissed h.phase]
    exact h.frame rfl rfl rfl rfl
  | up | down | left | right | other =>
    rw [Loop.handle_other h.dismissed h.phase (by simp) (by simp) (by simp) (by simp)]
    exact h

theorem happen (h : Typing stack l) (config : Config) {x : Happening} (hx : x ≠ .acknowledgement) :
    Typing (stacked stack x) (l.happen config x) := by
  cases x with
  | event e =>
    cases e with
    | other =>
      rw [Loop.happen, Loop.handle_of_none (Command.ofEvent?_of_not_press (by simp))]
      exact h
    | key stroke k =>
      cases stroke with
      | press => exact h.press fun hk => hx (hk ▸ rfl)
      | hold | release =>
        rw [Loop.happen, Loop.handle_of_none (Command.ofEvent?_of_not_press (by simp))]
        exact h
  | draw width height =>
    obtain ⟨c, hc⟩ := l.drawn_eq width height
    rw [Loop.happen, hc]
    exact h.frame rfl rfl rfl rfl
  | ended e =>
    rw [Loop.happen, Loop.deliver, h.underWay]
    exact h
  | tick =>
    obtain ⟨hp, hi, -⟩ := l.desk.act_quiet (a := .tick) rfl
    have hn := l.desk.act_dismissed h.dismissed .tick
    exact h.frame (hn.trans h.dismissed.symm) hp rfl hi
  | log file => exact h.frame rfl rfl rfl rfl

theorem after (h : Typing stack l) (config : Config) {xs : List Happening} (hxs : .acknowledgement ∉ xs) :
    Typing (xs.foldl stacked stack) (l.after config xs) := by
  induction xs generalizing l stack with
  | nil => exact h
  | cons x rest ih =>
    rw [List.mem_cons, not_or] at hxs
    exact ih (h.happen config (Ne.symm hxs.1)) hxs.2

end Typing

/-- **A key means one thing in each phase.** Whatever happened to a loop, an event that is no press of a key
changes nothing. The session is closed by the escape key, and by one letter unless an address is being typed or
the notice is shown, and by nothing else that happens; and it stays closed. While it scans, events change
nothing but that. While an address is typed, every character is put at its end and the backspace key takes the
last one away, the enter key does nothing if the input is blank, and all other keys but the escape key do
nothing at all. So, until the enter key is pressed, the input is the stack of what was typed, whatever else
happens, and no audit starts. -/
theorem keys_by_phase (config : Config) (store : Store) (xs : List Happening) :
    let l := (Loop.begin store).after config xs
    let s := l.desk.session
    (∀ e, (∀ k, e ≠ .key .press k) → l.handle e = l) ∧
    (∀ x, (l.happen config x).desk.session.closed = true ↔
      s.closed = true ∨ ∃ e, x = .event e ∧ Closes s e) ∧
    (s.closed = true → ∀ more, (l.after config more).desk.session.closed = true) ∧
    (s.phase = .scanning → ∀ e, ∃ closed,
      l.handle e = { l with desk := { l.desk with session := { s with closed := closed } } }) ∧
    (s.phase = .idle → s.noticeShown = false →
      (∀ c, l.handle (.key .press (.char c)) = l.withInput (s.input.push c)) ∧
      l.handle (.key .press .backspace) = l.withInput (String.ofList s.input.toList.dropLast) ∧
      (Text.isBlankText s.input = true → l.handle (.key .press .enter) = l) ∧
      (∀ k, (∀ c, k ≠ .char c) → k ≠ .backspace → k ≠ .enter → k ≠ .escape →
        l.handle (.key .press k) = l) ∧
      ∀ more, .event (.key .press .enter) ∉ more →
        Typing (more.foldl stacked s.input.toList.reverse) (l.after config more)) := by
  intro l s
  refine ⟨fun e he => ?unpressed, Loop.happen_closed config l, Loop.after_closed, fun hp e => ?scanning,
    fun hp hn => ⟨Loop.handle_char hn hp, Loop.handle_backspace hn hp, Loop.handle_enter_blank hn hp,
      fun k => Loop.handle_other hn hp, fun more hmore => ?typing⟩⟩
  case unpressed => exact Loop.handle_of_none (Command.ofEvent?_of_not_press he)
  case scanning =>
    have hn : s.noticeShown = false := by
      rw [← Bool.not_eq_true]
      intro hshown
      have hidle := Loop.idle_noticeShown config store xs hshown
      rw [show _ = Phase.scanning from hp] at hidle
      cases hidle
    rcases Loop.handle_scanning hn hp e with h | h
    · exact ⟨s.closed, h⟩
    · exact ⟨true, h⟩
  case typing =>
    have htyping : Typing s.input.toList.reverse l :=
      ⟨hn, hp, Loop.underWay_idle config store xs hp, (List.reverse_reverse _).symm⟩
    exact htyping.after config hmore

end PageAudit.Session
