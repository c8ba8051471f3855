import PageAudit.Proofs.Session.Keys
import PageAudit.Proofs.Session.LogPanel
import PageAudit.Proofs.View.LogArea
/-!
Columns of the screen. A session counts the columns that it scrolls past and the characters that are typed
without regard to the screen, and the screen takes these numbers modulo 65536: so what it shows jumps back to
the first column when a number passes a multiple of that. `columns_in_order` says exactly when this happens, for
the log and for the cursor, in every state that actions and events lead to, and that it takes more than sixteen
thousand steps to the right, or more than sixty-five thousand characters, until it first does.

`Doing` is what a run consists of, and `Bounded` is the invariant of a run: a session is scrolled no further
than its steps to the right have taken it, and its input is no longer than what was typed.
-/
namespace PageAudit

namespace Session

/-! ### Runs -/

/-- One thing that is done with a session: an action is taken, or an event handled. -/
inductive Doing where
  | act (a : Action)
  | event (e : Event)
deriving DecidableEq

namespace Doing

/-- Nothing else scrolls the log to the right. -/
def scrollsRight : Doing → Bool
  | .act a => a = .scrollRight
  | .event e => e = .key .press .right

/-- Nothing else adds to the input. -/
def types : Doing → Bool
  | .event (.key .press (.char _)) => true
  | _ => false

end Doing

def Desk.does (d : Desk) : Doing → Desk
  | .act a => d.act a
  | .event e => (d.handle e).1

/-- Does one thing after the other, each with the files as they are at the time. -/
def Desk.doesAll (d : Desk) : List (Store × Doing) → Desk
  | [] => d
  | (store, x) :: rest => ({ d with store := store }.does x).doesAll rest

/-! ### What an action does to the log and the input -/

theorem LogPanel.refresh_scroll (file : File) (p : LogPanel) : (refresh file p).scroll = p.scroll := by
  simp only [refresh]
  split <;> rfl

theorem LogPanel.toggle_scroll (file : File) (p : LogPanel) : (toggle file p).scroll = p.scroll := by
  unfold toggle
  split
  · rfl
  · exact refresh_scroll _ _

/-- One action scrolls to the right, and none types. -/
theorem act_scroll_input {d : Desk} {a : Action} (ha : a ≠ .scrollRight) :
    (d.act a).session.log.scroll ≤ d.session.log.scroll ∧
      (d.act a).session.input.length ≤ d.session.input.length := by
  cases a with
  | scrollRight => exact absurd rfl ha
  | scrollLeft => exact ⟨Nat.sub_le .., Nat.le_refl _⟩
  | toggleLog => exact ⟨Nat.le_of_eq (LogPanel.toggle_scroll ..), Nat.le_refl _⟩
  | tick =>
    have hlog : (d.session.tick d.store.log).log.scroll = d.session.log.scroll := by
      rw [tick_log]
      split
      · exact LogPanel.refresh_scroll ..
      · rfl
    obtain ⟨w, p, htick, -⟩ := tick_eq d.store.log d.session
    refine ⟨Nat.le_of_eq hlog, ?_⟩
    simp [Desk.act, Desk.update, htick]
  | finish r =>
    obtain ⟨v, hsummary⟩ := updateSummary_eq { d.session with
      phase := .finished, result := some r, findings := r.allFindings, choice := .first r.allFindings.length }
    simp [Desk.act, Desk.update, Session.finish, hsummary]
  | updateSummary =>
    obtain ⟨v, hsummary⟩ := d.session.updateSummary_eq
    simp [Desk.act, Desk.update, hsummary]
  | selectPrevious =>
    obtain ⟨c, hselect⟩ := d.session.selectPrevious_eq
    simp [Desk.act, Desk.update, hselect]
  | selectNext =>
    obtain ⟨c, hselect⟩ := d.session.selectNext_eq
    simp [Desk.act, Desk.update, hselect]
  | save format =>
    obtain ⟨status, hsave⟩ := d.save_session format
    simp [Desk.act, hsave]
  | startScan | dismissNotice | close => exact ⟨Nat.le_refl _, Nat.le_refl _⟩
  | reset => exact ⟨Nat.le_refl _, Nat.zero_le _⟩

namespace Command

variable {s : Session} {e : Event}

theorem press_of_ofEvent? {c : Command} (h : ofEvent? s e = some c) :
    ∃ k, e = .key .press k ∧ ofKey? s k = some c := by
  unfold ofEvent? at h
  split at h
  · exact ⟨_, rfl, h⟩
  · cases h

/-- The key to the right is the only one that asks for a step to the right. -/
theorem scrollsRight_of_ofEvent? (h : ofEvent? s e = some (.act .scrollRight)) :
    (Doing.event e).scrollsRight = true := by
  obtain ⟨k, rfl, hk⟩ := press_of_ofEvent? h
  cases allowed_of_ofEvent? h with
  | finished hn hp _ =>
    have hfinished : whenFinished? k = some (.act .scrollRight) := by simpa [ofKey?, hn, hp] using hk
    unfold whenFinished? at hfinished
    split at hfinished <;> cases hfinished
    rfl

/-- Keys with characters are the only ones that ask to type. -/
theorem types_of_ofEvent? {c : Char} (h : ofEvent? s e = some (.insert c)) : (Doing.event e).types = true := by
  obtain ⟨k, rfl, hk⟩ := press_of_ofEvent? h
  cases allowed_of_ofEvent? h with
  | insert _ hn hp =>
    have hidle : whenIdle? s.input k = some (.insert c) := by simpa [ofKey?, hn, hp] using hk
    cases k with
    | char ch => rfl
    | enter =>
      obtain ⟨-, hidle⟩ := Option.ite_none_left_eq_some.mp hidle
      cases hidle
    | escape | backspace | up | down | left | right | other => cases hidle

end Command

/-- A character is typed where an address can be typed. -/
theorem Desk.handle_char {d : Desk} (hn : d.session.noticeShown = false) (hp : d.session.phase = .idle)
    (c : Char) : (d.handle (.key .press (.char c))).1 = d.update (Session.insert c) := by
  unfold handle
  rw [Command.ofEvent?_idle hn hp]
  rfl

/-! ### What a run can reach -/

/-- A session that has taken at most `rights` steps to the right and `typed` characters. -/
structure Bounded (rights typed : Nat) (s : Session) : Prop where
  most : s.log.scroll ≤ LogPanel.maxScroll
  scroll : s.log.scroll ≤ LogPanel.step * rights
  input : s.input.length ≤ typed

namespace Bounded

variable {rights typed : Nat} {s s' : Session} {d : Desk}

theorem start : Bounded 0 0 Session.start := ⟨Nat.zero_le _, Nat.zero_le _, Nat.zero_le _⟩

/-- Whatever does not scroll to the right and does not type keeps the bounds. -/
theorem frame (h : Bounded rights typed s) (hscroll : s'.log.scroll ≤ s.log.scroll)
    (hinput : s'.input.length ≤ s.input.length) : Bounded rights typed s' :=
  ⟨Nat.le_trans hscroll h.most, Nat.le_trans hscroll h.scroll, Nat.le_trans hinput h.input⟩

theorem more (h : Bounded rights typed s) {rights' typed' : Nat} (hrights : rights ≤ rights')
    (htyped : typed ≤ typed') : Bounded rights' typed' s :=
  ⟨h.most, Nat.le_trans h.scroll (Nat.mul_le_mul_left _ hrights), Nat.le_trans h.input htyped⟩

theorem scrollRight (h : Bounded rights typed d.session) :
    Bounded (rights + 1) typed (d.act .scrollRight).session :=
  ⟨Nat.min_le_left .., Nat.le_trans (Nat.min_le_right ..) (Nat.add_le_add_right h.scroll _), h.input⟩

theorem act (h : Bounded rights typed d.session) (a : Action) :
    Bounded (rights + (Doing.act a).scrollsRight.toNat) typed (d.act a).session := by
  by_cases ha : a = .scrollRight
  · subst ha
    exact h.scrollRight
  · obtain ⟨hscroll, hinput⟩ := act_scroll_input (d := d) ha
    exact (h.frame hscroll hinput).more (Nat.le_add_right ..) (Nat.le_refl _)

theorem handle (h : Bounded rights typed d.session) (e : Event) :
    Bounded (rights + (Doing.event e).scrollsRight.toNat) (typed + (Doing.event e).types.toNat)
      (d.handle e).1.session := by
  unfold Desk.handle
  cases hc : Command.ofEvent? d.session e with
  | none => exact h.more (Nat.le_add_right ..) (Nat.le_add_right ..)
  | some c =>
    cases c with
    | insert ch =>
      rw [Command.types_of_ofEvent? hc]
      have hinput : (d.session.input.push ch).length = d.session.input.length + 1 := String.length_push ..
      exact ⟨h.most, (h.more (Nat.le_add_right ..) (Nat.le_refl _)).scroll,
        Nat.le_trans (Nat.le_of_eq hinput) (Nat.add_le_add_right h.input 1)⟩
    | erase =>
      have hinput : (String.ofList d.session.input.toList.dropLast).length ≤ d.session.input.length := by
        rw [String.length_ofList, List.length_dropLast, String.length_toList]
        exact Nat.sub_le ..
      have herased : Bounded rights typed d.session.erase := h.frame (Nat.le_refl _) hinput
      exact herased.more (Nat.le_add_right ..) (Nat.le_add_right ..)
    | audit target => exact (h.act .startScan).more (Nat.le_add_right ..) (Nat.le_add_right ..)
    | act a =>
      have ha : (Doing.act a).scrollsRight.toNat ≤ (Doing.event e).scrollsRight.toNat := by
        by_cases hright : a = .scrollRight
        · subst hright
          rw [Command.scrollsRight_of_ofEvent? hc]
          exact Bool.toNat_le _
        · simp [Doing.scrollsRight, hright]
      exact (h.act a).more (Nat.add_le_add_left ha rights) (Nat.le_add_right ..)

theorem does (h : Bounded rights typed d.session) (x : Doing) :
    Bounded (rights + x.scrollsRight.toNat) (typed + x.types.toNat) (d.does x).session := by
  cases x with
  | act a => exact h.act a
  | event e => exact h.handle e

/-- A run takes a session no further than its steps to the right, and its input no further than what is
typed. -/
theorem doesAll (h : Bounded rights typed d.session) (steps : List (Store × Doing)) :
    Bounded (rights + steps.countP (·.2.scrollsRight)) (typed + steps.countP (·.2.types))
      (d.doesAll steps).session := by
  -- each step moves the bounds, so what is proved of the rest must hold of any
  induction steps generalizing d rights typed with
  | nil => exact h
  | cons step rest ih =>
    obtain ⟨store, x⟩ := step
    have hmet : Bounded rights typed ({ d with store := store } : Desk).session := h
    have hcount (holds : Doing → Bool) (n : Nat) : n + (holds x).toNat + rest.countP (holds ·.2) =
        n + ((store, x) :: rest).countP (holds ·.2) := by
      rw [List.countP_cons, Nat.add_assoc, Nat.add_comm (holds x).toNat]
      cases holds x <;> rfl
    exact (ih (hmet.does x)).more (Nat.le_of_eq (hcount Doing.scrollsRight rights))
      (Nat.le_of_eq (hcount Doing.types typed))

end Bounded

end Session

namespace View
open Screen Session

/-! ### Columns as the screen counts them -/

variable {p : LogPanel}

theorem scrolledColumns_eq (p : LogPanel) : scrolledColumns p = p.scroll % UInt16.size := rfl

theorem scrolledColumns_right_iff : scrolledColumns p ≤ scrolledColumns p.scrollRight ↔
    p.scroll % UInt16.size + LogPanel.step < UInt16.size ∨ LogPanel.maxScroll < p.scroll + LogPanel.step := by
  simp only [scrolledColumns_eq, LogPanel.scrollRight, LogPanel.step, LogPanel.maxScroll, UInt16.size,
    UInt64.size]
  omega

theorem scrolledColumns_left_iff : scrolledColumns p.scrollLeft ≤ scrolledColumns p ↔
    LogPanel.step ≤ p.scroll % UInt16.size ∨ p.scroll < LogPanel.step := by
  simp only [scrolledColumns_eq, LogPanel.scrollLeft, LogPanel.step, UInt16.size]
  omega

theorem scrolledColumns_back_iff (hp : p.scroll ≤ LogPanel.maxScroll) :
    scrolledColumns p.scrollRight.scrollLeft = scrolledColumns p ↔
      p.scroll + LogPanel.step ≤ LogPanel.maxScroll := by
  simp only [scrolledColumns_eq, LogPanel.scrollRight, LogPanel.scrollLeft, LogPanel.step,
    LogPanel.maxScroll, UInt16.size, UInt64.size] at hp ⊢
  omega

/-- The input begins in the first column. -/
theorem Regions.ofScreen_input_x (width height : Nat) (showsLog : Bool) :
    (ofScreen (.ofSize width height) showsLog).input.x = 0 := by
  obtain ⟨top, bottom, hrows, -⟩ := Area.extentBounds_screen height
  simp only [ofScreen, part, Area.rowsOfExtents, Area.ofSize, hrows, Area.rowsAt, List.getD_cons_zero]

theorem cursorColumn_eq {a : Area} (ha : a.x = 0) (typed : Nat) :
    cursorColumn a typed = (typed + 1) % UInt16.size := by
  rw [cursorColumn, ha, UInt16.toNat_add, UInt16.toNat_add, UInt16.toNat_ofNat', UInt16.toNat_ofNat']
  simp

theorem cursorColumn_iff {a : Area} (ha : a.x = 0) (typed : Nat) :
    cursorColumn a typed ≤ cursorColumn a (typed + 1) ↔ ¬ UInt16.size ∣ typed + 2 := by
  simp only [cursorColumn_eq ha, UInt16.size]
  omega

/-- As long as no step goes beyond what a screen can count, the steps keep their order. -/
theorem scrolledColumns_in_order {rights typed : Nat} {s : Session} (h : Bounded rights typed s)
    (hrights : LogPanel.step * (rights + 1) < UInt16.size) :
    scrolledColumns s.log ≤ scrolledColumns s.log.scrollRight ∧
      scrolledColumns s.log.scrollLeft ≤ scrolledColumns s.log ∧
      scrolledColumns s.log.scrollRight.scrollLeft = scrolledColumns s.log := by
  have hnext : s.log.scroll + LogPanel.step < UInt16.size := by
    have hscroll := h.scroll
    rw [Nat.mul_add_one] at hrights
    omega
  have hsmall : s.log.scroll % UInt16.size = s.log.scroll := Nat.mod_eq_of_lt (by omega)
  have hroom : UInt16.size ≤ LogPanel.maxScroll := by decide
  refine ⟨scrolledColumns_right_iff.mpr (.inl ?_), scrolledColumns_left_iff.mpr ?_,
    (scrolledColumns_back_iff h.most).mpr (by omega)⟩
  · rw [hsmall]
    exact hnext
  · rw [hsmall]
    exact (Nat.lt_or_ge ..).symm

/-- The cursor of a session that is idle and shows no notice. -/
theorem cursor?_eq (a : Area) {s : Session} (hn : s.noticeShown = false) (hp : s.phase = .idle) :
    cursor? a s = some (cursorColumn a s.input.length, a.y + 1) := by
  simp [cursor?, hn, hp]

theorem cursor?_insert (a : Area) {s : Session} (hn : s.noticeShown = false) (hp : s.phase = .idle) (c : Char) :
    cursor? a (s.insert c) = some (cursorColumn a (s.input.length + 1), a.y + 1) := by
  rw [cursor?_eq a (s := s.insert c) hn hp]
  exact congrArg (fun n => some (cursorColumn a n, a.y + 1)) (String.length_push ..)

/-- **The columns on the screen are in order until a number passes a multiple of 65536.** After any actions and
events, with whatever files, a step to the right takes the log back exactly if it passes such a multiple, and a
step to the left takes it forward exactly if it comes back over one; and the two cancel out unless the first
comes to the end of all columns. Wherever the cursor is shown, one more character moves it back exactly if the
column of the cursor would be such a multiple. With fewer than sixteen thousand steps to the right, and fewer
than sixty-five thousand characters, neither happens. -/
theorem columns_in_order (store : Store) (steps : List (Store × Doing)) :
    let d := ({ session := .start, store := store } : Desk).doesAll steps
    let scroll := d.session.log.scroll
    let here := scrolledColumns d.session.log
    let right := scrolledColumns (d.act .scrollRight).session.log
    let left := scrolledColumns (d.act .scrollLeft).session.log
    let back := scrolledColumns ((d.act .scrollRight).act .scrollLeft).session.log
    (here ≤ right ↔
        scroll % UInt16.size + LogPanel.step < UInt16.size ∨ LogPanel.maxScroll < scroll + LogPanel.step) ∧
      (left ≤ here ↔ LogPanel.step ≤ scroll % UInt16.size ∨ scroll < LogPanel.step) ∧
      (back = here ↔ scroll + LogPanel.step ≤ LogPanel.maxScroll) ∧
      (LogPanel.step * (steps.countP (·.2.scrollsRight) + 1) < UInt16.size →
        here ≤ right ∧ left ≤ here ∧ back = here) ∧
      ∀ width height c, d.session.noticeShown = false → d.session.phase = .idle →
        let input := (Regions.ofScreen (.ofSize width height) d.session.log.shown).input
        ∃ column column', cursor? input d.session = some (column, input.y + 1) ∧
          cursor? input (d.handle (.key .press (.char c))).1.session = some (column', input.y + 1) ∧
          (column ≤ column' ↔ ¬ UInt16.size ∣ d.session.input.length + 2) ∧
          (steps.countP (·.2.types) + 2 < UInt16.size → column ≤ column') := by
  intro d scroll here right left back
  have hd : Bounded (0 + steps.countP (·.2.scrollsRight)) (0 + steps.countP (·.2.types)) d.session :=
    Bounded.start.doesAll (d := { session := .start, store := store }) steps
  rw [Nat.zero_add, Nat.zero_add] at hd
  refine ⟨scrolledColumns_right_iff, scrolledColumns_left_iff, scrolledColumns_back_iff hd.most,
    scrolledColumns_in_order hd, fun width height c hn hp => ?_⟩
  intro input
  have hinput : input.x = 0 := Regions.ofScreen_input_x ..
  have horder := cursorColumn_iff hinput d.session.input.length
  refine ⟨_, _, cursor?_eq input hn hp, ?_, horder, fun htyped => horder.mpr fun hmultiple => ?_⟩
  · rw [Desk.handle_char hn hp]
    exact cursor?_insert input hn hp c
  · -- the first multiple needs more characters than were typed
    have hlength := hd.input
    have hle := Nat.le_of_dvd (Nat.succ_pos _) hmultiple
    omega

/-! ### Where the order breaks -/

/-- Steps to the right add up. -/
theorem doesAll_scrollRight (store : Store) {d : Desk} (hd : d.session.log.scroll ≤ LogPanel.maxScroll)
    (n : Nat) :
    let scrolled := (d.doesAll (List.replicate n (store, .act .scrollRight))).session.log
    scrolled.shown = d.session.log.shown ∧
      scrolled.scroll = min LogPanel.maxScroll (d.session.log.scroll + LogPanel.step * n) := by
  induction n generalizing d with
  | zero => exact ⟨rfl, (Nat.min_eq_right hd).symm⟩
  | succ n ih =>
    let next : Desk := (Desk.mk d.session store).act .scrollRight
    obtain ⟨hshown, hscroll⟩ := ih (d := next) (Nat.min_le_left ..)
    refine ⟨hshown, hscroll.trans ?_⟩
    -- what is cut after the first step would be cut after the last
    show min LogPanel.maxScroll (min LogPanel.maxScroll (d.session.log.scroll + LogPanel.step) +
      LogPanel.step * n) = _
    rw [Nat.mul_add_one]
    omega

/-- So do characters. -/
theorem doesAll_char (store : Store) {d : Desk} (hn : d.session.noticeShown = false)
    (hp : d.session.phase = .idle) (c : Char) (n : Nat) :
    let typed := (d.doesAll (List.replicate n (store, .event (.key .press (.char c))))).session
    typed.noticeShown = false ∧ typed.phase = .idle ∧ typed.input.length = d.session.input.length + n := by
  induction n generalizing d with
  | zero => exact ⟨hn, hp, rfl⟩
  | succ n ih =>
    let next : Desk := (Desk.mk d.session store).update (Session.insert c)
    have hnext : (Desk.mk d.session store).does (.event (.key .press (.char c))) = next :=
      Desk.handle_char (d := ⟨d.session, store⟩) hn hp c
    have hlength : next.session.input.length = d.session.input.length + 1 := String.length_push ..
    obtain ⟨hn', hp', hinput⟩ := ih (d := next) hn hp
    rw [List.replicate_succ, Desk.doesAll, hnext]
    exact ⟨hn', hp', by rw [hinput, hlength, Nat.add_assoc, Nat.add_comm 1 n]⟩

/-- What is shown of a log that begins in the first column after a number of steps, and after one more. -/
theorem scrolledColumns_doesAll (store : Store) {d : Desk} (hd : d.session.log.scroll = 0) (n : Nat) :
    let scrolled := d.doesAll (List.replicate n (store, .act .scrollRight))
    scrolled.session.log.shown = d.session.log.shown ∧
      scrolledColumns scrolled.session.log = min LogPanel.maxScroll (LogPanel.step * n) % UInt16.size ∧
      scrolledColumns (scrolled.act .scrollRight).session.log =
        min LogPanel.maxScroll (LogPanel.step * (n + 1)) % UInt16.size := by
  intro scrolled
  obtain ⟨hshown, hscroll⟩ := doesAll_scrollRight store (hd ▸ Nat.zero_le _) n
  rw [hd, Nat.zero_add] at hscroll
  refine ⟨hshown, congrArg (· % UInt16.size) hscroll, ?_⟩
  show min LogPanel.maxScroll (scrolled.session.log.scroll + LogPanel.step) % UInt16.size = _
  rw [show scrolled.session.log.scroll = _ from hscroll, Nat.mul_add_one]
  congr 1
  omega

/-- Where the cursor is when a number of characters has been typed, and one more. -/
theorem cursor?_doesAll (store : Store) {d : Desk} (hn : d.session.noticeShown = false)
    (hp : d.session.phase = .idle) (hd : d.session.input = "") (a : Area) (c : Char) (n : Nat) :
    let typed := d.doesAll (List.replicate n (store, .event (.key .press (.char c))))
    cursor? a typed.session = some (cursorColumn a n, a.y + 1) ∧
      cursor? a (typed.handle (.key .press (.char c))).1.session = some (cursorColumn a (n + 1), a.y + 1) := by
  intro typed
  obtain ⟨hn', hp', hlength⟩ := doesAll_char store hn hp c n
  rw [hd, String.length_empty, Nat.zero_add] at hlength
  rw [Desk.handle_char hn' hp']
  refine ⟨(cursor?_eq a hn' hp').trans ?_, (cursor?_insert a hn' hp' c).trans ?_⟩
  · rw [hlength]
  · rw [hlength]

/-- After 16383 steps the log is scrolled to column 65532, and the next step shows the first column again. The
cursor behind 65534 characters is in column 65535, and the next character takes it to column 0. -/
theorem columns_wrapped :
    let store : Store := { path := "data", log := some (.bytes [114, 101, 97, 100, 121, 10]) }
    let begun : Desk := { session := .start, store := store }
    let scrolled := (begun.act .toggleLog).doesAll (List.replicate 16383 (store, .act .scrollRight))
    let typed := (begun.act .dismissNotice).doesAll
      (List.replicate 65534 (store, .event (.key .press (.char 'a'))))
    let input := (Regions.ofScreen (.ofSize 100 30) false).input
    scrolled.session.log.shown = true ∧ scrolledColumns scrolled.session.log = 65532 ∧
      scrolledColumns (scrolled.act .scrollRight).session.log = 0 ∧
      cursor? input typed.session = some (65535, 1) ∧
      cursor? input (typed.handle (.key .press (.char 'a'))).1.session = some (0, 1) := by
  intro store begun
  have hinput : (Regions.ofScreen (.ofSize 100 30) false).input = ⟨0, 0, 100, 3⟩ := by decide +kernel
  obtain ⟨hshown, hlast, hnext⟩ := scrolledColumns_doesAll store (d := begun.act .toggleLog)
    (LogPanel.toggle_scroll ..) 16383
  obtain ⟨hbefore, hafter⟩ := cursor?_doesAll store (d := begun.act .dismissNotice) rfl rfl rfl
    (Regions.ofScreen (.ofSize 100 30) false).input 'a' 65534
  refine ⟨hshown.trans (by decide +kernel), hlast.trans (by decide), hnext.trans (by decide),
    hbefore.trans ?_, hafter.trans ?_⟩
  · rw [hinput]
    decide
  · rw [hinput]
    decide

end View

end PageAudit
