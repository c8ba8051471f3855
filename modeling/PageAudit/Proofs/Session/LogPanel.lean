import PageAudit.Proofs.Session.Views
import Mathlib.Data.List.Chain
/-!
The log panel and its file. A session keeps the lines of the file and the size with which it read them,
and takes the same size for the same file. `panel_current` says when that is right: as long as the file
only grows between two looks at it, or is missing at one of them, every look leaves the panel with the
lines of the file. Opening the panel is a look that does not trust the size, so it is right after
whatever happened to the file.

`Knows` is what a look leaves behind, and `Remembers` carries it through a run: all that a session knows
of the file comes from the last look at it, and other actions forget nothing.
-/
namespace PageAudit.Session

namespace LogPanel

/-! ### One look at the file -/

/-- A file to whose end something may have been added, and that is otherwise as it was. -/
inductive Grown : Found → Found → Prop
  | bytes (old more : List UInt8) : Grown (.bytes old) (.bytes (old ++ more))
  | unreadable {n m : Nat} (reason : String) (h : n ≤ m) :
      Grown (.unreadable (some n) reason) (.unreadable (some m) reason)

/-- What may become of the file from one look at it to the next: it grows, or at one of the two it is
missing, or at least nobody can tell its size. -/
inductive Follows : File → File → Prop
  | grown {f g : Found} : Grown f g → Follows (some f) (some g)
  | appeared {f : File} (g : File) : size? f = none → Follows f g
  | lost (f : File) {g : File} : size? g = none → Follows f g

/-- The panel has the lines of the file, and its size. -/
structure Knows (file : File) (p : LogPanel) : Prop where
  size : p.size = size? file
  lines : p.lines = view file

variable {file earlier : File} {p : LogPanel}

/-- A file that has not grown shows as it did. -/
theorem Grown.view_eq {f g : Found} (h : Grown f g) (hsize : size? (some f) = size? (some g)) :
    view (some g) = view (some f) := by
  cases h with
  | bytes old more =>
    have hmore : more = [] := by
      simpa [size?] using hsize
    rw [hmore, List.append_nil]
  | unreadable reason _ => rfl

/-- A look leaves the panel alone if the file has a size and it is the one that is known. -/
theorem refresh_eq (file : File) (p : LogPanel) :
    refresh file p = if size? file ≠ none ∧ p.size = size? file then p
      else { p with size := size? file, lines := view file } := by
  simp only [refresh, Bool.and_eq_true, Option.isSome_iff_ne_none, decide_eq_true_eq, eq_comm (a := p.size)]

theorem refresh_shown (file : File) (p : LogPanel) : (refresh file p).shown = p.shown := by
  rw [refresh_eq]
  split <;> rfl

/-- A file with another size, or without one, is read. -/
theorem knows_refresh (h : size? file = none ∨ p.size ≠ size? file) : Knows file (refresh file p) := by
  have hread : ¬ (size? file ≠ none ∧ p.size = size? file) := by
    rintro ⟨hnone, hsize⟩
    exact h.elim hnone (· hsize)
  rw [refresh_eq, if_neg hread]
  exact ⟨rfl, rfl⟩

/-- A panel that knows the file as it was knows it as it is after the next look. -/
theorem Knows.refresh (h : Knows earlier p) (hfile : Follows earlier file) :
    Knows file (LogPanel.refresh file p) := by
  by_cases hsize : p.size = size? file
  · cases hfile with
    | @grown f g hgrown =>
      have hview := hgrown.view_eq (h.size.symm.trans hsize)
      rw [refresh_eq]
      split
      · exact ⟨hsize, h.lines.trans hview.symm⟩
      · exact ⟨rfl, rfl⟩
    | appeared _ hnone =>
      have hknown := h.size
      rw [hnone, hsize] at hknown
      exact knows_refresh (.inl hknown)
    | lost _ hnone => exact knows_refresh (.inl hnone)
  · exact knows_refresh (.inr hsize)

/-- Opening forgets the size, so the file is read. -/
theorem toggle_closed (file : File) (hp : p.shown = false) :
    Knows file (toggle file p) ∧ (toggle file p).shown = true := by
  rw [toggle, hp, if_neg Bool.false_ne_true, refresh_shown]
  refine ⟨knows_refresh ?_, rfl⟩
  cases hsize : size? file with
  | none => exact .inl rfl
  | some n => exact .inr nofun

theorem toggle_shown (file : File) (hp : p.shown = true) : toggle file p = { p with shown := false } := by
  rw [toggle, if_pos hp]

end LogPanel

open LogPanel

/-! ### One action -/

/-- An action that looks at the file: a tick while the panel is shown, or the opening of the panel. -/
def Looks (s : Session) (a : Action) : Prop :=
  a = .tick ∧ s.log.shown = true ∨ a = .toggleLog ∧ s.log.shown = false

instance (s : Session) (a : Action) : Decidable (s.Looks a) := by
  unfold Looks
  infer_instance

theorem tick_log (file : File) (s : Session) :
    (s.tick file).log = if s.log.shown then s.log.refresh file else s.log := by
  unfold tick
  cases s.phase <;> cases hs : s.log.shown <;> simp [hs]

/-- What a session knows of the file if `last` is the file as it was last looked at. Before the first look
the panel is closed. -/
def Remembers : Option File → LogPanel → Prop
  | none, p => p.shown = false
  | some f, p => Knows f p

variable {last : Option File} {d : Desk} {a : Action}

/-- After a look the session knows the file. -/
theorem Remembers.look (h : Remembers last d.session.log) (ha : d.session.Looks a)
    (hfile : ∀ f ∈ last, Follows f d.store.log) : Knows d.store.log (d.act a).session.log := by
  rcases ha with ⟨rfl, hshown⟩ | ⟨rfl, hshown⟩
  · show Knows d.store.log (d.session.tick d.store.log).log
    rw [tick_log, if_pos hshown]
    cases last with
    | none => exact absurd hshown (by simp [show d.session.log.shown = false from h])
    | some f => exact Knows.refresh h (hfile f rfl)
  · exact (toggle_closed d.store.log hshown).1

/-- No other action changes what a panel knows, and none opens it. -/
theorem act_log (ha : ¬ d.session.Looks a) :
    (d.act a).session.log.size = d.session.log.size ∧ (d.act a).session.log.lines = d.session.log.lines ∧
      (d.session.log.shown = false → (d.act a).session.log.shown = false) := by
  cases a with
  | tick =>
    have hshown : d.session.log.shown = false := by simpa [Looks] using ha
    have hlog : (d.act .tick).session.log = d.session.log := by
      show (d.session.tick d.store.log).log = d.session.log
      rw [tick_log, hshown]
      rfl
    rw [hlog]
    exact ⟨rfl, rfl, id⟩
  | toggleLog =>
    have hshown : d.session.log.shown = true := by simpa [Looks] using ha
    have hlog : (d.act .toggleLog).session.log = { d.session.log with shown := false } :=
      toggle_shown d.store.log hshown
    rw [hlog]
    exact ⟨rfl, rfl, fun _ => rfl⟩
  | updateSummary =>
    obtain ⟨v, hsummary⟩ := d.session.updateSummary_eq
    simp [Desk.act, Desk.update, hsummary]
  | selectPrevious =>
    obtain ⟨c, hselect⟩ := d.session.selectPrevious_eq
    simp [Desk.act, Desk.update, hselect]
  | selectNext =>
    obtain ⟨c, hselect⟩ := d.session.selectNext_eq
    simp [Desk.act, Desk.update, hselect]
  | save format =>
    obtain ⟨status, hsave⟩ := d.save_session format
    simp [Desk.act, hsave]
  | startScan | finish | scrollLeft | scrollRight | dismissNotice | close | reset =>
    exact ⟨rfl, rfl, id⟩

theorem Remembers.other (h : Remembers last d.session.log) (ha : ¬ d.session.Looks a) :
    Remembers last (d.act a).session.log := by
  obtain ⟨hsize, hlines, hshown⟩ := act_log ha
  cases last with
  | none => exact hshown h
  | some f => exact ⟨hsize.trans h.size, hlines.trans h.lines⟩

/-! ### Runs -/

/-- The files that are met by the looks of a run, in order. -/
def Desk.looked (d : Desk) : List (Store × Action) → List File
  | [] => []
  | (store, a) :: rest =>
    let met := { d with store := store }
    if met.session.Looks a then store.log :: (met.act a).looked rest else (met.act a).looked rest

/-- A run that has looked at the file knows it as it was then, and its next look knows it again. -/
theorem Remembers.run (h : Remembers last d.session.log) {steps : List (Store × Action)} {now : Store}
    (hfiles : List.IsChain Follows (last.toList ++ d.looked (steps ++ [(now, a)])))
    (ha : (d.actAll steps).session.Looks a) :
    Knows now.log ({ d.actAll steps with store := now }.act a).session.log := by
  induction steps generalizing d last with
  | nil =>
    have hd : Remembers last ({ d with store := now } : Desk).session.log := h
    refine hd.look ha fun f hf => ?_
    obtain rfl := Option.mem_def.mp hf
    have hlooked : d.looked [(now, a)] = [now.log] := if_pos ha
    rw [List.nil_append, hlooked] at hfiles
    simpa using hfiles
  | cons step rest ih =>
    obtain ⟨store, b⟩ := step
    have hd : Remembers last ({ d with store := store } : Desk).session.log := h
    rw [List.cons_append, Desk.looked] at hfiles
    by_cases hb : ({ d with store := store } : Desk).session.Looks b
    · rw [if_pos hb] at hfiles
      -- what was known before is of no use any more
      have hnext : Remembers (some store.log) ({ d with store := store }.act b).session.log := by
        refine hd.look hb fun f hf => ?_
        obtain rfl := Option.mem_def.mp hf
        exact (List.isChain_cons_cons.mp hfiles).1
      exact ih hnext hfiles.right_of_append ha
    · rw [if_neg hb] at hfiles
      exact ih (hd.other hb) hfiles ha

/-- **The log panel is never stale.** Take any actions on any files, where the log file only grows from
one look at it to the next, or is missing at one of the two. Then after each look, that is after each
tick while the panel is shown and whenever it opens, the panel has the lines of the file. When it opens,
it has them whatever happened to the file before, and a tick leaves a closed panel alone. -/
theorem panel_current :
    (∀ (store now : Store) (steps : List (Store × Action)) (a : Action),
      let begun : Desk := { session := .start, store := store }
      let d := begun.actAll steps
      List.IsChain Follows (begun.looked (steps ++ [(now, a)])) →
      (a = .tick ∧ d.session.log.shown = true ∨ a = .toggleLog ∧ d.session.log.shown = false) →
      ({ d with store := now }.act a).session.log.lines = LogPanel.view now.log) ∧
    (∀ d : Desk, d.session.log.shown = false →
      (d.act .toggleLog).session.log.shown = true ∧
      (d.act .toggleLog).session.log.lines = LogPanel.view d.store.log) ∧
    (∀ d : Desk, d.session.log.shown = false → (d.act .tick).session.log = d.session.log) := by
  refine ⟨fun store now steps a hfiles ha => ?_, fun d hd => ?_, fun d hd => ?_⟩
  · have hbegun : Remembers none ({ session := .start, store := store } : Desk).session.log := rfl
    exact (hbegun.run hfiles ha).lines
  · obtain ⟨hknows, hshown⟩ := toggle_closed d.store.log hd
    exact ⟨hshown, hknows.lines⟩
  · show (d.session.tick d.store.log).log = d.session.log
    rw [tick_log, hd]
    rfl

/-- The panel opens without a file, the file appears and grows, and after the panel was closed the file is
gone; then it opens again, and another file appears. -/
theorem panel_current_returned :
    let store : Store := { path := "data" }
    let begun : Desk := { session := .start, store := store }
    let now : Store := { store with log := some (.bytes [99]) }
    let steps : List (Store × Action) :=
      [(store, .toggleLog), ({ store with log := some (.bytes [97, 10]) }, .tick),
        ({ store with log := some (.bytes [97, 10, 98, 10]) }, .tick), (now, .toggleLog), (store, .toggleLog)]
    List.IsChain Follows (begun.looked (steps ++ [(now, .tick)])) ∧
      (begun.actAll steps).session.log.shown = true ∧
      ({ begun.actAll steps with store := now }.act .tick).session.log.lines = ["c"] := by
  intro store begun now steps
  have hlooked : begun.looked (steps ++ [(now, .tick)]) = [none, some (.bytes [97, 10]),
      some (.bytes [97, 10, 98, 10]), none, some (.bytes [99])] := by decide +kernel
  have hfiles : List.IsChain Follows (begun.looked (steps ++ [(now, .tick)])) := by
    rw [hlooked]
    exact .cons_cons (.appeared _ rfl) (.cons_cons (.grown (.bytes [97, 10] [98, 10]))
      (.cons_cons (.lost _ rfl) (.cons_cons (.appeared _ rfl) (.singleton _))))
  have hshown : (begun.actAll steps).session.log.shown = true := by decide +kernel
  have hview : LogPanel.view now.log = ["c"] := by decide +kernel
  exact ⟨hfiles, hshown, (panel_current.1 store now steps .tick hfiles (.inl ⟨rfl, hshown⟩)).trans hview⟩

end PageAudit.Session
