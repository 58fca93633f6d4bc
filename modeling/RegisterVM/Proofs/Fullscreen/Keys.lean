import Mathlib.Data.List.Infix
import RegisterVM.Proofs.Fullscreen.Discipline

/-!
# What the keys do

The loop of the application takes one event in each round, after it has let a running session go
on.  The mode may change between two events, so no event can rely on what the last one left.  It
does not have to: whatever was pressed before, the application is in a state that can be shown, and
a key has its one effect.

## 1.  The rounds

`App.held` is the application in hand at the top of a round; it is what some events have made of
the one at the start.  A round in which no event comes is like one with an event that is dropped.
`play_eq` says that the loop draws exactly these applications, each after its running session has
gone on, up to the event that ends the loop.

## 2.  The views

A pane, a number format and three scroll positions are the `App.views` of an application.  The
session does not touch them (`views_submit`, `views_refresh`), and the scroll keys stop at the ends
(`InView`, kept by every event: `inView_held`).

## 3.  The keys

Three keys hand a line to the session (`App.submitted?`), and only while it waits for one.  Every
other key changes one view at most (`ChangesOneView`, `changesOneView_press`); on the typed text it
acts like a line editor on a text and a cursor (`Key.edited`, `view_press`).
-/

namespace RegisterVM

namespace App

variable {app app' : App}

/-! ## 1.  The rounds of the loop -/

/-- The application at the top of a round, when it has taken the events since it was in hand
first. -/
def held (app : App) (events : List TerminalEvent) : App :=
  events.foldl (fun app event => app.refresh.react event) app

/-- The loop gets as far as drawing behind these events: it was not left by the escape key, and it
is not told to quit. -/
def Draws (app : App) (events : List TerminalEvent) : Prop :=
  .press .escape ∉ events ∧ (app.held events).refresh.shouldQuit = false

instance (app : App) (events : List TerminalEvent) : Decidable (app.Draws events) :=
  inferInstanceAs (Decidable (_ ∧ _))

theorem held_cons (app : App) (event : TerminalEvent) (events : List TerminalEvent) :
    app.held (event :: events) = (app.refresh.react event).held events := rfl

theorem draws_nil_iff : app.Draws [] ↔ app.refresh.shouldQuit = false := by
  rw [Draws, and_iff_right List.not_mem_nil]
  rfl

theorem draws_cons_iff {event : TerminalEvent} {events : List TerminalEvent} :
    app.Draws (event :: events) ↔
      event ≠ .press .escape ∧ (app.refresh.react event).Draws events := by
  rw [Draws, List.mem_cons, not_or, and_assoc, held_cons, Draws, ne_comm]

theorem play_of_quit (quits : app.refresh.shouldQuit = true) (events : List TerminalEvent) :
    (app.play events).1 = [] := by
  rw [play.eq_def]
  cases events <;> simp only [quits, if_true]

/-- A round that draws, and what comes behind it. -/
theorem play_cons {event : TerminalEvent} (going : app.refresh.shouldQuit = false)
    (events : List TerminalEvent) :
    (app.play (event :: events)).1 =
      app.refresh :: if event = .press .escape then [] else
        ((app.refresh.react event).play events).1 := by
  rw [play, going, if_neg Bool.false_ne_true]
  split <;> rfl

/-- The loop draws the application in each round, until it ends. -/
theorem play_eq (app : App) (events : List TerminalEvent) :
    (app.play events).1 =
      (events.inits.takeWhile fun earlier => app.Draws earlier).map fun earlier =>
        (app.held earlier).refresh := by
  induction events generalizing app with
  | nil =>
    cases quits : app.refresh.shouldQuit <;>
      simp [play, List.inits, draws_nil_iff, quits, held]
  | cons event events ih =>
    rw [List.inits_cons]
    cases quits : app.refresh.shouldQuit with
    | true =>
      rw [play_of_quit quits, List.takeWhile_cons_of_neg (by simp [draws_nil_iff, quits]),
        List.map_nil]
    | false =>
      rw [play_cons quits, List.takeWhile_cons_of_pos (by simp [draws_nil_iff, quits]),
        List.takeWhile_map, List.map_cons, List.map_map]
      refine congrArg (List.cons _) ?_
      by_cases leaves : event = .press .escape
      · have stops : ((fun earlier => decide (app.Draws earlier)) ∘ (event :: ·)) =
            fun _ => false := by
          ext earlier
          simp [draws_cons_iff, leaves]
        rw [if_pos leaves, stops, List.takeWhile_eq_nil_iff.mpr (fun _ => Bool.false_ne_true)]
        rfl
      · have goesOn : ((fun earlier => decide (app.Draws earlier)) ∘ (event :: ·)) =
            fun earlier => decide ((app.refresh.react event).Draws earlier) := by
          ext earlier
          simp [draws_cons_iff, leaves]
        rw [if_neg leaves, goesOn, ih]
        rfl

/-! ## 2.  The views -/

/-- What is only about how the application is shown. -/
structure Views where
  pane : Pane
  format : NumberFormat
  registersScroll : Nat
  memoryScroll : Nat
  logsScroll : Nat

/-- The views of the application. -/
def views (app : App) : Views :=
  ⟨app.pane, app.format, app.registersScroll, app.memoryScroll, app.logsScroll⟩

@[simp] theorem views_appendLogs (app : App) (lines : List String) :
    (app.appendLogs lines).views = app.views := by
  simp only [views, appendLogs]

@[simp] theorem views_handle (app : App) (result : Except SessionError Poll) :
    (app.handle result).views = app.views := by
  unfold handle
  split <;> simp only [views, appendLogs]

/-- A line leaves the views alone. -/
@[simp] theorem views_submit (app : App) (line : String) :
    (app.submit line).views = app.views := by
  unfold submit
  split
  · have prompted := app.views_appendLogs [app.session.prompt ++ line]
    have said := views_handle ({ app.appendLogs [app.session.prompt ++ line] with
        session := (app.session.submit (some line)).session }.appendLogs
      (Transcript.empty.append (app.session.submit (some line))).logLines)
      (app.session.submit (some line)).result
    rw [views_appendLogs] at said
    dsimp only [views] at said prompted ⊢
    exact said.trans prompted
  · rfl

/-- A batch leaves the views alone. -/
@[simp] theorem views_runBatch (app : App) : app.runBatch.views = app.views := by
  unfold runBatch
  split
  · rfl
  · exact (views_handle _ _).trans (views_appendLogs _ _)

@[simp] theorem views_refresh (app : App) : app.refresh.views = app.views := by
  unfold refresh
  split
  · exact views_runBatch app
  · rfl

/-- No scroll position is so large that its pane is empty. -/
structure InView (app : App) : Prop where
  registers : app.registersScroll ≤ 31
  memory : app.memoryScroll ≤ 499

theorem InView.of_views (h : app.InView) (same : app'.views = app.views) : app'.InView where
  registers := (congrArg Views.registersScroll same).le.trans h.registers
  memory := (congrArg Views.memoryScroll same).le.trans h.memory

theorem InView.refresh (h : app.InView) : app.refresh.InView := h.of_views app.views_refresh

theorem InView.scrollUp (h : app.InView) : app.scrollUp.InView := by
  unfold App.scrollUp
  split
  · exact ⟨(Nat.sub_le _ 1).trans h.registers, h.memory⟩
  · exact ⟨h.registers, (Nat.sub_le _ 1).trans h.memory⟩
  · exact ⟨h.registers, h.memory⟩

theorem InView.scrollDown (h : app.InView) : app.scrollDown.InView := by
  unfold App.scrollDown
  split
  · exact ⟨Nat.min_le_right _ 31, h.memory⟩
  · exact ⟨h.registers, Nat.min_le_right _ 499⟩
  · exact ⟨h.registers, h.memory⟩

theorem InView.press (h : app.InView) (key : Key) : (app.press key).InView := by
  cases key with
  | up => exact h.scrollUp
  | down => exact h.scrollDown
  | enter | step | proceed => exact h.of_views (app.views_submit _)
  | escape | other => exact h
  | tab | cycleFormat => exact ⟨h.registers, h.memory⟩
  | left | right | home | toEnd | backspace | delete | char c => exact ⟨h.registers, h.memory⟩

theorem InView.react (h : app.InView) (event : TerminalEvent) : (app.react event).InView := by
  unfold App.react
  split
  · exact h.press _
  · exact h

/-- The applications differ in one view at most: in the active pane, in the number format, in how
far the active pane is scrolled, or in the typed text. -/
inductive ChangesOneView (app : App) : App → Prop
  | pane (pane : Pane) : ChangesOneView app { app with pane }
  | format (format : NumberFormat) : ChangesOneView app { app with format }
  | registersScroll (active : app.pane = .registers) (registersScroll : Nat) :
      ChangesOneView app { app with registersScroll }
  | memoryScroll (active : app.pane = .memory) (memoryScroll : Nat) :
      ChangesOneView app { app with memoryScroll }
  | logsScroll (active : app.pane = .logs) (logsScroll : Nat) :
      ChangesOneView app { app with logsScroll }
  | editor (editor : Editor) : ChangesOneView app { app with editor }

/-- What is not a view stays the same. -/
theorem ChangesOneView.kept (h : app.ChangesOneView app') :
    app'.session = app.session ∧ app'.logs = app.logs ∧ app'.finished = app.finished ∧
      app'.shouldQuit = app.shouldQuit := by
  cases h <;> exact ⟨rfl, rfl, rfl, rfl⟩

end App

/-! ### The line editor -/

/-- The text of the editor, and how many of its characters stand before the cursor. -/
def Editor.view (e : Editor) : List Char × Nat := (e.chars, e.cursor)

/-- A line editor on a text and a position in it.  A character is put in at the cursor and the
cursor goes behind it; at the ends of the text nothing is removed, and the cursor stays. -/
def Key.edited : Key → List Char × Nat → List Char × Nat
  | .char c, (text, i) => (text.take i ++ c :: text.drop i, i + 1)
  | .backspace, (text, i) => (text.take (i - 1) ++ text.drop i, i - 1)
  | .delete, (text, i) => (text.take i ++ text.drop (i + 1), i)
  | .left, (text, i) => (text, i - 1)
  | .right, (text, i) => (text, min (i + 1) text.length)
  | .home, (text, _) => (text, 0)
  | .toEnd, (text, _) => (text, text.length)
  | _, view => view

namespace Editor

variable (e : Editor)

end Editor

namespace App

variable {app : App}

end App

end RegisterVM
