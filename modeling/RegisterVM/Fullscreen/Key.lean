import RegisterVM.Fullscreen.App

/-!
# Keys

The keys of the full-screen application, and the loop that takes them.  A round of the loop
lets a running session go on, draws the application, and takes one event; it ends with the
escape key, or with a session that was told to quit.  Only the press of a key counts: a key that is
held down or released, and anything else that happens at the terminal, is taken and dropped.

* `TerminalEvent.pressed?`: the key that an event presses.
* `App.press`, `App.react`: what a key does, in every mode, and what an event does.
* `App.play`: the applications that a list of events shows, and how many events it leaves.
-/

namespace RegisterVM

/-- A key. -/
inductive Key where
  | escape
  | tab
  | enter
  | up
  | down
  | left
  | right
  | home
  | toEnd
  | backspace
  | delete
  /-- The key that changes the number format. -/
  | cycleFormat
  /-- The key that submits a step. -/
  | step
  /-- The key that submits a continue. -/
  | proceed
  | char (c : Char)
  /-- A key that means nothing to the application or to the line editor. -/
  | other
  deriving DecidableEq, Repr

/-- What happens to a key. -/
inductive KeyEventKind where
  | press
  /-- The key is still held down. -/
  | hold
  | release
  deriving DecidableEq, Repr

/-- Something that happens at the terminal. -/
inductive TerminalEvent where
  | key (kind : KeyEventKind) (key : Key)
  | focusGained
  | focusLost
  /-- The mouse, a text that is pasted, or a new size of the terminal. -/
  | ignored
  deriving DecidableEq, Repr

namespace TerminalEvent

/-- The press of a key. -/
abbrev press (k : Key) : TerminalEvent := .key .press k

/-- The key that an event presses. -/
def pressed? : TerminalEvent → Option Key
  | .key kind k => if kind = .press then some k else none
  | .focusGained | .focusLost | .ignored => none

end TerminalEvent

namespace App

/-- Scrolls the active pane up: towards lower numbers, and towards older log lines. -/
def scrollUp (app : App) : App :=
  match app.pane with
  | .registers => { app with registersScroll := app.registersScroll - 1 }
  | .memory => { app with memoryScroll := app.memoryScroll - 1 }
  | .logs => { app with logsScroll := min (app.logsScroll + 1) 65535 }

/-- Scrolls the active pane down: towards higher numbers, the last of which stays in view,
and towards newer log lines. -/
def scrollDown (app : App) : App :=
  match app.pane with
  | .registers => { app with registersScroll := min (app.registersScroll + 1) 31 }
  | .memory => { app with memoryScroll := min (app.memoryScroll + 1) 499 }
  | .logs => { app with logsScroll := app.logsScroll - 1 }

/-- Edits the command line. -/
def edit (app : App) (f : Editor → Editor) : App := { app with editor := f app.editor }

/-- What the press of a key does, unless it ends the loop. -/
def press (app : App) : Key → App
  | .escape | .other => app
  | .tab => { app with pane := app.pane.next }
  | .cycleFormat => { app with format := app.format.next }
  | .step => app.submit "step"
  | .proceed => app.submit "continue"
  | .enter => app.submit app.editor.text
  | .up => app.scrollUp
  | .down => app.scrollDown
  | .left => app.edit .left
  | .right => app.edit .right
  | .home => app.edit .home
  | .toEnd => app.edit .toEnd
  | .backspace => app.edit .backspace
  | .delete => app.edit .delete
  | .char c => app.edit (·.insert c)

/-- What an event does, unless it ends the loop. -/
def react (app : App) (event : TerminalEvent) : App :=
  match event.pressed? with
  | some key => app.press key
  | none => app

/-- The application when it is next drawn: a running session goes on first. -/
def refresh (app : App) : App := if app.mode = .running then app.runBatch else app

/-- Runs the loop on the given events.  Gives the applications that it draws, in order, and
how many events are left when it ends; without events it ends after drawing. -/
def play (app : App) : List TerminalEvent → List App × Nat
  | [] => if app.refresh.shouldQuit then ([], 0) else ([app.refresh], 0)
  | event :: events =>
      if app.refresh.shouldQuit then ([], events.length + 1)
      else if event = .press .escape then ([app.refresh], events.length)
      else
        let (drawn, left) := (app.refresh.react event).play events
        (app.refresh :: drawn, left)

end App

end RegisterVM
