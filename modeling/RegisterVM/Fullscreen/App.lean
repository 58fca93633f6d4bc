import RegisterVM.Debugger.Session
import RegisterVM.Fullscreen.Editor

/-!
# The full-screen application

The application shows a session with its registers, its memory and a log of everything it
said.  It takes a command line only while the session waits for one; while the session runs,
it goes on in batches, so that the screen stays alive.

* `App.mode`: what the application is doing.
* `App.submit`: hands a command line to the paused session.
* `App.runBatch`: lets the running session go on for at most one batch.
* `App.appendLogs`: the log keeps its newest lines; `length_logs_appendLogs_le` bounds it.
-/

namespace RegisterVM

/-! ## Panes, formats and modes -/

/-- The boxes that can be scrolled. -/
inductive Pane where
  | registers
  | memory
  | logs
  deriving DecidableEq, Repr

/-- How the content of registers and cells is written. -/
inductive NumberFormat where
  | hex
  | binary
  | decimal
  deriving DecidableEq, Repr

/-- What the application is doing. -/
inductive Mode where
  /-- Waiting for a command. -/
  | paused
  /-- Executing. -/
  | running
  /-- Showing the end of the session. -/
  | finished
  deriving DecidableEq, Repr

/-- The name of a mode. -/
def Mode.name : Mode → String
  | paused => "Paused"
  | running => "Running"
  | finished => "Finished"

namespace Pane

/-- The name of a pane. -/
def name : Pane → String
  | registers => "Registers"
  | memory => "Memory"
  | logs => "Logs"

/-- The pane after this one. -/
def next : Pane → Pane
  | registers => memory
  | memory => logs
  | logs => registers

end Pane

namespace NumberFormat

/-- The name of a format. -/
def name : NumberFormat → String
  | hex => "Hex"
  | binary => "Binary"
  | decimal => "Decimal"

/-- The format after this one. -/
def next : NumberFormat → NumberFormat
  | hex => binary
  | binary => decimal
  | decimal => hex

/-- A word on a column of fixed width: eight hexadecimal or thirty-two binary digits of its
bits, or its decimal text on eleven characters. -/
def render : NumberFormat → Word → List Char
  | hex, w => '0' :: 'x' :: Text.Numeral.places 16 8 w.bits
  | binary, w => '0' :: 'b' :: Text.Numeral.places 2 32 w.bits
  | decimal, w => (Text.Numeral.integer w.toInt).rightpad 11 ' '

end NumberFormat

/-! ## What a session said -/

/-- What a session wrote to its two channels. -/
structure Transcript where
  output : String
  diagnostics : String

namespace Transcript

/-- The transcript of a session that wrote nothing. -/
def empty : Transcript := ⟨"", ""⟩

/-- The transcript with what a reply writes behind it. -/
def append (t : Transcript) (r : Reply) : Transcript :=
  ⟨t.output ++ r.textOn .output, t.diagnostics ++ r.textOn .diagnostics⟩

/-- The log lines of a transcript: what the session had to say, empty lines left out, and
then the output of the program, marked as such. -/
def logLines (t : Transcript) : List String :=
  (Text.lines t.diagnostics).filter (fun line => line ≠ "") ++
    (Text.lines t.output).map fun line => "out: " ++ line

end Transcript

/-- Goes on without the operator for at most `rounds` rounds, until the session no longer
runs by itself. -/
def Session.advanceWhileRunning : Nat → Session → Transcript →
    Session × Transcript × Except SessionError Poll
  | 0, s, t => (s, t, .ok .running)
  | rounds + 1, s, t =>
      let reply := s.advance
      match reply.result with
      | .ok .running => advanceWhileRunning rounds reply.session (t.append reply)
      | result => (reply.session, t.append reply, result)

/-! ## The application -/

/-- The state of the application. -/
structure App where
  session : Session
  /-- The command line that is being typed. -/
  editor : Editor
  /-- The box that the scroll keys act on. -/
  pane : Pane
  format : NumberFormat
  /-- How many registers are scrolled out at the top. -/
  registersScroll : Nat
  /-- How many cells are scrolled out at the top. -/
  memoryScroll : Nat
  /-- How many log lines are scrolled out at the bottom. -/
  logsScroll : Nat
  logs : List String
  finished : Bool
  shouldQuit : Bool

namespace App

/-- How many lines the log keeps. -/
def logCapacity : Nat := 1000

/-- How many rounds a batch has at most. -/
def batchSize : Nat := 10000

/-- The application with lines added to its log, which keeps only the newest ones. -/
def appendLogs (app : App) (lines : List String) : App :=
  let all := app.logs ++ lines
  { app with logs := all.drop (all.length - logCapacity) }

/-- The application over a session that has just loaded its program. -/
def start (session : Session) : App :=
  appendLogs ⟨session, .empty, .memory, .decimal, 0, 0, 0, [], false, false⟩
    ["Loaded " ++ session.source.name]

/-- What the application is doing. -/
def mode (app : App) : Mode :=
  if app.finished then .finished
  else if app.session.isPaused && !app.session.hasPending then .paused
  else .running

/-- Takes in the result of a call of the session. -/
def handle (app : App) : Except SessionError Poll → App
  | .ok (.finished .quit) => { app with shouldQuit := true }
  | .ok (.finished .halted) => { app.appendLogs ["Program halted"] with finished := true }
  | .ok _ => app
  | .error e => { app.appendLogs ["Stopped: " ++ e.message] with finished := true }

/-- Hands a command line to the session.  Nothing happens unless the session waits for one;
otherwise the typed text is cleared. -/
def submit (app : App) (line : String) : App :=
  if app.mode = .paused then
    let prompted := app.appendLogs [app.session.prompt ++ line]
    let reply := app.session.submit (some line)
    let said := { prompted with session := reply.session }.appendLogs
      (Transcript.empty.append reply).logLines
    { said.handle reply.result with editor := .empty }
  else app

/-- Lets the session go on for one batch: until it pauses, finishes or the batch is used
up. -/
def runBatch (app : App) : App :=
  if app.finished then app
  else
    let (session, transcript, result) :=
      app.session.advanceWhileRunning batchSize .empty
    ({ app with session }.appendLogs transcript.logLines).handle result

theorem length_logs_appendLogs_le (app : App) (lines : List String) :
    (app.appendLogs lines).logs.length ≤ logCapacity := by
  simp only [appendLogs, List.length_drop]
  omega

end App

end RegisterVM
