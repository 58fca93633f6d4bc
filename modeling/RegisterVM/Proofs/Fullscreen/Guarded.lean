import RegisterVM.Fullscreen.Key
import RegisterVM.Fullscreen.View
import RegisterVM.Proofs.Debugger.Guarded
import RegisterVM.Proofs.Fullscreen.Modes

/-!
# The application behind guards

The application keeps the newest lines of its log and shows a part of them.  Both are done with
numbers: how many lines there are too many, where the part begins and where it ends.  They stand
behind guards here, together with the registers that the view of the memory looks up and with all
that the session does (`Proofs.Debugger.Guarded`).

Each line is put into the log for itself, and a log that has become too long is cut at once.  The
model cuts it once for all lines; that comes to the same because a log is never longer than it may
be, which every operation of the application preserves.

* `App.logGuarded`, `App.visibleLogsGuarded`: the log behind guards.
* `App.submitGuarded`, `App.runBatchGuarded`, `App.pressGuarded`, `App.drawGuarded`: what is done
  with the application.
* `App.Tidy`: the log is not too long.
* `no_guard_is_met`: the main statement.
-/

namespace RegisterVM

open Guarded Screen

namespace Guarded

/-- A part of a list. -/
def slice {α : Type} (xs : List α) (start stop : Nat) : Except Hazard (List α) :=
  if start ≤ stop ∧ stop ≤ xs.length then .ok ((xs.take stop).drop start)
  else .error (.slice start stop xs.length)

end Guarded

/-- Goes on without the operator for at most `rounds` rounds. -/
def Session.advanceWhileRunningGuarded : Nat → Session → Transcript →
    Except Hazard (Session × Transcript × Except SessionError Poll)
  | 0, s, t => return (s, t, .ok .running)
  | rounds + 1, s, t => do
      let reply ← s.advanceGuarded
      match reply.result with
      | .ok .running => advanceWhileRunningGuarded rounds reply.session (t.append reply)
      | result => return (reply.session, t.append reply, result)

theorem Session.advanceWhileRunningGuarded_eq (rounds : Nat) (s : Session) (t : Transcript) :
    s.advanceWhileRunningGuarded rounds t = .ok (s.advanceWhileRunning rounds t) := by
  induction rounds generalizing s t with
  | zero => rfl
  | succ rounds ih =>
    rw [advanceWhileRunningGuarded, advanceWhileRunning, advanceGuarded_eq]
    dsimp only [bind, Except.bind]
    rcases s.advance.result with e | poll
    · rfl
    · cases poll with
      | running => exact ih _ _
      | needCommand | finished exit => rfl

namespace App

variable {app : App}

/-! ## The log -/

/-- The application with a line added to its log, of which the oldest line is drained when there is
one too many. -/
def logGuarded (app : App) (line : String) : Except Hazard App := do
  let logs := app.logs ++ [line]
  if logCapacity < logs.length then
    let excess ← subtract logs.length logCapacity
    return { app with logs := ← slice logs excess logs.length }
  else return { app with logs }

/-- The application with lines added to its log one after the other. -/
def logsGuarded (app : App) (lines : List String) : Except Hazard App :=
  lines.foldlM logGuarded app

/-- The log is not too long. -/
def Tidy (app : App) : Prop := app.logs.length ≤ logCapacity

theorem tidy_appendLogs (app : App) (lines : List String) : (app.appendLogs lines).Tidy :=
  app.length_logs_appendLogs_le lines

theorem appendLogs_nil (tidy : app.Tidy) : app.appendLogs [] = app := by
  rw [appendLogs, List.append_nil, Nat.sub_eq_zero_of_le tidy, List.drop_zero]

/-- Of the newest lines and further ones the newest are kept, as if none had been dropped before. -/
theorem newest_append (older newer : List String) (capacity : Nat) :
    (older.drop (older.length - capacity) ++ newer).drop
        ((older.drop (older.length - capacity) ++ newer).length - capacity) =
      (older ++ newer).drop ((older ++ newer).length - capacity) := by
  rw [← List.drop_append_of_le_length (Nat.sub_le _ _), List.drop_drop]
  refine congrArg (fun n => (older ++ newer).drop n) ?_
  rw [List.length_drop, List.length_append]
  omega

/-- A log may be cut behind each of its lines. -/
theorem appendLogs_cons (app : App) (line : String) (lines : List String) :
    (app.appendLogs [line]).appendLogs lines = app.appendLogs (line :: lines) := by
  have newest := newest_append (app.logs ++ [line]) lines logCapacity
  rw [List.append_assoc, List.singleton_append] at newest
  simp only [appendLogs, newest]

/-- No guard is met by a line of the log. -/
theorem logGuarded_eq (app : App) (line : String) :
    app.logGuarded line = .ok (app.appendLogs [line]) := by
  unfold logGuarded appendLogs
  dsimp only
  split
  · next long =>
    rw [subtract_of_le (Nat.le_of_lt long)]
    dsimp only [bind, Except.bind]
    rw [slice, if_pos ⟨Nat.sub_le _ _, Nat.le_refl _⟩, List.take_length]
    rfl
  · next short =>
    rw [Nat.sub_eq_zero_of_le (Nat.le_of_not_lt short), List.drop_zero]
    rfl

theorem logsGuarded_eq (tidy : app.Tidy) (lines : List String) :
    app.logsGuarded lines = .ok (app.appendLogs lines) := by
  induction lines generalizing app with
  | nil =>
    rw [appendLogs_nil tidy]
    rfl
  | cons line lines ih =>
    have rest := ih (app.tidy_appendLogs [line])
    rw [logsGuarded] at rest
    rw [logsGuarded, List.foldlM_cons, logGuarded_eq, ← appendLogs_cons _ _ lines, ← rest]
    rfl

/-- The log lines in a window of the given height. -/
def visibleLogsGuarded (app : App) (height : Nat) : Except Hazard (List String) :=
  slice app.logs (app.logStart height) app.logStop

/-- No guard is met by a window on the log, however far it is scrolled and whatever its height. -/
theorem visibleLogsGuarded_eq (app : App) (height : Nat) :
    app.visibleLogsGuarded height = .ok (app.visibleLogs height) :=
  if_pos ⟨Nat.sub_le _ _, Nat.sub_le _ _⟩

/-! ## Operations -/

/-- The application over a session that has just loaded its program. -/
def startGuarded (session : Session) : Except Hazard App :=
  logGuarded ⟨session, .empty, .memory, .decimal, 0, 0, 0, [], false, false⟩
    ("Loaded " ++ session.source.name)

/-- Takes in the result of a call of the session. -/
def handleGuarded (app : App) : Except SessionError Poll → Except Hazard App
  | .ok (.finished .quit) => return { app with shouldQuit := true }
  | .ok (.finished .halted) => do
      return { ← app.logGuarded "Program halted" with finished := true }
  | .ok _ => return app
  | .error e => do return { ← app.logGuarded ("Stopped: " ++ e.message) with finished := true }

/-- Hands a command line to the session. -/
def submitGuarded (app : App) (line : String) : Except Hazard App :=
  if app.mode = .paused then do
    let prompted ← app.logGuarded (app.session.prompt ++ line)
    let reply ← app.session.submitGuarded (some line)
    let said ← { prompted with session := reply.session }.logsGuarded
      (Transcript.empty.append reply).logLines
    return { ← said.handleGuarded reply.result with editor := .empty }
  else return app

/-- Lets the session go on for one batch. -/
def runBatchGuarded (app : App) : Except Hazard App :=
  if app.finished then return app
  else do
    let (session, transcript, result) ←
      app.session.advanceWhileRunningGuarded batchSize .empty
    let said ← { app with session }.logsGuarded transcript.logLines
    said.handleGuarded result

/-- What a key does.  Only the keys that submit a line have guards. -/
def pressGuarded (app : App) : Key → Except Hazard App
  | .step => app.submitGuarded "step"
  | .proceed => app.submitGuarded "continue"
  | .enter => app.submitGuarded app.editor.text
  | key => return app.press key

/-- The style of a memory line. -/
def cellStyleGuarded (app : App) (a : Address) : Except Hazard Style := do
  let pointsTo (r : Register) : Except Hazard Bool := do
    return (← registerAt app.session.machine r.val).toInt == (a.val : Int)
  if ← pointsTo .ip then return .coloredOn .green .darkGray
  else if ← pointsTo .sp then return .colored .cyan
  else if ← pointsTo .fp then return .colored .magenta
  else return .plain

/-- The line of a memory cell. -/
def cellRowGuarded (app : App) (a : Address) : Except Hazard Row := do
  let style ← app.cellStyleGuarded a
  return .ofChars style <|
    Text.Numeral.zeroFilled 3 a.val ++ [':', ' '] ++
      app.format.render (app.session.machine.cell a)

/-- The screen on a terminal of the given size. -/
def drawGuarded (app : App) (width height : Nat) : Except Hazard (List Row) := do
  let left := width * 35 / 100
  let middle := height - 16
  let statusBox : Box := ⟨"", .plain, [.ofText .plain app.status]⟩
  let registersBox : Box := ⟨"Registers", app.frame .registers, app.registerRows⟩
  let memoryRows ← ((List.finRange 500).drop app.memoryScroll).mapM app.cellRowGuarded
  let memoryBox : Box := ⟨"Memory (IP green, SP cyan, FP magenta)", app.frame .memory, memoryRows⟩
  let logs ← app.visibleLogsGuarded 8
  let logsBox : Box :=
    ⟨"Execution Logs", app.frame .logs, (Text.lines ("\n".intercalate logs)).map (.ofText .plain)⟩
  let commandBox : Box := ⟨app.commandTitle, .plain, [app.commandRow]⟩
  return statusBox.rows (width - 2) 1 ++
    beside (registersBox.rows (left - 2) (middle - 2))
      (memoryBox.rows (width - left - 2) (middle - 2)) ++
    logsBox.rows (width - 2) 8 ++
    commandBox.rows (width - 2) 1

theorem startGuarded_eq (session : Session) : startGuarded session = .ok (start session) :=
  logGuarded_eq _ _

theorem handleGuarded_eq (app : App) (result : Except SessionError Poll) :
    app.handleGuarded result = .ok (app.handle result) := by
  rcases result with e | poll
  · rw [handleGuarded, logGuarded_eq]
    rfl
  · cases poll with
    | needCommand | running => rfl
    | finished exit =>
      cases exit with
      | quit => rfl
      | halted =>
        rw [handleGuarded, logGuarded_eq]
        rfl

theorem tidy_handle (tidy : app.Tidy) (result : Except SessionError Poll) :
    (app.handle result).Tidy := by
  rcases result with e | poll
  · dsimp only [handle, Tidy]
    exact app.tidy_appendLogs ["Stopped: " ++ e.message]
  · cases poll with
    | needCommand | running => exact tidy
    | finished exit =>
      cases exit with
      | quit => exact tidy
      | halted =>
        dsimp only [handle, Tidy]
        exact app.tidy_appendLogs ["Program halted"]

theorem submitGuarded_eq (app : App) (line : String) :
    app.submitGuarded line = .ok (app.submit line) := by
  unfold submitGuarded submit
  split
  · have tidy (session : Session) :
        Tidy { app.appendLogs [app.session.prompt ++ line] with session } := by
      dsimp only [Tidy]
      exact app.tidy_appendLogs [app.session.prompt ++ line]
    rw [logGuarded_eq]
    dsimp only [bind, Except.bind]
    rw [Session.submitGuarded_eq]
    dsimp only
    rw [logsGuarded_eq (tidy _)]
    dsimp only
    rw [handleGuarded_eq]
    rfl
  · rfl

theorem tidy_submit (tidy : app.Tidy) (line : String) : (app.submit line).Tidy := by
  unfold submit
  split
  · dsimp only [Tidy]
    exact tidy_handle (tidy_appendLogs _ _) _
  · exact tidy

theorem runBatchGuarded_eq (tidy : app.Tidy) : app.runBatchGuarded = .ok app.runBatch := by
  unfold runBatchGuarded runBatch
  split
  · rfl
  · rw [Session.advanceWhileRunningGuarded_eq]
    dsimp only [bind, Except.bind]
    have tidy' (session : Session) : Tidy { app with session } := tidy
    rw [logsGuarded_eq (tidy' _)]
    exact handleGuarded_eq _ _

theorem tidy_runBatch (tidy : app.Tidy) : app.runBatch.Tidy := by
  unfold runBatch
  split
  · exact tidy
  · exact tidy_handle (tidy_appendLogs _ _) _

theorem pressGuarded_eq (app : App) (key : Key) : app.pressGuarded key = .ok (app.press key) := by
  cases key with
  | step | proceed | enter => exact submitGuarded_eq _ _
  | _ => rfl

/-- A key other than those that submit a line leaves the log alone. -/
theorem tidy_press (tidy : app.Tidy) (key : Key) : (app.press key).Tidy := by
  cases key with
  | step | proceed | enter => exact tidy_submit tidy _
  | up | down =>
    simp only [press, scrollUp, scrollDown]
    split <;> exact tidy
  | _ => exact tidy

/-! ## Drawing -/

theorem cellStyleGuarded_eq (app : App) (a : Address) :
    app.cellStyleGuarded a = .ok (app.cellStyle a) := by
  unfold cellStyleGuarded cellStyle
  simp only [registerAt_val]
  dsimp only [bind, Except.bind, pure, Except.pure]
  split
  · rfl
  · split
    · rfl
    · split <;> rfl

theorem cellRowGuarded_eq (app : App) (a : Address) :
    app.cellRowGuarded a = .ok (app.cellRow a) := by
  rw [cellRowGuarded, cellStyleGuarded_eq]
  rfl

/-- No guard is met by a drawing of any size. -/
theorem drawGuarded_eq (app : App) (width height : Nat) :
    app.drawGuarded width height = .ok (app.draw width height) := by
  have rows : ((List.finRange 500).drop app.memoryScroll).mapM app.cellRowGuarded =
      .ok app.memoryRows := by
    have guards : app.cellRowGuarded = fun a => pure (app.cellRow a) :=
      funext app.cellRowGuarded_eq
    rw [guards]
    exact List.mapM_pure
  rw [drawGuarded, rows, visibleLogsGuarded_eq]
  rfl

/-! ## Any operations -/

/-- Something that is done with the application. -/
inductive Operation where
  | submit (line : String)
  | runBatch
  | press (key : Key)
  /-- It is drawn on a terminal of this size. -/
  | draw (width height : Nat)
  deriving DecidableEq, Repr

/-- The application after an operation. -/
def operate (app : App) : Operation → App
  | .submit line => app.submit line
  | .runBatch => app.runBatch
  | .press key => app.press key
  | .draw _ _ => app

/-- An operation behind guards. -/
def operateGuarded (app : App) : Operation → Except Hazard App
  | .submit line => app.submitGuarded line
  | .runBatch => app.runBatchGuarded
  | .press key => app.pressGuarded key
  | .draw width height => do
      let _ ← app.drawGuarded width height
      return app

theorem tidy_operate (tidy : app.Tidy) (operation : Operation) : (app.operate operation).Tidy := by
  cases operation with
  | submit line => exact tidy_submit tidy line
  | runBatch => exact tidy_runBatch tidy
  | press key => exact tidy_press tidy key
  | draw width height => exact tidy

theorem operateGuarded_eq (tidy : app.Tidy) (operation : Operation) :
    app.operateGuarded operation = .ok (app.operate operation) := by
  cases operation with
  | submit line => exact submitGuarded_eq app line
  | runBatch => exact runBatchGuarded_eq tidy
  | press key => exact pressGuarded_eq app key
  | draw width height =>
    rw [operateGuarded, drawGuarded_eq]
    rfl

/-- No guard is met by any operations on a log that is not too long. -/
theorem foldlM_operateGuarded (tidy : app.Tidy) (operations : List Operation) :
    operations.foldlM operateGuarded app = .ok (operations.foldl operate app) := by
  induction operations generalizing app with
  | nil => rfl
  | cons operation operations ih =>
    rw [List.foldlM_cons, operateGuarded_eq tidy]
    exact ih (tidy_operate tidy operation)

end App

/-- **No guard is ever met.**  Behind guards, everything comes to what it comes to without them:

* the first load of any source, with debugging or without;
* any calls on a session, whatever texts are refused;
* any operations on an application, from its start on; and then also the part of the log in a
  window of any height.

So no register and no cell is looked up that does not exist, no image is longer than memory, nothing
is divided by zero or out of range, no counter falls below zero, and no part of the log is taken
that there is not. -/
theorem no_guard_is_met :
    (∀ source debug, Session.startGuarded source debug = .ok (Session.start source debug)) ∧
    (∀ (s : Session) (history : List (Outlets × Call)),
      s.afterGuarded history = .ok (s.after history)) ∧
    ∀ (s : Session) (operations : List App.Operation),
      let app := operations.foldl App.operate (App.start s)
      (App.startGuarded s >>= operations.foldlM App.operateGuarded) = .ok app ∧
      ∀ height, app.visibleLogsGuarded height = .ok (app.visibleLogs height) := by
  refine ⟨Session.startGuarded_eq, Session.afterGuarded_eq, fun s operations => ?_⟩
  refine ⟨?_, fun height => ?_⟩
  · rw [App.startGuarded_eq]
    exact App.foldlM_operateGuarded (App.tidy_appendLogs _ _) operations
  · exact App.visibleLogsGuarded_eq _ height

end RegisterVM
