import RegisterVM.Fullscreen.App
import RegisterVM.Screen.Box

/-!
# The view of the application

The screen has a status box at the top, the registers and the memory next to each other, the
log, and the command line at the bottom.  The status and the command line take three rows
each and the log ten; the registers and the memory share the others, the registers with
thirty-five hundredths of the width.  The frame of the active pane is yellow.

* `App.registerRows`, `App.memoryRows`, `App.logRows`: the content of the panes.
* `App.draw`: the screen.
-/

namespace RegisterVM

open Screen

namespace App

/-- The frame of a pane. -/
def frame (app : App) (pane : Pane) : Style :=
  if app.pane = pane then .colored .yellow else .plain

/-- The line of the status box. -/
def status (app : App) : String :=
  "State: " ++ app.mode.name ++
    " | IP: " ++ String.ofList (Text.Numeral.zeroFilled 3 app.session.machine.ip.toInt) ++
    " | Breakpoint: " ++ (app.session.breakpoint.map Address.text).getD "none" ++
    " | Format (F9): " ++ app.format.name ++
    " | Pane (Tab): " ++ app.pane.name ++ " | Press ESC to quit"

/-- The line of a register: its name on three characters, and its content. -/
def registerRow (app : App) (r : Register) : Row :=
  .ofChars .plain <|
    r.name.toList.rightpad 3 ' ' ++ [':', ' '] ++
      app.format.render (app.session.machine.reg r)

/-- The style of a memory line: it marks the cells that the instruction pointer, the stack
pointer and the frame pointer point to, in this order of preference. -/
def cellStyle (app : App) (a : Address) : Style :=
  let pointsTo (r : Register) : Bool := (app.session.machine.reg r).toInt == (a.val : Int)
  if pointsTo .ip then .coloredOn .green .darkGray
  else if pointsTo .sp then .colored .cyan
  else if pointsTo .fp then .colored .magenta
  else .plain

/-- The line of a memory cell: its address on three digits, and its content. -/
def cellRow (app : App) (a : Address) : Row :=
  .ofChars (app.cellStyle a) <|
    Text.Numeral.zeroFilled 3 a.val ++ [':', ' '] ++
      app.format.render (app.session.machine.cell a)

/-- The registers from the first one that is not scrolled out. -/
def registerRows (app : App) : List Row :=
  ((List.finRange 32).drop app.registersScroll).map app.registerRow

/-- The cells from the first one that is not scrolled out. -/
def memoryRows (app : App) : List Row :=
  ((List.finRange 500).drop app.memoryScroll).map app.cellRow

/-- Where the window on the log ends: before the lines scrolled out at the bottom. -/
def logStop (app : App) : Nat := app.logs.length - app.logsScroll

/-- Where a window of the given height on the log begins. -/
def logStart (app : App) (height : Nat) : Nat := app.logStop - height

/-- The log lines in a window of the given height. -/
def visibleLogs (app : App) (height : Nat) : List String :=
  (app.logs.take app.logStop).drop (app.logStart height)

/-- The rows of a window of the given height on the log.  Its lines are shown as one text, in which
a line that was logged with line feeds in it takes a row for each of its own lines. -/
def logRows (app : App) (height : Nat) : List Row :=
  (Text.lines ("\n".intercalate (app.visibleLogs height))).map (.ofText .plain)

/-- The title of the command line. -/
def commandTitle (app : App) : String :=
  match app.mode with
  | .paused =>
      Text.trim app.session.prompt ++ " (Enter: run command, F10: step, F5: continue)"
  | .running => "Running..."
  | .finished => "Finished (Esc to quit)"

/-- The command line with the cursor: the character under it is reversed, which behind the
text is a blank one.  What stands before the cursor, under it and behind it is shown apart, so
a mark under the cursor or right behind it has no character to go with. -/
def commandRow (app : App) : Row :=
  .ofChars .plain app.editor.before.reverse ++
    .ofChars .inverse [app.editor.after.headD ' '] ++
    .ofChars .plain app.editor.after.tail

/-- The screen of the application on a terminal of the given size. -/
def draw (app : App) (width height : Nat) : List Row :=
  let left := width * 35 / 100
  let middle := height - 16
  let statusBox : Box := ⟨"", .plain, [.ofText .plain app.status]⟩
  let registersBox : Box := ⟨"Registers", app.frame .registers, app.registerRows⟩
  let memoryBox : Box :=
    ⟨"Memory (IP green, SP cyan, FP magenta)", app.frame .memory, app.memoryRows⟩
  let logsBox : Box := ⟨"Execution Logs", app.frame .logs, app.logRows 8⟩
  let commandBox : Box := ⟨app.commandTitle, .plain, [app.commandRow]⟩
  statusBox.rows (width - 2) 1 ++
    beside (registersBox.rows (left - 2) (middle - 2))
      (memoryBox.rows (width - left - 2) (middle - 2)) ++
    logsBox.rows (width - 2) 8 ++
    commandBox.rows (width - 2) 1

end App

end RegisterVM
