import RegisterVM.CommandLine.Options
import RegisterVM.Console.Loop
import RegisterVM.Program.File

/-!
# Runs of the command

What a call of the command does, as a function of its arguments, the directory it is called
in and its input: the exit code and what it writes.

* `Console.opened`: the console of a session that was started from the command line.
* `Console.close`: how the end of a session is reported.
* `report`: the whole call.
-/

namespace RegisterVM

/-- What a call of the command leaves behind. -/
structure Report where
  code : UInt32
  output : ByteArray
  diagnostics : ByteArray

/-- What stands in the way of the full screen without a terminal. -/
def noTerminal : String := "Terminal error: No such device or address (os error 6)\n"

/-- The console of a session that has just loaded its program. -/
def Console.opened (session : Session) (image : Image) (level : Option Level)
    (input : List InputLine) : Console :=
  let outlets : Outlets := ⟨.empty none, .empty none, level⟩
  ⟨session, outlets.log (.loaded session.source.name image.words.length), input⟩

/-- The exit code of a session, and the console after the last line about it: an event for a
session that is finished, the error for one that cannot go on. -/
def Console.close (c : Console) : Except SessionError Exit → Console × UInt32
  | .ok exit => ({ c with outlets := c.outlets.log (.finished exit) }, 0)
  | .error e =>
      ({ c with outlets := c.outlets.write .diagnostics (Text.line e.message) }, 1)

/-- A call with the given options.  There is no terminal.  None when the session goes on for
longer than the fuel, one round each, allows. -/
def Options.report (fuel : Nat) (folder : Folder) (input : ByteArray) (o : Options) :
    Option Report :=
  let load := folder.load o.program
  let source := Source.constant o.program load
  match load, Session.start source (o.debug || o.fullscreen) with
  | .ok image, .ok session =>
      if o.fullscreen then some ⟨1, .empty, noTerminal.toUTF8⟩
      else do
        let console := Console.opened session image o.level (InputLine.ofBytes input)
        let (ended, result) ← console.run fuel
        let (closed, code) := ended.close result
        return ⟨code, closed.outlets.output.written, closed.outlets.diagnostics.written⟩
  | .error e, _ | _, .error e => some ⟨1, .empty, (Text.line e.message).toUTF8⟩

/-- A call of the command. -/
def report (fuel : Nat) (folder : Folder) (args : List String) (input : ByteArray) :
    Option Report :=
  match Request.ofArgs args with
  | .help => some ⟨0, helpPage.toUTF8, .empty⟩
  | .usageError => some ⟨2, .empty, (Text.line usage).toUTF8⟩
  | .start options => options.report fuel folder input

end RegisterVM
