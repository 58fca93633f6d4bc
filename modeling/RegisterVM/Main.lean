import RegisterVM.CommandLine.Report

/-!
# The command

The outermost layer: it reads the program file and the command input, and writes what the
console has to write as soon as it is there.
-/

namespace RegisterVM

/-- The cause that the system gives for a file that cannot be read. -/
def FileError.ofSystem : IO.Error → FileError
  | .noFileOrDirectory .. => .notFound
  | .inappropriateType _ code details => .other details code.toNat
  | .permissionDenied _ code details => .other details code.toNat
  | .invalidArgument _ code details => .other details code.toNat
  | .resourceExhausted _ code details => .other details code.toNat
  | .otherError code details => .other details code.toNat
  | e => .other e.toString 5

/-- Loads a program file. -/
def loadFile (path : String) : IO (Except LoadError Image) := do
  try
    return Image.ofBytes path (← IO.FS.readBinFile path)
  catch e =>
    return .error (.unreadable path (.ofSystem e))

/-- Reads the bytes of one line, the line feed included; none at the end of the input. -/
partial def readLine (input : IO.FS.Stream) (line : ByteArray) : IO (Option InputLine) := do
  let next ← input.read 1
  if next.isEmpty then
    return if line.isEmpty then none else some (.ofLineBytes line)
  else if next[0]? = some 10 then return some (.ofLineBytes (line ++ next))
  else readLine input (line ++ next)

/-- Writes what waits in the outlets, and empties them. -/
def flush (o : Outlets) : IO Outlets := do
  let output ← IO.getStdout
  let diagnostics ← IO.getStderr
  output.write o.output.written
  output.flush
  diagnostics.write o.diagnostics.written
  diagnostics.flush
  return ⟨.empty none, .empty none, o.verbosity⟩

/-- Drives a console to its end.  The program file is looked at anew for each command, since
the command may be to load it again. -/
partial def interact (input : IO.FS.Stream) (path : String) (console : Console) :
    IO UInt32 := do
  let finish (c : Console) (result : Except SessionError Exit) : IO UInt32 := do
    let (closed, code) := c.close result
    discard <| flush closed.outlets
    return code
  let proceed (c : Console) : Except SessionError Poll → IO UInt32
    | .ok (.finished exit) => finish c (.ok exit)
    | .error e => finish c (.error e)
    | .ok _ => do interact input path { c with outlets := ← flush c.outlets }
  match console.tick with
  | (c, .ok .needCommand) =>
      let outlets ← flush c.outlets
      let line ← readLine input .empty
      let source := Source.constant path (← loadFile path)
      let (fed, result) :=
        Console.feed ⟨{ c.session with source }, outlets, line.toList⟩
      proceed fed result
  | (c, result) => proceed c result

/-- Runs a program as the options ask for. -/
def Options.run (o : Options) : IO UInt32 := do
  let loaded ← loadFile o.program
  let source := Source.constant o.program loaded
  match loaded, Session.start source (o.debug || o.fullscreen) with
  | .ok image, .ok session =>
      if o.fullscreen then
        IO.eprint noTerminal
        return 1
      else
        interact (← IO.getStdin) o.program (.opened session image o.level [])
  | .error e, _ | _, .error e =>
      IO.eprintln e.message
      return 1

end RegisterVM

open RegisterVM in
/-- The command. -/
def main (args : List String) : IO UInt32 := do
  match Request.ofArgs args with
  | .help =>
      IO.print helpPage
      return 0
  | .usageError =>
      IO.eprintln usage
      return 2
  | .start options => options.run
