import RegisterVM.Machine.Step
import RegisterVM.Text.Quoted

/-!
# Log events

What happens during a session can be followed in a log.  An event is kept as what it is
about and put into words only where it is shown; `step` is the finest level and shown only
on request.

* `Event`, `Event.level`, `Event.text`: an event, its level and its line.
-/

namespace RegisterVM

/-- How a session ends. -/
inductive Exit where
  | halted
  | quit
  deriving DecidableEq, Repr

/-- The name of an ending. -/
def Exit.name : Exit → String
  | halted => "Halted"
  | quit => "Quit"

/-- How fine an event is. -/
inductive Level where
  | debug
  | trace
  deriving DecidableEq, Repr

/-- The name of a level, on five characters. -/
def Level.label : Level → String
  | debug => "DEBUG"
  | trace => "TRACE"

/-- Something that the log of a session reports. -/
inductive Event where
  | loaded (program : String) (words : Nat)
  | step (ip : Word) (instruction : Instruction)
  | unrecognized (word : String)
  | proceeding (ip : Word)
  | restarted (program : String)
  | pausedAtBreakpoint (ip : Word)
  | inputEnded
  | faulted (fault : Fault) (machine : Machine)
  | finished (exit : Exit)

namespace Event

/-- The level of an event. -/
def level : Event → Level
  | step .. => .trace
  | _ => .debug

/-- What an event says. -/
def text : Event → String
  | loaded program words =>
      "loaded program image name=" ++ Text.quoted program ++ " words=" ++
        Text.Numeral.decimal words
  | step ip instruction =>
      "step ip=" ++ ip.text ++ " instruction=" ++ instruction.text
  | unrecognized word => "ignoring unrecognized command word=" ++ Text.quoted word
  | proceeding ip => "continuing ip=" ++ ip.text
  | restarted program => "machine restarted source=" ++ Text.quoted program
  | pausedAtBreakpoint ip => "paused at breakpoint ip=" ++ ip.text
  | inputEnded => "end of command input, leaving debug mode"
  | faulted fault machine =>
      "execution fault, pausing fault=" ++ fault.message ++ " registers=" ++ machine.listing
  | finished exit => "session finished exit=" ++ exit.name

/-- The line of an event: its level and what it says. -/
def line (e : Event) : String := e.level.label ++ " " ++ e.text

end Event

end RegisterVM
