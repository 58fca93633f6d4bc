import RegisterVM.Debugger.Argument
import RegisterVM.Debugger.Command
import RegisterVM.Debugger.Event
import RegisterVM.Program.Source
import RegisterVM.Text.Lines

/-!
# Debugger sessions

A session is a machine under the eyes of an operator.  While it is paused it waits for a
command; otherwise it executes one instruction after the other.  Without debugging it never
pauses.

Whatever a session does is a *reply*: the texts it writes, the events it logs and the steps
its machine takes, in order, the session it leaves behind, and what its driver has to do
next.  A reply says nothing of where the texts go.  Each text carries the session that
remains should the text be refused, and nothing after a refused text takes place; so a
driver whose channels may fail needs no more than the reply.

* `Session`: the state; `Session.start` loads the program.
* `Session.advance`: goes on without the operator, by at most one instruction.
* `Session.submit`: takes one command line, or the end of the input.
* `Session.perform`: carries out one command.
-/

namespace RegisterVM

/-! ## Sessions and replies -/

/-- The state of a session. -/
structure Session where
  /-- Where the program comes from at the next restart. -/
  source : Source
  machine : Machine
  /-- Whether there is an operator. -/
  debug : Bool
  paused : Bool
  breakpoint : Option Address
  /-- How many instructions of a counted step are still to be executed. -/
  pending : Nat

/-- Where a session stands, as far as its driver is concerned. -/
inductive Poll where
  /-- It is paused, and goes on with a command line or the end of the input. -/
  | needCommand
  /-- It goes on by itself. -/
  | running
  | finished (exit : Exit)
  deriving DecidableEq, Repr

/-- Why a session cannot go on. -/
inductive SessionError where
  /-- A fault without an operator to look into it. -/
  | fault (fault : Fault)
  /-- The program could not be loaded again. -/
  | restart (cause : LoadError)
  /-- A text could not be written. -/
  | unwritable (cause : String)
  deriving DecidableEq, Repr

/-- The wording of a session error. -/
def SessionError.message : SessionError → String
  | fault f => f.message
  | restart cause => "Machine reset failed, exiting: " ++ cause.message
  | unwritable cause => "io error: " ++ cause

/-- Where a text goes. -/
inductive Channel where
  /-- The output of the program. -/
  | output
  /-- Everything that the session itself has to say. -/
  | diagnostics
  deriving DecidableEq, Repr

/-- One thing that a session does: towards the outside, or with its machine. -/
inductive Act where
  /-- Writes a text.  `kept` is the session that remains when the text is refused. -/
  | write (channel : Channel) (text : String) (kept : Session)
  | log (event : Event)
  /-- Has a machine take one step. -/
  | step (machine : Machine)

/-- What a call of a session does, leaves behind and asks for. -/
structure Reply where
  acts : List Act
  session : Session
  result : Except SessionError Poll

namespace Reply

/-- The reply that does nothing. -/
def silent (s : Session) (poll : Poll) : Reply := ⟨[], s, .ok poll⟩

/-- The reply with an act in front. -/
def after (act : Act) (r : Reply) : Reply := { r with acts := act :: r.acts }

end Reply

/-- The text that an act writes to a channel. -/
def Act.textOn (channel : Channel) : Act → String
  | write c text _ => if c = channel then text else ""
  | log _ | step _ => ""

/-- Everything that a reply writes to a channel. -/
def Reply.textOn (channel : Channel) (r : Reply) : String :=
  String.join (r.acts.map (Act.textOn channel))

/-- The machine that an act has take a step. -/
def Act.stepped? : Act → Option Machine
  | step machine => some machine
  | write .. | log _ => none

/-- The machines that a reply has take a step, in order: one entry for each step. -/
def Reply.stepped (r : Reply) : List Machine := r.acts.filterMap Act.stepped?

namespace Session

/-! ## The state and its views -/

/-- Loads the program.  With debugging, the session starts paused at the first
instruction. -/
def start (source : Source) (debug : Bool) : Except LoadError Session :=
  source.load.map fun image => ⟨source.rest, .ofImage image, debug, debug, none, 0⟩

/-- The session waits for the operator, or still executes a counted step. -/
def isPaused (s : Session) : Bool := s.debug && s.paused

/-- A counted step still has instructions to execute. -/
def hasPending (s : Session) : Bool := 0 < s.pending

/-- The instruction pointer stands at the breakpoint. -/
def atBreakpoint (s : Session) : Bool :=
  s.breakpoint.any fun a => Address.ofWord? s.machine.ip == some a

/-- The session, paused with nothing left to execute. -/
def pause (s : Session) : Session := { s with paused := true, pending := 0 }

/-- The prompt shows the instruction pointer on at least three characters. -/
def prompt (s : Session) : String :=
  "dbg[" ++ String.ofList (Text.Numeral.zeroFilled 3 s.machine.ip.toInt) ++ "]> "

/-! ## Execution -/

/-- Says a line to the operator and waits for the next command. -/
def say (s : Session) (text : String) : Reply :=
  ⟨[.write .diagnostics (Text.line text) s], s, .ok .needCommand⟩

/-- The step that is about to be taken, and the trace of its instruction when there is
one. -/
def trace (s : Session) : List Act :=
  .step s.machine ::
    match s.machine.current with
    | .ok instruction => [.log (.step s.machine.ip instruction)]
    | .error _ => []

/-- Executes one instruction.  With debugging a fault pauses the session, without it the
fault ends the session. -/
def execute (s : Session) : Reply :=
  let step := s.machine.step
  let t : Session := { s with machine := step.machine }
  match step.outcome with
  | .ok .proceed => ⟨s.trace, t, .ok .running⟩
  | .ok (.output value) =>
      ⟨s.trace ++ [.write .output (Text.line value.text) t], t, .ok .running⟩
  | .ok .halt =>
      let farewell : List Act :=
        if s.debug then [.write .diagnostics (Text.line "Program exited normally") t] else []
      ⟨s.trace ++ farewell, t, .ok (.finished .halted)⟩
  | .error fault =>
      if s.debug then
        ⟨s.trace ++ [.log (.faulted fault t.machine),
          .write .diagnostics (Text.line fault.message) t], t.pause, .ok .needCommand⟩
      else ⟨s.trace, t, .error (.fault fault)⟩

/-- Goes on without the operator.  A session that runs freely into its breakpoint pauses
there; a paused session executes what is left of a counted step. -/
def advance (s : Session) : Reply :=
  if s.debug && !s.paused && s.atBreakpoint then
    ⟨[.write .diagnostics (Text.line ("Hit breakpoint at " ++ s.machine.ip.text)) s,
      .log (.pausedAtBreakpoint s.machine.ip)], s.pause, .ok .needCommand⟩
  else if s.isPaused then
    match s.pending with
    | 0 => .silent s .needCommand
    | left + 1 => execute { s with pending := left }
  else execute s

/-! ## Commands -/

/-- The number of instructions that the argument of a step asks for: one without an
argument, otherwise a positive number below `2 ^ 32`. -/
def stepCount? : Option String → Option Nat
  | none => some 1
  | some token =>
      match Text.Numeral.readUnsigned? token.toList with
      | some n => if 0 < n ∧ n < 4294967296 then some n else none
      | none => none

/-- The address that the argument of a break asks for; the instruction pointer without an
argument. -/
def breakAddress (s : Session) : Option String → Except AddressError Address
  | none => addressOfWord s.machine.ip
  | some token => resolveAddress s.machine.reg token

/-- Loads the program again.  The machine is replaced as a whole or, when there is no
program, not at all. -/
def reload (s : Session) : Reply :=
  let t : Session := { s with source := s.source.rest }
  match s.source.load with
  | .error cause => ⟨[], t, .error (.restart cause)⟩
  | .ok image =>
      ⟨[.log (.loaded s.source.name image.words.length), .log (.restarted s.source.name)],
        { t with machine := .ofImage image, pending := 0 }, .ok .needCommand⟩

/-- Carries out a command. -/
def perform (s : Session) : Command → Reply
  | .help => ⟨[.write .diagnostics helpText s], s, .ok .needCommand⟩
  | .quit => .silent s (.finished .quit)
  | .list _ => s.say "list command not yet implemented"
  | .frame _ => s.say "frame command not yet implemented"
  | .print none => s.say "print command requires an argument"
  | .print (some name) =>
      match Register.ofName? name with
      | some r => s.say (name ++ ": " ++ (s.machine.reg r).text)
      | none => s.say ("bad register name: `" ++ name ++ "'")
  | .examine none => s.say "x command requires an argument"
  | .examine (some token) =>
      match resolveAddress s.machine.reg token with
      | .ok a => s.say (a.label ++ ": " ++ (s.machine.cell a).text)
      | .error e => s.say e.message
  | .step arg =>
      match stepCount? arg with
      | some count => execute { s with pending := count - 1 }
      | none => s.say ("bad step count: `" ++ arg.getD "" ++ "'")
  | .proceed =>
      (execute { s with paused := false, pending := 0 }).after
        (.log (.proceeding s.machine.ip))
  | .restart => s.reload
  | .breakAt arg =>
      match s.breakAddress arg with
      | .ok a => say { s with breakpoint := some a } ("Breakpoint set at address " ++ a.text)
      | .error e => s.say e.message
  | .deleteBreak =>
      match s.breakpoint with
      | some a => say { s with breakpoint := none } ("Breakpoint deleted (was " ++ a.text ++ ")")
      | none => s.say "No breakpoint set"

/-- The end of the command input: the session goes on without an operator. -/
def endInput (s : Session) : Reply :=
  ⟨[.write .diagnostics "\nEnd of input, continuing program\n" s, .log .inputEnded],
    { s with debug := false, pending := 0 }, .ok .running⟩

/-- Takes a command line, or the end of the input.  A line that reaches a session which is
not paused is dropped, and so is a line without a known command. -/
def submit (s : Session) : Option String → Reply
  | none => s.endInput
  | some line =>
      if s.isPaused then
        match Command.ofLine line with
        | none => .silent s .needCommand
        | some (.ok command) => s.perform command
        | some (.error word) => ⟨[.log (.unrecognized word)], s, .ok .needCommand⟩
      else .silent s .running

end Session

end RegisterVM
