import RegisterVM.Console.Input
import RegisterVM.Console.Sink
import RegisterVM.Debugger.Session

/-!
# The line console

The console drives a session from a list of command lines and writes what the session says
to two sinks.  It prompts whenever the session needs a command, hands over exactly one line
for each prompt, and ends when the session is finished or cannot go on.

* `Outlets.play`: what a reply comes to on two sinks, either of which may refuse a text.
* `Console.turn`: one round, with at most one prompt.
* `Console.run`: rounds until the end, as far as the fuel reaches; more fuel does not change
  an answer (`run_mono`).
-/

namespace RegisterVM

/-- The two sinks of a session, and the finest level of events that are logged.  Log lines
go where the diagnostics go. -/
structure Outlets where
  output : Sink
  diagnostics : Sink
  verbosity : Option Level

namespace Outlets

/-- The sink of a channel. -/
def sink (o : Outlets) : Channel → Sink
  | .output => o.output
  | .diagnostics => o.diagnostics

/-- The outlets after a text on a channel. -/
def write (o : Outlets) (channel : Channel) (text : String) : Outlets :=
  match channel with
  | .output => { o with output := o.output.write text }
  | .diagnostics => { o with diagnostics := o.diagnostics.write text }

theorem sink_write (o : Outlets) (channel : Channel) (text : String) (other : Channel) :
    (o.write channel text).sink other =
      if channel = other then (o.sink other).write text else o.sink other := by
  cases channel <;> cases other <;> rfl

@[simp] theorem verbosity_write (o : Outlets) (channel : Channel) (text : String) :
    (o.write channel text).verbosity = o.verbosity := by
  cases channel <;> rfl

/-- Events of the level are logged. -/
def logs (o : Outlets) : Level → Bool
  | .debug => o.verbosity.isSome
  | .trace => o.verbosity == some .trace

/-- The outlets after an event. -/
def log (o : Outlets) (event : Event) : Outlets :=
  if o.logs event.level then o.write .diagnostics (Text.line event.line) else o

/-- The outlets after some acts, and the session that a refused text leaves behind.  Nothing
after a refused text takes place. -/
def act (o : Outlets) : List Act → Outlets × Option Session
  | [] => (o, none)
  | .log event :: acts => (o.log event).act acts
  | .step _ :: acts => o.act acts
  | .write channel text kept :: acts =>
      if (o.sink channel).fits text then (o.write channel text).act acts
      else (o.write channel text, some kept)

/-- What a reply comes to: the outlets after it, the session, and the result, which is an
error of its own when a text was refused. -/
def play (o : Outlets) (r : Reply) : Outlets × Session × Except SessionError Poll :=
  match o.act r.acts with
  | (after, none) => (after, r.session, r.result)
  | (after, some kept) => (after, kept, .error (.unwritable "sink full"))

end Outlets

namespace Session

/-- Asks the operator for a command. -/
def ask (s : Session) : Reply :=
  ⟨[.write .diagnostics s.prompt s], s, .ok .needCommand⟩

/-- Takes the next line of the command input, or its end.  A line that cannot be decoded is
reported and then counts as the end. -/
def take (s : Session) : Option InputLine → Reply
  | none => s.submit none
  | some (.text line) => s.submit (some line)
  | some .undecodable =>
      (s.submit none).after <|
        .write .diagnostics (Text.line
          "Unexpected error when reading command: stream did not contain valid UTF-8") s

end Session

/-- A session at its console: the outlets, and the command lines that are not read yet. -/
structure Console where
  session : Session
  outlets : Outlets
  input : List InputLine

namespace Console

/-- Plays a reply of the session. -/
def play (c : Console) (r : Reply) : Console × Except SessionError Poll :=
  match c.outlets.play r with
  | (outlets, session, result) => ({ c with session, outlets }, result)

/-- Goes on without the operator, and prompts when the session needs a command. -/
def tick (c : Console) : Console × Except SessionError Poll :=
  match c.play c.session.advance with
  | (d, .ok .needCommand) => d.play d.session.ask
  | other => other

/-- Hands the next line of the input to the session. -/
def feed (c : Console) : Console × Except SessionError Poll :=
  play { c with input := c.input.tail } (c.session.take c.input.head?)

/-- One round: the session goes on, and when it needs a command it gets one. -/
def turn (c : Console) : Console × Except SessionError Poll :=
  match c.tick with
  | (d, .ok .needCommand) => d.feed
  | other => other

/-- Rounds until the session is finished or cannot go on; none when the fuel, one round
each, does not reach so far. -/
def run : Nat → Console → Option (Console × Except SessionError Exit)
  | 0, _ => none
  | fuel + 1, c =>
      match c.turn with
      | (d, .ok (.finished exit)) => some (d, .ok exit)
      | (d, .ok _) => run fuel d
      | (d, .error e) => some (d, .error e)

/-- More fuel does not change an answer. -/
theorem run_mono {fuel more : Nat} {c : Console} {answer : Console × Except SessionError Exit}
    (h : run fuel c = some answer) : run (fuel + more) c = some answer := by
  induction fuel generalizing c with
  | zero => simp [run] at h
  | succ fuel ih =>
    rw [Nat.add_right_comm]
    unfold run at h ⊢
    split at h
    · simpa using h
    · exact ih h
    · simpa using h

end Console

end RegisterVM
