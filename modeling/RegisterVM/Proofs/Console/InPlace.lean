import RegisterVM.Console.Loop
import RegisterVM.Proofs.Debugger.Execution

/-!
# The console text by text

A reply is made before any of its texts is written, and says beforehand which session remains
should one of them be refused.  A session that is a block of storage knows nothing of the kind: it
is changed between one text and the next, and when a text is refused it is left as it is at that
moment.

This file carries out a session and its console in the second way.  A piece of `Work` changes the
session in storage, writes and logs, and a refused text ends it on the spot.  The functions below
are written in the order in which their changes and their texts follow one another, and each is
then shown to come to the reply: `execute_eq`, `advance_eq`, `perform_eq`, `submit_eq`.  So the
session that a reply keeps for a refused text is the one that storage holds when the text is
written.

## Where the order shows

A breakpoint is set before its message, and a counted step is recorded before its first
instruction; but a session pauses behind the message that says why, and loses its operator behind
the message that the input has ended.  An output leaves behind the machine that has executed it.
Any of these the other way round would be the same session in the end, and another one behind a
refused text.
-/

namespace RegisterVM

/-! ## The desk -/

/-- A text that was handed to a sink, with the session at that moment. -/
structure Writing where
  channel : Channel
  text : String
  session : Session

/-- A console whose session is carried out in place, with a record of what it has written. -/
structure Desk extends Console where
  record : List Writing

/-- The desk after a text, of which the sink takes as much as it has room for. -/
def Desk.write (d : Desk) (channel : Channel) (text : String) : Desk :=
  { d with
    outlets := d.outlets.write channel text
    record := d.record ++ [⟨channel, text, d.session⟩] }

/-- Something done at a desk.  An error leaves the desk as it is at that moment. -/
abbrev Work : Type → Type := EStateM SessionError Desk

namespace Work

variable {α β : Type}

/-- The session as it is now. -/
def session : Work Session := fun d => .ok d.session d

/-- Changes the session. -/
def change (f : Session → Session) : Work Unit := fun d =>
  .ok () { d with session := f d.session }

/-- Logs an event. -/
def log (event : Event) : Work Unit := fun d =>
  .ok () { d with outlets := d.outlets.log event }

/-- Writes a text.  A text that does not fit ends the work. -/
def write (channel : Channel) (text : String) : Work Unit := fun d =>
  if (d.outlets.sink channel).fits text then .ok () (d.write channel text)
  else .error (.unwritable "sink full") (d.write channel text)

/-- Reads the next line of the input. -/
def readLine : Work (Option InputLine) := fun d =>
  .ok d.input.head? { d with input := d.input.tail }

/-- Stops with an error, or goes on. -/
def conclude : Except SessionError α → Work α
  | .ok a => pure a
  | .error e => throw e

theorem session_bind (k : Session → Work β) (d : Desk) :
    (session >>= k) d = k d.session d := rfl

theorem change_bind (f : Session → Session) (k : Unit → Work β) (d : Desk) :
    (change f >>= k) d = k () { d with session := f d.session } := rfl

theorem log_bind (event : Event) (k : Unit → Work β) (d : Desk) :
    (log event >>= k) d = k () { d with outlets := d.outlets.log event } := rfl

theorem write_bind (channel : Channel) (text : String) (k : Unit → Work β) (d : Desk) :
    (write channel text >>= k) d =
      if (d.outlets.sink channel).fits text then k () (d.write channel text)
      else .error (.unwritable "sink full") (d.write channel text) := by
  show EStateM.bind _ _ d = _
  unfold EStateM.bind write
  cases (d.outlets.sink channel).fits text <;> rfl

/-- Behind a text only the desk with this text matters. -/
theorem write_bind_congr {channel : Channel} {text : String} {k k' : Unit → Work β} {d : Desk}
    (h : k () (d.write channel text) = k' () (d.write channel text)) :
    (write channel text >>= k) d = (write channel text >>= k') d := by
  rw [write_bind, write_bind, h]

/-! ## Execution -/

/-- The trace of the instruction that is about to be executed. -/
def trace : Work Unit := do
  let s ← session
  match s.machine.current with
  | .ok instruction => log (.step s.machine.ip instruction)
  | .error _ => pure ()

/-- Executes one instruction. -/
def execute : Work Poll := do
  trace
  let step := (← session).machine.step
  change fun s => { s with machine := step.machine }
  let s ← session
  match step.outcome with
  | .ok .proceed => return .running
  | .ok (.output value) =>
      write .output (Text.line value.text)
      return .running
  | .ok .halt =>
      if s.debug then
        write .diagnostics (Text.line "Program exited normally")
        return .finished .halted
      else return .finished .halted
  | .error fault =>
      if s.debug then
        log (.faulted fault s.machine)
        write .diagnostics (Text.line fault.message)
        change Session.pause
        return .needCommand
      else throw (.fault fault)

/-- Goes on behind the breakpoint check. -/
def resume : Work Poll := do
  let s ← session
  if s.isPaused then
    if s.pending = 0 then return .needCommand
    else
      change fun s => { s with pending := s.pending - 1 }
      execute
  else execute

/-- Goes on without the operator.  A session that has run into its breakpoint is paused first. -/
def advance : Work Poll := do
  let s ← session
  if s.debug && !s.paused && s.atBreakpoint then
    write .diagnostics (Text.line ("Hit breakpoint at " ++ s.machine.ip.text))
    log (.pausedAtBreakpoint s.machine.ip)
    change Session.pause
    resume
  else resume

/-! ## Commands -/

/-- Says a line to the operator and waits for the next command. -/
def say (text : String) : Work Poll := do
  write .diagnostics (Text.line text)
  return .needCommand

/-- Loads the program again. -/
def reload : Work Poll := do
  let s ← session
  change fun s => { s with source := s.source.rest }
  match s.source.load with
  | .error cause => throw (.restart cause)
  | .ok image =>
      log (.loaded s.source.name image.words.length)
      change fun s => { s with machine := .ofImage image }
      change fun s => { s with pending := 0 }
      log (.restarted s.source.name)
      return .needCommand

/-- Carries out a command. -/
def perform : Command → Work Poll
  | .help => do
      write .diagnostics helpText
      return .needCommand
  | .quit => return .finished .quit
  | .list _ => say "list command not yet implemented"
  | .frame _ => say "frame command not yet implemented"
  | .print none => say "print command requires an argument"
  | .print (some name) => do
      let s ← session
      match Register.ofName? name with
      | some r => say (name ++ ": " ++ (s.machine.reg r).text)
      | none => say ("bad register name: `" ++ name ++ "'")
  | .examine none => say "x command requires an argument"
  | .examine (some token) => do
      let s ← session
      match resolveAddress s.machine.reg token with
      | .ok a => say (a.label ++ ": " ++ (s.machine.cell a).text)
      | .error e => say e.message
  | .step arg =>
      match Session.stepCount? arg with
      | some count => do
          change fun s => { s with pending := count - 1 }
          execute
      | none => say ("bad step count: `" ++ arg.getD "" ++ "'")
  | .proceed => do
      let s ← session
      log (.proceeding s.machine.ip)
      change fun s => { s with paused := false }
      change fun s => { s with pending := 0 }
      execute
  | .restart => reload
  | .breakAt arg => do
      let s ← session
      match s.breakAddress arg with
      | .ok a =>
          change fun s => { s with breakpoint := some a }
          say ("Breakpoint set at address " ++ a.text)
      | .error e => say e.message
  | .deleteBreak => do
      let s ← session
      change fun s => { s with breakpoint := none }
      match s.breakpoint with
      | some a => say ("Breakpoint deleted (was " ++ a.text ++ ")")
      | none => say "No breakpoint set"

/-- Takes a command line, or the end of the input. -/
def submit : Option String → Work Poll
  | none => do
      write .diagnostics "\nEnd of input, continuing program\n"
      log .inputEnded
      change fun s => { s with debug := false }
      change fun s => { s with pending := 0 }
      return .running
  | some line => do
      let s ← session
      if s.isPaused then
        match Command.ofLine line with
        | none => return .needCommand
        | some (.ok command) => perform command
        | some (.error word) =>
            log (.unrecognized word)
            return .needCommand
      else return .running

/-! ## The loop -/

/-- Reads a command line.  A line that cannot be decoded is reported and then counts as the
end of the input. -/
def readCommandLine : Work (Option String) := do
  match ← readLine with
  | none => return none
  | some (.text line) => return some line
  | some .undecodable =>
      write .diagnostics (Text.line
        "Unexpected error when reading command: stream did not contain valid UTF-8")
      return none

/-- One round: the session goes on, and when it needs a command it gets one. -/
def turn : Work Poll := do
  match ← advance with
  | .needCommand =>
      write .diagnostics (← session).prompt
      submit (← readCommandLine)
  | poll => return poll

/-- Rounds until the session is finished; none when the fuel does not reach so far. -/
def run : Nat → Work (Option Exit)
  | 0 => return none
  | fuel + 1 => do
      match ← turn with
      | .finished exit => return some exit
      | _ => run fuel

/-! ## Replies as work -/

/-- The acts of a reply, one after the other, and what it comes to at the end.  Each text finds
the session that it keeps. -/
def replay (t : Session) (result : Except SessionError Poll) : List Act → Work Poll
  | [] => do
      change fun _ => t
      conclude result
  | .log event :: acts => do
      log event
      replay t result acts
  | .step _ :: acts => replay t result acts
  | .write channel text kept :: acts => do
      change fun _ => kept
      write channel text
      replay t result acts

/-- A reply, carried out act by act. -/
def ofReply (r : Reply) : Work Poll := replay r.session r.result r.acts

theorem replay_write (t : Session) (result : Except SessionError Poll) (channel : Channel)
    (text : String) (kept : Session) (acts : List Act) (d : Desk) :
    replay t result (.write channel text kept :: acts) d =
      (write channel text >>= fun _ => replay t result acts) { d with session := kept } := rfl

/-- A reply brings every session that it needs, so it does not matter which one it finds. -/
theorem replay_session (t : Session) (result : Except SessionError Poll) (acts : List Act)
    (d : Desk) (s : Session) :
    replay t result acts { d with session := s } = replay t result acts d := by
  induction acts generalizing d with
  | nil => rfl
  | cons a acts ih =>
    cases a with
    | log event => exact ih { d with outlets := d.outlets.log event }
    | step machine => exact ih d
    | write channel text kept => rfl

/-- The trace changes nothing but the outlets. -/
theorem exists_trace (d : Desk) : ∃ o, (∀ k : Unit → Work β, (trace >>= k) d =
    k () { d with outlets := o }) ∧ ∀ t result acts,
      replay t result (d.session.trace ++ acts) d =
        replay t result acts { d with outlets := o } := by
  cases current : d.session.machine.current with
  | ok i =>
    refine ⟨d.outlets.log (.step d.session.machine.ip i), fun k => ?_, fun t result acts => ?_⟩
    · simp [trace, session, EStateM.bind, current, log, bind]
    · rw [Session.trace, current]
      rfl
  | error f =>
    refine ⟨d.outlets, fun k => ?_, fun t result acts => ?_⟩
    · simp [trace, session, EStateM.bind, current, bind, pure, EStateM.pure]
    · rw [Session.trace, current]
      rfl

/-- Executing an instruction in place comes to the reply. -/
theorem execute_eq (d : Desk) : execute d = ofReply d.session.execute d := by
  obtain ⟨o, placed, replied⟩ := exists_trace (β := Poll) d
  unfold execute ofReply Session.execute
  rw [placed, session_bind, change_bind, session_bind]
  dsimp only
  rcases d.session.machine.step.outcome with fault | outcome
  · dsimp only
    cases d.session.debug with
    | true =>
      simp only [if_true]
      rw [replied]
      exact write_bind_congr rfl
    | false =>
      simp only [Bool.false_eq_true, if_false]
      rw [← List.append_nil d.session.trace, replied]
      rfl
  · cases outcome with
    | proceed =>
      dsimp only
      rw [← List.append_nil d.session.trace, replied]
      rfl
    | output v =>
      dsimp only
      rw [replied]
      exact write_bind_congr rfl
    | halt =>
      dsimp only
      rw [replied]
      cases d.session.debug with
      | true =>
        simp only [if_true]
        exact write_bind_congr rfl
      | false => rfl

/-- Executing an instruction in place behind a change comes to the reply of the session behind
the change. -/
theorem execute_changed (t : Session) (d : Desk) :
    execute { d with session := t } = ofReply t.execute d :=
  (execute_eq { d with session := t }).trans (replay_session _ _ _ d t)

/-- Going on in place comes to the reply. -/
theorem advance_eq (d : Desk) : advance d = ofReply d.session.advance d := by
  simp only [advance, Session.advance, session_bind]
  cases hit : d.session.debug && !d.session.paused && d.session.atBreakpoint with
  | true =>
    simp only [if_true]
    refine write_bind_congr ?_
    -- behind the message the session waits, so there is nothing to resume
    have waits : d.session.pause.isPaused = true := by
      simp only [Bool.and_eq_true] at hit
      simp [Session.isPaused, Session.pause, hit.1.1]
    rw [log_bind, change_bind, resume, session_bind]
    exact congrFun (if_pos waits) _
  | false =>
    simp only [resume, session_bind, Bool.false_eq_true, if_false]
    cases d.session.isPaused with
    | true =>
      simp only [if_true]
      cases left : d.session.pending with
      | zero => rfl
      | succ n =>
        simp only [Nat.succ_ne_zero, if_false, change_bind, left]
        exact execute_changed { d.session with pending := n } d
    | false => exact execute_eq d

/-- Saying a line in place comes to the reply. -/
theorem say_eq (text : String) (d : Desk) : say text d = ofReply (d.session.say text) d :=
  write_bind_congr rfl

/-- Loading the program again in place comes to the reply. -/
theorem reload_eq (d : Desk) : reload d = ofReply d.session.reload d := by
  unfold reload ofReply Session.reload
  rw [session_bind, change_bind]
  cases d.session.source.load with
  | error cause => rfl
  | ok image => rfl

/-- A command carried out in place comes to the reply. -/
theorem perform_eq (c : Command) (d : Desk) :
    perform c d = ofReply (d.session.perform c) d := by
  cases c with
  | help => exact write_bind_congr rfl
  | quit => rfl
  | list arg | frame arg => exact say_eq _ d
  | print arg =>
    cases arg with
    | none => exact say_eq _ d
    | some name =>
      simp only [perform, Session.perform, session_bind]
      cases Register.ofName? name with
      | some r => exact say_eq _ d
      | none => exact say_eq _ d
  | examine arg =>
    cases arg with
    | none => exact say_eq _ d
    | some token =>
      simp only [perform, Session.perform, session_bind]
      cases resolveAddress d.session.machine.reg token with
      | ok a => exact say_eq _ d
      | error e => exact say_eq _ d
  | step arg =>
    simp only [perform, Session.perform]
    cases Session.stepCount? arg with
    | some count => exact execute_changed { d.session with pending := count - 1 } d
    | none => exact say_eq _ d
  | proceed =>
    exact execute_changed { d.session with paused := false, pending := 0 }
      { d with outlets := d.outlets.log (.proceeding d.session.machine.ip) }
  | restart => exact reload_eq d
  | breakAt arg =>
    simp only [perform, Session.perform, session_bind]
    cases d.session.breakAddress arg with
    | ok a => exact say_eq _ { d with session := { d.session with breakpoint := some a } }
    | error e => exact say_eq _ d
  | deleteBreak =>
    simp only [perform, Session.perform, session_bind, change_bind]
    cases unset : d.session.breakpoint with
    | some a => exact say_eq _ { d with session := { d.session with breakpoint := none } }
    | none =>
      have same : { d.session with breakpoint := none } = d.session := by rw [← unset]
      dsimp only
      rw [same]
      exact say_eq _ d

/-- A command line taken in place comes to the reply. -/
theorem submit_eq (line : Option String) (d : Desk) :
    submit line d = ofReply (d.session.submit line) d := by
  cases line with
  | none => exact write_bind_congr rfl
  | some line =>
    simp only [submit, Session.submit, session_bind]
    cases d.session.isPaused with
    | false => rfl
    | true =>
      simp only [if_true]
      rcases Command.ofLine line with _ | word | command
      · rfl
      · rfl
      · exact perform_eq command d

/-! ## The console in place -/

/-- The desk that work leaves behind. -/
def desk (x : Work α) (d : Desk) : Desk :=
  match x d with
  | .ok _ e => e
  | .error _ e => e

/-- The value that work comes to, or the error that ends it. -/
def result (x : Work α) (d : Desk) : Except SessionError α :=
  match x d with
  | .ok a _ => .ok a
  | .error cause _ => .error cause

/-- What work comes to at a console. -/
def outcome (x : Work α) (d : Desk) : Console × Except SessionError α :=
  ((x.desk d).toConsole, x.result d)

/-- The answer of a run, if it has one. -/
def answer (x : Work (Option Exit)) (d : Desk) : Option (Console × Except SessionError Exit) :=
  match x.result d with
  | .ok none => none
  | .ok (some exit) => some ((x.desk d).toConsole, .ok exit)
  | .error cause => some ((x.desk d).toConsole, .error cause)

theorem outcome_congr {x y : Work α} {d e : Desk} (h : x d = y e) :
    x.outcome d = y.outcome e := by
  rw [outcome, outcome, desk, desk, result, result, h]

theorem answer_congr {x y : Work (Option Exit)} {d e : Desk} (h : x d = y e) :
    x.answer d = y.answer e := by
  rw [answer, answer, desk, desk, result, result, h]

theorem outcome_of_ok {x : Work α} {d e : Desk} {a : α} (h : x d = .ok a e) :
    x.outcome d = (e.toConsole, .ok a) := by
  rw [outcome, desk, result, h]

theorem outcome_of_error {x : Work α} {d e : Desk} {cause : SessionError}
    (h : x d = .error cause e) : x.outcome d = (e.toConsole, .error cause) := by
  rw [outcome, desk, result, h]

theorem bind_of_ok {x : Work α} {d e : Desk} {a : α} (h : x d = .ok a e) (k : α → Work β) :
    (x >>= k) d = k a e := by
  show EStateM.bind x k d = _
  rw [EStateM.bind, h]

theorem bind_of_error {x : Work α} {d e : Desk} {cause : SessionError}
    (h : x d = .error cause e) (k : α → Work β) : (x >>= k) d = .error cause e := by
  show EStateM.bind x k d = _
  rw [EStateM.bind, h]

/-- A reply in place comes to what it comes to when it is played. -/
theorem outcome_replay (t : Session) (result : Except SessionError Poll) (acts : List Act)
    (d : Desk) : (replay t result acts).outcome d = d.toConsole.play ⟨acts, t, result⟩ := by
  induction acts generalizing d with
  | nil => cases result <;> rfl
  | cons a acts ih =>
    cases a with
    | log event => exact ih { d with outlets := d.outlets.log event }
    | step machine => exact ih d
    | write channel text kept =>
      rw [Console.play, Outlets.play, Outlets.act]
      cases fits : (d.outlets.sink channel).fits text with
      | true =>
        have taken : replay t result (.write channel text kept :: acts) d =
            replay t result acts ({ d with session := kept }.write channel text) := by
          rw [replay_write, write_bind, if_pos fits]
        exact (outcome_congr taken).trans (ih _)
      | false =>
        have refused : replay t result (.write channel text kept :: acts) d =
            .error (.unwritable "sink full") ({ d with session := kept }.write channel text) := by
          rw [replay_write, write_bind, if_neg (Bool.not_eq_true _ ▸ fits)]
        exact outcome_of_error refused

theorem outcome_advance (d : Desk) :
    advance.outcome d = d.toConsole.play d.session.advance :=
  (outcome_congr (advance_eq d)).trans (outcome_replay _ _ _ d)

theorem outcome_submit (line : Option String) (d : Desk) :
    (submit line).outcome d = d.toConsole.play (d.session.submit line) :=
  (outcome_congr (submit_eq line d)).trans (outcome_replay _ _ _ d)

/-- A command line read in place and taken comes to the next line handed over. -/
theorem outcome_feed (d : Desk) :
    (readCommandLine >>= submit).outcome d = d.toConsole.feed := by
  obtain ⟨⟨s, o, input⟩, record⟩ := d
  rcases input with _ | ⟨line | _, lines⟩
  · exact outcome_submit none ⟨⟨s, o, []⟩, record⟩
  · exact outcome_submit (some line) ⟨⟨s, o, lines⟩, record⟩
  · let message := Text.line
      "Unexpected error when reading command: stream did not contain valid UTF-8"
    let d : Desk := ⟨⟨s, o, lines⟩, record⟩
    have reported : (readCommandLine >>= submit) ⟨⟨s, o, .undecodable :: lines⟩, record⟩ =
        ofReply (s.take (some .undecodable)) d := by
      show (write .diagnostics message >>= (fun _ => pure none) >>= submit) d = _
      rw [bind_assoc]
      exact write_bind_congr (submit_eq none (d.write .diagnostics message))
    exact (outcome_congr reported).trans (outcome_replay _ _ _ d)

/-- A prompt and a command line in place come to a prompt and, behind it, the next line handed
over. -/
theorem outcome_prompted (d : Desk) :
    (write .diagnostics d.session.prompt >>= fun _ => readCommandLine >>= submit).outcome d =
      match d.toConsole.play d.session.ask with
      | (c, .ok .needCommand) => c.feed
      | other => other := by
  rw [Console.play, Session.ask, Outlets.play, Outlets.act]
  cases fits : (d.outlets.sink .diagnostics).fits d.session.prompt with
  | true =>
    refine (outcome_congr ?_).trans (outcome_feed (d.write .diagnostics d.session.prompt))
    rw [write_bind, if_pos fits]
  | false =>
    refine outcome_of_error (e := d.write .diagnostics d.session.prompt) ?_
    rw [write_bind, if_neg (Bool.not_eq_true _ ▸ fits)]

/-- A round in place comes to a round. -/
theorem outcome_turn (d : Desk) : turn.outcome d = d.toConsole.turn := by
  rw [Console.turn, Console.tick, ← outcome_advance d, turn]
  rcases h : advance d with ⟨poll, e⟩ | ⟨cause, e⟩
  · rw [outcome_of_ok h, outcome_congr (bind_of_ok h _)]
    cases poll with
    | running => rfl
    | finished exit => rfl
    | needCommand => exact (outcome_congr (session_bind _ e)).trans (outcome_prompted e)
  · rw [outcome_of_error h, outcome_of_error (bind_of_error h _)]

/-- A run in place has the answer of the run. -/
theorem answer_run (fuel : Nat) (d : Desk) : (run fuel).answer d = d.toConsole.run fuel := by
  induction fuel generalizing d with
  | zero => rfl
  | succ fuel ih =>
    rw [Console.run, ← outcome_turn, run]
    rcases h : turn d with ⟨poll, e⟩ | ⟨cause, e⟩
    · rw [outcome_of_ok h, answer_congr (bind_of_ok h _)]
      cases poll with
      | finished exit => rfl
      | running => exact ih e
      | needCommand => exact ih e
    · rw [outcome_of_error h, answer, result, desk, bind_of_error h]

end Work

end RegisterVM
