import RegisterVM.Machine.Run
import RegisterVM.Proofs.Console.Prompts
import RegisterVM.Proofs.Console.Unlimited
import RegisterVM.Proofs.Debugger.Execution

/-!
# Runs without an operator

A session without an operator is nothing but its machine.  The session still has the fields that
only an operator sets: after the end of the command input it may be paused, have a breakpoint,
and stand right on it.  None of them counts any more, because every test of them asks for the
operator first.

So a round of the console is a step of the machine, and `n` rounds are the run of `n` steps.
`Console.CameTo` says how the two correspond, round for round and not only at the end; what a
run answers is read off the ending of the machine's run, and a run without an ending has no
answer for any fuel.

* `execute_alone`: one step without an operator.
* `CameTo.turn`, `RunsAsMachine`: a round, and any number of rounds.
* `exists_feed_of_ended`: how the operator is let go at the end of the command input.
-/

namespace RegisterVM

/-- Everything that a run has put out, one line a value. -/
def Run.text (r : Run) : String := Text.unlines (r.output.toList.map Word.text)

/-- What the console answers when the run of its machine ends. -/
def Ending.answer : Ending → Except SessionError Exit
  | halted => .ok .halted
  | faulted f => .error (.fault f)

/-- What going on without an operator results in when the run of the machine stands so. -/
def Ending.poll : Option Ending → Except SessionError Poll
  | none => .ok .running
  | some halted => .ok (.finished .halted)
  | some (faulted f) => .error (.fault f)

/-! ## One step -/

namespace Session

variable {s : Session}

/-- Without an operator, a session that takes a step does to its machine what the run does, says
nothing, and puts out what the run does. -/
theorem execute_alone (alone : s.debug = false) {r : Run} (machine : s.machine = r.machine) :
    s.execute.session = { s with machine := r.takeStep.machine } ∧
      s.execute.result = Ending.poll r.takeStep.ending ∧
      r.takeStep.text = r.text ++ s.execute.textOn .output ∧
      s.execute.textOn .diagnostics = "" := by
  rw [output_execute, outputText, List.filterMap_cons, Machine.output?]
  unfold execute Run.takeStep Run.text
  simp only [machine, alone, Bool.false_eq_true, if_false, List.append_nil]
  cases r.machine.step.outcome with
  | error f => exact ⟨rfl, rfl, String.append_empty.symm, textOn_trace .diagnostics s⟩
  | ok outcome =>
    cases outcome with
    | proceed => exact ⟨rfl, rfl, String.append_empty.symm, textOn_trace .diagnostics s⟩
    | halt => exact ⟨rfl, rfl, String.append_empty.symm, textOn_trace .diagnostics s⟩
    | output value =>
      refine ⟨rfl, rfl, ?_, ?_⟩
      · simp [Text.unlines, String.join_append]
      · simp [Reply.textOn_eq_join, textOn_trace, Act.textOn]

/-- Without an operator, going on is taking a step, whatever else the session holds. -/
theorem advance_alone (alone : s.debug = false) : s.advance = s.execute :=
  advance_of_free (by simp [isPaused, alone]) (by simp [alone])

end Session

/-! ## Rounds -/

namespace Console

/-- The second console is the first one when its machine has come to the run: nothing was read,
and when nothing is logged nothing was said. -/
structure CameTo (c : Console) (r : Run) (d : Console) : Prop where
  session : d.session = { c.session with machine := r.machine }
  input : d.input = c.input
  unlimited : d.outlets.Unlimited
  output : d.outlets.output.written = c.outlets.output.written ++ r.text.toUTF8
  verbosity : d.outlets.verbosity = c.outlets.verbosity
  diagnostics : c.outlets.verbosity = none →
    d.outlets.diagnostics.written = c.outlets.diagnostics.written

variable {c d : Console} {r : Run}

theorem cameTo_start (h : c.outlets.Unlimited) : c.CameTo (.start c.session.machine) c where
  session := rfl
  input := rfl
  unlimited := h
  output := by simp [Run.text, Run.start, Text.unlines]
  verbosity := rfl
  diagnostics _ := rfl

/-- Without an operator, a round of the console is a step of its machine. -/
theorem CameTo.turn (h : c.CameTo r d) (alone : c.session.debug = false) :
    ∃ e, d.turn = (e, Ending.poll r.takeStep.ending) ∧ c.CameTo r.takeStep e := by
  have alone' : d.session.debug = false := by rw [h.session, alone]
  have machine : d.session.machine = r.machine := by rw [h.session]
  obtain ⟨session, result, text, silent⟩ := Session.execute_alone alone' machine
  obtain ⟨e, played, plays⟩ := exists_plays h.unlimited d.session.execute
  rw [result] at played
  have quiet : Ending.poll r.takeStep.ending ≠ .ok .needCommand := by
    cases r.takeStep.ending with
    | none => simp [Ending.poll]
    | some ending => cases ending <;> simp [Ending.poll]
  have ticked : d.tick = (e, Ending.poll r.takeStep.ending) := by
    rw [tick, Session.advance_alone alone', played]
    split
    · next needs => exact absurd (Prod.mk.inj needs).2 quiet
    · rfl
  refine ⟨e, turn_of_tick ticked quiet, ?_, plays.input.trans h.input, plays.unlimited, ?_,
    plays.verbosity.trans h.verbosity, ?_⟩
  · rw [plays.session, session, h.session]
  · rw [plays.output, h.output, text, Text.toUTF8_append, ByteArray.append_assoc]
  · intro none
    rw [plays.diagnostics (h.verbosity.trans none), silent, h.diagnostics none]
    simp

/-- Without an operator, more rounds of the console are as many steps of its machine. -/
theorem CameTo.run (h : c.CameTo r d) (alone : c.session.debug = false)
    (goes : r.ending = none) (n : Nat) :
    ∃ e, d.run n = (r.extend n).ending.map (fun ending => (e, ending.answer)) ∧
      c.CameTo (r.extend n) e := by
  induction n generalizing r d with
  | zero =>
    refine ⟨d, ?_, h⟩
    rw [Run.extend, goes]
    rfl
  | succ n ih =>
    obtain ⟨e, turned, came⟩ := h.turn alone
    rw [Run.extend, if_neg (by simp [goes]), run_succ, turned]
    cases ended : r.takeStep.ending with
    | none =>
      obtain ⟨f, runs, came'⟩ := ih came ended
      exact ⟨f, runs, came'⟩
    | some ending =>
      -- the run has ended with this step, and the rest of the fuel is not used
      rw [Run.extend_of_ended (by simp [ended]), ended]
      refine ⟨e, ?_, came⟩
      cases ending <;> rfl

/-- The console runs as its machine does, round for round.  It answers when the run of the
machine has ended, with what ended it; it puts out what the run puts out, reads nothing, and,
when nothing is logged, says nothing. -/
def RunsAsMachine (c : Console) : Prop :=
  ∀ n, ∃ d, c.run n = (c.session.machine.run n).ending.map (fun ending => (d, ending.answer)) ∧
    c.CameTo (c.session.machine.run n) d

/-- Without an operator, the console runs as its machine does. -/
theorem runsAsMachine (h : c.outlets.Unlimited) (alone : c.session.debug = false) :
    c.RunsAsMachine := by
  intro n
  exact (cameTo_start h).run alone rfl n

/-! ## The end of the command input -/

/-- What is said when the input ends at a prompt: why, if a line cannot be decoded, and that
the program goes on. -/
def lastWords : Option InputLine → String
  | some .undecodable =>
      "Unexpected error when reading command: stream did not contain valid UTF-8\n" ++
        "\nEnd of input, continuing program\n"
  | _ => "\nEnd of input, continuing program\n"

/-- The input ends here: there are no lines left, or the next one cannot be decoded. -/
def EndsInput (input : List InputLine) : Prop :=
  input = [] ∨ input.head? = some .undecodable

/-- When the input ends, the operator is let go. -/
theorem exists_feed_of_ended (h : c.outlets.Unlimited) (ended : EndsInput c.input) :
    ∃ d, c.feed = (d, .ok .running) ∧
      d.session = { c.session with debug := false, pending := 0 } ∧
      d.input = c.input.tail ∧ d.outlets.Unlimited ∧
      d.outlets.output.written = c.outlets.output.written ∧
      (c.outlets.verbosity = none → d.outlets.verbosity = none ∧
        d.outlets.diagnostics.written =
          c.outlets.diagnostics.written ++ (lastWords c.input.head?).toUTF8) := by
  obtain ⟨d, fed, plays⟩ := exists_feed h
  have released : (c.session.take c.input.head?).result = .ok .running ∧
      (c.session.take c.input.head?).session =
        { c.session with debug := false, pending := 0 } ∧
      (c.session.take c.input.head?).textOn .output = "" ∧
      (c.session.take c.input.head?).textOn .diagnostics = lastWords c.input.head? := by
    rcases ended with none | undecodable
    · rw [none]
      exact ⟨rfl, rfl, rfl, rfl⟩
    · rw [undecodable]
      exact ⟨rfl, rfl, rfl, rfl⟩
  obtain ⟨result, session, nothing, said⟩ := released
  rw [result] at fed
  refine ⟨d, fed, plays.session.trans session, plays.input, plays.unlimited, ?_, ?_⟩
  · rw [plays.output, nothing]
    exact ByteArray.append_empty
  · intro quiet
    refine ⟨plays.verbosity.trans quiet, ?_⟩
    rw [plays.diagnostics quiet, said]

/-- Going on leaves unlimited outlets unlimited. -/
theorem ComesTo.unlimited {result : Except SessionError Poll} (h : c.ComesTo d result)
    (unlimited : c.outlets.Unlimited) : d.outlets.Unlimited := by
  induction h with
  | stop ticked stops =>
    obtain ⟨e, eq, -, -, unlimited, -⟩ := exists_tick unlimited
    rw [eq] at ticked
    exact (Prod.mk.inj ticked).1 ▸ unlimited
  | more ticked rest ih =>
    obtain ⟨e, eq, -, -, unlimited, -⟩ := exists_tick unlimited
    rw [eq] at ticked
    exact ih ((Prod.mk.inj ticked).1 ▸ unlimited)

theorem Prompts.unlimited {i : Nat} (h : c.Prompts i d) (unlimited : c.outlets.Unlimited) :
    d.outlets.Unlimited := by
  induction h with
  | first goes => exact goes.unlimited unlimited
  | later before fed open_ goes ih =>
    obtain ⟨e, eq, plays⟩ := exists_feed ih
    rw [eq] at fed
    exact goes.unlimited ((Prod.mk.inj fed).1 ▸ plays.unlimited)

end Console

end RegisterVM
