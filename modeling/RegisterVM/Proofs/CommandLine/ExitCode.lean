import RegisterVM.CommandLine.Report
import RegisterVM.Proofs.Console.Unattended
import RegisterVM.Proofs.Machine.Iteration

/-!
# What a call without options leaves behind

A call with a program and no options loads the program and lets its machine run.  There is no
operator, so the command input is not looked at, and the exit code is that of the run: zero for
a program that halts, and one for a program that faults or cannot be loaded.  A call has these
two codes and no third one.

* `Run.report?`: what is left behind when the run of a machine ends.
* `Request.ofArgs_program`: what a program and no options ask for.
* `report_program`: the call is the run of the machine.
* `unattended_run_is_machine_run`: the main statement.
-/

namespace RegisterVM

/-- What a call leaves behind when the run of its machine has ended: the exit code, the values,
and the fault if there is one. -/
def Run.report? (r : Run) : Option Report :=
  r.ending.map fun
    | .halted => ⟨0, r.text.toUTF8, .empty⟩
    | .faulted f => ⟨1, r.text.toUTF8, (Text.line f.message).toUTF8⟩

/-! ## The end of a session -/

namespace Console

/-- What is left behind by a session that is over: what was written until then, and the last
line about it. -/
def reported (c : Console) (result : Except SessionError Exit) : Report :=
  let closed := c.close result
  ⟨closed.2, closed.1.outlets.output.written, closed.1.outlets.diagnostics.written⟩

variable {c : Console}

/-- When nothing is logged, nothing is said about a session that is finished. -/
theorem reported_of_ok (quiet : c.outlets.verbosity = none) (exit : Exit) :
    c.reported (.ok exit) = ⟨0, c.outlets.output.written, c.outlets.diagnostics.written⟩ := by
  rw [reported, close, Outlets.log_of_quiet quiet]

/-- A session that cannot go on leaves its error as the last line. -/
theorem reported_of_error (h : c.outlets.Unlimited) (e : SessionError) :
    c.reported (.error e) = ⟨1, c.outlets.output.written,
      c.outlets.diagnostics.written ++ (Text.line e.message).toUTF8⟩ := by
  rw [reported, close, Outlets.write, Sink.write_of_room_eq_none h.diagnostics]

end Console

/-! ## A call -/

/-- An argument that has a first letter, and one other than a hyphen, is a program. -/
theorem Request.ofArgs_program {program : String} (named : program ≠ "")
    (plain : program.toList.head? ≠ some '-') :
    Request.ofArgs [program] = .start ⟨false, false, 0, program⟩ := by
  have operand : OptionsSoFar.empty.argument program =
      .ok { OptionsSoFar.empty with program := some program } := by
    unfold OptionsSoFar.argument
    split
    · next eq => simp [eq] at plain
    · next eq => simp [eq] at plain
    · simp [OptionsSoFar.operand, OptionsSoFar.empty, named]
  have other : program ≠ "--" := by
    rintro rfl
    exact plain rfl
  have read : OptionsSoFar.empty.arguments [program] =
      .ok { OptionsSoFar.empty with program := some program } := by
    rw [OptionsSoFar.arguments, operand]
    · rfl
    · exact fun h => other h
  rw [Request.ofArgs, read]
  rfl

/-- A program that cannot be loaded is reported, and nothing is run. -/
theorem report_program_of_error {folder : Folder} {program : String} {e : LoadError}
    (request : Request.ofArgs [program] = .start ⟨false, false, 0, program⟩)
    (load : folder.load program = .error e) (fuel : Nat) (input : ByteArray) :
    report fuel folder [program] input =
      some ⟨1, .empty, (Text.line e.message).toUTF8⟩ := by
  rw [report, request]
  simp only [Options.report, load]

/-- A program that is loaded runs as its machine does. -/
theorem report_program_of_ok {folder : Folder} {program : String} {image : Image}
    (request : Request.ofArgs [program] = .start ⟨false, false, 0, program⟩)
    (load : folder.load program = .ok image) (fuel : Nat) (input : ByteArray) :
    report fuel folder [program] input = ((Machine.ofImage image).run fuel).report? := by
  let s : Session :=
    ⟨.constant program (.ok image), .ofImage image, false, false, none, 0⟩
  let c : Console := ⟨s, ⟨.empty none, .empty none, none⟩, InputLine.ofBytes input⟩
  have called : report fuel folder [program] input =
      (c.run fuel).map fun ended => ended.1.reported ended.2 := by
    rw [report, request]
    simp only [Options.report, load]
    show (c.run fuel).bind _ = _
    cases c.run fuel <;> rfl
  obtain ⟨d, runs, came⟩ :=
    Console.runsAsMachine (c := c) (Outlets.unlimited_empty none) rfl fuel
  have output : d.outlets.output.written = (c.session.machine.run fuel).text.toUTF8 :=
    came.output.trans ByteArray.empty_append
  have silent : d.outlets.diagnostics.written = .empty := came.diagnostics rfl
  rw [called, runs, Run.report?, Option.map_map]
  refine Option.map_congr fun ending _ => ?_
  cases ending with
  | halted =>
    show d.reported (.ok .halted) = _
    rw [Console.reported_of_ok came.verbosity, output, silent]
  | faulted f =>
    show d.reported (.error (.fault f)) = _
    rw [Console.reported_of_error came.unlimited, output, silent, ByteArray.empty_append]
    rfl

/-! ## Exit codes -/

/-- The code zero is that of a run that halts. -/
theorem code_report?_eq_zero_iff {r : Run} :
    (∃ left, r.report? = some left ∧ left.code = 0) ↔ r.ending = some .halted := by
  unfold Run.report?
  cases r.ending with
  | none => simp
  | some ending => cases ending <;> simp

/-- The code one is that of a run that faults. -/
theorem code_report?_eq_one_iff {r : Run} :
    (∃ left, r.report? = some left ∧ left.code = 1) ↔ ∃ f, r.ending = some (.faulted f) := by
  unfold Run.report?
  cases r.ending with
  | none => simp
  | some ending => cases ending <;> simp

/-! ## The main statement -/

/-- **Without an operator a session is the run of its machine.**

* A session without debugging runs as its machine does, round for round: it answers when the run
  of the machine has ended, with what ended it, and never when that run has no end.  It puts out
  what the run puts out, says nothing, and reads nothing.
* When the command input ends at a prompt, be it that no line is left or that the next one is
  not UTF-8, this is said, and the session loses its operator and its counted step.  From there
  the console runs as the machine that it has does, whatever breakpoint is set, and whatever
  input is left.
* A call with a program and no options does so with the machine of the program, so it exits with
  zero exactly when the program can be loaded and halts, and with one exactly when the program
  cannot be loaded or faults. -/
theorem unattended_run_is_machine_run :
    (∀ c : Console, c.outlets.Unlimited → c.session.debug = false → c.RunsAsMachine) ∧
    (∀ (c : Console) (i : Nat) (p : Console), c.outlets.Unlimited → c.Prompts i p →
      Console.EndsInput p.input → ∃ d : Console,
        (∃ k, ∀ fuel, c.run (fuel + k + 1) = d.run fuel) ∧
        d.session = { p.session with debug := false, pending := 0 } ∧
        d.input = p.input.tail ∧
        d.outlets.output.written = p.outlets.output.written ∧
        (p.outlets.verbosity = none → d.outlets.verbosity = none ∧
          d.outlets.diagnostics.written =
            p.outlets.diagnostics.written ++ (Console.lastWords p.input.head?).toUTF8) ∧
        d.RunsAsMachine) ∧
    ∀ (folder : Folder) (program : String) (input : ByteArray), program ≠ "" →
      program.toList.head? ≠ some '-' →
      (∀ fuel, report fuel folder [program] input =
        match folder.load program with
        | .error e => some ⟨1, .empty, (Text.line e.message).toUTF8⟩
        | .ok image => ((Machine.ofImage image).run fuel).report?) ∧
      ((∃ fuel left, report fuel folder [program] input = some left ∧ left.code = 0) ↔
        ∃ image, folder.load program = .ok image ∧
          ∃ n, ((Machine.ofImage image).run n).ending = some .halted) ∧
      ((∃ fuel left, report fuel folder [program] input = some left ∧ left.code = 1) ↔
        (∃ e, folder.load program = .error e) ∨
        ∃ image, folder.load program = .ok image ∧
          ∃ n f, ((Machine.ofImage image).run n).ending = some (.faulted f)) := by
  refine ⟨fun c => Console.runsAsMachine, ?_, ?_⟩
  · intro c i p unlimited prompts ended
    obtain ⟨d, fed, session, input, unlimited', output, said⟩ :=
      Console.exists_feed_of_ended (prompts.unlimited unlimited) ended
    obtain ⟨k, runs⟩ := Console.run_of_prompts prompts
    refine ⟨d, ⟨k, fun fuel => ?_⟩, session, input, output, said,
      Console.runsAsMachine unlimited' ?_⟩
    · rw [runs, fed, Console.resume_of_open rfl]
    · rw [session]
  · intro folder program input named plain
    have request := Request.ofArgs_program named plain
    cases load : folder.load program with
    | error e =>
      have called := fun fuel => report_program_of_error request load fuel input
      refine ⟨called, ?_, ?_⟩
      · simp [called]
      · simp [called]
    | ok image =>
      have called := fun fuel => report_program_of_ok request load fuel input
      refine ⟨called, ?_, ?_⟩
      · simp [called, code_report?_eq_zero_iff]
      · simp [called, code_report?_eq_one_iff]

/-- The program that puts out seven.  At its prompt stands a line that is not UTF-8, in front of
another one and with a breakpoint on the way: it goes on to the end, and the other line is left.
Called by its name, it exits with zero. -/
theorem unattended_run_is_machine_run_seven :
    let s : Session :=
      ⟨.constant "seven" (.ok .seven), .ofImage .seven, true, true, some 3, 0⟩
    let c : Console :=
      ⟨s, ⟨.empty none, .empty none, none⟩, [.undecodable, .text "quit\n"]⟩
    let folder : Folder := ⟨[(["seven.vml"], "6\n1 7 1\n9 1\n10\n".toUTF8)], []⟩
    (∃ fuel d, c.run fuel = some (d, .ok .halted) ∧ d.input = [.text "quit\n"] ∧
        d.outlets.output.written = "7\n".toUTF8) ∧
      (∃ fuel d, (Console.run fuel { c with session := { s with debug := false } }) =
        some (d, .ok .halted) ∧ d.input = c.input) ∧
      ∃ fuel left, report fuel folder ["seven.vml"] .empty = some left ∧ left.code = 0 := by
  intro s c folder
  have unlimited : c.outlets.Unlimited := Outlets.unlimited_empty none
  have ended : ((Machine.ofImage .seven).run 3).ending = some .halted := by decide +kernel
  have text : ((Machine.ofImage .seven).run 3).text = "7\n" := by decide +kernel
  have load : folder.load "seven.vml" = .ok .seven := by decide +kernel
  obtain ⟨alone, released, called⟩ := unattended_run_is_machine_run
  refine ⟨?_, ?_, ?_⟩
  · have prompts : c.Prompts 0 c.tick.1 := .first (.stop rfl (by decide))
    obtain ⟨d, ⟨k, runs⟩, session, input, output, -, follows⟩ :=
      released c 0 c.tick.1 unlimited prompts (.inr rfl)
    have machine : d.session.machine = .ofImage .seven := congrArg Session.machine session
    obtain ⟨e, answer, came⟩ := follows 3
    rw [machine] at answer came
    rw [ended] at answer
    refine ⟨3 + k + 1, e, (runs 3).trans answer, came.input.trans input, ?_⟩
    rw [came.output, output, text]
    rfl
  · obtain ⟨e, answer, came⟩ :=
      alone { c with session := { s with debug := false } } unlimited rfl 3
    exact ⟨3, e, answer.trans (congrArg (Option.map _) ended), came.input⟩
  · obtain ⟨-, zero, -⟩ := called folder "seven.vml" .empty (by decide) (by decide)
    exact zero.mpr ⟨.seven, load, 3, ended⟩

end RegisterVM
