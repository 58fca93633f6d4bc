import RegisterVM.Debugger.Session
import RegisterVM.Proofs.Machine.Iteration

/-!
# What a session makes of one step

`Session.execute` is the only place where the machine of a session moves by a step.  Its three
courses are stated here once --- the machine goes on, halts, or faults --- and `advance` is
reduced to it, so that no later proof opens either.

* `stepped_execute`, `output_execute`: exactly one step, and exactly its value put out.
* `execute_of_not_ends`, `execute_of_halt`, `execute_of_fault`: the three courses.
* `Session.AtBreakpoint`, `Session.Waits`: standing at the breakpoint, and waiting for a command.
* `advance_of_hit`, `advance_of_waits`, `advance_of_counted`, `advance_of_free`: the four courses
  of `advance`.
-/

namespace RegisterVM

/-! ## The acts of a reply -/

theorem Reply.textOn_eq_join (channel : Channel) (acts : List Act) (s : Session)
    (result : Except SessionError Poll) :
    (Reply.mk acts s result).textOn channel = String.join (acts.map (Act.textOn channel)) := rfl

namespace Session

variable {s : Session}

/-- What is said to the operator is a line of the diagnostics, and nothing else. -/
theorem textOn_say (channel : Channel) (s : Session) (text : String) :
    (s.say text).textOn channel = if channel = .diagnostics then Text.line text else "" := by
  cases channel <;> simp [say, Reply.textOn, Act.textOn]

/-- The trace writes nothing. -/
theorem textOn_trace (channel : Channel) (s : Session) :
    String.join (s.trace.map (Act.textOn channel)) = "" := by
  unfold trace
  split <;> simp [Act.textOn]

/-- The trace holds the one step. -/
theorem stepped_trace (s : Session) : s.trace.filterMap Act.stepped? = [s.machine] := by
  unfold trace
  split <;> simp [Act.stepped?]

/-! ## One step -/

/-- The machine takes exactly one step. -/
theorem stepped_execute (s : Session) : s.execute.stepped = [s.machine] := by
  unfold execute Reply.stepped
  dsimp only
  split
  · exact stepped_trace s
  · simp [stepped_trace, Act.stepped?]
  · split <;> simp [stepped_trace, Act.stepped?]
  · split <;> simp [stepped_trace, Act.stepped?]

/-- What is put out is what the step puts out. -/
theorem output_execute (s : Session) :
    s.execute.textOn .output = outputText [s.machine] := by
  unfold execute outputText
  dsimp only
  split
  · next h => simp [h, Machine.output?, Reply.textOn_eq_join, textOn_trace, Text.unlines]
  · next h =>
    simp [h, Machine.output?, Reply.textOn_eq_join, textOn_trace, Text.unlines, Act.textOn]
  · next h =>
    split <;>
      simp [h, Machine.output?, Reply.textOn_eq_join, textOn_trace, Text.unlines, Act.textOn]
  · next h =>
    split <;>
      simp [h, Machine.output?, Reply.textOn_eq_join, textOn_trace, Text.unlines, Act.textOn]

/-- A machine that goes on takes the session along, and nothing is said. -/
theorem execute_of_not_ends (h : ¬ s.machine.Ends) :
    s.execute.session = { s with machine := s.machine.next } ∧
      s.execute.result = .ok .running ∧ s.execute.textOn .diagnostics = "" := by
  unfold execute
  dsimp only
  split
  · exact ⟨rfl, rfl, textOn_trace .diagnostics s⟩
  · refine ⟨rfl, rfl, ?_⟩
    simp [Reply.textOn_eq_join, textOn_trace, Act.textOn]
  · next halt => exact absurd (Or.inl halt) h
  · next f fault => exact absurd (Or.inr ⟨f, fault⟩) h

/-- With debugging, a machine that halts finishes the session, and this is said. -/
theorem execute_of_halt (h : s.machine.step.outcome = .ok .halt) (hd : s.debug = true) :
    s.execute.session = s ∧ s.execute.result = .ok (.finished .halted) ∧
      s.execute.textOn .diagnostics = "Program exited normally\n" := by
  have same : s.machine.step.machine = s.machine := Machine.machine_step_of_halt h
  have eq : s.execute = ⟨s.trace ++
      [.write .diagnostics (Text.line "Program exited normally") s], s,
      .ok (.finished .halted)⟩ := by
    simp only [execute, h, same, if_pos hd]
  rw [eq]
  refine ⟨rfl, rfl, ?_⟩
  simp [Reply.textOn_eq_join, textOn_trace, Act.textOn, Text.line]

/-- With debugging, a machine that faults pauses the session where it is, and the fault is
said. -/
theorem execute_of_fault {f : Fault} (h : s.machine.step.outcome = .error f)
    (hd : s.debug = true) :
    s.execute.session = s.pause ∧ s.execute.result = .ok .needCommand ∧
      s.execute.textOn .diagnostics = Text.line f.message := by
  have same : s.machine.step.machine = s.machine := Machine.machine_step_of_error h
  have eq : s.execute = ⟨s.trace ++ [.log (.faulted f s.machine),
      .write .diagnostics (Text.line f.message) s], s.pause, .ok .needCommand⟩ := by
    simp only [execute, h, same, if_pos hd]
  rw [eq]
  refine ⟨rfl, rfl, ?_⟩
  simp [Reply.textOn_eq_join, textOn_trace, Act.textOn]

/-- The machine of the session moves by one step, however the step goes. -/
theorem machine_execute (s : Session) : s.execute.session.machine = s.machine.next := by
  unfold execute
  dsimp only
  split
  · rfl
  · rfl
  · rfl
  · split <;> rfl

/-! ## Where a session stands -/

/-- The session waits for a command: it has an operator, is paused, and has nothing left of a
counted step. -/
structure Waits (s : Session) : Prop where
  debug : s.debug = true
  paused : s.paused = true
  pending : s.pending = 0

/-- The session waits exactly when it is paused with nothing left to execute. -/
theorem waits_iff : s.Waits ↔ (s.isPaused && !s.hasPending) = true := by
  simp only [isPaused, hasPending, Bool.and_eq_true, Bool.not_eq_true', decide_eq_false_iff_not,
    Nat.pos_iff_ne_zero, not_not]
  exact ⟨fun h => ⟨⟨h.debug, h.paused⟩, h.pending⟩, fun h => ⟨h.1.1, h.1.2, h.2⟩⟩

/-- The instruction pointer is at the breakpoint. -/
theorem atBreakpoint_iff :
    s.atBreakpoint = true ↔ ∃ a, s.breakpoint = some a ∧ s.machine.ip.toInt = a.val := by
  simp only [atBreakpoint, Option.any_eq_true, beq_iff_eq, Address.ofWord?_eq_some_iff]

/-- A session starts as the load has it, and paused exactly when it has an operator. -/
theorem start_eq_ok_iff {source : Source} {debug : Bool} : start source debug = .ok s ↔
    ∃ image, source.load = .ok image ∧
      s = ⟨source.rest, .ofImage image, debug, debug, none, 0⟩ := by
  unfold start
  cases source.load with
  | error e => simp [Except.map]
  | ok image => simp [Except.map, eq_comm]

theorem waits_pause (hd : s.debug = true) : s.pause.Waits := ⟨hd, rfl, rfl⟩

/-! ## Going on -/

/-- A session that runs into its breakpoint says so and waits there. -/
theorem advance_of_hit (hd : s.debug = true) (hp : s.paused = false)
    (hb : s.atBreakpoint = true) :
    s.advance = ⟨[.write .diagnostics (Text.line ("Hit breakpoint at " ++ s.machine.ip.text)) s,
      .log (.pausedAtBreakpoint s.machine.ip)], s.pause, .ok .needCommand⟩ := by
  simp only [advance, hd, hp, hb, Bool.not_false, Bool.and_self, if_true]

/-- A session that waits does nothing. -/
theorem advance_of_waits (h : s.Waits) : s.advance = .silent s .needCommand := by
  simp only [advance, isPaused, h.debug, h.paused, h.pending, Bool.not_true, Bool.and_false,
    Bool.false_and, Bool.and_self, Bool.false_eq_true, if_false, if_true]

/-- A paused session takes one step of what is left of a counted step. -/
theorem advance_of_counted {left : Nat} (hd : s.debug = true) (hp : s.paused = true)
    (hn : s.pending = left + 1) : s.advance = execute { s with pending := left } := by
  simp only [advance, isPaused, hd, hp, hn, Bool.not_true, Bool.and_false, Bool.false_and,
    Bool.and_self, Bool.false_eq_true, if_false, if_true]

/-- A session that is neither paused nor at its breakpoint takes one step. -/
theorem advance_of_free (hp : s.isPaused = false)
    (hb : s.debug = true → s.atBreakpoint = false) : s.advance = s.execute := by
  unfold advance
  cases hd : s.debug with
  | false => simp [hp]
  | true => simp [hp, hb hd]

end Session

end RegisterVM
