import RegisterVM.Proofs.Debugger.Restart

/-!
# Sessions that a fault has stopped

Under its operator a session does not end with a fault.  It says the fault and waits, at the
instruction that cannot be executed and with the machine that this instruction has found.  The
operator may look around, but there is no way past the instruction: whatever is tried, short of
loading the program again, meets the same fault.

## What may go on and what may not

A fault leaves the machine as it is, so of a session that is stuck only three fields can still
change: whether it is paused, its breakpoint, and the number of steps that it has left.  That holds
whichever texts are refused (`Stuck.remains`), and it is all that the machine and the output need.
That the session *waits* again behind every call needs the texts: a `continue` whose message is
refused has already gone on.

* `Call.Stays`: the calls that neither end the input nor load the program again.
* `Session.Attempts`: the three ways in which a call comes to execute an instruction.
* `Session.Stuck`: an operator, and an instruction that faults.
* `Stuck.attempt`: an attempt says the fault, and leaves the session waiting.
* `Stuck.remains`, `Stuck.after`: what is left of the session after a call, and after any calls.
* `fault_is_recoverable`: the main statement.
-/

namespace RegisterVM

/-! ## Calls -/

/-- The call neither ends the input nor asks for the program to be loaded again. -/
def Call.Stays : Call → Prop
  | .advance => True
  | .submit none => False
  | .submit (some line) => Command.ofLine line ≠ some (.ok .restart)
  | .perform command => command ≠ .restart

namespace Session

variable {s t u : Session} {f : Fault} {c : Call}

/-- The call comes to execute the instruction at the instruction pointer. -/
inductive Attempts (s : Session) : Call → Prop
  /-- The session runs freely, and is not at its breakpoint. -/
  | freely (paused : s.paused = false) (elsewhere : s.atBreakpoint = false) : Attempts s .advance
  /-- The session is in the middle of a counted step. -/
  | counted (paused : s.paused = true) (left : 0 < s.pending) : Attempts s .advance
  /-- A `continue`, or a step with a valid count, is carried out. -/
  | commanded {c : Call} {command : Command} (means : s.command? c = some command)
      (executes : command.Executes) : Attempts s c

/-- A call that stays does not load the program again. -/
theorem command?_ne_restart (h : c.Stays) : s.command? c ≠ some .restart := by
  intro means
  cases c with
  | advance => cases means
  | perform command => exact h (Option.some.inj means)
  | submit line =>
    cases line with
    | none => cases means
    | some line =>
      rw [command?] at means
      split at means
      · obtain ⟨command, eq, ok⟩ := Option.bind_eq_some_iff.mp means
        cases command with
        | error word => simp [Except.toOption] at ok
        | ok command =>
          obtain rfl : command = .restart := Option.some.inj ok
          exact h eq
      · cases means

/-- A command that executes is the execution of the session, paused or not and with some number of
steps left behind it. -/
theorem exists_perform_eq_execute {command : Command} (h : command.Executes) :
    ∃ paused pending, s.perform command = execute { s with paused, pending } ∨
      ∃ event, s.perform command = (execute { s with paused, pending }).after (.log event) := by
  cases command with
  | proceed => exact ⟨false, 0, .inr ⟨_, rfl⟩⟩
  | step arg =>
    obtain ⟨count, valid⟩ := Option.isSome_iff_exists.mp ((stepCount?_isSome_iff arg).mpr h)
    refine ⟨s.paused, count - 1, .inl ?_⟩
    simp only [perform, valid]
  | _ => exact h.elim

/-- So is every attempt. -/
theorem Attempts.exists_eq_execute (hd : s.debug = true) (h : s.Attempts c) :
    ∃ paused pending, s.reply c = execute { s with paused, pending } ∨
      ∃ event, s.reply c = (execute { s with paused, pending }).after (.log event) := by
  cases h with
  | freely paused elsewhere =>
    have free : s.isPaused = false := by rw [isPaused, paused, Bool.and_false]
    exact ⟨s.paused, s.pending, .inl (advance_of_free free fun _ => elsewhere)⟩
  | counted paused left =>
    obtain ⟨n, eq⟩ := Nat.exists_eq_succ_of_ne_zero left.ne'
    exact ⟨s.paused, n, .inl (advance_of_counted hd paused eq)⟩
  | @commanded _ command means executes =>
    have same : s.reply c = s.perform command := by
      cases c with
      | advance => cases means
      | submit line => exact submit_of_command means
      | perform other =>
        obtain rfl : other = command := Option.some.inj means
        rfl
    rw [same]
    exact exists_perform_eq_execute executes

/-- A line that carries no command leaves nothing but the session. -/
theorem remains_submit_of_no_command {line : String}
    (h : s.command? (.submit (some line)) = none) : (s.submit (some line)).remains = [s] := by
  unfold submit
  dsimp only
  split
  · next paused =>
    rw [command?, if_pos paused] at h
    split
    · rfl
    · next command eq => simp [eq, Except.toOption] at h
    · rfl
  · rfl

/-! ## Stuck sessions -/

/-- The session has an operator, and the next instruction of its machine faults. -/
structure Stuck (s : Session) (f : Fault) : Prop where
  debug : s.debug = true
  faults : s.machine.step.outcome = .error f

/-- The sessions differ at most in whether they are paused, in their breakpoints and in the numbers
of their steps. -/
structure Alongside (s t : Session) : Prop where
  source : t.source = s.source
  machine : t.machine = s.machine
  debug : t.debug = s.debug

theorem Alongside.refl (s : Session) : s.Alongside s := ⟨rfl, rfl, rfl⟩

theorem Alongside.trans (h : s.Alongside t) (h' : t.Alongside u) : s.Alongside u :=
  ⟨h'.source.trans h.source, h'.machine.trans h.machine, h'.debug.trans h.debug⟩

namespace Stuck

theorem ends (h : s.Stuck f) : s.machine.Ends := .inr ⟨f, h.faults⟩

theorem of_alongside (h : s.Stuck f) (along : s.Alongside t) : t.Stuck f :=
  ⟨along.debug.trans h.debug, along.machine ▸ h.faults⟩

/-! ### One call -/

/-- An attempt says the fault, and leaves the session waiting where it is. -/
theorem attempt (h : s.Stuck f) (attempts : s.Attempts c) :
    (s.reply c).session = s.pause ∧ (s.reply c).result = .ok .needCommand ∧
      (s.reply c).textOn .diagnostics = Text.line f.message := by
  obtain ⟨paused, pending, eq⟩ := attempts.exists_eq_execute h.debug
  have fault := execute_of_fault (s := { s with paused, pending }) h.faults h.debug
  rcases eq with eq | ⟨event, eq⟩
  · rw [eq]
    exact fault
  · rw [eq]
    refine ⟨fault.1, fault.2.1, ?_⟩
    rw [← fault.2.2]
    exact (String.join_cons ..).trans String.empty_append

/-- Nothing is put out. -/
theorem output (h : s.Stuck f) (c : Call) : (s.reply c).textOn .output = "" := by
  have nothing : outputText [s.machine] = "" := by
    simp [outputText, Machine.output?, h.faults, Text.unlines]
  rcases s.moves_reply c with ⟨moves, -⟩ | moves
  · exact moves.output.trans nothing
  · exact moves.output

/-- Going on without an attempt is running into the breakpoint, or waiting. -/
theorem hits_or_waits (h : s.Stuck f) (still : ¬ s.Attempts .advance) :
    s.paused = false ∧ s.atBreakpoint = true ∨ s.Waits := by
  cases hp : s.paused with
  | false =>
    refine .inl ⟨rfl, ?_⟩
    rw [← Bool.not_eq_false]
    exact fun elsewhere => still (.freely hp elsewhere)
  | true =>
    refine .inr ⟨h.debug, hp, ?_⟩
    by_contra left
    exact still (.counted hp (Nat.pos_of_ne_zero left))

/-- A step that faults moves nothing, whatever is refused. -/
theorem remains_execute (h : s.Stuck f) : ∀ u ∈ s.execute.remains, s.Alongside u := by
  have still : s.machine.next = s.machine := Machine.next_of_ends h.ends
  intro u mem
  rcases s.remains_execute u mem with rfl | rfl
  · exact ⟨rfl, still, rfl⟩
  · exact ⟨rfl, still, rfl⟩

/-- A command that does not execute, and is no restart, at most moves the breakpoint. -/
theorem remains_perform {command : Command} (other : command ≠ .restart)
    (idle : ¬ command.Executes) :
    ∀ u ∈ (s.perform command).remains, s.Alongside u ∧ (s.Waits → u.Waits) := by
  cases s.course command with
  | answers b text eq =>
    have marked : s.Alongside { s with breakpoint := b } ∧
        (s.Waits → Waits { s with breakpoint := b }) :=
      ⟨⟨rfl, rfl, rfl⟩, fun hs => ⟨hs.debug, hs.paused, hs.pending⟩⟩
    rw [eq]
    simpa [Reply.remains, Act.kept?] using marked
  | quits => simpa [perform, Reply.silent, Reply.remains] using Alongside.refl s
  | counts valid =>
    refine absurd ((stepCount?_isSome_iff _).mp ?_) idle
    rw [valid]
    rfl
  | proceeds => exact absurd trivial idle
  | restarts => exact absurd rfl other

/-- A call that stays and attempts nothing moves neither the machine nor the operator, and a session
that waits goes on waiting. -/
theorem remains_of_not_attempts (h : s.Stuck f) (stays : c.Stays) (still : ¬ s.Attempts c) :
    ∀ u ∈ (s.reply c).remains, s.Alongside u ∧ (s.Waits → u.Waits) := by
  have performed {command : Command} (means : s.command? c = some command) :
      ∀ u ∈ (s.perform command).remains, s.Alongside u ∧ (s.Waits → u.Waits) := by
    refine remains_perform ?_ fun executes => still (.commanded means executes)
    rintro rfl
    exact command?_ne_restart stays means
  cases c with
  | advance =>
    rcases h.hits_or_waits still with ⟨paused, hit⟩ | waits
    · have halted : s.Alongside s.pause ∧ (s.Waits → s.pause.Waits) :=
        ⟨⟨rfl, rfl, rfl⟩, fun _ => waits_pause h.debug⟩
      rw [reply, advance_of_hit h.debug paused hit]
      simpa [Reply.remains, Act.kept?] using ⟨halted, .refl s⟩
    · rw [reply, advance_of_waits waits]
      simpa [Reply.silent, Reply.remains] using Alongside.refl s
  | perform command => exact performed rfl
  | submit line =>
    cases line with
    | none => exact stays.elim
    | some line =>
      cases means : s.command? (.submit (some line)) with
      | some command =>
        rw [reply, submit_of_command means]
        exact performed means
      | none =>
        rw [reply, remains_submit_of_no_command means]
        simpa using Alongside.refl s

/-- Whatever is refused, a call that stays moves neither the machine nor the operator. -/
theorem remains (h : s.Stuck f) (stays : c.Stays) :
    ∀ u ∈ (s.reply c).remains, s.Alongside u := by
  by_cases attempts : s.Attempts c
  · obtain ⟨paused, pending, eq⟩ := attempts.exists_eq_execute h.debug
    have along : ∀ u ∈ (execute { s with paused, pending }).remains, s.Alongside u := by
      intro u mem
      have along : Alongside { s with paused, pending } u :=
        remains_execute (s := { s with paused, pending }) ⟨h.debug, h.faults⟩ u mem
      exact ⟨along.source, along.machine, along.debug⟩
    rcases eq with eq | ⟨event, eq⟩
    · rw [eq]
      exact along
    · rw [eq]
      exact along
  · exact fun u mem => (h.remains_of_not_attempts stays attempts u mem).1

/-- A call that stays and is not refused leaves a waiting session waiting. -/
theorem waits (h : s.Stuck f) (hs : s.Waits) (stays : c.Stays) : (s.reply c).session.Waits := by
  by_cases attempts : s.Attempts c
  · rw [(h.attempt attempts).1]
    exact waits_pause h.debug
  · exact (h.remains_of_not_attempts stays attempts _ List.mem_cons_self).2 hs

/-! ### Any calls -/

/-- Whatever is refused, calls that stay move neither the machine nor the operator. -/
theorem alongside_after (h : s.Stuck f) {history : List (Outlets × Call)}
    (stays : ∀ call ∈ history, call.2.Stays) : s.Alongside (s.after history) := by
  induction history generalizing s with
  | nil => exact .refl s
  | cons call history ih =>
    obtain ⟨o, c⟩ := call
    have along : s.Alongside (o.play (s.reply c)).2.1 :=
      h.remains (stays _ List.mem_cons_self) _ (o.session_play_mem_remains _)
    exact along.trans (ih (h.of_alongside along) fun call mem =>
      stays call (List.mem_cons_of_mem _ mem))

/-- When the diagnostics have no limit, calls that stay leave a waiting session waiting. -/
theorem waits_after (h : s.Stuck f) (hs : s.Waits) {history : List (Outlets × Call)}
    (stays : ∀ call ∈ history, call.2.Stays)
    (room : ∀ call ∈ history, call.1.diagnostics.room = none) : (s.after history).Waits := by
  induction history generalizing s with
  | nil => exact hs
  | cons call history ih =>
    obtain ⟨o, c⟩ := call
    have stay : c.Stays := stays _ List.mem_cons_self
    have left : (o.play (s.reply c)).2.1 = (s.reply c).session := by
      rw [Outlets.play_of_nothing (room _ List.mem_cons_self) (h.output c)]
    have along : s.Alongside (s.reply c).session := h.remains stay _ List.mem_cons_self
    have rest := ih (h.of_alongside along) (h.waits hs stay)
      (fun call mem => stays call (List.mem_cons_of_mem _ mem))
      fun call mem => room call (List.mem_cons_of_mem _ mem)
    rw [← left] at rest
    exact rest

end Stuck

/-! ## Without the operator -/

/-- Without an operator a fault ends the session.  Nothing is said, so nothing can be refused. -/
theorem result_advance_of_fault (alone : s.debug = false)
    (faults : s.machine.step.outcome = .error f) (o : Outlets) :
    (o.play s.advance).2.2 = .error (.fault f) := by
  have free : s.isPaused = false := by rw [isPaused, alone, Bool.false_and]
  have eq : s.advance = ⟨s.trace, { s with machine := s.machine.step.machine },
      .error (.fault f)⟩ := by
    rw [advance_of_free free (by simp [alone])]
    simp only [execute, faults, alone, Bool.false_eq_true, if_false]
  have accepted : (o.act s.trace).2 = none := by
    rw [Option.eq_none_iff_forall_ne_some]
    intro t refused
    have mem := Outlets.mem_kept_of_refused refused
    rw [kept_trace] at mem
    cases mem
  rw [eq, Outlets.play_eq, accepted]

/-! ## The main statement -/

/-- **A fault is recoverable and stays.**  Let the next instruction of a session under its operator
be a fault.

* A call that comes to execute it --- freely, in the middle of a counted step, or as the first
  instruction of a command --- says exactly the fault, puts nothing out, asks for a command, and
  leaves the session paused, with nothing left to execute and the machine as it was.
* From then on, whatever calls follow as long as the input does not end and the program is not
  loaded again, and whatever of their texts is refused, the machine is the same and nothing is put
  out.  If then the input ends, going on ends the session with the fault.
* When the diagnostics take everything, the session is paused with nothing left to execute after all
  these calls, and each command that executes says the fault again and leaves the session so. -/
theorem fault_is_recoverable (s : Session) (f : Fault) (hd : s.debug = true)
    (faults : s.machine.step.outcome = .error f) :
    (∀ c, s.Attempts c → ∀ o : Outlets, o.diagnostics.room = none →
      (o.play (s.reply c)).2 = ({ s with paused := true, pending := 0 }, .ok .needCommand) ∧
      (s.reply c).textOn .diagnostics = Text.line f.message ∧
      (o.play (s.reply c)).1.output = o.output) ∧
    ∀ history : List (Outlets × Call), (∀ call ∈ history, call.2.Stays) →
      let t := after { s with paused := true, pending := 0 } history
      t.machine = s.machine ∧
      (∀ c, c.Stays → ∀ o : Outlets, (o.play (t.reply c)).1.output = o.output) ∧
      (∀ o : Outlets, o.diagnostics.room = none →
        ∃ u, (o.play (t.submit none)).2 = (u, .ok .running) ∧
          ∀ o' : Outlets, (o'.play u.advance).2.2 = .error (.fault f)) ∧
      ((∀ call ∈ history, call.1.diagnostics.room = none) →
        t.isPaused = true ∧ t.hasPending = false ∧
        ∀ line command, Command.ofLine line = some (.ok command) → command.Executes →
          ∀ o : Outlets, o.diagnostics.room = none →
            (o.play (t.submit (some line))).2 = (t, .ok .needCommand) ∧
            (t.submit (some line)).textOn .diagnostics = Text.line f.message) := by
  have stuck : s.Stuck f := ⟨hd, faults⟩
  refine ⟨fun c attempts o room => ?_, fun history stays => ?_⟩
  · obtain ⟨session, result, said⟩ := stuck.attempt attempts
    refine ⟨?_, said, Outlets.output_play_of_nothing (stuck.output c) o⟩
    rw [Outlets.play_of_nothing room (stuck.output c), session, result]
    rfl
  intro t
  have paused : s.pause.Stuck f := stuck.of_alongside ⟨rfl, rfl, rfl⟩
  have along : s.pause.Alongside t := paused.alongside_after stays
  have stuck' : t.Stuck f := paused.of_alongside along
  refine ⟨along.machine, fun c _ o => Outlets.output_play_of_nothing (stuck'.output c) o,
    fun o room => ?_, fun rooms => ?_⟩
  · refine ⟨{ t with debug := false, pending := 0 }, ?_,
      result_advance_of_fault rfl stuck'.faults⟩
    exact Outlets.play_of_nothing (r := t.submit none) room rfl
  · have waits : t.Waits := paused.waits_after (waits_pause hd) stays rooms
    have held : t.isPaused = true := by rw [isPaused, waits.debug, waits.paused, Bool.and_self]
    have nothing : t.hasPending = false := by rw [hasPending, waits.pending]; rfl
    refine ⟨held, nothing, fun line command means executes o room => ?_⟩
    have carried : t.command? (.submit (some line)) = some command := by
      rw [command?, isPaused, waits.debug, waits.paused, means]
      rfl
    obtain ⟨session, result, said⟩ := stuck'.attempt (.commanded carried executes)
    refine ⟨?_, said⟩
    have same : t.pause = t := by rw [pause, ← waits.paused, ← waits.pending]
    rw [reply, same] at session
    rw [reply] at result
    rw [Outlets.play_of_nothing (r := t.submit (some line)) room (stuck'.output (.submit _)),
      session, result]

/-- A fault behind the first instruction of a program, met in the middle of a counted step.  Behind
it come a breakpoint, whose message is taken, and a counted step; then `continue` meets it again,
and so does the program when the input ends. -/
theorem fault_is_recoverable_ninetyNine :
    let image : Image := ⟨[1, 7, 1, 99], by decide⟩
    let fault : Fault := .invalidOpcode 99 3
    let s : Session :=
      ⟨.constant "broken" (.ok image), (Machine.ofImage image).next, true, true, none, 2⟩
    let o : Outlets := ⟨.empty (some 0), .empty none, none⟩
    (o.play s.advance).2 = ({ s with paused := true, pending := 0 }, .ok .needCommand) ∧
      s.advance.textOn .diagnostics = "invalid opcode: 99 at address 3\n" ∧
      let t := after { s with paused := true, pending := 0 }
        [(o, .submit (some "break")), (o, .submit (some "step 3")), (o, .advance)]
      t.machine = s.machine ∧ t.breakpoint = some 3 ∧ t.hasPending = false ∧
        (o.play (t.submit (some "continue"))).2 = (t, .ok .needCommand) ∧
        ∃ u, (o.play (t.submit none)).2 = (u, .ok .running) ∧
          (o.play u.advance).2.2 = .error (.fault fault) := by
  intro image fault s o
  have faults : s.machine.step.outcome = .error fault := by decide +kernel
  obtain ⟨meets, later⟩ := fault_is_recoverable s fault rfl faults
  obtain ⟨left, said, -⟩ := meets .advance (.counted rfl (by decide)) o rfl
  refine ⟨left, said.trans (by decide +kernel), ?_⟩
  intro t
  have stays : ∀ call ∈ [(o, Call.submit (some "break")), (o, .submit (some "step 3")),
      (o, .advance)], call.2.Stays := by
    simp only [List.mem_cons, List.not_mem_nil, or_false]
    rintro call (rfl | rfl | rfl)
    · show Command.ofLine "break" ≠ _
      decide
    · show Command.ofLine "step 3" ≠ _
      decide
    · exact trivial
  have room : ∀ call ∈ [(o, Call.submit (some "break")), (o, .submit (some "step 3")),
      (o, .advance)], call.1.diagnostics.room = none := by
    simp only [List.mem_cons, List.not_mem_nil, or_false]
    rintro call (rfl | rfl | rfl) <;> rfl
  obtain ⟨machine, -, ends, again⟩ := later _ stays
  obtain ⟨-, none_left, retries⟩ := again room
  obtain ⟨u, ended, fatal⟩ := ends o rfl
  exact ⟨machine, by decide +kernel, none_left, (retries "continue" .proceed rfl trivial o rfl).1,
    u, ended, fatal o⟩

end Session

end RegisterVM
