import RegisterVM.Proofs.Debugger.Execution

/-!
# The calls of a session

Whatever a driver does with a session is a sequence of calls.  As far as the machine is
concerned a call is one of three things: a step of the machine, a program loaded in its
place, or nothing at all.

* `Call`, `Session.reply`: the calls, and what a session replies to each.
* `Session.command?`: the command that a call has the session carry out, if any.
* `Command.Executes`: the commands that are carried out by a step.
* `Session.checked`, `Session.GoesOn`: the session after its breakpoint check, and that
  going on then means a step.
* `Reply.Moves`: what a reply comes to for the machine and for the output.
* `Session.Course`, `Session.course`: what becomes of a command, so that no proof needs to go
  through all of them again.
* `moves_reply`: a call is a step of the machine, a load in its place, or nothing.
* `length_stepped_advance_iff`, `length_stepped_reply_iff`: which calls take a step.
-/

namespace RegisterVM

/-- A line ends with its line feed. -/
theorem Text.getLast?_line (text : String) : (Text.line text).toList.getLast? = some '\n' := by
  rw [line, String.toList_append]
  exact List.getLast?_concat

/-- So does a text made of lines. -/
theorem Text.getLast?_unlines {lines : List String} (ne : lines ≠ []) :
    (Text.unlines lines).toList.getLast? = some '\n' := by
  have last : Text.unlines lines =
      Text.unlines lines.dropLast ++ Text.line (lines.getLast ne) := by
    conv_lhs => rw [← List.dropLast_concat_getLast ne]
    simp [unlines, String.join_append]
  rw [last, String.toList_append, List.getLast?_append, getLast?_line]
  rfl

/-! ## Calls -/

/-- A call that a driver makes of a session. -/
inductive Call where
  /-- To go on without the operator. -/
  | advance
  /-- To take a command line, or the end of the input. -/
  | submit (line : Option String)
  /-- To carry out a command, whether or not the session is paused. -/
  | perform (command : Command)
  deriving DecidableEq, Repr

/-- The commands that are carried out by a step: `continue`, and a step whose count is
missing or a positive number below `2 ^ 32`. -/
def Command.Executes : Command → Prop
  | .proceed | .step none => True
  | .step (some token) =>
      ∃ n, Text.Numeral.readUnsigned? token.toList = some n ∧ 0 < n ∧ n < 2 ^ 32
  | _ => False

namespace Session

/-- What a session replies to a call. -/
def reply (s : Session) : Call → Reply
  | .advance => s.advance
  | .submit line => s.submit line
  | .perform command => s.perform command

/-- The command that a call has the session carry out: of a line, the one that it means, and
only when the session is paused. -/
def command? (s : Session) : Call → Option Command
  | .advance | .submit none => none
  | .submit (some line) =>
      if s.isPaused then (Command.ofLine line).bind Except.toOption else none
  | .perform command => some command

/-- The image that a call loads. -/
def loaded? (s : Session) (c : Call) : Option Image :=
  match s.command? c with
  | some .restart => s.source.load.toOption
  | _ => none

/-- The session after its breakpoint check. -/
def checked (s : Session) : Session :=
  if s.debug = true ∧ s.paused = false ∧ s.atBreakpoint = true then s.pause else s

/-- The session goes on when nobody is asked: there is no operator, or it is not paused, or a
counted step is not yet through. -/
def GoesOn (s : Session) : Prop := s.debug = false ∨ s.paused = false ∨ 0 < s.pending

end Session

/-! ## What a reply comes to -/

/-- The reply has exactly these machines take a step, puts out exactly what they put out, and
leaves the given machine behind. -/
structure Reply.Moves (r : Reply) (steps : List Machine) (after : Machine) : Prop where
  stepped : r.stepped = steps
  output : r.textOn .output = outputText steps
  machine : r.session.machine = after

namespace Session

variable {s : Session}

theorem moves_execute (s : Session) : s.execute.Moves [s.machine] s.machine.next :=
  ⟨stepped_execute s, output_execute s, machine_execute s⟩

theorem moves_silent (s : Session) (poll : Poll) : (Reply.silent s poll).Moves [] s.machine :=
  ⟨rfl, rfl, rfl⟩

theorem moves_endInput (s : Session) : s.endInput.Moves [] s.machine := ⟨rfl, rfl, rfl⟩

/-- A reload puts the image in place of the machine, or leaves the machine alone. -/
theorem moves_reload (s : Session) :
    s.reload.Moves [] (s.source.load.toOption.elim s.machine Machine.ofImage) := by
  unfold reload
  cases s.source.load with
  | error cause => exact ⟨rfl, rfl, rfl⟩
  | ok image => exact ⟨rfl, rfl, rfl⟩

/-! ## Going on -/

/-- A session that does not go on waits. -/
theorem not_goesOn_iff : ¬ s.GoesOn ↔ s.Waits := by
  simp only [GoesOn, not_or, Bool.not_eq_false, Nat.pos_iff_ne_zero, not_not]
  exact ⟨fun h => ⟨h.1, h.2.1, h.2.2⟩, fun h => ⟨h.debug, h.paused, h.pending⟩⟩

/-- After the breakpoint check, a session that goes on takes one step. -/
theorem moves_advance_of_goesOn (h : s.checked.GoesOn) :
    s.advance.Moves [s.machine] s.machine.next := by
  by_cases hit : s.debug = true ∧ s.paused = false ∧ s.atBreakpoint = true
  · -- the check has paused the session, so it does not go on
    rw [checked, if_pos hit] at h
    rcases h with h | h | h
    · exact absurd (hit.1.symm.trans h) (by decide)
    · exact absurd h (by simp [pause])
    · exact absurd h (by simp [pause])
  · rw [checked, if_neg hit] at h
    cases hp : s.isPaused with
    | false =>
      rw [advance_of_free hp]
      · exact moves_execute s
      · intro hd
        have free : s.paused = false := by simpa [isPaused, hd] using hp
        simpa [hd, free] using hit
    | true =>
      obtain ⟨hd, paused⟩ : s.debug = true ∧ s.paused = true := by simpa [isPaused] using hp
      cases hn : s.pending with
      | zero => simp [GoesOn, hd, paused, hn] at h
      | succ left =>
        rw [advance_of_counted hd paused hn]
        exact moves_execute { s with pending := left }

/-- After the breakpoint check, a session that does not go on leaves its machine alone. -/
theorem moves_advance_of_not_goesOn (h : ¬ s.checked.GoesOn) :
    s.advance.Moves [] s.machine := by
  by_cases hit : s.debug = true ∧ s.paused = false ∧ s.atBreakpoint = true
  · rw [advance_of_hit hit.1 hit.2.1 hit.2.2]
    exact ⟨rfl, rfl, rfl⟩
  · rw [checked, if_neg hit] at h
    rw [advance_of_waits (not_goesOn_iff.mp h)]
    exact moves_silent s .needCommand

/-! ## Commands -/

/-- What becomes of a command. -/
inductive Course (s : Session) : Command → Prop
  /-- Something is said, in whole lines, and at most the breakpoint changes. -/
  | answers {c : Command} (b : Option Address) (text : String)
      (eq : s.perform c = ⟨[.write .diagnostics text { s with breakpoint := b }],
        { s with breakpoint := b }, .ok .needCommand⟩)
      (noLoad : c ≠ .restart) (whole : text.toList.getLast? = some '\n') : Course s c
  | quits : Course s .quit
  /-- The count of a step is valid. -/
  | counts {arg : Option String} {count : Nat} (valid : stepCount? arg = some count) :
      Course s (.step arg)
  | proceeds : Course s .proceed
  | restarts : Course s .restart

/-- Every command takes one of these courses. -/
theorem course (s : Session) (c : Command) : s.Course c := by
  have said {text : String} (eq : s.perform c = s.say text) (noLoad : c ≠ .restart) :
      s.Course c := .answers s.breakpoint (Text.line text) eq noLoad (Text.getLast?_line text)
  cases c with
  | quit => exact .quits
  | proceed => exact .proceeds
  | restart => exact .restarts
  | help =>
    exact .answers s.breakpoint helpText rfl nofun (Text.getLast?_unlines (List.cons_ne_nil _ _))
  | list arg | frame arg => exact said rfl nofun
  | step arg =>
    cases count : stepCount? arg with
    | some n => exact .counts count
    | none => exact said (by simp only [perform, count]; rfl) nofun
  | print arg =>
    cases arg with
    | none => exact said rfl nofun
    | some name =>
      cases named : Register.ofName? name with
      | some r => exact said (by simp only [perform, named]; rfl) nofun
      | none => exact said (by simp only [perform, named]; rfl) nofun
  | examine arg =>
    cases arg with
    | none => exact said rfl nofun
    | some token =>
      cases resolved : resolveAddress s.machine.reg token with
      | ok a => exact said (by simp only [perform, resolved]; rfl) nofun
      | error e => exact said (by simp only [perform, resolved]; rfl) nofun
  | breakAt arg =>
    cases resolved : s.breakAddress arg with
    | ok a =>
      exact .answers (some a) _ (by simp only [perform, resolved]; rfl) nofun
        (Text.getLast?_line _)
    | error e => exact said (by simp only [perform, resolved]; rfl) nofun
  | deleteBreak =>
    cases marked : s.breakpoint with
    | some a =>
      exact .answers none _ (by simp only [perform, marked]; rfl) nofun (Text.getLast?_line _)
    | none => exact said (by simp only [perform, marked]; rfl) nofun

/-- The count of a step is valid exactly when the step is carried out. -/
theorem stepCount?_isSome_iff (arg : Option String) :
    (stepCount? arg).isSome = true ↔ (Command.step arg).Executes := by
  cases arg with
  | none => simp [stepCount?, Command.Executes]
  | some token =>
    simp only [stepCount?, Command.Executes]
    cases Text.Numeral.readUnsigned? token.toList with
    | none => simp
    | some n => by_cases h : 0 < n ∧ n < 4294967296 <;> simp [h]

/-- A command that executes takes one step. -/
theorem moves_perform_of_executes {c : Command} (h : c.Executes) :
    (s.perform c).Moves [s.machine] s.machine.next := by
  cases c with
  | proceed =>
    have moves := moves_execute { s with paused := false, pending := 0 }
    exact ⟨moves.stepped, moves.output, moves.machine⟩
  | step arg =>
    obtain ⟨count, hc⟩ := Option.isSome_iff_exists.mp ((stepCount?_isSome_iff arg).mpr h)
    simp only [perform, hc]
    exact moves_execute { s with pending := count - 1 }
  | _ => exact h.elim

/-- A command that does not execute takes no step; only a restart touches the machine. -/
theorem moves_perform_of_not_executes {c : Command} (h : ¬ c.Executes) :
    (s.perform c).Moves [] ((s.loaded? (.perform c)).elim s.machine Machine.ofImage) := by
  cases s.course c with
  | answers b text eq noLoad =>
    have nothing : s.loaded? (.perform c) = none := by
      cases c with
      | restart => exact absurd rfl noLoad
      | _ => rfl
    rw [nothing, eq]
    exact ⟨rfl, rfl, rfl⟩
  | quits => exact moves_silent s _
  | counts valid =>
    refine absurd ((stepCount?_isSome_iff _).mp ?_) h
    rw [valid]
    rfl
  | proceeds => exact absurd trivial h
  | restarts => exact moves_reload s

/-- A line that carries no command leaves the session alone, and nothing is said. -/
theorem submit_of_no_command {line : String} (h : s.command? (.submit (some line)) = none) :
    (s.submit (some line)).session = s ∧ (s.submit (some line)).stepped = [] ∧
      (s.submit (some line)).textOn .output = "" := by
  unfold submit
  dsimp only
  split
  · next paused =>
    rw [command?, if_pos paused] at h
    split
    · exact ⟨rfl, rfl, rfl⟩
    · next command eq => simp [eq, Except.toOption] at h
    · exact ⟨rfl, rfl, rfl⟩
  · exact ⟨rfl, rfl, rfl⟩

/-- A line that carries no command leaves the machine alone. -/
theorem moves_submit_of_no_command {line : Option String}
    (h : s.command? (.submit line) = none) : (s.submit line).Moves [] s.machine := by
  cases line with
  | none => exact moves_endInput s
  | some line =>
    obtain ⟨session, stepped, output⟩ := submit_of_no_command h
    exact ⟨stepped, output, congrArg Session.machine session⟩

/-- A line that carries a command is that command. -/
theorem submit_of_command {line : Option String} {c : Command}
    (h : s.command? (.submit line) = some c) : s.submit line = s.perform c := by
  cases line with
  | none => simp [command?] at h
  | some line =>
    unfold command? at h
    unfold submit
    dsimp only at h ⊢
    split at h
    · next paused =>
      rw [if_pos paused]
      obtain ⟨command, eq, ok⟩ := Option.bind_eq_some_iff.mp h
      cases command with
      | error word => simp [Except.toOption] at ok
      | ok command =>
        obtain rfl : command = c := Option.some.inj ok
        rw [eq]
    · simp at h

/-- A paused session carries out the command that a line means. -/
theorem submit_of_ofLine (hd : s.debug = true) (hp : s.paused = true) {line : String}
    {c : Command} (h : Command.ofLine line = some (.ok c)) :
    s.submit (some line) = s.perform c := by
  refine submit_of_command ?_
  rw [command?, isPaused, hd, hp, h]
  rfl

/-! ## Which calls take a step -/

/-- What any call comes to: a step of the machine, and then nothing is loaded; or no step, and
then the machine is that of the load if there is one. -/
theorem moves_reply (s : Session) (c : Call) :
    (s.reply c).Moves [s.machine] s.machine.next ∧ s.loaded? c = none ∨
      (s.reply c).Moves [] ((s.loaded? c).elim s.machine Machine.ofImage) := by
  have of_command (command : Command) :
      (s.perform command).Moves [s.machine] s.machine.next ∧
          s.loaded? (.perform command) = none ∨
        (s.perform command).Moves []
          ((s.loaded? (.perform command)).elim s.machine Machine.ofImage) := by
    by_cases hc : command.Executes
    · refine Or.inl ⟨moves_perform_of_executes hc, ?_⟩
      cases command with
      | restart => exact hc.elim
      | _ => rfl
    · exact Or.inr (moves_perform_of_not_executes hc)
  cases c with
  | advance =>
    by_cases hc : s.checked.GoesOn
    · exact Or.inl ⟨moves_advance_of_goesOn hc, rfl⟩
    · exact Or.inr (moves_advance_of_not_goesOn hc)
  | perform command => exact of_command command
  | submit line =>
    cases hc : s.command? (.submit line) with
    | none =>
      have noload : s.loaded? (.submit line) = none := by rw [loaded?, hc]
      rw [noload]
      exact Or.inr (moves_submit_of_no_command hc)
    | some command =>
      have same : s.loaded? (.submit line) = s.loaded? (.perform command) := by
        rw [loaded?, loaded?, hc, command?]
      rw [same, reply, submit_of_command hc]
      exact of_command command

/-- Going on takes one step exactly when the session goes on after its breakpoint check. -/
theorem length_stepped_advance_iff (s : Session) :
    s.advance.stepped.length = 1 ↔ s.checked.GoesOn := by
  by_cases h : s.checked.GoesOn
  · simp [(moves_advance_of_goesOn h).stepped, h]
  · simp [(moves_advance_of_not_goesOn h).stepped, h]

theorem length_stepped_perform_iff (s : Session) (c : Command) :
    (s.perform c).stepped.length = 1 ↔ c.Executes := by
  by_cases h : c.Executes
  · simp [(moves_perform_of_executes (s := s) h).stepped, h]
  · simp [(moves_perform_of_not_executes (s := s) h).stepped, h]

/-- Any other call takes one step exactly when it carries out a command that executes. -/
theorem length_stepped_reply_iff {c : Call} (hc : c ≠ .advance) :
    (s.reply c).stepped.length = 1 ↔
      ∃ command, s.command? c = some command ∧ command.Executes := by
  cases c with
  | advance => exact absurd rfl hc
  | perform command => simp [reply, command?, length_stepped_perform_iff]
  | submit line =>
    cases h : s.command? (.submit line) with
    | none => simp [reply, (moves_submit_of_no_command h).stepped]
    | some command => simp [reply, submit_of_command h, length_stepped_perform_iff]

end Session

end RegisterVM
