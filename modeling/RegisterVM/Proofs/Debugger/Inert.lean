import RegisterVM.Proofs.Console.Refusal
import RegisterVM.Proofs.Console.Unlimited
import RegisterVM.Proofs.Debugger.Arguments
import RegisterVM.Proofs.Debugger.Calls
import RegisterVM.Proofs.Text.Words

/-!
# Lines that a session only answers

Most commands only look at the machine, and the others have arguments that they refuse.  A line
of either kind is answered, and the session is the one that it was: a register that was printed
is not read, as far as the program is concerned.

Whether a line is of this kind must not depend on the session, or a line could be left out of
one run and not of another.  So `break` with the name of a register does not belong here, even
where the register holds no address: elsewhere it may hold one.

* `Command.Idle`, `Inert`: the commands and the lines that are only answered.
* `Reply.Answers`: a reply that answers and leaves the session as it is.
* `answers_perform`, `answers_submit`: the answers to such a command, and to such a line.
* `Reply.Answers.play`, `result_play`: what such an answer comes to on the outlets.
-/

namespace RegisterVM

/-! ## Commands and lines -/

/-- The token is an address literal: digits alone, blanks around them ignored, and below the
size of memory. -/
def IsAddressLiteral (token : String) : Prop :=
  ∃ n, Text.Numeral.readNatural? (Text.trim token).toList = some n ∧ n < 500

/-- The commands that are only answered, whatever the state of the session: those that look at
something, a step without a valid count, and a break at what is neither a register nor an
address literal. -/
def Command.Idle : Command → Prop
  | .help | .list _ | .frame _ | .print _ | .examine _ => True
  | .step arg => ¬ (Command.step arg).Executes
  | .breakAt (some token) => Register.ofName? token = none ∧ ¬ IsAddressLiteral token
  | .breakAt none | .quit | .proceed | .restart | .deleteBreak => False

/-- The line is blank, has an unknown word, or means a command that is only answered. -/
def Inert (line : String) : Prop :=
  ∀ command, Command.ofLine line = some (.ok command) → command.Idle

/-! ## Answers -/

/-- The reply leaves the session as it is and asks for the next command.  It says at most one
text, to the operator, or logs at most one event. -/
structure Reply.Answers (r : Reply) (s : Session) : Prop where
  session : r.session = s
  result : r.result = .ok .needCommand
  acts : r.acts = [] ∨ (∃ event, r.acts = [.log event]) ∨
    ∃ text, r.acts = [.write .diagnostics text s]

namespace Session

variable {s : Session}

theorem answers_say (s : Session) (text : String) : (s.say text).Answers s :=
  ⟨rfl, rfl, .inr (.inr ⟨_, rfl⟩)⟩

/-- What is neither a register nor an address literal resolves to no address. -/
theorem exists_breakAddress_eq_error {token : String}
    (idle : (Command.breakAt (some token)).Idle) :
    ∃ e, s.breakAddress (some token) = .error e := by
  obtain ⟨unnamed, noLiteral⟩ := idle
  have noName := Register.ofLetters?_eq_none_iff.mp unnamed
  have rules := addressOf_resolveAddress s.machine.reg token
  cases found : s.breakAddress (some token) with
  | error e => exact ⟨e, rfl⟩
  | ok a =>
    change resolveAddress s.machine.reg token = .ok a at found
    rw [found] at rules
    generalize chars : Text.trimBlanks token.toList = typed at rules noName
    cases rules with
    | held named => exact absurd named (noName _)
    | literal _ isDigits inside =>
      refine absurd ⟨_, ?_, inside ▸ a.isLt⟩ noLiteral
      rw [Text.trim, String.toList_ofList, chars]
      exact Text.Numeral.readNatural?_eq_some_iff.mpr ⟨isDigits, rfl⟩

/-- An idle command is answered. -/
theorem answers_perform {c : Command} (idle : c.Idle) : (s.perform c).Answers s := by
  cases c with
  | help => exact ⟨rfl, rfl, .inr (.inr ⟨_, rfl⟩)⟩
  | list arg | frame arg => exact s.answers_say _
  | print arg =>
    cases arg with
    | none => exact s.answers_say _
    | some name =>
      simp only [perform]
      split <;> exact s.answers_say _
  | examine arg =>
    cases arg with
    | none => exact s.answers_say _
    | some token =>
      simp only [perform]
      split <;> exact s.answers_say _
  | step arg =>
    have invalid : stepCount? arg = none := by
      rw [← Option.not_isSome_iff_eq_none, stepCount?_isSome_iff]
      exact idle
    simp only [perform, invalid]
    exact s.answers_say _
  | breakAt arg =>
    cases arg with
    | none => exact idle.elim
    | some token =>
      obtain ⟨e, refused⟩ := exists_breakAddress_eq_error (s := s) idle
      simp only [perform, refused]
      exact s.answers_say _
  | quit | proceed | restart | deleteBreak => exact idle.elim

/-- A paused session answers an inert line. -/
theorem answers_submit {line : String} (paused : s.isPaused = true) (inert : Inert line) :
    (s.submit (some line)).Answers s := by
  simp only [submit, if_pos paused]
  split
  · exact ⟨rfl, rfl, .inl rfl⟩
  · next command eq => exact answers_perform (inert command eq)
  · next word eq => exact ⟨rfl, rfl, .inr (.inl ⟨_, rfl⟩)⟩

end Session

namespace Reply.Answers

variable {r : Reply} {s : Session} {o : Outlets}

/-- An answer puts nothing out. -/
theorem output (h : r.Answers s) : r.textOn .output = "" := by
  unfold textOn
  rcases h.acts with eq | ⟨event, eq⟩ | ⟨text, eq⟩
  · rw [eq]
    rfl
  · rw [eq]
    rfl
  · rw [eq]
    rfl

/-- Whatever the outlets take of an answer, it leaves the session and the output sink alone. -/
theorem play (h : r.Answers s) (o : Outlets) :
    (o.play r).2.1 = s ∧ (o.play r).1.output = o.output := by
  rw [Outlets.play_eq, h.session]
  rcases h.acts with eq | ⟨event, eq⟩ | ⟨text, eq⟩
  · rw [eq]
    exact ⟨rfl, rfl⟩
  · rw [eq]
    exact ⟨rfl, Outlets.sink_log (.inl rfl) event⟩
  · rw [eq, Outlets.act]
    cases (o.sink .diagnostics).fits text with
    | true => exact ⟨rfl, rfl⟩
    | false => exact ⟨rfl, rfl⟩

/-- An answer that is taken asks for the next command. -/
theorem result_play (h : r.Answers s) (taken : (o.act r.acts).2 = none) :
    (o.play r).2.2 = .ok .needCommand := by
  rw [Outlets.play_eq, taken]
  exact h.result

end Reply.Answers

end RegisterVM
