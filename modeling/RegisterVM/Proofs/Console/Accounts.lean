import RegisterVM.Proofs.Console.Input
import RegisterVM.Proofs.Console.Unattended
import RegisterVM.Proofs.Debugger.Invariant

/-!
# The accounts of a run

The loop of the console has no measure of its own: going on asks for a command with a step or
without one, a line may be dropped, answered, or have the session step again, and the end of the
input changes the session for good.  So books are kept beside the loop, of what its rounds do and
of what they hand over, and these add up.

* A round hands over something exactly when its session asks for a command, and then it has
  written one prompt.  A round that hands over nothing takes one step.
* What was handed over are the lines of the input from the first one on.  The end of the input is
  handed over at most once, since it leaves a session without an operator, and such a session never
  asks.

Hence there are at most as many rounds as steps, lines, and one more.

* `Act.isPrompt`, `Act.Whole`: prompts, and texts that end with a line feed; the session writes
  nothing else than whole lines by itself (`whole_advance`, `whole_take`).
* `Console.handed`, `Console.round`: what a round hands over, and all that it does; `turn_eq` says
  that `Console.turn` does just this.
* `Account`, `Console.account`: the books after so many rounds; `run_eq_account` says that they
  are those of `Console.run`.
* `Account.Sound`: how the books add up, and that every round leaves it so (`Sound.extend`).
* `reads_once_a_prompt`: the main statement.
-/

namespace RegisterVM

/-! ## Prompts -/

/-- The act writes the prompt of the session that it leaves behind. -/
def Act.isPrompt : Act → Bool
  | write channel text kept => channel == .diagnostics && text == kept.prompt
  | log _ | step _ => false

/-- What the act writes ends with a line feed. -/
def Act.Whole : Act → Prop
  | write _ text _ => text.toList.getLast? = some '\n'
  | log _ | step _ => True

/-- A prompt does not end with a line feed. -/
theorem Session.getLast?_prompt (s : Session) : s.prompt.toList.getLast? = some ' ' := by
  rw [prompt, String.toList_append, List.getLast?_append]
  rfl

theorem Act.isPrompt_of_whole {a : Act} (h : a.Whole) : a.isPrompt = false := by
  cases a with
  | log event | step machine => rfl
  | write channel text kept =>
    have other : text ≠ kept.prompt := by
      rintro rfl
      rw [Whole, kept.getLast?_prompt] at h
      exact absurd (Option.some.inj h) (by decide)
    rw [isPrompt, beq_false_of_ne other, Bool.and_false]

theorem countP_isPrompt_of_whole {acts : List Act} (h : ∀ a ∈ acts, a.Whole) :
    acts.countP Act.isPrompt = 0 :=
  List.countP_eq_zero.mpr fun a mem => Bool.not_eq_true _ ▸ Act.isPrompt_of_whole (h a mem)

namespace Session

variable {s : Session}

theorem whole_trace (s : Session) : ∀ a ∈ s.trace, a.Whole := by
  unfold trace
  split <;> simp [Act.Whole]

theorem whole_execute (s : Session) : ∀ a ∈ s.execute.acts, a.Whole := by
  have traced := s.whole_trace
  have line (text : String) : (Text.line text).toList.getLast? = some '\n' :=
    Text.getLast?_line text
  unfold execute
  dsimp only
  split
  · exact traced
  · simpa [or_imp, forall_and, Act.Whole, line] using traced
  · split
    · simpa [or_imp, forall_and, Act.Whole, line] using traced
    · simpa using traced
  · split
    · simpa [or_imp, forall_and, Act.Whole, line] using traced
    · exact traced

theorem whole_advance (s : Session) : ∀ a ∈ s.advance.acts, a.Whole := by
  unfold advance
  split
  · simp [Act.Whole, Text.getLast?_line]
  · split
    · split
      · exact List.forall_mem_nil _
      · exact whole_execute _
    · exact whole_execute s

theorem whole_perform (s : Session) (c : Command) : ∀ a ∈ (s.perform c).acts, a.Whole := by
  cases s.course c with
  | answers b text eq noLoad whole =>
    rw [eq]
    simpa [Act.Whole] using whole
  | quits => exact List.forall_mem_nil _
  | counts valid =>
    simp only [perform, valid]
    exact whole_execute _
  | proceeds => exact List.forall_mem_cons.mpr ⟨trivial, whole_execute _⟩
  | restarts =>
    simp only [perform, reload]
    split <;> simp [Act.Whole]

theorem whole_submit (s : Session) (line : Option String) :
    ∀ a ∈ (s.submit line).acts, a.Whole := by
  cases h : s.command? (.submit line) with
  | some command =>
    rw [submit_of_command h]
    exact s.whole_perform command
  | none =>
    cases line with
    | none => simp [submit, endInput, Act.Whole]
    | some line =>
      unfold submit
      dsimp only
      split
      · next paused =>
        rw [command?, if_pos paused] at h
        split
        · exact List.forall_mem_nil _
        · next command eq => simp [eq, Except.toOption] at h
        · simp [Act.Whole]
      · exact List.forall_mem_nil _

/-- The line that the session is given for a line of the input.  A line that cannot be decoded
counts as the end of the input. -/
def lineOf? : Option InputLine → Option String
  | some (.text line) => some line
  | some .undecodable | none => none

/-- Taking the next line of the input is submitting it. -/
theorem session_take (s : Session) (next : Option InputLine) :
    (s.take next).session = (s.submit (lineOf? next)).session := by
  rcases next with none | line | undecodable <;> rfl

theorem result_take (s : Session) (next : Option InputLine) :
    (s.take next).result = (s.submit (lineOf? next)).result := by
  rcases next with none | line | undecodable <;> rfl

theorem whole_take (s : Session) (next : Option InputLine) :
    ∀ a ∈ (s.take next).acts, a.Whole := by
  rcases next with none | line | undecodable
  · exact s.whole_submit none
  · exact s.whole_submit (some line)
  · exact List.forall_mem_cons.mpr ⟨Text.getLast?_line _, s.whole_submit none⟩

end Session

/-! ## Rounds -/

namespace Console

variable {c : Console}

/-- What a round hands to the session: a line, or `none` at the end of the input. -/
def handed (c : Console) : List (Option String) :=
  if c.session.advance.result = .ok .needCommand then [Session.lineOf? c.input.head?] else []

/-- All that a round does: the session goes on, and when it asks for a command it is prompted and
takes one. -/
def round (c : Console) : Reply :=
  if c.session.advance.result = .ok .needCommand then
    (c.session.advance.andThen Session.ask).andThen fun s => s.take c.input.head?
  else c.session.advance

theorem round_of_asks (asks : c.session.advance.result = .ok .needCommand) :
    c.round = (c.session.advance.andThen Session.ask).andThen fun s => s.take c.input.head? :=
  if_pos asks

theorem round_of_not_asks (still : c.session.advance.result ≠ .ok .needCommand) :
    c.round = c.session.advance := if_neg still

theorem handed_of_asks (asks : c.session.advance.result = .ok .needCommand) :
    c.handed = [Session.lineOf? c.input.head?] := if_pos asks

theorem handed_of_not_asks (still : c.session.advance.result ≠ .ok .needCommand) :
    c.handed = [] := if_neg still

/-- A round of the console does just this. -/
theorem turn_eq (h : c.outlets.Unlimited) : c.turn =
    ({ session := c.round.session
       outlets := (c.outlets.act c.round.acts).1
       input := c.input.drop c.handed.length }, c.round.result) := by
  by_cases asks : c.session.advance.result = .ok .needCommand
  · have prompted : c.tick =
        ({ c with
            session := c.session.advance.session
            outlets := (c.outlets.act (c.session.advance.andThen Session.ask).acts).1 },
          .ok .needCommand) := by
      rw [tick, play_of_unlimited h, asks]
      dsimp only
      rw [play_of_unlimited (Outlets.act_of_unlimited h _).2, Reply.acts_andThen,
        Outlets.act_append_of_unlimited h]
      rfl
    rw [turn_of_prompt prompted, feed, play_of_unlimited (Outlets.act_of_unlimited h _).2,
      round_of_asks asks, handed_of_asks asks, Reply.acts_andThen _ fun s => s.take _,
      Outlets.act_append_of_unlimited h, ← List.drop_one]
    rfl
  · have ticked : c.tick = c.play c.session.advance := by
      rw [tick, play_of_unlimited h]
      split
      · next needs => exact absurd (Prod.mk.inj needs).2 asks
      · rfl
    rw [play_of_unlimited h] at ticked
    rw [turn_of_tick ticked asks, round_of_not_asks asks, handed_of_not_asks asks]
    rfl

/-- A round that asks for no command takes a step. -/
theorem length_stepped_round (still : c.session.advance.result ≠ .ok .needCommand) :
    c.round.stepped.length = 1 := by
  rw [round_of_not_asks still, Session.length_stepped_advance_iff]
  by_contra stays
  refine still ?_
  by_cases hit : c.session.debug = true ∧ c.session.paused = false ∧ c.session.atBreakpoint = true
  · rw [Session.advance_of_hit hit.1 hit.2.1 hit.2.2]
  · rw [Session.checked, if_neg hit] at stays
    rw [Session.advance_of_waits (Session.not_goesOn_iff.mp stays)]
    rfl

/-- A round writes one prompt for each thing that it hands over. -/
theorem countP_isPrompt_round (c : Console) :
    c.round.acts.countP Act.isPrompt = c.handed.length := by
  have advanced : c.session.advance.acts.countP Act.isPrompt = 0 :=
    countP_isPrompt_of_whole c.session.whole_advance
  by_cases asks : c.session.advance.result = .ok .needCommand
  · have taken : (c.session.advance.session.take c.input.head?).acts.countP Act.isPrompt = 0 :=
      countP_isPrompt_of_whole (Session.whole_take _ _)
    have asked : c.session.advance.session.ask.acts.countP Act.isPrompt = 1 := by
      simp [Session.ask, Act.isPrompt]
    rw [round_of_asks asks, handed_of_asks asks, Reply.acts_andThen, Reply.acts_andThen,
      List.countP_append, List.countP_append, advanced, asked]
    exact congrArg (0 + 1 + ·) taken
  · rw [round_of_not_asks asks, handed_of_not_asks asks, advanced, List.length_nil]

/-- Without an operator a round hands over nothing, and the operator does not come back. -/
theorem round_alone (alone : c.session.debug = false) :
    c.session.advance.result ≠ .ok .needCommand ∧ c.round.session.debug = false := by
  have still : c.session.advance.result ≠ .ok .needCommand := by
    rw [Session.advance_alone alone]
    exact Session.result_execute_of_no_operator alone
  refine ⟨still, ?_⟩
  rw [round_of_not_asks still, Session.advance_alone alone,
    (Session.execute_alone alone (r := .start _) rfl).1]
  exact alone

end Console

/-! ## Books -/

/-- The books of a run: the console that it has come to, and what was done and handed over on the
way there. -/
structure Account where
  console : Console
  acts : List Act
  handed : List (Option String)
  /-- None as long as the run goes on. -/
  answer : Option (Except SessionError Exit)

namespace Account

variable {a : Account} {c : Console}

/-- The books of a run that has not begun. -/
def start (c : Console) : Account := ⟨c, [], [], none⟩

/-- The books with one more round. -/
def next (a : Account) : Account :=
  ⟨a.console.turn.1, a.acts ++ a.console.round.acts, a.handed ++ a.console.handed,
    Console.ending? a.console.turn.2⟩

/-- The machines that took a step: one entry for each step. -/
def steps (a : Account) : List Machine := a.acts.filterMap Act.stepped?

/-- How many prompts were written. -/
def prompts (a : Account) : Nat := a.acts.countP Act.isPrompt

theorem steps_next (a : Account) : a.next.steps = a.steps ++ a.console.round.stepped :=
  List.filterMap_append

theorem prompts_next (a : Account) : a.next.prompts = a.prompts + a.console.handed.length := by
  rw [prompts, next, List.countP_append, Console.countP_isPrompt_round]
  rfl

/-- What was handed over are lines of the given input, from the first one on.  Behind the end of the
input nothing is, since then the session has no operator any more. -/
inductive Reads (input : List InputLine) (a : Account) : Prop
  | lines (lines : List String) (handed : a.handed = lines.map some)
      (split : input = lines.map .text ++ a.console.input)
  | ended (lines : List String) (rest : List InputLine)
      (handed : a.handed = lines.map some ++ [none])
      (split : input = lines.map .text ++ rest) (ends : Console.EndsInput rest)
      (alone : a.console.session.debug = false)

/-- The books add up: they say what was written, there is a prompt for each thing handed over, and
these are the lines of the input. -/
structure Sound (c : Console) (a : Account) : Prop where
  unlimited : a.console.outlets.Unlimited
  outlets : a.console.outlets = (c.outlets.act a.acts).1
  prompts : a.prompts = a.handed.length
  reads : a.Reads c.input

theorem sound_start (h : c.outlets.Unlimited) : Sound c (start c) where
  unlimited := h
  outlets := rfl
  prompts := rfl
  reads := .lines [] rfl rfl

/-- A round that is told of the next line of the input reads it. -/
theorem Reads.next {input : List InputLine} (h : a.Reads input)
    (unlimited : a.console.outlets.Unlimited) : a.next.Reads input := by
  have turned := Console.turn_eq unlimited
  by_cases asks : a.console.session.advance.result = .ok .needCommand
  · have handed : a.next.handed = a.handed ++ [Session.lineOf? a.console.input.head?] := by
      rw [Account.next, Console.handed_of_asks asks]
    have input_eq : a.next.console.input = a.console.input.tail := by
      rw [Account.next, turned, Console.handed_of_asks asks, ← List.drop_one]
      rfl
    have session_eq : a.next.console.session =
        (a.console.session.advance.session.take a.console.input.head?).session := by
      rw [Account.next, turned, Console.round_of_asks asks]
      rfl
    cases h with
    | ended lines rest handed split ends alone => exact absurd asks (Console.round_alone alone).1
    | lines lines before split =>
      cases eq : a.console.input with
      | nil =>
        rw [before, eq] at handed
        rw [eq] at split session_eq
        exact .ended lines [] handed split (.inl rfl) (session_eq ▸ rfl)
      | cons first rest =>
        rw [before, eq] at handed
        rw [eq] at split input_eq session_eq
        cases first with
        | undecodable => exact .ended lines _ handed split (.inr rfl) (session_eq ▸ rfl)
        | text line =>
          refine .lines (lines ++ [line]) ?_ ?_
          · rw [handed, List.map_append]
            rfl
          · rw [split, input_eq, List.map_append, List.append_assoc]
            rfl
  · have handed : a.next.handed = a.handed := by
      rw [Account.next, Console.handed_of_not_asks asks, List.append_nil]
    have input_eq : a.next.console.input = a.console.input := by
      rw [Account.next, turned, Console.handed_of_not_asks asks]
      rfl
    cases h with
    | lines lines before split => exact .lines lines (handed.trans before) (input_eq ▸ split)
    | ended lines rest before split ends alone =>
      refine .ended lines rest (handed.trans before) split ends ?_
      rw [Account.next, turned]
      exact (Console.round_alone alone).2

/-- Every round leaves the books sound. -/
theorem Sound.next (h : Sound c a) (unlimited : c.outlets.Unlimited) : Sound c a.next := by
  have turned := Console.turn_eq h.unlimited
  have outlets : a.next.console.outlets = (c.outlets.act a.next.acts).1 := by
    rw [Account.next, turned, Outlets.act_append_of_unlimited unlimited, ← h.outlets]
  refine ⟨?_, outlets, ?_, h.reads.next h.unlimited⟩
  · rw [outlets]
    exact (Outlets.act_of_unlimited unlimited _).2
  · rw [prompts_next, h.prompts, Account.next, List.length_append]

/-- The end of the input is only handed over to a session that then has no operator. -/
theorem Reads.alone {input : List InputLine} (h : a.Reads input) (ended : none ∈ a.handed) :
    a.console.session.debug = false := by
  cases h with
  | lines lines handed split => simp [handed] at ended
  | ended lines rest handed split ends alone => exact alone

/-- Nothing more is handed over than there are lines, and the end of the input. -/
theorem Reads.length_handed_le {input : List InputLine} (h : a.Reads input) :
    a.handed.length ≤ input.length + 1 := by
  cases h with
  | lines lines handed split =>
    rw [handed, split, List.length_append, List.length_map, List.length_map]
    omega
  | ended lines rest handed split ends alone =>
    rw [handed, split, List.length_append, List.length_append, List.length_map, List.length_map,
      List.length_singleton]
    omega

/-- The second account is the first one with one thing handed over, and this was submitted to the
session. -/
structure Hands (a b : Account) (s : Session) (line : Option String) : Prop where
  handed : b.handed = a.handed ++ [line]
  session : b.console.session = (s.submit line).session
  answer : b.answer = Console.ending? (s.submit line).result

/-- A round hands over nothing and takes a step, or hands over one thing to a session that
waits. -/
theorem next_cases (unlimited : a.console.outlets.Unlimited) :
    a.next.handed = a.handed ∧ a.next.console.input = a.console.input ∧
        a.next.steps.length = a.steps.length + 1 ∨
      (∃ line, a.Hands a.next a.console.session.advance.session line) ∧
        a.console.session.advance.session.Waits ∧ a.steps.length ≤ a.next.steps.length := by
  have turned := Console.turn_eq unlimited
  rw [steps_next, List.length_append]
  by_cases asks : a.console.session.advance.result = .ok .needCommand
  · refine .inr ⟨⟨Session.lineOf? a.console.input.head?, ?_, ?_, ?_⟩,
      Session.waits_of_asks asks, Nat.le_add_right _ _⟩
    · rw [Account.next, Console.handed_of_asks asks]
    · rw [Account.next, turned, Console.round_of_asks asks]
      exact Session.session_take _ _
    · rw [Account.next, turned, Console.round_of_asks asks]
      exact congrArg Console.ending? (Session.result_take _ _)
  · refine .inl ⟨?_, ?_, ?_⟩
    · rw [Account.next, Console.handed_of_not_asks asks, List.append_nil]
    · rw [Account.next, turned, Console.handed_of_not_asks asks]
      rfl
    · rw [Console.length_stepped_round asks]

end Account

namespace Console

variable {c : Console} {n : Nat}

/-- The books after so many rounds, fewer if the run has ended before. -/
def account (c : Console) : Nat → Account
  | 0 => .start c
  | n + 1 => if (c.account n).answer.isSome then c.account n else (c.account n).next

theorem account_succ (going : (c.account n).answer = none) :
    c.account (n + 1) = (c.account n).next := by
  rw [account, going]
  rfl

theorem account_add_of_answered (h : (c.account n).answer.isSome = true) (m : Nat) :
    c.account (n + m) = c.account n := by
  induction m with
  | zero => rfl
  | succ m ih => rw [← Nat.add_assoc, account, ih, if_pos h]

/-- A run that goes on has gone on before. -/
theorem going_of_succ (going : (c.account (n + 1)).answer = none) :
    (c.account n).answer = none := by
  cases before : (c.account n).answer with
  | none => rfl
  | some answer =>
    rw [account_add_of_answered (by rw [before]; rfl) 1, before] at going
    cases going

/-- What holds of a run that has not begun, and is left by every round, holds of all books. -/
theorem account_induction {p : Account → Prop} (begins : p (.start c))
    (goes : ∀ a, p a → p a.next) (n : Nat) : p (c.account n) := by
  induction n with
  | zero => exact begins
  | succ n ih =>
    rw [account]
    split
    · exact ih
    · exact goes _ ih

/-- A run that has not ended goes on from the console of its books. -/
theorem run_add_of_going (going : (c.account n).answer = none) (m : Nat) :
    c.run (n + m) = (c.account n).console.run m := by
  induction n generalizing m with
  | zero =>
    rw [Nat.zero_add]
    rfl
  | succ n ih =>
    have before := going_of_succ going
    rw [account_succ before] at going ⊢
    rw [Nat.add_assoc, Nat.add_comm 1, ih before, run_succ]
    exact resume_of_open going

/-- The books are those of the run. -/
theorem run_eq_account (c : Console) (n : Nat) :
    c.run n = (c.account n).answer.map fun answer => ((c.account n).console, answer) := by
  induction n with
  | zero => rfl
  | succ n ih =>
    cases before : (c.account n).answer with
    | some answer =>
      rw [before] at ih
      rw [account_add_of_answered (by rw [before]; rfl) 1, before]
      exact run_mono ih
    | none =>
      rw [run_add_of_going before 1, run_succ, account_succ before]
      cases ended : ending? (c.account n).console.turn.2 with
      | none =>
        rw [resume_of_open ended, Account.next, ended]
        rfl
      | some answer =>
        rw [resume_of_ends ended, Account.next, ended]
        rfl

section Unlimited

variable (h : c.outlets.Unlimited)
include h

theorem sound_account (n : Nat) : (c.account n).Sound c :=
  account_induction (Account.sound_start h) (fun _ sound => sound.next h) n

/-- As long as a run goes on, each of its rounds has taken a step or handed something over. -/
theorem le_steps_add_handed (going : (c.account n).answer = none) :
    n ≤ (c.account n).steps.length + (c.account n).handed.length := by
  induction n with
  | zero => exact Nat.zero_le _
  | succ n ih =>
    have before := going_of_succ going
    have le := ih before
    rw [account_succ before]
    rcases Account.next_cases (sound_account h n).unlimited with
      ⟨handed, -, steps⟩ | ⟨⟨line, hands⟩, -, steps⟩
    · rw [handed, steps]
      omega
    · rw [hands.handed, List.length_append, List.length_singleton]
      omega

/-- Behind the end of the input nothing is handed over. -/
theorem handed_add_of_ended (ended : none ∈ (c.account n).handed) (m : Nat) :
    (c.account (n + m)).handed = (c.account n).handed := by
  induction m with
  | zero => rfl
  | succ m ih =>
    rw [← Nat.add_assoc, account]
    split
    · exact ih
    · have alone : (c.account (n + m)).console.session.debug = false :=
        (sound_account h (n + m)).reads.alone (ih ▸ ended)
      rw [Account.next, handed_of_not_asks (round_alone alone).1, List.append_nil, ih]

/-- When the machine takes at most `k` steps, the run ends within as many rounds, one more for each
line, and one for the end of the input. -/
theorem exists_answer_of_steps_le {k : Nat} (bound : ∀ n, (c.account n).steps.length ≤ k) :
    ∃ answer, c.run (k + c.input.length + 1) = some answer := by
  cases answer : (c.account (k + c.input.length + 1)).answer with
  | some x =>
    rw [run_eq_account, answer]
    exact ⟨_, rfl⟩
  | none =>
    -- the next round would be one too many
    exfalso
    have rounds := le_steps_add_handed h answer
    have next := account_succ answer
    have steps := bound (k + c.input.length + 1 + 1)
    have handed := (sound_account h (k + c.input.length + 1 + 1)).reads.length_handed_le
    rw [next] at steps handed
    rcases Account.next_cases (sound_account h (k + c.input.length + 1)).unlimited with
      ⟨same, -, more⟩ | ⟨⟨line, hands⟩, -, le⟩
    · rw [more] at steps
      rw [same] at handed
      omega
    · rw [hands.handed, List.length_append, List.length_singleton] at handed
      omega

end Unlimited

/-! ## The main statement -/

/-- **Input is read once a prompt, and no round is idle.**  Let a session run on any bytes as its
command input, at sinks that never fail.  The bytes are cut into their lines, and of the books of
any number of rounds the following holds.

* They are those of the run, and say what it has written.
* What was handed over are the decoded lines of the input from the first one on, each with one
  prompt; or all lines in front of the end of the input, and then the end, with one prompt more.
  The end is that of the bytes or a line that cannot be decoded, and no prompt is ever written
  behind it.
* As long as the run goes on, the next round takes exactly one step and reads nothing, or submits
  exactly one thing, and only to a session that is paused with nothing left to execute.

So a run whose machine takes at most `k` steps ends within `k` rounds, one more for each line, and
one for the end of the input. -/
theorem reads_once_a_prompt (s : Session) (verbosity : Option Level) (bytes : ByteArray) :
    let c : Console := ⟨s, ⟨.empty none, .empty none, verbosity⟩, InputLine.ofBytes bytes⟩
    IsLines bytes.toList (cutLines bytes.toList) ∧
    (∀ n,
      let a := c.account n
      let b := c.account (n + 1)
      c.run n = a.answer.map (fun answer => (a.console, answer)) ∧
      a.console.outlets = (c.outlets.act a.acts).1 ∧
      (∃ (lines : List String) (rest : List InputLine), c.input = lines.map .text ++ rest ∧
        (a.handed = lines.map some ∧ a.prompts = lines.length ∧ a.console.input = rest ∨
          a.handed = lines.map some ++ [none] ∧ a.prompts = lines.length + 1 ∧ EndsInput rest ∧
            ∀ m, (c.account (n + m)).prompts = a.prompts)) ∧
      (a.answer = none →
        b.handed = a.handed ∧ b.console.input = a.console.input ∧
            b.steps.length = a.steps.length + 1 ∨
          (∃ line, a.Hands b a.console.session.advance.session line) ∧
            a.console.session.advance.session.isPaused = true ∧
            a.console.session.advance.session.hasPending = false)) ∧
    ∀ k, (∀ n, (c.account n).steps.length ≤ k) →
      ∃ answer, c.run (k + c.input.length + 1) = some answer := by
  intro c
  have unlimited : c.outlets.Unlimited := Outlets.unlimited_empty verbosity
  refine ⟨isLines_cutLines _, fun n => ?_, fun k => exists_answer_of_steps_le unlimited⟩
  intro a b
  have sound : a.Sound c := sound_account unlimited n
  refine ⟨run_eq_account c n, sound.outlets, ?_, fun going => ?_⟩
  · cases sound.reads with
    | lines lines handed split =>
      refine ⟨lines, _, split, .inl ⟨handed, ?_, rfl⟩⟩
      rw [sound.prompts, handed, List.length_map]
    | ended lines rest handed split ends alone =>
      refine ⟨lines, rest, split, .inr ⟨handed, ?_, ends, fun m => ?_⟩⟩
      · rw [sound.prompts, handed, List.length_append, List.length_map, List.length_singleton]
      · have still : (c.account (n + m)).handed = a.handed :=
          handed_add_of_ended unlimited (by simp [a, handed]) m
        rw [sound.prompts, (sound_account unlimited (n + m)).prompts, still]
  · have next : b = a.next := account_succ going
    rw [next]
    rcases Account.next_cases sound.unlimited with still | ⟨hands, waits, -⟩
    · exact .inl still
    · refine .inr ⟨hands, ?_, ?_⟩
      · rw [Session.isPaused, waits.debug, waits.paused]
        rfl
      · rw [Session.hasPending, waits.pending]
        rfl

/-- The program seven is given a line that is no command, and then a step without a line feed behind
it.  The run takes three steps and three prompts, and ends within six rounds. -/
theorem reads_once_a_prompt_seven :
    let s : Session := ⟨.constant "seven" (.ok .seven), .ofImage .seven, true, true, none, 0⟩
    let bytes : ByteArray := "zap\nstep".toUTF8
    let c : Console := ⟨s, ⟨.empty none, .empty none, none⟩, InputLine.ofBytes bytes⟩
    (c.account 6).handed = [some "zap\n", some "step", none] ∧ (c.account 6).prompts = 3 ∧
      (c.account 6).steps.length = 3 ∧
      ∃ answer, c.run (3 + c.input.length + 1) = some answer := by
  intro s bytes c
  have answered : (c.account 6).answer.isSome = true := by decide +kernel
  have begins : ∀ n < 6, (c.account n).steps.length ≤ 3 := by decide +kernel
  have bound (n : Nat) : (c.account n).steps.length ≤ 3 := by
    rcases Nat.lt_or_ge n 6 with lt | ge
    · exact begins n lt
    · rw [← Nat.add_sub_cancel' ge, account_add_of_answered answered]
      decide +kernel
  obtain ⟨-, books, ends⟩ := reads_once_a_prompt s none bytes
  exact ⟨by decide +kernel, by decide +kernel, by decide +kernel, ends 3 bound⟩

end Console

end RegisterVM
