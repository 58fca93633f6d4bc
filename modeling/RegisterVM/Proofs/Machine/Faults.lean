import RegisterVM.Proofs.Machine.Encoding
import RegisterVM.Proofs.Machine.InPlace
import RegisterVM.Proofs.Machine.Iteration

/-!
# The faults of a step

A step faults for four reasons: nothing can be decoded, the tag is none of the table, a
division is by zero, or the effective address of an access lies outside memory.  Each reason
names its fault, and a step faults exactly when there is a reason, with exactly that fault.

* `Instruction.address?`: the effective address of an instruction that accesses memory.
* `Machine.Faults`: the reasons, one constructor each.
* `execute_eq_error_iff`: the reasons of a decoded instruction.
* `step_eq_error_iff`: the reasons of a step.
* `step_faults_exactly`: the main statement, which adds that a fault and a halt leave no trace,
  also not in storage that is written piece by piece, and so repeat themselves forever.
-/

namespace RegisterVM

/-- A word that is the address of no cell. -/
def Word.IsOutside (w : Word) : Prop := w.toInt < 0 ∨ 500 ≤ w.toInt

/-- The effective address of an instruction that accesses memory, in wrapping arithmetic. -/
def Instruction.address? (m : Machine) : Instruction → Option Word
  | ld ra _ | st ra _ => some (m.reg ra)
  | push _ => some (m.reg .sp)
  | pop _ => some (m.reg .sp - 1)
  | ldlo imm _ | stlo imm _ => some (m.reg .fp + imm)
  | _ => none

/-- Why the next step of a machine is a fault, and which one. -/
inductive Machine.Faults (m : Machine) : Fault → Prop
  /-- Nothing can be decoded at the instruction pointer. -/
  | undecodable {f : Fault} (decoded : m.current = .error f) : m.Faults f
  /-- The word at the instruction pointer is the tag of no instruction. -/
  | opcode {a : Address} (place : m.ip.toInt = a.val) (noTag : (m.cell a).IsNoTag) :
      m.Faults (.invalidOpcode (m.cell a) m.ip)
  /-- A division is by zero, whatever is divided and wherever the quotient goes. -/
  | division {rs rd : Register} (decoded : m.current = .ok (.idiv rs rd))
      (zero : m.reg rs = 0) : m.Faults (.divisionByZero m.ip)
  /-- The effective address is the address of no cell. -/
  | access {i : Instruction} {w : Word} (decoded : m.current = .ok i)
      (address : i.address? m = some w) (outside : w.IsOutside) :
      m.Faults (.addressOutOfRange w m.ip)

variable {m : Machine} {i : Instruction} {f : Fault}

/-! ## Reasons -/

/-- An access that is followed by nothing that can fail faults when its address does. -/
theorem bind_pure_eq_error_iff {α β : Type} {x : Except Fault α} {g : α → β} :
    (do let a ← x; pure (g a)) = Except.error f ↔ x = .error f := by
  cases x with
  | error e => simp [bind, Except.bind]
  | ok a => simp [bind, Except.bind, pure, Except.pure]

theorem pure_ne_error {α : Type} (a : α) : (pure a : Except Fault α) ≠ .error f := by
  simp [pure, Except.pure]

theorem throw_eq_error_iff {α : Type} {g : Fault} :
    (throw g : Except Fault α) = .error f ↔ f = g := by
  simp [throw, throwThe, MonadExceptOf.throw, eq_comm]

/-- The reasons of an instruction that has been decoded. -/
theorem Instruction.execute_eq_error_iff : i.execute m = .error f ↔
    (∃ tag, i = .invalid tag ∧ f = .invalidOpcode tag m.ip) ∨
      (∃ rs rd, i = .idiv rs rd ∧ m.reg rs = 0 ∧ f = .divisionByZero m.ip) ∨
      ∃ w, i.address? m = some w ∧ w.IsOutside ∧ f = .addressOutOfRange w m.ip := by
  cases i with
  | idiv rs rd =>
    simp only [execute, Word.quotient?]
    by_cases zero : m.reg rs = 0
    · simp [zero, throw_eq_error_iff, address?]
    · simp [zero, pure_ne_error, address?]
  | invalid tag => simp [execute, throw_eq_error_iff, address?]
  | ld _ _ | st _ _ | push _ | pop _ | ldlo _ _ | stlo _ _ =>
    simp only [execute, bind_pure_eq_error_iff, Address.require_eq_error_iff]
    simp [address?, Word.IsOutside]
  | _ => simp [execute, pure_ne_error, address?]

namespace Machine

/-- A step faults when nothing can be decoded or what is decoded cannot be executed. -/
theorem outcome_eq_error_iff : m.step.outcome = .error f ↔
    m.current = .error f ∨ ∃ i, m.current = .ok i ∧ i.execute m = .error f := by
  unfold step
  cases m.current with
  | error g => simp [Except.bind]
  | ok i =>
    cases eq : i.execute m with
    | error g => simp [Except.bind, eq]
    | ok done => simp [Except.bind, eq]

/-- A step faults exactly when there is a reason, with the fault of this reason. -/
theorem step_eq_error_iff : m.step.outcome = .error f ↔ m.Faults f := by
  rw [outcome_eq_error_iff]
  constructor
  · rintro (decoded | ⟨i, decoded, refused⟩)
    · exact .undecodable decoded
    · rcases Instruction.execute_eq_error_iff.mp refused with
        ⟨tag, rfl, rfl⟩ | ⟨rs, rd, rfl, zero, rfl⟩ | ⟨w, address, outside, rfl⟩
      · obtain ⟨a, place, rfl, noTag⟩ := decode_eq_invalid_iff.mp decoded
        exact .opcode place noTag
      · exact .division decoded zero
      · exact .access decoded address outside
  · intro reason
    cases reason with
    | undecodable decoded => exact .inl decoded
    | opcode place noTag =>
      have decoded : m.current = .ok (.invalid _) :=
        decode_eq_invalid_iff.mpr ⟨_, place, rfl, noTag⟩
      exact .inr ⟨_, decoded, Instruction.execute_eq_error_iff.mpr (.inl ⟨_, rfl, rfl⟩)⟩
    | division decoded zero =>
      exact .inr ⟨_, decoded,
        Instruction.execute_eq_error_iff.mpr (.inr (.inl ⟨_, _, rfl, zero, rfl⟩))⟩
    | access decoded address outside =>
      exact .inr ⟨_, decoded,
        Instruction.execute_eq_error_iff.mpr (.inr (.inr ⟨_, address, outside, rfl⟩))⟩

/-! ## No trace -/

/-- What a fault leaves in the storage is what was there. -/
theorem stepInPlace_eq_error_iff {after : Machine} :
    m.stepInPlace = .error f after ↔ m.step.outcome = .error f ∧ after = m := by
  rw [stepInPlace_eq, Step.inPlace]
  cases eq : m.step.outcome with
  | ok outcome => simp
  | error g =>
    rw [machine_step_of_error eq]
    simp [eq_comm]

/-- What a halt leaves in the storage is what was there. -/
theorem stepInPlace_eq_halt_iff {after : Machine} :
    m.stepInPlace = .ok .halt after ↔ m.step.outcome = .ok .halt ∧ after = m := by
  rw [stepInPlace_eq, Step.inPlace]
  cases eq : m.step.outcome with
  | error g => simp
  | ok outcome =>
    by_cases halt : outcome = .halt
    · rw [halt] at eq ⊢
      rw [machine_step_of_halt eq]
      simp [eq_comm]
    · simp [halt]

/-- A machine that has come to its end is there after any number of steps. -/
theorem iterate_next_of_ends (h : m.Ends) (n : Nat) : next^[n] m = m :=
  Function.iterate_fixed (next_of_ends h) n

/-! ## The main statement -/

/-- **A step faults exactly for its reasons, and without a trace.**

* The step is a fault exactly when there is a reason for this fault.
* Carried out in storage, write by write, it is a fault exactly then too, and the storage is
  left as it was; so it is by a halt.
* A machine whose step halts or faults halts or faults in the same way ever after. -/
theorem step_faults_exactly (m : Machine) :
    (∀ f, m.step.outcome = .error f ↔ m.Faults f) ∧
    (∀ f after, m.stepInPlace = .error f after ↔ m.Faults f ∧ after = m) ∧
    (∀ after, m.stepInPlace = .ok .halt after ↔ m.step.outcome = .ok .halt ∧ after = m) ∧
    (m.Ends → ∀ n, next^[n] m = m ∧ (next^[n] m).step.outcome = m.step.outcome ∧
      (next^[n] m).stepInPlace = m.stepInPlace) := by
  refine ⟨fun f => step_eq_error_iff, fun f after => ?_,
    fun after => stepInPlace_eq_halt_iff, fun ends n => ?_⟩
  · rw [stepInPlace_eq_error_iff, step_eq_error_iff]
  · have still := iterate_next_of_ends ends n
    exact ⟨still, by rw [still], by rw [still]⟩

/-- A pop from the bottom of memory, which would have moved the stack pointer first. -/
theorem step_faults_exactly_pop :
    let m := (blank.setCell 0 16).setCell 1 1
    m.Faults (.addressOutOfRange (-1) 0) ∧
      m.stepInPlace = .error (.addressOutOfRange (-1) 0) m ∧ next^[3] m = m := by
  intro m
  have outcome : m.step.outcome = .error (.addressOutOfRange (-1) 0) := by decide +kernel
  obtain ⟨faults, inPlace, -, forever⟩ := step_faults_exactly m
  have reason := (faults _).mp outcome
  exact ⟨reason, (inPlace _ _).mpr ⟨reason, rfl⟩, (forever (.inr ⟨_, outcome⟩) 3).1⟩

end Machine

end RegisterVM
