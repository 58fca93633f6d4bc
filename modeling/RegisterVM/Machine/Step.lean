import RegisterVM.Machine.Basic

/-!
# Execution

One step decodes the instruction at the instruction pointer and executes it.  An instruction
either succeeds as a whole or is a fault that leaves the machine as it was.

The instruction pointer is written last.  A transfer of control writes its target, any other
instruction the address behind itself, whatever it has put into the pointer before; `halt`
writes nothing, so a halted machine halts again.

* `Instruction.execute`: what one instruction makes of a machine.
* `Machine.step`: one step, with the machine after it and its outcome.
-/

namespace RegisterVM

/-- What a successful step asks of whoever drives the machine. -/
inductive Outcome where
  /-- Nothing: the machine goes on. -/
  | proceed
  /-- To write a value to the output of the program. -/
  | output (value : Word)
  /-- To stop: the program has ended. -/
  | halt
  deriving DecidableEq, Repr

/-- A quotient truncated toward zero.  Division by zero is the only thing refused: the one
quotient that is out of range wraps around to the least word. -/
def Word.quotient? (dividend divisor : Word) : Option Word :=
  if divisor = 0 then none else some (dividend / divisor)

/-- Executes an instruction.  `ip` is its own address. -/
def Instruction.execute (i : Instruction) (m : Machine) : Except Fault (Outcome × Machine) := do
  let ip := m.ip
  let next := ip + Int32.ofNat i.length
  let goTo (n : Machine) (target : Word) : Outcome × Machine :=
    (.proceed, n.setReg .ip target)
  match i with
  | .movi imm rd => return goTo (m.setReg rd imm) next
  | .mov rs rd => return goTo (m.setReg rd (m.reg rs)) next
  | .add rs rd => return goTo (m.setReg rd (m.reg rd + m.reg rs)) next
  | .sub rs rd => return goTo (m.setReg rd (m.reg rd - m.reg rs)) next
  | .mul rs rd => return goTo (m.setReg rd (m.reg rd * m.reg rs)) next
  | .idiv rs rd =>
      match Word.quotient? (m.reg rd) (m.reg rs) with
      | some q => return goTo (m.setReg rd q) next
      | none => throw (.divisionByZero ip)
  | .jmp ra => return goTo m (m.reg ra)
  | .jnz rs ra => return goTo m (if m.reg rs = 0 then next else m.reg ra)
  | .out rs => return (.output (m.reg rs), m.setReg .ip next)
  | .halt => return (.halt, m)
  | .ld ra rd =>
      let a ← Address.require ip (m.reg ra)
      return goTo (m.setReg rd (m.cell a)) next
  | .st ra rs =>
      let a ← Address.require ip (m.reg ra)
      return goTo (m.setCell a (m.reg rs)) next
  | .jal ra =>
      let called := m.setReg .rp next
      return goTo called (called.reg ra)
  | .ret => return goTo m (m.reg .rp)
  | .push rs =>
      let a ← Address.require ip (m.reg .sp)
      return goTo ((m.setCell a (m.reg rs)).setReg .sp (m.reg .sp + 1)) next
  | .pop rd =>
      let top := m.reg .sp - 1
      let a ← Address.require ip top
      return goTo ((m.setReg .sp top).setReg rd (m.cell a)) next
  | .ldlo imm rd =>
      let a ← Address.require ip (m.reg .fp + imm)
      return goTo (m.setReg rd (m.cell a)) next
  | .stlo imm rs =>
      let a ← Address.require ip (m.reg .fp + imm)
      return goTo (m.setCell a (m.reg rs)) next
  | .invalid tag => throw (.invalidOpcode tag ip)

namespace Machine

/-- The instruction at the instruction pointer. -/
def current (m : Machine) : Except Fault Instruction := decode m.memory m.ip

/-- A step of the machine: what is left after it, and how it went. -/
structure Step where
  /-- The machine after the step. -/
  machine : Machine
  /-- What the step asks for, or why it could not be done. -/
  outcome : Except Fault Outcome

/-- Executes the instruction at the instruction pointer.  A fault leaves the machine as it
is, the pointer still at the instruction. -/
def step (m : Machine) : Step :=
  match m.current.bind (·.execute m) with
  | .ok (outcome, after) => ⟨after, .ok outcome⟩
  | .error fault => ⟨m, .error fault⟩

theorem machine_step_of_error {m : Machine} {f : Fault} (h : m.step.outcome = .error f) :
    m.step.machine = m := by
  unfold step at h ⊢
  split at h
  · simp at h
  · rfl

end Machine

end RegisterVM
