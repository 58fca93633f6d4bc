import RegisterVM.Machine.Step

/-!
# Execution write by write

`Machine.step` gives the machine after an instruction as a whole, and so a fault has nothing to
undo.  A machine that is a block of storage has no such choice: its registers and its cells are
written one after the other while the instruction is still being checked, and a fault keeps
every write that came before it.

`Machine.stepInPlace` executes an instruction in that way.  The state of the computation is the
storage, and an error carries the storage as it is at that moment.  `stepInPlace_eq` says that
it comes to the step as a whole: whatever an instruction has to check, it checks before its
first write.

## Why the order of the writes shows

`pop` moves the stack pointer and then writes its destination, which may be the stack pointer;
`push` writes a cell and then moves the pointer; `jal` writes the return pointer before it reads
its target, which may be the return pointer; and the instruction pointer, which any instruction
may have written like another register, is written last.  A check behind any of these writes
would leave a trace of the faulting instruction.
-/

namespace RegisterVM

/-! ## Storage -/

/-- Something done to the storage of a machine.  An error leaves the storage as it is at that
moment. -/
abbrev InPlace : Type → Type := EStateM Fault Machine

namespace InPlace

/-- The content of a register. -/
def look (r : Register) : InPlace Word := fun m => .ok (m.reg r) m

/-- Writes a register. -/
def put (r : Register) (w : Word) : InPlace Unit := fun m => .ok () (m.setReg r w)

/-- The content of a cell. -/
def load (a : Address) : InPlace Word := fun m => .ok (m.cell a) m

/-- Writes a cell. -/
def store (a : Address) (w : Word) : InPlace Unit := fun m => .ok () (m.setCell a w)

/-- Goes on with what was checked, or stops with the fault. -/
def check {α : Type} : Except Fault α → InPlace α
  | .ok a => pure a
  | .error f => throw f

variable {α β : Type}

@[simp] theorem look_bind (r : Register) (f : Word → InPlace β) (m : Machine) :
    (look r >>= f) m = f (m.reg r) m := rfl

theorem check_bind (x : Except Fault α) (f : α → InPlace β) (m : Machine) :
    (check x >>= f) m = match x with
      | .ok a => f a m
      | .error fault => .error fault m := by
  cases x <;> rfl

end InPlace

open InPlace

/-- Executes an instruction on the storage, write by write.  `ip` is its own address. -/
def Instruction.executeInPlace (i : Instruction) (ip : Word) : InPlace Outcome := do
  let mut next := ip + Int32.ofNat i.length
  let mut outcome := Outcome.proceed
  match i with
  | .movi imm rd => put rd imm
  | .mov rs rd => put rd (← look rs)
  | .add rs rd => put rd ((← look rd) + (← look rs))
  | .sub rs rd => put rd ((← look rd) - (← look rs))
  | .mul rs rd => put rd ((← look rd) * (← look rs))
  | .idiv rs rd =>
      let divisor ← look rs
      if divisor = 0 then
        throw (.divisionByZero ip)
      put rd ((← look rd) / divisor)
  | .jmp ra => next ← look ra
  | .jnz rs ra =>
      if (← look rs) ≠ 0 then
        next ← look ra
  | .out rs => outcome := .output (← look rs)
  | .halt => return .halt
  | .ld ra rd =>
      let a ← check (Address.require ip (← look ra))
      put rd (← load a)
  | .st ra rs =>
      let a ← check (Address.require ip (← look ra))
      store a (← look rs)
  | .jal ra =>
      put .rp next
      next ← look ra
  | .ret => next ← look .rp
  | .push rs =>
      let sp ← look .sp
      let a ← check (Address.require ip sp)
      store a (← look rs)
      put .sp (sp + 1)
  | .pop rd =>
      let top := (← look .sp) - 1
      let a ← check (Address.require ip top)
      put .sp top
      put rd (← load a)
  | .ldlo imm rd =>
      let a ← check (Address.require ip ((← look .fp) + imm))
      put rd (← load a)
  | .stlo imm rs =>
      let a ← check (Address.require ip ((← look .fp) + imm))
      store a (← look rs)
  | .invalid tag => throw (.invalidOpcode tag ip)
  put .ip next
  return outcome

/-- One step on the storage of a machine, write by write. -/
def Machine.stepInPlace : Machine → EStateM.Result Fault Machine Outcome :=
  EStateM.run do
    let ip ← look .ip
    let i ← check (decode (← get).memory ip)
    i.executeInPlace ip

/-! ## The step as a whole -/

/-- What was done in place, as a whole: an error comes with the storage that it left. -/
def Machine.Step.inPlace (s : Machine.Step) : EStateM.Result Fault Machine Outcome :=
  match s.outcome with
  | .ok outcome => .ok outcome s.machine
  | .error fault => .error fault s.machine

/-- Executing an instruction write by write comes to the same as executing it as a whole. -/
theorem Instruction.executeInPlace_eq (i : Instruction) (m : Machine) :
    i.executeInPlace m.ip m =
      match i.execute m with
      | .ok (outcome, after) => .ok outcome after
      | .error fault => .error fault m := by
  cases i with
  | idiv rs rd =>
    simp only [executeInPlace, execute, Word.quotient?, look_bind]
    by_cases zero : m.reg rs = 0
    · rw [if_pos zero, if_pos zero]
      rfl
    · rw [if_neg zero, if_neg zero]
      rfl
  | jnz rs ra =>
    simp only [executeInPlace, execute, look_bind, ne_eq, ite_not]
    by_cases zero : m.reg rs = 0
    · rw [if_pos zero, if_pos zero]
      rfl
    · rw [if_neg zero, if_neg zero]
      rfl
  | ld _ _ | st _ _ | push _ | pop _ | ldlo _ _ | stlo _ _ =>
    -- the access is checked in front of every write
    simp only [executeInPlace, execute, look_bind, check_bind]
    split
    · next a eq =>
      rw [eq]
      rfl
    · next f eq =>
      rw [eq]
      rfl
  | _ => rfl

/-- A step write by write comes to the same as the step as a whole. -/
theorem Machine.stepInPlace_eq (m : Machine) : m.stepInPlace = m.step.inPlace := by
  have fetched : stepInPlace m = (check m.current >>= fun i => i.executeInPlace m.ip) m := rfl
  rw [fetched, check_bind]
  unfold step
  cases m.current with
  | error f => rfl
  | ok i =>
    dsimp only [Except.bind]
    rw [i.executeInPlace_eq m]
    cases i.execute m with
    | error f => rfl
    | ok done => rfl

end RegisterVM
