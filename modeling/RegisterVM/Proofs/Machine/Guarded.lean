import RegisterVM.Proofs.Machine.InPlace
import RegisterVM.Proofs.Machine.Loading

/-!
# Execution behind guards

The machine is made of registers and cells that exist: there are exactly thirty-two numbers of
registers and five hundred of cells, so nothing can be looked up that is not there.  Storage is not
made in this way.  It is addressed by plain numbers, and what is addressed may lie outside; an image
may be longer than the memory that it is copied to; and the processor divides only what it can
divide.

In this file every such operation stands behind a guard of its own and stops with a `Hazard` when
the guard finds that it cannot be carried out.  The checks that an instruction makes are apart from
the guards, as they are in the program: an operand is checked when it is decoded and used much
later, and an address is checked when it is computed.  `step_eq` and `ofWords_eq` say that no guard
ever stops anything: behind guards a step is the step, and a load is the load.

* `Hazard`: what a guard stops; `registerAt`, `cellAt`, `divide`, `copyTo`: the guards.
* `RawInstruction`: an instruction whose operands are plain numbers.
* `Guarded.decode`, `Guarded.execute`: decoding and execution behind guards.
* `Guarded.step_eq`, `Guarded.ofWords_eq`: the guards are never met.
-/

namespace RegisterVM

/-! ## Guards -/

/-- Why an operation cannot be carried out. -/
inductive Hazard where
  /-- There is no register with this number. -/
  | register (number : Nat)
  /-- There is no cell with this number. -/
  | cell (number : Nat)
  /-- Memory has no room for so many words. -/
  | copy (words : Nat)
  /-- The quotient does not exist, or is no word. -/
  | division (dividend divisor : Word)
  /-- The difference is below zero. -/
  | subtraction (minuend subtrahend : Nat)
  /-- There is no such part of a list of this length. -/
  | slice (start stop length : Nat)
  deriving DecidableEq, Repr

namespace Guarded

/-- The register with the given number. -/
def register (number : Nat) : Except Hazard Register :=
  if h : number < 32 then .ok ⟨number, h⟩ else .error (.register number)

/-- The cell with the given number. -/
def address (number : Nat) : Except Hazard Address :=
  if h : number < 500 then .ok ⟨number, h⟩ else .error (.cell number)

/-- The content of the register with the given number. -/
def registerAt (m : Machine) (number : Nat) : Except Hazard Word :=
  (register number).map m.reg

/-- The content of the cell with the given number. -/
def cellAt (memory : Memory) (number : Nat) : Except Hazard Word :=
  (address number).map memory.read

/-- A quotient truncated toward zero.  There is none by zero, and that of the least word by minus
one is out of range. -/
def divide (dividend divisor : Word) : Except Hazard Word :=
  if divisor = 0 ∨ dividend = Int32.minValue ∧ divisor = -1 then
    .error (.division dividend divisor)
  else .ok (dividend / divisor)

/-- A quotient that wraps around: the one that would be out of range is not divided at all. -/
def wrappingDivide (dividend divisor : Word) : Except Hazard Word :=
  if dividend = Int32.minValue ∧ divisor = -1 then .ok dividend else divide dividend divisor

/-- The memory with some words copied to its first cells. -/
def copyTo (memory : Memory) (words : List Word) : Except Hazard Memory :=
  if words.length ≤ 500 then .ok (memory.mapIdx fun a w => words[a]?.getD w)
  else .error (.copy words.length)

theorem register_val (r : Register) : register r.val = .ok r := dif_pos r.isLt

theorem address_val (a : Address) : address a.val = .ok a := dif_pos a.isLt

theorem registerAt_val (m : Machine) (r : Register) : registerAt m r.val = .ok (m.reg r) := by
  rw [registerAt, register_val]
  rfl

theorem cellAt_val (memory : Memory) (a : Address) : cellAt memory a.val = .ok (memory.read a) := by
  rw [cellAt, address_val]
  rfl

/-- Only a division by zero is left to be stopped. -/
theorem wrappingDivide_of_ne_zero {divisor : Word} (h : divisor ≠ 0) (dividend : Word) :
    wrappingDivide dividend divisor = .ok (dividend / divisor) := by
  unfold wrappingDivide divide
  by_cases wraps : dividend = Int32.minValue ∧ divisor = -1
  · rw [if_pos wraps, wraps.1, wraps.2]
    rfl
  · rw [if_neg wraps, if_neg (not_or_intro h wraps)]

theorem copyTo_words (image : Image) : copyTo Machine.blank.memory image.words =
    .ok (Machine.blank.memory.mapIdx fun a w => image.words[a]?.getD w) :=
  if_pos image.length_le

end Guarded

/-! ## Storage behind guards -/

/-- Why a computation stops before its end: the program is at fault, or a guard is met. -/
inductive Guarded.Stop where
  | fault (f : Fault)
  | hazard (h : Hazard)
  deriving DecidableEq, Repr

/-- Something done to storage behind guards. -/
abbrev Guarded : Type → Type := EStateM Guarded.Stop Machine

namespace Guarded

variable {α β : Type}

/-- A check of the program, which may find a fault. -/
def checked (x : Except Fault α) : Except Stop α := x.mapError .fault

/-- An operation behind its guard. -/
def guarded (x : Except Hazard α) : Except Stop α := x.mapError .hazard

/-- Goes on with what there is, or stops. -/
def require : Except Stop α → Guarded α
  | .ok a => pure a
  | .error s => throw s

/-- The content of a register. -/
def look (number : Nat) : Guarded Word := fun m => require (guarded (registerAt m number)) m

/-- Writes a register. -/
def put (number : Nat) (w : Word) : Guarded Unit :=
  require (guarded (register number)) >>= fun r m => .ok () (m.setReg r w)

/-- The content of a cell. -/
def load (number : Nat) : Guarded Word := fun m => require (guarded (cellAt m.memory number)) m

/-- Writes a cell. -/
def store (number : Nat) (w : Word) : Guarded Unit :=
  require (guarded (address number)) >>= fun a m => .ok () (m.setCell a w)

theorem require_guarded_bind (a : α) (f : α → Guarded β) (m : Machine) :
    (require (guarded (.ok a)) >>= f) m = f a m := rfl

theorem look_bind (r : Register) (f : Word → Guarded β) (m : Machine) :
    (look r.val >>= f) m = f (m.reg r) m := by
  have looked : look r.val m = .ok (m.reg r) m := by
    rw [look, registerAt_val]
    rfl
  show EStateM.bind _ _ m = _
  rw [EStateM.bind, looked]

theorem put_bind (r : Register) (w : Word) (f : Unit → Guarded β) (m : Machine) :
    (put r.val w >>= f) m = f () (m.setReg r w) := by
  rw [put, register_val]
  rfl

theorem load_bind (a : Address) (f : Word → Guarded β) (m : Machine) :
    (load a.val >>= f) m = f (m.cell a) m := by
  have loaded : load a.val m = .ok (m.cell a) m := by
    rw [load, cellAt_val]
    rfl
  show EStateM.bind _ _ m = _
  rw [EStateM.bind, loaded]

theorem store_bind (a : Address) (w : Word) (f : Unit → Guarded β) (m : Machine) :
    (store a.val w >>= f) m = f () (m.setCell a w) := by
  rw [store, address_val]
  rfl

/-! ## Checks -/

/-- The number of the cell that a word is the address of. -/
def checkedAddress (ip w : Word) : Except Fault Nat :=
  if 0 ≤ w.toInt ∧ w.toInt.toNat < 500 then .ok w.toInt.toNat
  else .error (.addressOutOfRange w ip)

/-- The number of the register that an operand names. -/
def checkedRegister (ip w : Word) : Except Fault Nat :=
  if 0 ≤ w.toInt ∧ w.toInt.toNat < 32 then .ok w.toInt.toNat
  else .error (.badRegister w ip)

/-- A checked address is that of a cell. -/
theorem checkedAddress_eq (ip w : Word) :
    checkedAddress ip w = (Address.require ip w).map Fin.val := by
  cases h : Address.require ip w with
  | ok a =>
    rw [Address.require_eq_ok_iff] at h
    rw [checkedAddress, if_pos (by omega), h]
    rfl
  | error f =>
    obtain ⟨outside, rfl⟩ := Address.require_eq_error_iff.mp h
    rw [checkedAddress, if_neg (by omega)]
    rfl

theorem require_address_bind (ip w : Word) (f : Nat → Guarded β) (m : Machine) :
    (require (checked (checkedAddress ip w)) >>= f) m = match Address.require ip w with
      | .ok a => f a m
      | .error fault => .error (.fault fault) m := by
  rw [checkedAddress_eq]
  cases Address.require ip w <;> rfl

/-- A checked operand names a register. -/
theorem checkedRegister_eq (ip w : Word) : checkedRegister ip w =
    (match Register.ofWord? w with
      | some r => .ok r
      | none => .error (.badRegister w ip) : Except Fault Register).map Fin.val := by
  unfold checkedRegister Register.ofWord? Register.ofNumber?
  by_cases h : 0 ≤ w.toInt ∧ w.toInt.toNat < 32
  · rw [if_pos h, if_pos h.1, dif_pos h.2]
    rfl
  · rw [if_neg h]
    by_cases pos : 0 ≤ w.toInt
    · rw [if_pos pos, dif_neg (by omega)]
      rfl
    · rw [if_neg pos]
      rfl

end Guarded

/-! ## Decoding -/

/-- An instruction whose operands are plain numbers. -/
inductive RawInstruction where
  | movi (imm : Word) (rd : Nat)
  | mov (rs rd : Nat)
  | add (rs rd : Nat)
  | sub (rs rd : Nat)
  | mul (rs rd : Nat)
  | idiv (rs rd : Nat)
  | jmp (ra : Nat)
  | jnz (rs ra : Nat)
  | out (rs : Nat)
  | halt
  | ld (ra rd : Nat)
  | st (ra rs : Nat)
  | jal (ra : Nat)
  | ret
  | push (rs : Nat)
  | pop (rd : Nat)
  | ldlo (imm : Word) (rd : Nat)
  | stlo (imm : Word) (rs : Nat)
  | invalid (tag : Word)

/-- The instruction with the numbers of its registers, and its length. -/
def Instruction.raw (i : Instruction) : RawInstruction × Nat :=
  match i with
  | movi imm rd => (.movi imm rd, 3)
  | mov rs rd => (.mov rs rd, 3)
  | add rs rd => (.add rs rd, 3)
  | sub rs rd => (.sub rs rd, 3)
  | mul rs rd => (.mul rs rd, 3)
  | idiv rs rd => (.idiv rs rd, 3)
  | jmp ra => (.jmp ra, 2)
  | jnz rs ra => (.jnz rs ra, 3)
  | out rs => (.out rs, 2)
  | halt => (.halt, 1)
  | ld ra rd => (.ld ra rd, 3)
  | st ra rs => (.st ra rs, 3)
  | jal ra => (.jal ra, 2)
  | ret => (.ret, 1)
  | push rs => (.push rs, 2)
  | pop rd => (.pop rd, 2)
  | ldlo imm rd => (.ldlo imm rd, 3)
  | stlo imm rs => (.stlo imm rs, 3)
  | invalid tag => (.invalid tag, 1)

namespace Guarded

/-- The word `offset` cells after `ip`. -/
def wordAt (memory : Memory) (ip offset : Word) : Except Stop Word := do
  let a ← checked (checkedAddress ip (ip + offset))
  guarded (cellAt memory a)

/-- The number of the register that the word `offset` cells after `ip` names. -/
def indexAt (memory : Memory) (ip offset : Word) : Except Stop Nat := do
  let index ← wordAt memory ip offset
  checked (checkedRegister ip index)

/-- The instruction at `ip`, and its length. -/
def decode (memory : Memory) (ip : Word) : Except Stop (RawInstruction × Nat) := do
  let word := wordAt memory ip
  let register := indexAt memory ip
  match ← word 0 with
  | 1 => return (.movi (← word 1) (← register 2), 3)
  | 2 => return (.mov (← register 1) (← register 2), 3)
  | 3 => return (.add (← register 1) (← register 2), 3)
  | 4 => return (.sub (← register 1) (← register 2), 3)
  | 5 => return (.mul (← register 1) (← register 2), 3)
  | 6 => return (.idiv (← register 1) (← register 2), 3)
  | 7 => return (.jmp (← register 1), 2)
  | 8 => return (.jnz (← register 1) (← register 2), 3)
  | 9 => return (.out (← register 1), 2)
  | 10 => return (.halt, 1)
  | 11 => return (.ld (← register 1) (← register 2), 3)
  | 12 => return (.st (← register 1) (← register 2), 3)
  | 13 => return (.jal (← register 1), 2)
  | 14 => return (.ret, 1)
  | 15 => return (.push (← register 1), 2)
  | 16 => return (.pop (← register 1), 2)
  | 17 => return (.ldlo (← word 1) (← register 2), 3)
  | 18 => return (.stlo (← word 1) (← register 2), 3)
  | tag => return (.invalid tag, 1)

theorem wordAt_eq (memory : Memory) (ip offset : Word) :
    wordAt memory ip offset = checked (fetch memory ip offset) := by
  rw [wordAt, fetch, checkedAddress_eq]
  cases Address.require ip (ip + offset) with
  | error f => rfl
  | ok a => exact congrArg guarded (cellAt_val memory a)

theorem indexAt_eq (memory : Memory) (ip offset : Word) :
    indexAt memory ip offset = (checked (fetchRegister memory ip offset)).map Fin.val := by
  rw [indexAt, fetchRegister, wordAt_eq]
  cases fetch memory ip offset with
  | error f => rfl
  | ok index =>
    refine (congrArg checked (checkedRegister_eq ip index)).trans ?_
    show _ = (checked (match Register.ofWord? index with
      | some r => .ok r
      | none => .error (.badRegister index ip))).map Fin.val
    cases Register.ofWord? index <;> rfl

/-- Behind guards an instruction is decoded as it is, and it has the length that is told. -/
theorem decode_eq (memory : Memory) (ip : Word) :
    decode memory ip = (checked (RegisterVM.decode memory ip)).map Instruction.raw := by
  unfold decode RegisterVM.decode
  simp only [wordAt_eq, indexAt_eq]
  cases fetch memory ip 0 with
  | error f => rfl
  | ok tag =>
    dsimp only [bind, Except.bind, checked, Except.mapError]
    split
    -- the rows of the table by their operands, as they are decoded
    case h_2 | h_3 | h_4 | h_5 | h_6 | h_8 | h_11 | h_12 =>
      cases fetchRegister memory ip 1 with
      | error f => rfl
      | ok r => cases fetchRegister memory ip 2 <;> rfl
    case h_1 | h_17 | h_18 =>
      cases fetch memory ip 1 with
      | error f => rfl
      | ok w => cases fetchRegister memory ip 2 <;> rfl
    case h_7 | h_9 | h_13 | h_15 | h_16 => cases fetchRegister memory ip 1 <;> rfl
    case h_10 | h_14 => rfl
    case h_19 => simp only [*, pure, Except.pure, Except.map, Instruction.raw]

/-! ## Execution -/

/-- Executes an instruction, write by write.  `ip` is its own address. -/
def execute (i : RawInstruction) (length : Nat) (ip : Word) : Guarded Outcome := do
  let mut next := ip + Int32.ofNat length
  let mut outcome := Outcome.proceed
  match i with
  | .movi imm rd => put rd imm
  | .mov rs rd => put rd (← look rs)
  | .add rs rd => put rd ((← look rd) + (← look rs))
  | .sub rs rd => put rd ((← look rd) - (← look rs))
  | .mul rs rd => put rd ((← look rd) * (← look rs))
  | .idiv rs rd =>
      let divisor ← look rs
      if divisor = 0 then
        throw (.fault (.divisionByZero ip))
      put rd (← require (guarded (wrappingDivide (← look rd) divisor)))
  | .jmp ra => next ← look ra
  | .jnz rs ra =>
      if (← look rs) ≠ 0 then
        next ← look ra
  | .out rs => outcome := .output (← look rs)
  | .halt => return .halt
  | .ld ra rd =>
      let a ← require (checked (checkedAddress ip (← look ra)))
      put rd (← load a)
  | .st ra rs =>
      let a ← require (checked (checkedAddress ip (← look ra)))
      store a (← look rs)
  | .jal ra =>
      put Register.rp.val next
      next ← look ra
  | .ret => next ← look Register.rp.val
  | .push rs =>
      let sp ← look Register.sp.val
      let a ← require (checked (checkedAddress ip sp))
      store a (← look rs)
      put Register.sp.val (sp + 1)
  | .pop rd =>
      let top := (← look Register.sp.val) - 1
      let a ← require (checked (checkedAddress ip top))
      put Register.sp.val top
      put rd (← load a)
  | .ldlo imm rd =>
      let a ← require (checked (checkedAddress ip ((← look Register.fp.val) + imm)))
      put rd (← load a)
  | .stlo imm rs =>
      let a ← require (checked (checkedAddress ip ((← look Register.fp.val) + imm)))
      store a (← look rs)
  | .invalid tag => throw (.fault (.invalidOpcode tag ip))
  put Register.ip.val next
  return outcome

/-- What an instruction comes to as a whole, as a computation in storage. -/
def whole (m : Machine) : Except Fault (Outcome × Machine) → EStateM.Result Stop Machine Outcome
  | .ok (outcome, after) => .ok outcome after
  | .error f => .error (.fault f) m

/-- Behind guards an instruction is executed as it is. -/
theorem execute_eq (i : Instruction) (m : Machine) :
    execute i.raw.1 i.raw.2 m.ip m = whole m (i.execute m) := by
  cases i with
  | idiv rs rd =>
    simp only [Instruction.raw, execute, Instruction.execute, Word.quotient?, look_bind]
    by_cases zero : m.reg rs = 0
    · rw [if_pos zero, if_pos zero]
      rfl
    · rw [if_neg zero, if_neg zero, look_bind, wrappingDivide_of_ne_zero zero,
        require_guarded_bind, put_bind, put_bind]
      rfl
  | jnz rs ra =>
    simp only [Instruction.raw, execute, Instruction.execute, look_bind, ne_eq, ite_not]
    by_cases zero : m.reg rs = 0
    · rw [if_pos zero, if_pos zero, put_bind]
      rfl
    · rw [if_neg zero, if_neg zero, look_bind, put_bind]
      rfl
  | ld _ _ | st _ _ | push _ | pop _ | ldlo _ _ | stlo _ _ =>
    -- the access is checked in front of every write
    simp only [Instruction.raw, execute, Instruction.execute, look_bind, require_address_bind,
      load_bind, store_bind, put_bind]
    split
    · next a eq =>
      rw [eq]
      rfl
    · next f eq =>
      rw [eq]
      rfl
  | _ =>
    simp only [Instruction.raw, execute, look_bind, put_bind]
    rfl

/-- An operand that was never checked would meet the guard. -/
example : execute (.mov 32 1) 3 0 .blank = .error (.hazard (.register 32)) .blank := rfl

/-! ## Steps and loads -/

/-- What a computation in storage comes to when no guard is met. -/
def unguarded : EStateM.Result Stop Machine Outcome → Except Hazard Machine.Step
  | .ok outcome after => .ok ⟨after, .ok outcome⟩
  | .error (.fault f) after => .ok ⟨after, .error f⟩
  | .error (.hazard h) _ => .error h

/-- One step behind guards. -/
def step (m : Machine) : Except Hazard Machine.Step :=
  unguarded <| EStateM.run (s := m) do
    let ip ← look Register.ip.val
    let (i, length) ← require (decode (← get).memory ip)
    execute i length ip

/-- A load behind guards: everything is cleared, the words are copied to memory, and the registers
are set. -/
def ofWords (words : List Word) : Except Hazard Machine := do
  let memory ← copyTo Machine.blank.memory words
  let ip ← register Register.ip.val
  let fp ← register Register.fp.val
  let sp ← register Register.sp.val
  let size : Word := Int32.ofNat words.length
  let loaded : Machine := { Machine.blank with memory }
  return ((loaded.setReg ip 0).setReg fp size).setReg sp size

/-- No guard is met by a step. -/
theorem step_eq (m : Machine) : step m = .ok m.step := by
  have fetched : (EStateM.run (s := m) do
      let ip ← look Register.ip.val
      let (i, length) ← require (decode (← get).memory ip)
      execute i length ip) =
      (require (decode m.memory m.ip) >>= fun i => execute i.1 i.2 m.ip) m :=
    look_bind .ip _ m
  rw [step, fetched, decode_eq, ← Machine.current, Machine.step]
  cases m.current with
  | error f => rfl
  | ok i =>
    refine (congrArg unguarded (execute_eq i m)).trans ?_
    dsimp only [Except.bind]
    cases i.execute m <;> rfl

/-- No guard is met by the load of an image. -/
theorem ofWords_eq (image : Image) : ofWords image.words = .ok (.ofImage image) := by
  rw [ofWords, copyTo_words, register_val, register_val, register_val]
  refine congrArg Except.ok (Machine.ext_of_reg_of_cell (fun r => ?_) fun a => ?_)
  · have cleared (memory : Memory) : Machine.reg { Machine.blank with memory } r = 0 := by
      simp [Machine.reg, Machine.blank]
    rw [Machine.reg_setReg, Machine.reg_setReg, Machine.reg_setReg, cleared, ite_self,
      Machine.reg_ofImage]
    by_cases sp : r = .sp
    · rw [if_pos sp.symm, if_pos (.inr sp)]
    · simp only [Ne.symm sp, sp, or_false, if_false, eq_comm (a := r)]
  · rw [Machine.cell_setReg, Machine.cell_setReg, Machine.cell_setReg, Machine.cell_ofImage]
    simp [Machine.cell, Memory.read, Machine.blank]

end Guarded

end RegisterVM
