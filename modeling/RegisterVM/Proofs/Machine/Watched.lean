import RegisterVM.Proofs.Machine.FetchOrder
import RegisterVM.Proofs.Machine.Sequence

/-!
# A record of the accesses to memory

What a step reads and writes in memory cannot be seen from the machine after it.  `Watched` is a
computation that records its accesses to memory, each of them made by `Watched.access`, which holds
the address against the bounds first; and `Watched.step` is the step of a machine in this form.

* `decodeWith`: decoding, in whatever way the operands are taken, so that the record follows the
  same table as the machine (`decode_eq_decodeWith`, `decodeWith_related`).
* `Watched.step_eq`: the record does not change what the step comes to.
* `Watched.step_congr`: no read is missing in it.  Any memory that agrees with this one in the cells
  of the record leads to the same registers and the same outcome.
-/

namespace RegisterVM

/-- What an access to memory is for. -/
inductive Access.Kind where
  /-- To take a word of the instruction. -/
  | fetch
  /-- To read a cell. -/
  | load
  /-- To write a cell. -/
  | store
  deriving DecidableEq, Repr

/-- An access to memory. -/
structure Access where
  kind : Access.Kind
  address : Int
  deriving DecidableEq, Repr

/-- A computation with a record of its accesses to memory.  A fault ends it, and the record with
it. -/
structure Watched (α : Type) where
  accesses : List Access
  result : Except Fault α

namespace Watched

variable {α β : Type}

instance : Monad Watched where
  pure a := ⟨[], .ok a⟩
  bind x f :=
    match x.result with
    | .ok a => ⟨x.accesses ++ (f a).accesses, (f a).result⟩
    | .error fault => ⟨x.accesses, .error fault⟩

/-- A computation without accesses. -/
def silent (x : Except Fault α) : Watched α := ⟨[], x⟩

/-- An access to the cell with an address that the instruction at `ip` needs. -/
def access (kind : Access.Kind) (ip address : Word) (f : Address → α) : Watched α :=
  match Address.require ip address with
  | .ok a => ⟨[⟨kind, a.val⟩], .ok (f a)⟩
  | .error fault => ⟨[], .error fault⟩

/-- The word `offset` cells after `ip`. -/
def fetch (memory : Memory) (ip offset : Word) : Watched Word :=
  access .fetch ip (ip + offset) memory.read

/-- The register that the word `offset` cells after `ip` names. -/
def fetchRegister (memory : Memory) (ip offset : Word) : Watched Register := do
  let index ← fetch memory ip offset
  silent <| match Register.ofWord? index with
    | some r => .ok r
    | none => .error (.badRegister index ip)

end Watched

/-- Decoding, given how the operands are taken. -/
def decodeWith {M : Type → Type} [Monad M] (word : Word → M Word) (register : Word → M Register) :
    M Instruction := do
  match ← word 0 with
  | 1 => return .movi (← word 1) (← register 2)
  | 2 => return .mov (← register 1) (← register 2)
  | 3 => return .add (← register 1) (← register 2)
  | 4 => return .sub (← register 1) (← register 2)
  | 5 => return .mul (← register 1) (← register 2)
  | 6 => return .idiv (← register 1) (← register 2)
  | 7 => return .jmp (← register 1)
  | 8 => return .jnz (← register 1) (← register 2)
  | 9 => return .out (← register 1)
  | 10 => return .halt
  | 11 => return .ld (← register 1) (← register 2)
  | 12 => return .st (← register 1) (← register 2)
  | 13 => return .jal (← register 1)
  | 14 => return .ret
  | 15 => return .push (← register 1)
  | 16 => return .pop (← register 1)
  | 17 => return .ldlo (← word 1) (← register 2)
  | 18 => return .stlo (← word 1) (← register 2)
  | tag => return .invalid tag

theorem decode_eq_decodeWith (memory : Memory) (ip : Word) :
    decode memory ip = decodeWith (fetch memory ip) (fetchRegister memory ip) := rfl

/-- Decoding keeps a relation between two ways of computing, if sequences do and the two ways of
taking operands are related. -/
theorem decodeWith_related {M N : Type → Type} [Monad M] [Monad N]
    (R : ∀ {α : Type}, M α → N α → Prop) (done : ∀ {α : Type} (a : α), R (pure a) (pure a))
    (andThen : ∀ {α β : Type} {x : M α} {y : N α} {f : α → M β} {g : α → N β},
      R x y → (∀ a, R (f a) (g a)) → R (x >>= f) (y >>= g))
    {word : Word → M Word} {word' : Word → N Word} (words : ∀ k, R (word k) (word' k))
    {register : Word → M Register} {register' : Word → N Register}
    (registers : ∀ k, R (register k) (register' k)) :
    R (decodeWith word register) (decodeWith word' register') := by
  refine andThen (words 0) fun tag => ?_
  split
  case h_2 | h_3 | h_4 | h_5 | h_6 | h_8 | h_11 | h_12 =>
    exact andThen (registers 1) fun _ => andThen (registers 2) fun _ => done _
  case h_1 | h_17 | h_18 =>
    exact andThen (words 1) fun _ => andThen (registers 2) fun _ => done _
  case h_7 | h_9 | h_13 | h_15 | h_16 => exact andThen (registers 1) fun _ => done _
  case h_10 | h_14 | h_19 => exact done _

namespace Watched

variable {α β : Type}

/-- Executes an instruction.  An instruction that accesses no memory is executed as it is. -/
def execute (i : Instruction) (m : Machine) : Watched (Outcome × Machine) := do
  let ip := m.ip
  let next := ip + Int32.ofNat i.length
  let goTo (n : Machine) : Outcome × Machine := (.proceed, n.setReg .ip next)
  match i with
  | .ld ra rd =>
      let w ← access .load ip (m.reg ra) m.cell
      return goTo (m.setReg rd w)
  | .st ra rs =>
      let n ← access .store ip (m.reg ra) (m.setCell · (m.reg rs))
      return goTo n
  | .push rs =>
      let n ← access .store ip (m.reg .sp) (m.setCell · (m.reg rs))
      return goTo (n.setReg .sp (m.reg .sp + 1))
  | .pop rd =>
      let top := m.reg .sp - 1
      let w ← access .load ip top m.cell
      return goTo ((m.setReg .sp top).setReg rd w)
  | .ldlo imm rd =>
      let w ← access .load ip (m.reg .fp + imm) m.cell
      return goTo (m.setReg rd w)
  | .stlo imm rs =>
      let n ← access .store ip (m.reg .fp + imm) (m.setCell · (m.reg rs))
      return goTo n
  | i => silent (i.execute m)

/-- One step of a machine. -/
def step (m : Machine) : Watched (Outcome × Machine) := do
  let i ← decodeWith (fetch m.memory m.ip) (fetchRegister m.memory m.ip)
  execute i m

theorem bind_eq (x : Watched α) (f : α → Watched β) : x >>= f = match x.result with
    | .ok a => ⟨x.accesses ++ (f a).accesses, (f a).result⟩
    | .error fault => ⟨x.accesses, .error fault⟩ := rfl

theorem result_bind (x : Watched α) (f : α → Watched β) :
    (x >>= f).result = x.result >>= fun a => (f a).result := by
  rw [bind_eq]
  cases x.result <;> rfl

theorem result_access (kind : Access.Kind) (ip w : Word) (f : Address → α) :
    (access kind ip w f).result = (Address.require ip w).map f := by
  unfold access
  cases Address.require ip w <;> rfl

theorem result_decode (memory : Memory) (ip : Word) :
    (decodeWith (fetch memory ip) (fetchRegister memory ip)).result =
      RegisterVM.decode memory ip := by
  rw [decode_eq_decodeWith]
  refine decodeWith_related (fun {_} (x : Watched _) (y : Except Fault _) => x.result = y)
    (fun _ => rfl) (fun first later => ?_) (fun k => result_access _ _ _ _) fun k => ?_
  · rw [result_bind, first]
    exact congrArg _ (funext later)
  · rw [fetchRegister, result_bind, fetch, result_access]
    rfl

theorem result_execute (i : Instruction) (m : Machine) :
    (execute i m).result = i.execute m := by
  cases i with
  | ld _ _ | st _ _ | push _ | pop _ | ldlo _ _ | stlo _ _ =>
    simp only [execute, Instruction.execute, result_bind, result_access]
    cases Address.require _ _ <;> rfl
  | _ => rfl

theorem result_step (m : Machine) : (step m).result = m.current.bind (·.execute m) := by
  rw [step, result_bind, result_decode]
  exact congrArg _ (funext fun i => result_execute i m)

/-- The record does not change what the step comes to. -/
theorem step_eq (m : Machine) : m.step = match (step m).result with
    | .ok (outcome, after) => ⟨after, .ok outcome⟩
    | .error fault => ⟨m, .error fault⟩ := by
  rw [result_step]
  rfl

/-- Another memory has the same content where the record fetches or loads. -/
def Agrees (x : Watched α) (memory other : Memory) : Prop :=
  ∀ y ∈ x.accesses, y.kind ≠ .store → ∀ a : Address, y.address = a.val →
    other.read a = memory.read a

variable {memory other : Memory}

theorem accesses_bind (x : Watched α) (f : α → Watched β) :
    (x >>= f).accesses = x.accesses ++ match x.result with
      | .ok a => (f a).accesses
      | .error _ => [] := by
  rw [bind_eq]
  cases x.result with
  | ok a => rfl
  | error fault => exact (List.append_nil _).symm

theorem Agrees.first {x : Watched α} {f : α → Watched β} (agrees : (x >>= f).Agrees memory other) :
    x.Agrees memory other := by
  intro y mem
  refine agrees y ?_
  rw [accesses_bind]
  exact List.mem_append_left _ mem

theorem Agrees.later {x : Watched α} {f : α → Watched β} (agrees : (x >>= f).Agrees memory other)
    {a : α} (result : x.result = .ok a) : (f a).Agrees memory other := by
  intro y mem
  refine agrees y ?_
  rw [accesses_bind, result]
  exact List.mem_append_right _ mem

theorem bind_congr {x : Watched α} {f g : α → Watched β}
    (same : ∀ a, x.result = .ok a → g a = f a) : x >>= g = x >>= f := by
  rw [bind_eq, bind_eq]
  cases result : x.result with
  | ok a => simp only [same a result]
  | error fault => rfl

/-- A cell is read as in any memory that agrees with the record. -/
theorem access_read_congr {kind : Access.Kind} (reads : kind ≠ .store) {ip w : Word}
    (agrees : (access kind ip w memory.read).Agrees memory other) :
    access kind ip w other.read = access kind ip w memory.read := by
  unfold access at agrees ⊢
  split at agrees
  · next a place => rw [agrees _ (List.mem_singleton_self _) reads a rfl]
  · next fault outside => rfl

/-- The instruction that is decoded is decided by the cells in the record. -/
theorem decode_congr {ip : Word}
    (agrees : (decodeWith (fetch memory ip) (fetchRegister memory ip)).Agrees memory other) :
    decodeWith (fetch other ip) (fetchRegister other ip) =
      decodeWith (fetch memory ip) (fetchRegister memory ip) := by
  have fetched (k : Word) : (fetch memory ip k).Agrees memory other →
      fetch other ip k = fetch memory ip k :=
    access_read_congr (by decide : Access.Kind.fetch ≠ .store)
  have named (k : Word) (agrees : (fetchRegister memory ip k).Agrees memory other) :
      fetchRegister other ip k = fetchRegister memory ip k := by
    rw [fetchRegister, fetched k agrees.first]
    rfl
  refine decodeWith_related
    (fun {α} (x y : Watched α) => x.Agrees memory other → y = x) (fun _ _ => rfl)
    (fun first later agrees => ?_) fetched named agrees
  rw [first agrees.first]
  exact bind_congr fun a result => later a (agrees.later result)

/-- What an instruction comes to, memory apart, is decided by the registers and the cell that it
loads. -/
theorem execute_congr (i : Instruction) {m : Machine}
    (agrees : (execute i m).Agrees m.memory other) :
    (execute i { m with memory := other }).result.map (fun d => (d.1, d.2.registers)) =
      (execute i m).result.map fun d => (d.1, d.2.registers) := by
  have sameReg (r : Register) : ({ m with memory := other } : Machine).reg r = m.reg r := rfl
  have sameIp : ({ m with memory := other } : Machine).ip = m.ip := rfl
  cases i with
  | ld _ _ | pop _ | ldlo _ _ =>
    have same := congrArg result
      (access_read_congr (by decide : Access.Kind.load ≠ .store) agrees.first)
    simp only [result_access] at same
    simp only [execute, result_bind, result_access, sameReg, sameIp]
    revert same
    cases Address.require _ _ with
    | error fault => exact fun _ => rfl
    | ok a =>
      intro same
      have held : other.read a = m.memory.read a := Except.ok.inj same
      simp only [Machine.cell, Except.map, held]
      rfl
  | st _ _ | push _ | stlo _ _ =>
    simp only [execute, result_bind, result_access, sameReg, sameIp]
    cases Address.require _ _ <;> rfl
  | idiv rs rd =>
    simp only [execute, silent, Instruction.execute, sameReg, sameIp]
    cases Word.quotient? (m.reg rd) (m.reg rs) <;> rfl
  | _ => rfl

/-- No read is missing in the record of a step: what the step comes to, memory apart, is decided by
the registers and the cells in the record. -/
theorem step_congr {m : Machine} (agrees : (step m).Agrees m.memory other) :
    ({ m with memory := other } : Machine).step.outcome = m.step.outcome ∧
      ({ m with memory := other } : Machine).step.machine.registers = m.step.machine.registers := by
  have decoded := decode_congr agrees.first
  have same : (step { m with memory := other }).result.map (fun d => (d.1, d.2.registers)) =
      (step m).result.map fun d => (d.1, d.2.registers) := by
    rw [step, step, result_bind, result_bind]
    refine (congrArg (fun x : Watched Instruction => Except.map _ (x.result >>= _))
      decoded).trans ?_
    cases taken : (decodeWith (fetch m.memory m.ip) (fetchRegister m.memory m.ip)).result with
    | error fault => rfl
    | ok i => exact execute_congr i (agrees.later taken)
  rw [step_eq, step_eq m]
  revert same
  cases (step { m with memory := other }).result with
  | error fault =>
    cases (step m).result with
    | error fault' =>
      intro same
      obtain rfl := Except.error.inj same
      exact ⟨rfl, rfl⟩
    | ok done => exact nofun
  | ok done =>
    cases (step m).result with
    | error fault' => exact nofun
    | ok done' =>
      intro same
      obtain ⟨outcome, registers⟩ := Prod.mk.inj (Except.ok.inj same)
      exact ⟨congrArg Except.ok outcome, registers⟩

end Watched

end RegisterVM
