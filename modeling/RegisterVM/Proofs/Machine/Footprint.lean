import RegisterVM.Proofs.Machine.Faults

/-!
# The footprint of execution

Registers with a role are registers like the others, and the program lies in the memory that it
writes.  So what an instruction leaves alone has to be said of every register and of every
cell, whatever its operands are.

## 1.  What an instruction writes

Four functions read it off the instruction: `destination?` and `source?` are its operands in
these roles, `stored?` is the word that it stores in a cell, and `moved?` is what it does to the
stack pointer or the return pointer on the side.  `Transfers` says that it goes elsewhere than
behind itself.

## 2.  One step

`Footprint` says that nothing else is written.  Most instructions share a shape: an assignment
(`footprint_assign`), a store (`footprint_store`), or neither (`footprint_still`); `push`, `pop`
and `jal` are on their own.  `footprint_execute` puts them together, one case for each form.

## 3.  A run

A step of a machine, however it goes, leaves in a cell what it has stored there or what was
there (`cell_next`).  The run follows by induction on the number of steps: only its last step
has to be looked at, whatever the program has become by then.
-/

namespace RegisterVM

/-! ## 1.  What an instruction writes -/

namespace Instruction

/-- The register that an instruction has its result written to. -/
def destination? : Instruction → Option Register
  | movi _ rd | mov _ rd | add _ rd | sub _ rd | mul _ rd | idiv _ rd => some rd
  | ld _ rd | pop rd | ldlo _ rd => some rd
  | _ => none

/-- The register whose content an instruction stores in memory. -/
def source? : Instruction → Option Register
  | st _ rs | push rs | stlo _ rs => some rs
  | _ => none

/-- The word that an instruction stores in a cell, if its effective address is the cell's. -/
def stored? (i : Instruction) (m : Machine) (a : Address) : Option Word :=
  match i.source?, i.address? m with
  | some rs, some w => if w.toInt = a.val then some (m.reg rs) else none
  | _, _ => none

/-- What an instruction makes of a register beside its destination: `push` and `pop` move the
stack pointer, and `jal` sets the return pointer to the address behind itself. -/
def moved? (i : Instruction) (m : Machine) (r : Register) : Option Word :=
  match i with
  | push _ => if r = .sp then some (m.reg .sp + 1) else none
  | pop _ => if r = .sp then some (m.reg .sp - 1) else none
  | jal _ => if r = .rp then some (m.ip + Int32.ofNat i.length) else none
  | _ => none

/-- The instruction transfers control: a jump, a call, a return, or a conditional jump whose
condition holds. -/
def Transfers (m : Machine) : Instruction → Prop
  | jmp _ | jal _ | ret => True
  | jnz rs _ => m.reg rs ≠ 0
  | _ => False

variable {i : Instruction} {m after : Machine}

theorem stored?_eq_some_iff {a : Address} {v : Word} : i.stored? m a = some v ↔
    ∃ rs w, i.source? = some rs ∧ i.address? m = some w ∧ w.toInt = a.val ∧ v = m.reg rs := by
  unfold stored?
  cases hs : i.source? with
  | none => simp
  | some rs =>
    cases hw : i.address? m with
    | none => simp
    | some w => simp [eq_comm]

/-- An instruction that stores a register has an effective address. -/
theorem exists_address_of_source {rs : Register} (source : i.source? = some rs) :
    ∃ w, i.address? m = some w := by
  cases i with
  | st ra _ => exact ⟨m.reg ra, rfl⟩
  | push _ => exact ⟨m.reg .sp, rfl⟩
  | stlo imm _ => exact ⟨m.reg .fp + imm, rfl⟩
  | _ => cases source

/-! ## 2.  One step -/

/-- Between the two machines nothing is written but what the instruction writes. -/
structure Footprint (i : Instruction) (m after : Machine) : Prop where
  /-- A cell holds what is stored there, and otherwise what it held. -/
  cell : ∀ a, after.cell a = (i.stored? m a).getD (m.cell a)
  /-- A register that is neither the destination nor the instruction pointer is at most moved
  on the side. -/
  register : ∀ r, r ≠ .ip → i.destination? ≠ some r →
    after.reg r = (i.moved? m r).getD (m.reg r)
  /-- A pop writes the top word of the stack to its destination, even to the stack pointer. -/
  popped : ∀ rd, i = .pop rd → rd ≠ .ip →
    ∃ a : Address, (m.reg .sp - 1).toInt = a.val ∧ after.reg rd = m.cell a
  /-- The instruction pointer goes behind the instruction, unless control is transferred. -/
  pointer : ¬ i.Transfers m → after.ip = m.ip + Int32.ofNat i.length

/-- It is enough to look at the machine before the instruction pointer is written. -/
theorem footprint_goTo {n : Machine} {target : Word}
    (cell : ∀ a, n.cell a = (i.stored? m a).getD (m.cell a))
    (register : ∀ r, i.destination? ≠ some r → n.reg r = (i.moved? m r).getD (m.reg r))
    (popped : ∀ rd, i = .pop rd → ∃ a : Address, (m.reg .sp - 1).toInt = a.val ∧
      n.reg rd = m.cell a)
    (pointer : ¬ i.Transfers m → target = m.ip + Int32.ofNat i.length) :
    i.Footprint m (n.setReg .ip target) where
  cell := cell
  register r noIp noDest := by
    rw [Machine.reg_setReg_of_ne noIp]
    exact register r noDest
  popped rd eq noIp := by
    rw [Machine.reg_setReg_of_ne noIp]
    exact popped rd eq
  pointer stays := by
    rw [Machine.ip, Machine.reg_setReg_self]
    exact pointer stays

/-- An instruction that assigns to its destination. -/
theorem footprint_assign {rd : Register} (w : Word) (dest : i.destination? = some rd)
    (store : i.source? = none) (side : ∀ r, i.moved? m r = none) (noPop : ∀ rd, i ≠ .pop rd) :
    i.Footprint m ((m.setReg rd w).setReg .ip (m.ip + Int32.ofNat i.length)) := by
  refine footprint_goTo (fun a => ?_) (fun r noDest => ?_) (fun rd eq => absurd eq (noPop rd))
    fun _ => rfl
  · simp [stored?, store]
  · have ne : r ≠ rd := fun eq => noDest (eq ▸ dest)
    rw [side, Machine.reg_setReg_of_ne ne]
    rfl

/-- Storing a register at the effective address is what the instruction stores. -/
theorem cell_setCell_eq_stored {rs : Register} {w : Word} {a : Address}
    (source : i.source? = some rs) (address : i.address? m = some w) (place : w.toInt = a.val)
    (b : Address) :
    (m.setCell a (m.reg rs)).cell b = (i.stored? m b).getD (m.cell b) := by
  simp only [Machine.cell_setCell, stored?, source, address, place, Fin.ext_iff, Int.natCast_inj]
  split <;> rfl

/-- Writing one register is moving it. -/
theorem reg_setReg_eq_getD (m : Machine) (s r : Register) (w : Word) :
    (m.setReg s w).reg r = (if r = s then some w else none).getD (m.reg r) := by
  by_cases same : r = s
  · rw [if_pos same, same, Machine.reg_setReg_self]
    rfl
  · rw [if_neg same, Machine.reg_setReg_of_ne same]
    rfl

/-- An instruction that stores in a cell and writes nothing else. -/
theorem footprint_store {rs : Register} {w : Word} {a : Address} (source : i.source? = some rs)
    (address : i.address? m = some w) (place : w.toInt = a.val)
    (side : ∀ r, i.moved? m r = none) (noPop : ∀ rd, i ≠ .pop rd) :
    i.Footprint m ((m.setCell a (m.reg rs)).setReg .ip (m.ip + Int32.ofNat i.length)) := by
  refine footprint_goTo (cell_setCell_eq_stored source address place) (fun r _ => ?_)
    (fun rd eq => absurd eq (noPop rd)) fun _ => rfl
  rw [side, Machine.reg_setCell]
  rfl

/-- An instruction that writes nothing but the instruction pointer. -/
theorem footprint_still {target : Word} (store : i.source? = none)
    (side : ∀ r, i.moved? m r = none) (noPop : ∀ rd, i ≠ .pop rd)
    (pointer : ¬ i.Transfers m → target = m.ip + Int32.ofNat i.length) :
    i.Footprint m (m.setReg .ip target) := by
  refine footprint_goTo (fun a => ?_) (fun r _ => ?_) (fun rd eq => absurd eq (noPop rd)) pointer
  · simp [stored?, store]
  · rw [side]
    rfl

/-- An instruction that is executed and does not halt has its footprint. -/
theorem footprint_execute {o : Outcome} (h : i.execute m = .ok (o, after)) (goes : o ≠ .halt) :
    i.Footprint m after := by
  cases i with
  | movi _ _ | mov _ _ | add _ _ | sub _ _ | mul _ _ =>
    obtain ⟨-, rfl⟩ := Prod.mk.inj (pure_eq_ok_iff.mp h)
    exact footprint_assign _ rfl rfl (fun _ => rfl) (by simp)
  | idiv rs rd =>
    simp only [execute] at h
    split at h
    · obtain ⟨-, rfl⟩ := Prod.mk.inj (pure_eq_ok_iff.mp h)
      exact footprint_assign _ rfl rfl (fun _ => rfl) (by simp)
    · simp [throw, throwThe, MonadExceptOf.throw] at h
  | ld _ _ | ldlo _ _ =>
    obtain ⟨a, -, done⟩ := bind_eq_ok_iff.mp h
    obtain ⟨-, rfl⟩ := Prod.mk.inj (pure_eq_ok_iff.mp done)
    exact footprint_assign _ rfl rfl (fun _ => rfl) (by simp)
  | st _ _ | stlo _ _ =>
    obtain ⟨a, place, done⟩ := bind_eq_ok_iff.mp h
    obtain ⟨-, rfl⟩ := Prod.mk.inj (pure_eq_ok_iff.mp done)
    exact footprint_store rfl rfl (Address.require_eq_ok_iff.mp place) (fun _ => rfl) (by simp)
  | jmp _ | ret =>
    obtain ⟨-, rfl⟩ := Prod.mk.inj (pure_eq_ok_iff.mp h)
    exact footprint_still rfl (fun _ => rfl) (by simp) fun stays => absurd trivial stays
  | jnz rs ra =>
    obtain ⟨-, rfl⟩ := Prod.mk.inj (pure_eq_ok_iff.mp h)
    exact footprint_still rfl (fun _ => rfl) (by simp) fun stays => if_pos (not_not.mp stays)
  | out rs =>
    obtain ⟨-, rfl⟩ := Prod.mk.inj (pure_eq_ok_iff.mp h)
    exact footprint_still rfl (fun _ => rfl) (by simp) fun _ => rfl
  | jal ra =>
    obtain ⟨-, rfl⟩ := Prod.mk.inj (pure_eq_ok_iff.mp h)
    exact footprint_goTo (fun a => rfl) (fun r _ => reg_setReg_eq_getD m .rp r _) (by simp)
      fun stays => absurd trivial stays
  | push rs =>
    obtain ⟨a, place, done⟩ := bind_eq_ok_iff.mp h
    obtain ⟨-, rfl⟩ := Prod.mk.inj (pure_eq_ok_iff.mp done)
    exact footprint_goTo (cell_setCell_eq_stored rfl rfl (Address.require_eq_ok_iff.mp place))
      (fun r _ => reg_setReg_eq_getD (m.setCell a _) .sp r _) (by simp) fun _ => rfl
  | pop rd =>
    obtain ⟨a, place, done⟩ := bind_eq_ok_iff.mp h
    obtain ⟨-, rfl⟩ := Prod.mk.inj (pure_eq_ok_iff.mp done)
    refine footprint_goTo (fun b => rfl) (fun r noDest => ?_) (fun s eq => ?_) fun _ => rfl
    · have ne : r ≠ rd := fun eq => noDest (eq ▸ rfl)
      rw [Machine.reg_setReg_of_ne ne]
      exact reg_setReg_eq_getD m .sp r _
    · obtain rfl := Instruction.pop.inj eq
      exact ⟨a, Address.require_eq_ok_iff.mp place, Machine.reg_setReg_self _ _ _⟩
  | halt =>
    obtain ⟨rfl, -⟩ := Prod.mk.inj (pure_eq_ok_iff.mp h)
    exact absurd rfl goes
  | invalid tag => simp [execute, throw, throwThe, MonadExceptOf.throw] at h

end Instruction

namespace Machine

variable {m : Machine}

/-- A step that succeeds without a halt executes an instruction, which has its footprint. -/
theorem exists_footprint {o : Outcome} (h : m.step.outcome = .ok o) (goes : o ≠ .halt) :
    ∃ i, m.current = .ok i ∧ i.Footprint m m.next := by
  unfold next
  unfold step at h ⊢
  cases decoded : m.current with
  | error f => simp [decoded, Except.bind] at h
  | ok i =>
    cases executed : i.execute m with
    | error f => simp [decoded, Except.bind, executed] at h
    | ok done =>
      simp only [decoded, Except.bind, executed, Except.ok.injEq] at h ⊢
      rw [← h] at goes
      exact ⟨i, rfl, Instruction.footprint_execute executed goes⟩

/-- The effective address of an access that succeeds is the address of a cell. -/
theorem exists_cell_of_ok {o : Outcome} {i : Instruction} {w : Word}
    (h : m.step.outcome = .ok o) (decoded : m.current = .ok i)
    (address : i.address? m = some w) : ∃ a : Address, w.toInt = a.val := by
  have inside : ¬ w.IsOutside := fun outside => by
    have faults := step_eq_error_iff.mpr (.access decoded address outside)
    rw [h] at faults
    cases faults
  unfold Word.IsOutside at inside
  refine ⟨⟨w.toInt.toNat, by omega⟩, ?_⟩
  rw [Int.toNat_of_nonneg (by omega)]

/-! ## 3.  A run -/

/-- The word that the next step of a machine stores in a cell, if it is executed. -/
def stored? (m : Machine) (a : Address) : Option Word :=
  match m.step.outcome, m.current with
  | .ok _, .ok i => i.stored? m a
  | _, _ => none

/-- After one step, however it goes, a cell holds what the step has stored there, and otherwise
what it held. -/
theorem cell_next (m : Machine) (a : Address) :
    m.next.cell a = (m.stored? a).getD (m.cell a) := by
  unfold stored?
  cases outcome : m.step.outcome with
  | error f =>
    rw [next_of_ends (.inr ⟨f, outcome⟩)]
    rfl
  | ok o =>
    by_cases halts : o = .halt
    · rw [halts] at outcome
      rw [next_of_ends (.inl outcome), (current_and_machine_of_halt outcome).1]
      rfl
    · obtain ⟨i, decoded, footprint⟩ := exists_footprint outcome halts
      rw [decoded]
      exact footprint.cell a

/-- After a run, a cell holds what the latest step that stored there has stored, and what it
held at the start if there was none.  The induction is on the number of steps: the last one
has stored there, or the cell is as it was before it. -/
theorem cell_iterate_next (m : Machine) (a : Address) (n : Nat) :
    (∃ k < n, (next^[k] m).stored? a = some ((next^[n] m).cell a) ∧
      ∀ j < n, k < j → (next^[j] m).stored? a = none) ∨
    (∀ k < n, (next^[k] m).stored? a = none) ∧ (next^[n] m).cell a = m.cell a := by
  induction n with
  | zero => exact .inr ⟨nofun, rfl⟩
  | succ n ih =>
    rw [Function.iterate_succ_apply', cell_next]
    cases last : (next^[n] m).stored? a with
    | some v => exact .inl ⟨n, n.lt_succ_self, last, fun j _ _ => by omega⟩
    | none =>
      rcases ih with ⟨k, lt, latest, later⟩ | ⟨never, same⟩
      · refine .inl ⟨k, by omega, latest, fun j _ _ => ?_⟩
        rcases (by omega : j < n ∨ j = n) with before | rfl
        · exact later j before (by omega)
        · exact last
      · refine .inr ⟨fun k _ => ?_, same⟩
        rcases (by omega : k < n ∨ k = n) with before | rfl
        · exact never k before
        · exact last

/-! ## The main statement -/

/-- **The footprint of execution.**  A step that succeeds and does not halt executes an
instruction `i`, and between the machines before and after it

* at most one cell changes, and only for an instruction that stores a register: the cell at its
  effective address, which then holds what the register held before;
* a register that is neither the instruction pointer nor the destination is as it was, but for
  the stack pointer of a `push` or a `pop` and the return pointer of a `jal`; a `pop` into the
  stack pointer leaves the popped word there;
* the instruction pointer goes behind the instruction, at most to the end of memory, unless
  control is transferred.

After any number of steps from any machine, a cell holds the word of the latest step that was
executed and stored there, and what it held at the start if there was none. -/
theorem step_footprint (m : Machine) :
    (∀ o, m.step.outcome = .ok o → o ≠ .halt → ∃ i, m.current = .ok i ∧
      (∀ a, m.next.cell a ≠ m.cell a → ∃ rs w, i.source? = some rs ∧
        i.address? m = some w ∧ w.toInt = a.val ∧ m.next.cell a = m.reg rs) ∧
      (∀ a b, m.next.cell a ≠ m.cell a → m.next.cell b ≠ m.cell b → a = b) ∧
      (∀ rs, i.source? = some rs → ∃ w, ∃ a : Address, i.address? m = some w ∧
        w.toInt = a.val ∧ m.next.cell a = m.reg rs) ∧
      (∀ r, r ≠ .ip → i.destination? ≠ some r →
        m.next.reg r = (i.moved? m r).getD (m.reg r)) ∧
      (∀ rd, i = .pop rd → rd ≠ .ip → ∃ a : Address,
        (m.reg .sp - 1).toInt = a.val ∧ m.next.reg rd = m.cell a) ∧
      (¬ i.Transfers m → m.next.ip.toInt = m.ip.toInt + i.length ∧
        m.ip.toInt + i.length ≤ 500)) ∧
    ∀ n a,
      (∃ k < n, (next^[k] m).stored? a = some ((next^[n] m).cell a) ∧
        ∀ j < n, k < j → (next^[j] m).stored? a = none) ∨
      (∀ k < n, (next^[k] m).stored? a = none) ∧ (next^[n] m).cell a = m.cell a := by
  refine ⟨fun o outcome goes => ?_, fun n a => cell_iterate_next m a n⟩
  obtain ⟨i, decoded, footprint⟩ := exists_footprint outcome goes
  have changed (a : Address) (h : m.next.cell a ≠ m.cell a) : ∃ rs w, i.source? = some rs ∧
      i.address? m = some w ∧ w.toInt = a.val ∧ m.next.cell a = m.reg rs := by
    cases stored : i.stored? m a with
    | none => exact absurd (by rw [footprint.cell, stored]; rfl) h
    | some v =>
      obtain ⟨rs, w, source, address, place, rfl⟩ := Instruction.stored?_eq_some_iff.mp stored
      exact ⟨rs, w, source, address, place, by rw [footprint.cell, stored]; rfl⟩
  refine ⟨i, decoded, changed, fun a b ha hb => ?_, fun rs source => ?_, footprint.register,
    footprint.popped, fun stays => ?_⟩
  · obtain ⟨-, w, -, address, place, -⟩ := changed a ha
    obtain ⟨-, w', -, address', place', -⟩ := changed b hb
    obtain rfl : w = w' := Option.some.inj (address.symm.trans address')
    exact Fin.ext (by omega)
  · obtain ⟨w, address⟩ := Instruction.exists_address_of_source (m := m) source
    obtain ⟨a, place⟩ := exists_cell_of_ok outcome decoded address
    have stored : i.stored? m a = some (m.reg rs) :=
      Instruction.stored?_eq_some_iff.mpr ⟨rs, w, source, address, place, rfl⟩
    exact ⟨w, a, address, place, by rw [footprint.cell, stored]; rfl⟩
  · rw [footprint.pointer stays, toInt_ip_add_length_of_decode decoded]
    exact ⟨rfl, (ip_add_length_le_of_decode decoded).2⟩

/-- Pushing the stack pointer: the cell takes what it was before, and it moves on. -/
theorem step_footprint_push :
    let m := ofImage ⟨[15, 31], by decide⟩
    m.step.outcome = .ok .proceed ∧ m.next.cell 2 = 2 ∧
      (∀ b, m.next.cell b ≠ m.cell b → b = 2) ∧ m.next.reg .sp = 3 ∧ m.next.ip.toInt = 2 := by
  intro m
  have outcome : m.step.outcome = .ok .proceed := by decide +kernel
  have decoded : m.current = .ok (.push .sp) := by decide +kernel
  have sp : m.reg .sp = 2 := by decide +kernel
  have ip : m.ip = 0 := by decide +kernel
  obtain ⟨i, current, changed, -, stores, side, -, pointer⟩ :=
    (step_footprint m).1 _ outcome nofun
  obtain rfl : Instruction.push .sp = i := Except.ok.inj (decoded.symm.trans current)
  -- the effective address is what the stack pointer holds
  have at_two {w : Word} {a : Address} (address : some (m.reg .sp) = some w)
      (place : w.toInt = a.val) : a = 2 := by
    obtain rfl : 2 = w := sp.symm.trans (Option.some.inj address)
    exact Fin.ext (Int.ofNat.inj place.symm)
  refine ⟨outcome, ?_, fun b written => ?_, ?_, ?_⟩
  · obtain ⟨w, a, address, place, stored⟩ := stores .sp rfl
    rw [← at_two address place, stored, sp]
  · obtain ⟨-, w, -, address, place, -⟩ := changed b written
    exact at_two address place
  · rw [side .sp (by decide) nofun]
    simp only [Instruction.moved?, if_true, Option.getD_some, sp]
    rfl
  · rw [(pointer id).1, ip]
    rfl

end Machine

end RegisterVM
