import RegisterVM.Proofs.Machine.Sequence

/-!
# Calls and returns

A call leaves the address behind itself in the return pointer, and a return goes to where that
points.  What lies between them is any code at all: it may loop, write to itself, and use the
stack, the frame and even the instruction pointer as it likes.  The return goes behind the call as
long as nothing in between is made to write the return pointer.

* `reg_iterate_next`: a register that no instruction of a run writes is as it was; the induction is
  on the number of steps, and each step has its footprint.
* `Instruction.SparesReturn`: an instruction that does not write the return pointer.
* `call_returns`: the main statement.
-/

namespace RegisterVM

/-- An instruction that leaves the return pointer alone: it is no call, and the return pointer is
not its destination. -/
def Instruction.SparesReturn (i : Instruction) : Prop :=
  (∀ ra, i ≠ .jal ra) ∧ i.destination? ≠ some .rp

/-- Only a call moves the return pointer on the side. -/
theorem Instruction.moved?_rp {i : Instruction} (noCall : ∀ ra, i ≠ .jal ra) (m : Machine) :
    i.moved? m .rp = none := by
  cases i with
  | jal ra => exact absurd rfl (noCall ra)
  | _ => rfl

namespace Machine

variable {m : Machine}

/-! ## Registers that are not written -/

/-- A step leaves a register that its instruction does not write, whether or not it succeeds. -/
theorem reg_next {r : Register} (noIp : r ≠ .ip)
    (spared : ∀ i, m.current = .ok i → i.destination? ≠ some r ∧ i.moved? m r = none) :
    m.next.reg r = m.reg r := by
  by_cases ends : m.Ends
  · rw [next_of_ends ends]
  · cases decoded : m.current with
    | error f => exact absurd (.inr ⟨f, step_eq_error_iff.mpr (.undecodable decoded)⟩) ends
    | ok i =>
      obtain ⟨noDest, still⟩ := spared i decoded
      rw [(footprint_of_goes decoded ends).register r noIp noDest, still]
      rfl

/-- A run leaves a register that none of its instructions writes. -/
theorem reg_iterate_next {r : Register} (noIp : r ≠ .ip) {n : Nat}
    (spared : ∀ k < n, ∀ i, (next^[k] m).current = .ok i →
      i.destination? ≠ some r ∧ i.moved? (next^[k] m) r = none) :
    (next^[n] m).reg r = m.reg r := by
  induction n with
  | zero => rfl
  | succ n ih =>
    rw [Function.iterate_succ_apply', reg_next noIp (spared n n.lt_succ_self)]
    exact ih fun k lt => spared k (lt.trans n.lt_succ_self)

/-! ## The main statement -/

/-- **A return goes behind the call.**  A step that decodes a call succeeds; it sets the return
pointer to the address behind the call and the instruction pointer to what the target register held,
or to the address behind the call when that is the return pointer itself; and it writes nothing
else.  After any number of further steps none of which executes a call or has the return pointer as
its destination, a return goes behind the call.  A step that halts or faults does nothing, so it
needs no exception. -/
theorem call_returns (m : Machine) (ra : Register) (call : m.current = .ok (.jal ra)) :
    m.step.outcome = .ok .proceed ∧
    (m.next.reg .rp).toInt = m.ip.toInt + 2 ∧
    m.next.ip = (if ra = .rp then m.next.reg .rp else m.reg ra) ∧
    (∀ r, r ≠ .ip → r ≠ .rp → m.next.reg r = m.reg r) ∧
    (∀ a, m.next.cell a = m.cell a) ∧
    ∀ n, (∀ k < n, ∀ i, (next^[k] m.next).current = .ok i → i.SparesReturn) →
      (next^[n] m.next).current = .ok .ret →
      (next^[n] m.next).step.outcome = .ok .proceed ∧
        (next^[n + 1] m.next).ip.toInt = m.ip.toInt + 2 := by
  let behind := m.ip + Int32.ofNat (Instruction.jal ra).length
  let called := m.setReg .rp behind
  have step : m.step = ⟨called.setReg .ip (called.reg ra), .ok .proceed⟩ :=
    step_of_execute call rfl
  have next_eq : m.next = called.setReg .ip (called.reg ra) := congrArg Step.machine step
  have rp : m.next.reg .rp = behind := by
    rw [next_eq, reg_setReg_of_ne (by decide), reg_setReg_self]
  have plain : behind.toInt = m.ip.toInt + 2 := by
    rw [toInt_ip_add_length_of_decode call, Instruction.length, Nat.cast_ofNat]
  refine ⟨by rw [step], by rw [rp, plain], ?_, fun r noIp noRp => ?_, fun a => ?_,
    fun n spares ret => ?_⟩
  · rw [rp, next_eq, ip, reg_setReg_self, reg_setReg]
    simp only [eq_comm]
  · rw [next_eq, reg_setReg_of_ne noIp, reg_setReg_of_ne noRp]
  · rw [next_eq, cell_setReg, cell_setReg]
  · have held : (next^[n] m.next).reg .rp = behind := by
      rw [← rp]
      refine reg_iterate_next (by decide) fun k lt i decoded => ?_
      obtain ⟨noCall, noDest⟩ := spares k lt i decoded
      exact ⟨noDest, Instruction.moved?_rp noCall _⟩
    have back : (next^[n] m.next).step = ⟨(next^[n] m.next).setReg .ip behind, .ok .proceed⟩ := by
      rw [← held]
      exact step_of_execute ret rfl
    refine ⟨by rw [back], ?_⟩
    rw [Function.iterate_succ_apply', next, back, ip, reg_setReg_self, plain]

/-- A subroutine that pushes the frame pointer and pops it into the instruction pointer, where the
next instruction overwrites it. -/
theorem call_returns_past_pop :
    let m := (ofImage ⟨[1, 6, 1, 13, 1, 10, 15, 30, 16, 0, 14], by decide⟩).next
    m.current = .ok (.jal 1) ∧ (next^[2] m.next).current = .ok .ret ∧
      (next^[3] m.next).ip.toInt = m.ip.toInt + 2 := by
  intro m
  have call : m.current = .ok (.jal 1) := by decide +kernel
  have first : m.next.current = .ok (.push .fp) := by decide +kernel
  have second : (next^[1] m.next).current = .ok (.pop .ip) := by decide +kernel
  have ret : (next^[2] m.next).current = .ok .ret := by decide +kernel
  clear_value m
  have spares (k : Nat) (lt : k < 2) (i : Instruction)
      (decoded : (next^[k] m.next).current = .ok i) : i.SparesReturn := by
    rcases (by omega : k = 0 ∨ k = 1) with rfl | rfl
    · obtain rfl := Except.ok.inj (first.symm.trans decoded)
      exact ⟨nofun, nofun⟩
    · obtain rfl := Except.ok.inj (second.symm.trans decoded)
      exact ⟨nofun, by decide⟩
  obtain ⟨-, -, -, -, -, returns⟩ := call_returns m 1 call
  exact ⟨call, ret, (returns 2 spares ret).2⟩

end Machine

end RegisterVM
