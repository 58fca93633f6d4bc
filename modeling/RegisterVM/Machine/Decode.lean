import RegisterVM.Machine.Fault
import RegisterVM.Machine.Instruction
import RegisterVM.Machine.Memory

/-!
# Decoding

Decoding reads the instruction at an address.  The tag is fetched first and then the
operands from left to right; a fetch beyond memory and an operand that names no register are
faults, and an operand is fetched before it is taken as a register.

* `fetch`, `fetchRegister`: one word of an instruction, as a word and as a register.
* `decode`: the instruction at an address.
-/

namespace RegisterVM

/-- A word as an address that the instruction at `ip` needs. -/
def Address.require (ip w : Word) : Except Fault Address :=
  match Address.ofWord? w with
  | some a => .ok a
  | none => .error (.addressOutOfRange w ip)

/-- The word `offset` cells after `ip`. -/
def fetch (memory : Memory) (ip offset : Word) : Except Fault Word :=
  (Address.require ip (ip + offset)).map memory.read

/-- The register that the word `offset` cells after `ip` names. -/
def fetchRegister (memory : Memory) (ip offset : Word) : Except Fault Register := do
  let index ← fetch memory ip offset
  match Register.ofWord? index with
  | some r => .ok r
  | none => .error (.badRegister index ip)

/-- The instruction at `ip`. -/
def decode (memory : Memory) (ip : Word) : Except Fault Instruction := do
  let word := fetch memory ip
  let register := fetchRegister memory ip
  match ← word 0 with
  | 1 => return .movi (← word 1) (← register 2)
  | 2 => return .mov (← register 1) (← register 2)
  | 3 => return .add (← register 1) (← register 2)
  | 4 => return .sub (← register 1) (← register 2)
  | 5 => return .mul (← register 1) (← register 2)
  | 6 => return .idiv (← register 1) (← register 2)
  | 7 => return .jmp (← register 1)
  | 8 => return .jnz (← register 1) (← register 2)
  | 9 => return .out (← register 1)
  | 10 => return .halt
  | 11 => return .ld (← register 1) (← register 2)
  | 12 => return .st (← register 1) (← register 2)
  | 13 => return .jal (← register 1)
  | 14 => return .ret
  | 15 => return .push (← register 1)
  | 16 => return .pop (← register 1)
  | 17 => return .ldlo (← word 1) (← register 2)
  | 18 => return .stlo (← word 1) (← register 2)
  | tag => return .invalid tag

theorem Address.require_eq_ok_iff {ip w : Word} {a : Address} :
    Address.require ip w = .ok a ↔ w.toInt = a.val := by
  unfold Address.require
  split
  · next b h =>
    rw [Address.ofWord?_eq_some_iff] at h
    simp only [Except.ok.injEq, h, Fin.ext_iff]
    omega
  · next h =>
    rw [Address.ofWord?_eq_none_iff] at h
    simp only [reduceCtorEq, false_iff]
    omega

theorem Address.require_eq_error_iff {ip w : Word} {f : Fault} :
    Address.require ip w = .error f ↔
      (w.toInt < 0 ∨ 500 ≤ w.toInt) ∧ f = .addressOutOfRange w ip := by
  unfold Address.require
  split
  · next b h =>
    rw [Address.ofWord?_eq_some_iff] at h
    simp only [reduceCtorEq, false_iff, not_and]
    omega
  · next h =>
    rw [Address.ofWord?_eq_none_iff] at h
    simp only [Except.error.injEq, h, true_and]
    exact eq_comm

theorem fetch_eq_ok_iff {memory : Memory} {ip offset w : Word} :
    fetch memory ip offset = .ok w ↔
      ∃ a : Address, (ip + offset).toInt = a.val ∧ memory.read a = w := by
  unfold fetch
  cases h : Address.require ip (ip + offset) with
  | ok a =>
    rw [Address.require_eq_ok_iff] at h
    simp only [Except.map, Except.ok.injEq]
    constructor
    · exact fun e => ⟨a, h, e⟩
    · rintro ⟨b, hb, e⟩
      obtain rfl : a = b := Fin.ext (by omega)
      exact e
  | error f =>
    rw [Address.require_eq_error_iff] at h
    simp only [Except.map, reduceCtorEq, false_iff, not_exists, not_and]
    intro a ha
    omega

end RegisterVM
