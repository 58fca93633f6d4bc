import Mathlib.Data.Int.ModEq
import RegisterVM.Proofs.Machine.Sequence

/-!
# Arithmetic

Words wrap around, and integers do not.  Nevertheless a program that only moves, adds, subtracts
and multiplies can be understood on integers: taking the word of an integer is compatible with all
of this, so it is enough to take it once, at the end.

## 1.  Words and integers

`Word.eq_ofInt_iff`: there is one word congruent to an integer modulo `2 ^ 32`.

## 2.  Straight-line arithmetic

`Instruction.onIntegers` is an arithmetic instruction on integers and `onIntegers` a sequence of
them.  The instruction pointer needs care, as it is a register like any other: it is read as the
address of the instruction, and what is written to it is lost.  `Machine.Wraps` says that the other
registers hold the words of some integers; one instruction keeps this (`wraps_next`), and so does a
sequence (`Executes.wraps`).

## 3.  Division

A quotient is not compatible with taking words, so it stands alone.  `IsQuotient` is the law of
division, and `toInt_div` says that it holds but for one overflow.
-/

namespace RegisterVM

/-! ## 1.  Words and integers -/

/-- The word of an integer is the only one that is congruent to it. -/
theorem Word.eq_ofInt_iff {w : Word} {z : Int} :
    w = Int32.ofInt z ↔ w.toInt ≡ z [ZMOD 2 ^ 32] := by
  have low := w.le_toInt
  have high := w.toInt_lt
  rw [eq_comm, Int32.ofInt_eq_iff_bmod_eq_toInt, Int.bmod_eq_iff (by decide), Int.modEq_comm,
    Int.modEq_iff_dvd]
  constructor
  · exact fun h => h.2.2
  · exact fun h => ⟨by omega, by omega, h⟩

/-! ## 2.  Straight-line arithmetic -/

namespace Instruction

/-- A constant, a copy, a sum, a difference or a product. -/
def IsArithmetic : Instruction → Prop
  | movi .. | mov .. | add .. | sub .. | mul .. => True
  | _ => False

/-- Registers of integers with one of them assigned to.  What is assigned to the instruction pointer
is discarded. -/
def assign (x : Register → Int) (rd : Register) (z : Int) : Register → Int :=
  if rd = .ip then x else Function.update x rd z

/-- What an arithmetic instruction at an address makes of registers of integers.  The instruction
pointer reads as the address. -/
def onIntegers (i : Instruction) (address : Int) (x : Register → Int) : Register → Int :=
  let read (r : Register) : Int := if r = .ip then address else x r
  match i with
  | movi imm rd => assign x rd imm.toInt
  | mov rs rd => assign x rd (read rs)
  | add rs rd => assign x rd (read rd + read rs)
  | sub rs rd => assign x rd (read rd - read rs)
  | mul rs rd => assign x rd (read rd * read rs)
  | _ => x

end Instruction

/-- What arithmetic instructions that lie one behind the other make of registers of integers. -/
def onIntegers : (address : Int) → List Instruction → (Register → Int) → Register → Int
  | _, [], x => x
  | address, i :: is, x => onIntegers (address + i.length) is (i.onIntegers address x)

namespace Machine

variable {m n : Machine} {i : Instruction} {is : List Instruction} {x : Register → Int}

/-- The registers but the instruction pointer hold the words of these integers. -/
def Wraps (m : Machine) (x : Register → Int) : Prop := ∀ r, r ≠ .ip → m.reg r = Int32.ofInt (x r)

theorem wraps_toInt (m : Machine) : m.Wraps fun r => (m.reg r).toInt :=
  fun r _ => (Int32.ofInt_toInt (m.reg r)).symm

/-- An assignment that is followed by a write to the instruction pointer. -/
theorem Wraps.assign (wraps : m.Wraps x) {rd : Register} {w target : Word} {z : Int}
    (word : w = Int32.ofInt z) :
    ((m.setReg rd w).setReg .ip target).Wraps (Instruction.assign x rd z) := by
  intro r noIp
  rw [reg_setReg_of_ne noIp, reg_setReg, Instruction.assign]
  by_cases same : rd = r
  · subst same
    rw [if_pos rfl, if_neg noIp, Function.update_self, word]
  · rw [if_neg same, wraps r noIp]
    split
    · rfl
    · rw [Function.update_of_ne (Ne.symm same)]

/-- An arithmetic instruction does on words what it does on integers. -/
theorem wraps_next (decoded : m.current = .ok i) (arithmetic : i.IsArithmetic) (wraps : m.Wraps x) :
    m.next.Wraps (i.onIntegers m.ip.toInt x) := by
  have read (r : Register) : m.reg r = Int32.ofInt (if r = .ip then m.ip.toInt else x r) := by
    by_cases ip : r = .ip
    · rw [if_pos ip, Int32.ofInt_toInt, ip]
      rfl
    · rw [if_neg ip, wraps r ip]
  have next_eq {n : Machine} (executed : i.execute m = .ok (.proceed, n)) : m.next = n :=
    congrArg Step.machine (step_of_execute decoded executed)
  cases i with
  | movi imm rd =>
    rw [next_eq rfl]
    exact wraps.assign (Int32.ofInt_toInt imm).symm
  | mov rs rd =>
    rw [next_eq rfl]
    exact wraps.assign (read rs)
  | add rs rd =>
    rw [next_eq rfl]
    exact wraps.assign (by rw [Int32.ofInt_add, ← read, ← read])
  | sub rs rd =>
    rw [next_eq rfl]
    exact wraps.assign (by rw [Int32.ofInt_sub, ← read, ← read])
  | mul rs rd =>
    rw [next_eq rfl]
    exact wraps.assign (by rw [Int32.ofInt_mul, ← read, ← read])
  | _ => exact arithmetic.elim

/-- An arithmetic instruction transfers no control. -/
theorem toInt_ip_next (decoded : m.current = .ok i) (goes : ¬ m.Ends)
    (arithmetic : i.IsArithmetic) : m.next.ip.toInt = m.ip.toInt + i.length := by
  have stays : ¬ i.Transfers m := by
    cases i with
    | jmp _ | jal _ | ret | jnz _ _ => exact arithmetic.elim
    | _ => exact id
  rw [(footprint_of_goes decoded goes).pointer stays, toInt_ip_add_length_of_decode decoded]

/-- Arithmetic instructions, one after the other, do on words what they do on integers. -/
theorem Executes.wraps (executes : m.Executes is n) (arithmetic : ∀ i ∈ is, i.IsArithmetic)
    (wraps : m.Wraps x) : n.Wraps (onIntegers m.ip.toInt is x) := by
  induction executes generalizing x with
  | nil => exact wraps
  | cons decoded goes _ ih =>
    obtain ⟨first, rest⟩ := List.forall_mem_cons.mp arithmetic
    rw [onIntegers, ← toInt_ip_next decoded goes first]
    exact ih rest (wraps_next decoded first wraps)

end Machine

/-! ## 3.  Division -/

/-- The law of division toward zero: the remainder is smaller than the divisor, and it is zero or
has the sign of the dividend. -/
def IsQuotient (dividend divisor q : Int) : Prop :=
  ∃ r, dividend = q * divisor + r ∧ |r| < |divisor| ∧ (r = 0 ∨ r.sign = dividend.sign)

/-- A remainder is smaller than the divisor. -/
theorem natAbs_tmod_lt {d : Int} (nonzero : d ≠ 0) (n : Int) :
    (n.tmod d).natAbs < d.natAbs := by
  rw [Int.natAbs_tmod]
  exact Nat.mod_lt _ (Int.natAbs_pos.mpr nonzero)

/-- There is one quotient, the one whose fraction is cut off. -/
theorem isQuotient_iff {n d q : Int} (nonzero : d ≠ 0) : IsQuotient n d q ↔ q = n.tdiv d := by
  constructor
  · rintro ⟨r, whole, small, sign⟩
    rw [Int.abs_eq_natAbs, Int.abs_eq_natAbs] at small
    have whole : r + d * q = n := by rw [whole, Int.mul_comm, Int.add_comm]
    rcases le_total 0 n with positive | negative
    · have : 0 ≤ r := by
        rcases sign with rfl | same
        · exact le_rfl
        · rwa [← Int.sign_nonneg_iff, same, Int.sign_nonneg_iff]
      exact ((Int.tdiv_tmod_unique positive nonzero).mpr ⟨whole, this, by omega⟩).1.symm
    · have : r ≤ 0 := by
        rcases sign with rfl | same
        · exact le_rfl
        · rwa [← Int.sign_nonpos_iff, same, Int.sign_nonpos_iff]
      exact ((Int.tdiv_tmod_unique' negative nonzero).mpr ⟨whole, by omega, this⟩).1.symm
  · rintro rfl
    refine ⟨n.tmod d, (Int.tdiv_mul_add_tmod n d).symm, ?_, ?_⟩
    · rw [Int.abs_eq_natAbs, Int.abs_eq_natAbs, Nat.cast_lt]
      exact natAbs_tmod_lt nonzero n
    · by_cases divides : d ∣ n
      · exact .inl (Int.tmod_eq_zero_of_dvd divides)
      · exact .inr (by rw [Int.sign_tmod, if_neg divides])

/-- The quotient of two words is their quotient, but for one overflow. -/
theorem toInt_div {n d : Word} (nonzero : d.toInt ≠ 0)
    (fits : ¬ (n.toInt = -2 ^ 31 ∧ d.toInt = -1)) : (n / d).toInt = n.toInt.tdiv d.toInt := by
  have low := n.le_toInt
  have high := n.toInt_lt
  have := d.le_toInt
  have size := Int.natAbs_tdiv_le_natAbs n.toInt d.toInt
  have whole := Int.mul_tdiv_add_tmod n.toInt d.toInt
  have small := natAbs_tmod_lt nonzero n.toInt
  rw [Int32.toInt_div]
  refine Int.bmod_eq_of_le (by omega) ?_
  by_contra beyond
  -- only the least word has a quotient that large, and only by minus one
  have large : n.toInt.tdiv d.toInt = 2 ^ 31 := by omega
  rw [large] at whole
  omega

namespace Machine

variable {m : Machine} {rs rd : Register}

/-- A division by a register that is not zero stores the quotient, unless it is assigned to the
instruction pointer. -/
theorem divided_next (decoded : m.current = .ok (.idiv rs rd)) (noIp : rd ≠ .ip)
    (nonzero : m.reg rs ≠ 0) :
    m.step.outcome = .ok .proceed ∧ m.next.reg rd = m.reg rd / m.reg rs := by
  have executed : (Instruction.idiv rs rd).execute m = .ok (.proceed,
      (m.setReg rd (m.reg rd / m.reg rs)).setReg .ip
        (m.ip + Int32.ofNat (Instruction.idiv rs rd).length)) := by
    simp only [Instruction.execute, Word.quotient?, if_neg nonzero]
    rfl
  have step := step_of_execute decoded executed
  refine ⟨by rw [step], ?_⟩
  rw [next, step, reg_setReg_of_ne noIp, reg_setReg_self]

/-! ## The main statement -/

/-- **Arithmetic is that of the integers, up to wrapping around.**  When a machine executes any
number of constants, copies, sums, differences and products one after the other, every register but
the instruction pointer ends with the one word that is congruent modulo `2 ^ 32` to what the same
instructions make of the values of the registers on integers.

A division by a register that is not zero succeeds.  With a destination other than the instruction
pointer it stores the quotient that is cut off toward zero; only the quotient of the least word by
minus one is out of range, and stores the least word; and the quotient of a register by itself is
one. -/
theorem arithmetic_wraps_faithfully (m : Machine) :
    (∀ is n, m.Executes is n → (∀ i ∈ is, i.IsArithmetic) → ∀ r, r ≠ .ip → ∀ w : Word,
      w = n.reg r ↔
        w.toInt ≡ onIntegers m.ip.toInt is (fun s => (m.reg s).toInt) r [ZMOD 2 ^ 32]) ∧
    ∀ rs rd, m.current = .ok (.idiv rs rd) → rd ≠ .ip → m.reg rs ≠ 0 →
      m.step.outcome = .ok .proceed ∧
      (¬ ((m.reg rd).toInt = -2 ^ 31 ∧ (m.reg rs).toInt = -1) → ∀ q,
        q = (m.next.reg rd).toInt ↔ IsQuotient (m.reg rd).toInt (m.reg rs).toInt q) ∧
      ((m.reg rd).toInt = -2 ^ 31 ∧ (m.reg rs).toInt = -1 →
        (m.next.reg rd).toInt = -2 ^ 31) ∧
      (rs = rd → m.next.reg rd = 1) := by
  refine ⟨fun is n executes arithmetic r noIp w => ?_, fun rs rd decoded noIp nonzero => ?_⟩
  · rw [executes.wraps arithmetic m.wraps_toInt r noIp, Word.eq_ofInt_iff]
  · obtain ⟨outcome, quotient⟩ := divided_next decoded noIp nonzero
    have nonzero' : (m.reg rs).toInt ≠ 0 := fun zero => nonzero (Int32.toInt_inj.mp zero)
    refine ⟨outcome, fun fits q => ?_, fun ⟨least, minusOne⟩ => ?_, ?_⟩
    · rw [quotient, toInt_div nonzero' fits, isQuotient_iff nonzero']
    · rw [quotient, Int32.toInt_div, least, minusOne]
      decide
    · rintro rfl
      rw [quotient, Int32.div_self, if_neg nonzero]

/-- The largest word, doubled by adding it to itself and then multiplied by the instruction pointer,
which is six by then; and the quotient of the result by itself. -/
theorem arithmetic_wraps_faithfully_doubled :
    let m := ofImage ⟨[1, 2147483647, 1, 3, 1, 1, 5, 0, 1, 6, 1, 1], by decide⟩
    let n := next^[3] m
    m.Executes [.movi 2147483647 1, .add 1 1, .mul .ip 1] n ∧ n.reg 1 = -12 ∧
      n.next.reg 1 = 1 := by
  intro m n
  have first : m.current = .ok (.movi 2147483647 1) := by decide +kernel
  have second : m.next.current = .ok (.add 1 1) := by decide +kernel
  have third : m.next.next.current = .ok (.mul .ip 1) := by decide +kernel
  have executes : m.Executes [.movi 2147483647 1, .add 1 1, .mul .ip 1] n :=
    .cons first (goes_of_proceed (by decide +kernel)) <|
      .cons second (goes_of_proceed (by decide +kernel)) <|
        .single third (goes_of_proceed (by decide +kernel))
  have begins : m.ip.toInt = 0 := by decide +kernel
  have onInts : onIntegers m.ip.toInt [.movi 2147483647 1, .add 1 1, .mul .ip 1]
      (fun s => (m.reg s).toInt) 1 = 25769803764 := by
    rw [begins]
    rfl
  have wrapped : (-12 : Word) = n.reg 1 := by
    rw [(arithmetic_wraps_faithfully m).1 _ n executes (by simp [Instruction.IsArithmetic]) 1
      (by decide), onInts]
    decide
  have decoded : n.current = .ok (.idiv 1 1) := by decide +kernel
  have nonzero : n.reg 1 ≠ 0 := wrapped ▸ by decide
  obtain ⟨-, -, -, self⟩ := (arithmetic_wraps_faithfully n).2 1 1 decoded (by decide) nonzero
  exact ⟨executes, wrapped.symm, self rfl⟩

end Machine

end RegisterVM
