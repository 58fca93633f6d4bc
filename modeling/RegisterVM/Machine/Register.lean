import RegisterVM.Machine.Word
import RegisterVM.Text.Blank
import RegisterVM.Text.Letters

/-!
# Registers

The machine has thirty-two registers.  Four of them have a role and a name of their own: the
instruction pointer `ip`, the return pointer `rp`, the frame pointer `fp` and the stack
pointer `sp`.  The others are called `r1` to `r28`, and every register, the four included,
also answers to `r` and its number.

* `Register.name`: the name by which a register is listed.
* `Register.ofName?`: the register that a typed name stands for.
* `Register.ofWord?`: the register that an operand word of an instruction names.
-/

namespace RegisterVM

/-- A register, by its number. -/
abbrev Register : Type := Fin 32

namespace Register

/-- The instruction pointer. -/
def ip : Register := 0

/-- The return pointer. -/
def rp : Register := 29

/-- The frame pointer. -/
def fp : Register := 30

/-- The stack pointer. -/
def sp : Register := 31

/-- The name under a register number.  Numbers past the last register are named by the same
rule, so that a listing of any length has its labels. -/
def nameAt (number : Nat) : String :=
  if number = 0 then "ip"
  else if number = 29 then "rp"
  else if number = 30 then "fp"
  else if number = 31 then "sp"
  else "r" ++ Text.Numeral.decimal number

/-- The name of a register. -/
def name (r : Register) : String := nameAt r.val

/-- The register with the given number. -/
def ofNumber? (number : Nat) : Option Register :=
  if h : number < 32 then some ⟨number, h⟩ else none

/-- The register whose number is the value of a word. -/
def ofWord? (w : Word) : Option Register :=
  if 0 ≤ w.toInt then ofNumber? w.toInt.toNat else none

/-- The register that a trimmed name stands for: one of the four names in either case, or
the letter `r` in either case and a number. -/
def ofLetters? (name : List Char) : Option Register :=
  if Text.sameLetters name ['i', 'p'] then some ip
  else if Text.sameLetters name ['r', 'p'] then some rp
  else if Text.sameLetters name ['f', 'p'] then some fp
  else if Text.sameLetters name ['s', 'p'] then some sp
  else
    match name with
    | 'r' :: digits => (Text.Numeral.readNatural? digits).bind ofNumber?
    | 'R' :: digits => (Text.Numeral.readNatural? digits).bind ofNumber?
    | _ => none

/-- The register that a typed name stands for, blanks around the name ignored. -/
def ofName? (typed : String) : Option Register :=
  ofLetters? (Text.trimBlanks typed.toList)

theorem ofNumber?_eq_some_iff {number : Nat} {r : Register} :
    ofNumber? number = some r ↔ number = r.val := by
  unfold ofNumber?
  constructor
  · intro h
    split at h
    · rw [← Option.some.inj h]
    · simp at h
  · rintro rfl
    simp

@[simp] theorem ofNumber?_val (r : Register) : ofNumber? r.val = some r :=
  ofNumber?_eq_some_iff.mpr rfl

theorem ofWord?_eq_some_iff {w : Word} {r : Register} :
    ofWord? w = some r ↔ w.toInt = r.val := by
  unfold ofWord?
  split
  · rw [ofNumber?_eq_some_iff]
    omega
  · constructor
    · simp
    · intro h
      omega

theorem ofWord?_eq_none_iff {w : Word} : ofWord? w = none ↔ w.toInt < 0 ∨ 32 ≤ w.toInt := by
  unfold ofWord? ofNumber?
  split
  · split
    · simp only [reduceCtorEq, false_iff]
      omega
    · simp only [true_iff]
      omega
  · simp only [true_iff]
    omega

end Register

end RegisterVM
