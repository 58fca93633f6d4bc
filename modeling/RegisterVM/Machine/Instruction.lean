import RegisterVM.Machine.Register

/-!
# Instructions

An instruction is a tag word followed by at most two operand words.  An operand is an
immediate word or the number of a register; memory is reached only through the value of a
register.

| tag | instruction | operands |
|-----|-------------|----------|
| 1 | `movi` | immediate, destination |
| 2 to 6 | `mov`, `add`, `sub`, `mul`, `idiv` | source, destination |
| 7 | `jmp` | target |
| 8 | `jnz` | tested register, target |
| 9 | `out` | source |
| 10 | `halt` | |
| 11 | `ld` | address, destination |
| 12 | `st` | address, source |
| 13 | `jal` | target |
| 14 | `ret` | |
| 15 | `push` | source |
| 16 | `pop` | destination |
| 17 | `ldlo` | offset from the frame, destination |
| 18 | `stlo` | offset from the frame, source |

* `Instruction.encode`: the words of an instruction, the table above.
* `Instruction.length`: how many they are (`length_encode`).
* `Instruction.text`: an instruction as it stands in a log line.
-/

namespace RegisterVM

/-- An instruction of the machine.  A tag that the table does not hold is carried as
`invalid`, so that it is the execution that refuses it. -/
inductive Instruction where
  | movi (imm : Word) (rd : Register)
  | mov (rs rd : Register)
  | add (rs rd : Register)
  | sub (rs rd : Register)
  | mul (rs rd : Register)
  | idiv (rs rd : Register)
  | jmp (ra : Register)
  | jnz (rs ra : Register)
  | out (rs : Register)
  | halt
  | ld (ra rd : Register)
  | st (ra rs : Register)
  | jal (ra : Register)
  | ret
  | push (rs : Register)
  | pop (rd : Register)
  | ldlo (imm : Word) (rd : Register)
  | stlo (imm : Word) (rs : Register)
  | invalid (tag : Word)
  deriving DecidableEq, Repr

namespace Instruction

/-- The number of a register as a word. -/
def registerWord (r : Register) : Word := Int32.ofNat r.val

/-- The words of an instruction: its tag, then its operands in the order of the table. -/
def encode : Instruction → List Word
  | movi imm rd => [1, imm, registerWord rd]
  | mov rs rd => [2, registerWord rs, registerWord rd]
  | add rs rd => [3, registerWord rs, registerWord rd]
  | sub rs rd => [4, registerWord rs, registerWord rd]
  | mul rs rd => [5, registerWord rs, registerWord rd]
  | idiv rs rd => [6, registerWord rs, registerWord rd]
  | jmp ra => [7, registerWord ra]
  | jnz rs ra => [8, registerWord rs, registerWord ra]
  | out rs => [9, registerWord rs]
  | halt => [10]
  | ld ra rd => [11, registerWord ra, registerWord rd]
  | st ra rs => [12, registerWord ra, registerWord rs]
  | jal ra => [13, registerWord ra]
  | ret => [14]
  | push rs => [15, registerWord rs]
  | pop rd => [16, registerWord rd]
  | ldlo imm rd => [17, imm, registerWord rd]
  | stlo imm rs => [18, imm, registerWord rs]
  | invalid tag => [tag]

/-- How many words an instruction takes. -/
def length : Instruction → Nat
  | movi .. | mov .. | add .. | sub .. | mul .. | idiv .. => 3
  | jnz .. | ld .. | st .. | ldlo .. | stlo .. => 3
  | jmp .. | out .. | jal .. | push .. | pop .. => 2
  | halt | ret | invalid .. => 1

/-- The name of the form of an instruction. -/
def mnemonic : Instruction → String
  | movi .. => "Movi"
  | mov .. => "Mov"
  | add .. => "Add"
  | sub .. => "Sub"
  | mul .. => "Mul"
  | idiv .. => "Idiv"
  | jmp .. => "Jmp"
  | jnz .. => "Jnz"
  | out .. => "Out"
  | halt => "Halt"
  | ld .. => "Ld"
  | st .. => "St"
  | jal .. => "Jal"
  | ret => "Ret"
  | push .. => "Push"
  | pop .. => "Pop"
  | ldlo .. => "Ldlo"
  | stlo .. => "Stlo"
  | invalid .. => "Invalid"

/-- The operands of an instruction under the names of their roles: an immediate, a
destination, a source, a register that holds an address, and the tag of an invalid one. -/
def operands : Instruction → List (String × Int)
  | movi imm rd => [("imm", imm.toInt), ("rd", rd.val)]
  | mov rs rd | add rs rd | sub rs rd | mul rs rd | idiv rs rd =>
      [("rs", rs.val), ("rd", rd.val)]
  | jmp ra | jal ra => [("ra", ra.val)]
  | jnz rs ra => [("rs", rs.val), ("ra", ra.val)]
  | out rs | push rs => [("rs", rs.val)]
  | halt | ret => []
  | ld ra rd => [("ra", ra.val), ("rd", rd.val)]
  | st ra rs => [("ra", ra.val), ("rs", rs.val)]
  | pop rd => [("rd", rd.val)]
  | ldlo imm rd => [("imm", imm.toInt), ("rd", rd.val)]
  | stlo imm rs => [("imm", imm.toInt), ("rs", rs.val)]
  | invalid tag => [("tag", tag.toInt)]

/-- An instruction as it stands in a log line: its name, and its operands between braces
when it has any. -/
def text (i : Instruction) : String :=
  match i.operands with
  | [] => i.mnemonic
  | operands =>
      let fields := operands.map fun field =>
        field.1 ++ ": " ++ String.ofList (Text.Numeral.integer field.2)
      i.mnemonic ++ " \x7b " ++ ", ".intercalate fields ++ " \x7d"

theorem length_encode (i : Instruction) : i.encode.length = i.length := by
  cases i <;> rfl

theorem one_le_length (i : Instruction) : 1 ≤ i.length := by
  cases i <;> simp [length]

theorem length_le_three (i : Instruction) : i.length ≤ 3 := by
  cases i <;> simp [length]

@[simp] theorem ofWord?_registerWord (r : Register) :
    Register.ofWord? (registerWord r) = some r := by
  rw [Register.ofWord?_eq_some_iff, registerWord, Int32.toInt_ofNat_of_lt]
  have := r.isLt
  omega

end Instruction

end RegisterVM
