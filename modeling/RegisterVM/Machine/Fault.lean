import RegisterVM.Machine.Word

/-!
# Faults

The four ways in which an instruction cannot be executed, each with the address of that
instruction, and their wording.
-/

namespace RegisterVM

/-- Why an instruction cannot be executed. -/
inductive Fault where
  /-- The word at `ip` is the tag of no instruction. -/
  | invalidOpcode (tag ip : Word)
  /-- The instruction at `ip` needs a cell that memory does not have. -/
  | addressOutOfRange (address ip : Word)
  /-- An operand of the instruction at `ip` names no register. -/
  | badRegister (index ip : Word)
  /-- The instruction at `ip` divides by zero. -/
  | divisionByZero (ip : Word)
  deriving DecidableEq, Repr

namespace Fault

/-- The wording of a fault. -/
def message : Fault → String
  | invalidOpcode tag ip => "invalid opcode: " ++ tag.text ++ " at address " ++ ip.text
  | addressOutOfRange address ip =>
      "memory address " ++ address.text ++ " out of range (instruction at " ++ ip.text ++ ")"
  | badRegister index ip =>
      "register index " ++ index.text ++ " out of range (instruction at " ++ ip.text ++ ")"
  | divisionByZero ip => "division by zero (instruction at " ++ ip.text ++ ")"

end Fault

end RegisterVM
