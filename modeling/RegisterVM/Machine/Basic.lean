import RegisterVM.Machine.Decode
import RegisterVM.Program.Image

/-!
# The machine

A machine is its thirty-two registers and its five hundred memory cells, and nothing else:
what the next instruction does is decided by them alone.

* `Machine.reg`, `Machine.cell`: the content of a register and of a cell.
* `Machine.setReg`, `Machine.setCell`: one register or one cell replaced; the lemmas
  `reg_setReg`, `cell_setReg`, `reg_setCell` and `cell_setCell` say what either does to either
  view.
* `Machine.load`: a program image put in place of everything the machine held.
* `Machine.listing`: the registers by name, for a log line.
-/

namespace RegisterVM

/-- The registers and the memory. -/
@[ext]
structure Machine where
  registers : Vector Word 32
  memory : Memory
  deriving DecidableEq, Repr

namespace Machine

/-- The content of a register. -/
def reg (m : Machine) (r : Register) : Word := m.registers[r]

/-- The content of a memory cell. -/
def cell (m : Machine) (a : Address) : Word := m.memory.read a

/-- The machine with one register replaced. -/
def setReg (m : Machine) (r : Register) (w : Word) : Machine :=
  { m with registers := m.registers.set r w }

/-- The machine with one memory cell replaced. -/
def setCell (m : Machine) (a : Address) (w : Word) : Machine :=
  { m with memory := m.memory.write a w }

/-- The instruction pointer: the address of the next instruction. -/
def ip (m : Machine) : Word := m.reg Register.ip

/-- The machine in which every register and every cell is zero. -/
def blank : Machine := ⟨Vector.replicate 32 0, Vector.replicate 500 0⟩

/-- Puts a program image in place of everything the machine holds: the image from address
zero on and zeros after it, the instruction pointer at zero, and an empty stack frame right
behind the image. -/
def load (m : Machine) (image : Image) : Machine :=
  let size : Word := Int32.ofNat image.words.length
  let words := image.words.toArray
  let cleared : Machine :=
    ⟨m.registers.map fun _ => 0, m.memory.mapIdx fun a _ => words[a]?.getD 0⟩
  (cleared.setReg Register.fp size).setReg Register.sp size

/-- The machine that holds a program image and has executed nothing. -/
def ofImage (image : Image) : Machine := blank.load image

/-- Every register by name with its content. -/
def listing (m : Machine) : String :=
  " ".intercalate <|
    (List.finRange 32).map fun r : Register => r.name ++ "=" ++ (m.reg r).text

theorem reg_setReg (m : Machine) (r s : Register) (w : Word) :
    (m.setReg r w).reg s = if r = s then w else m.reg s := by
  simp only [reg, setReg, Fin.getElem_fin, Vector.getElem_set, Fin.ext_iff]

@[simp] theorem reg_setReg_self (m : Machine) (r : Register) (w : Word) :
    (m.setReg r w).reg r = w := by
  rw [reg_setReg, if_pos rfl]

theorem reg_setReg_of_ne {r s : Register} (h : s ≠ r) (m : Machine) (w : Word) :
    (m.setReg r w).reg s = m.reg s := by
  rw [reg_setReg, if_neg h.symm]

@[simp] theorem cell_setReg (m : Machine) (r : Register) (w : Word) (a : Address) :
    (m.setReg r w).cell a = m.cell a := rfl

@[simp] theorem reg_setCell (m : Machine) (a : Address) (w : Word) (r : Register) :
    (m.setCell a w).reg r = m.reg r := rfl

theorem cell_setCell (m : Machine) (a b : Address) (w : Word) :
    (m.setCell a w).cell b = if a = b then w else m.cell b :=
  m.memory.read_write a b w

@[simp] theorem cell_setCell_self (m : Machine) (a : Address) (w : Word) :
    (m.setCell a w).cell a = w := by
  rw [cell_setCell, if_pos rfl]

/-- A machine is determined by what its registers and its cells hold. -/
theorem ext_of_reg_of_cell {m n : Machine} (regs : ∀ r, m.reg r = n.reg r)
    (cells : ∀ a, m.cell a = n.cell a) : m = n := by
  refine Machine.ext (Vector.ext fun i hi => ?_) (Memory.ext_of_read cells)
  exact regs ⟨i, hi⟩

end Machine

end RegisterVM
