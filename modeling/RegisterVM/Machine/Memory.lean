import RegisterVM.Machine.Address

/-!
# Memory

Memory is five hundred cells, each of which holds a word.

* `Memory.read`, `Memory.write`: the content of a cell, and memory with one cell replaced.
* `Memory.read_write`: what a write does to every cell.
-/

namespace RegisterVM

/-- The cells of memory. -/
abbrev Memory : Type := Vector Word 500

namespace Memory

/-- The content of a cell. -/
def read (memory : Memory) (a : Address) : Word := memory[a]

/-- The memory with one cell replaced. -/
def write (memory : Memory) (a : Address) (w : Word) : Memory := memory.set a w

theorem read_write (memory : Memory) (a b : Address) (w : Word) :
    (memory.write a w).read b = if a = b then w else memory.read b := by
  simp only [read, write, Fin.getElem_fin, Vector.getElem_set, Fin.ext_iff]

/-- Memory is determined by what its cells hold. -/
theorem ext_of_read {m n : Memory} (h : ∀ a, m.read a = n.read a) : m = n :=
  Vector.ext fun i hi => h ⟨i, hi⟩

end Memory

end RegisterVM
