import RegisterVM.Machine.Basic

/-!
# Loaded machines

A load puts a program image in place of everything that a machine holds.  What the machine holds
then depends on the image alone: its words from cell zero on and zeros behind them, an instruction
pointer at zero, and an empty stack frame right behind the image.

* `load_eq_ofImage`: a load leaves nothing of the machine that was there.
* `reg_ofImage`, `cell_ofImage`: the registers and the cells of a loaded machine.
* `toList_memory_ofImage`: all cells in one list, the words and then zeros.
-/

namespace RegisterVM

namespace Machine

/-- A load leaves nothing of the machine that was there. -/
theorem load_eq_ofImage (m : Machine) (image : Image) : m.load image = .ofImage image := by
  have registers : m.registers.map (fun _ => (0 : Word)) = blank.registers.map fun _ => 0 := by
    ext i hi
    simp
  have memory (f : Nat → Word) :
      (m.memory.mapIdx fun a _ => f a) = blank.memory.mapIdx fun a _ => f a := by
    ext i hi
    simp
  rw [ofImage, load, load, registers, memory]

/-- Every register of a loaded machine is zero, but for the two that mark the empty frame behind
the image. -/
theorem reg_ofImage (image : Image) (r : Register) :
    (ofImage image).reg r =
      if r = .fp ∨ r = .sp then Int32.ofNat image.words.length else 0 := by
  have cleared (memory : Memory) : reg ⟨blank.registers.map fun _ => 0, memory⟩ r = 0 := by
    simp [reg]
  rw [ofImage, load, reg_setReg, reg_setReg, cleared]
  by_cases sp : r = .sp
  · rw [if_pos sp.symm, if_pos (.inr sp)]
  · rw [if_neg (Ne.symm sp)]
    by_cases fp : r = .fp
    · rw [if_pos fp.symm, if_pos (.inl fp)]
    · rw [if_neg (Ne.symm fp), if_neg (not_or_intro fp sp)]

/-- Every cell of a loaded machine holds its word of the image, and zero behind the image. -/
theorem cell_ofImage (image : Image) (a : Address) :
    (ofImage image).cell a = image.words[a.val]?.getD 0 := by
  rw [ofImage, load, cell_setReg, cell_setReg]
  simp [cell, Memory.read]

/-- The memory of a loaded machine in one list. -/
theorem toList_memory_ofImage (image : Image) :
    (ofImage image).memory.toList =
      image.words ++ List.replicate (500 - image.words.length) 0 := by
  have fits := image.length_le
  refine List.ext_getElem ?_ fun i hi _ => ?_
  · rw [Vector.length_toList, List.length_append, List.length_replicate]
    omega
  · rw [Vector.length_toList] at hi
    rw [Vector.getElem_toList]
    show (ofImage image).cell ⟨i, hi⟩ = _
    rw [cell_ofImage]
    by_cases inside : i < image.words.length
    · rw [List.getElem_append_left inside, List.getElem?_eq_getElem inside, Option.getD_some]
    · have behind : image.words.length ≤ i := Nat.not_lt.mp inside
      rw [List.getElem_append_right behind, List.getElem?_eq_none behind, List.getElem_replicate,
        Option.getD_none]

end Machine

end RegisterVM
