import RegisterVM.Proofs.Machine.Footprint

/-!
# Sequences of instructions

What a machine does in several steps is often known by the instructions that it executes.
`m.Executes is n` says that from `m` the instructions `is` are executed one after the other, and
that `n` is what they leave.  Each of them is decoded where the instruction pointer is by then, out
of whatever memory has become by then, and none of them halts or faults.

* `footprint_of_goes`, `goes_of_access`: a step that goes on has the footprint of its instruction,
  and an instruction that finds its cell goes on.
* `Machine.Executes`: the instructions of several steps; `Executes.append` puts two sequences
  together, and `executes_iff` compares them with the iterated step.
-/

namespace RegisterVM

namespace Machine

variable {m n : Machine} {i : Instruction}

/-! ## Single steps -/

/-- The machine after a step that has been decoded and executed, and the outcome. -/
theorem step_of_execute {o : Outcome} (decoded : m.current = .ok i)
    (executed : i.execute m = .ok (o, n)) : m.step = ⟨n, .ok o⟩ := by
  unfold step
  rw [decoded]
  dsimp only [Except.bind]
  rw [executed]

theorem goes_of_proceed (outcome : m.step.outcome = .ok .proceed) : ¬ m.Ends := by
  rintro (halts | ⟨f, faults⟩)
  · exact nomatch outcome.symm.trans halts
  · exact nomatch outcome.symm.trans faults

/-- A step that goes on has the footprint of its instruction. -/
theorem footprint_of_goes (decoded : m.current = .ok i) (goes : ¬ m.Ends) :
    i.Footprint m m.next := by
  cases outcome : m.step.outcome with
  | error f => exact absurd (.inr ⟨f, outcome⟩) goes
  | ok o =>
    have noHalt : o ≠ .halt := fun halt => goes (.inl (halt ▸ outcome))
    obtain ⟨j, decoded', footprint⟩ := exists_footprint outcome noHalt
    obtain rfl := Except.ok.inj (decoded.symm.trans decoded')
    exact footprint

/-- An instruction whose effective address is that of a cell goes on: it has no other reason to
fault, and it is no halt. -/
theorem goes_of_access {w : Word} {a : Address} (decoded : m.current = .ok i)
    (address : i.address? m = some w) (place : w.toInt = a.val) : ¬ m.Ends := by
  have same {j : Instruction} (decoded' : m.current = .ok j) : j.address? m = some w := by
    obtain rfl := Except.ok.inj (decoded.symm.trans decoded')
    exact address
  rintro (halts | ⟨f, faults⟩)
  · exact nomatch same (current_and_machine_of_halt halts).1
  · cases step_eq_error_iff.mp faults with
    | undecodable refused => exact nomatch decoded.symm.trans refused
    | opcode at_ip noTag => exact nomatch same (decode_eq_invalid_iff.mpr ⟨_, at_ip, rfl, noTag⟩)
    | division decoded' zero => exact nomatch same decoded'
    | access decoded' address' outside =>
      obtain rfl := Option.some.inj (address'.symm.trans (same decoded'))
      unfold Word.IsOutside at outside
      omega

/-! ## Several steps -/

/-- From `m` these instructions are executed one after the other, and `n` is left. -/
inductive Executes : Machine → List Instruction → Machine → Prop
  | nil {m : Machine} : m.Executes [] m
  | cons {m n : Machine} {i : Instruction} {is : List Instruction} (decoded : m.current = .ok i)
      (goes : ¬ m.Ends) (rest : m.next.Executes is n) : m.Executes (i :: is) n

namespace Executes

variable {is js : List Instruction} {k : Machine}

/-- One instruction. -/
theorem single (decoded : m.current = .ok i) (goes : ¬ m.Ends) : m.Executes [i] m.next :=
  .cons decoded goes .nil

/-- One sequence behind another. -/
theorem append (first : m.Executes is k) (later : k.Executes js n) :
    m.Executes (is ++ js) n := by
  induction first with
  | nil => exact later
  | cons decoded goes _ ih => exact .cons decoded goes (ih later)

end Executes

/-- A sequence of instructions is executed when each of them is what the machine decodes at its
step and goes on with. -/
theorem executes_iff {is : List Instruction} : m.Executes is n ↔
    next^[is.length] m = n ∧ ∀ k i, is[k]? = some i →
      (next^[k] m).current = .ok i ∧ ¬ (next^[k] m).Ends := by
  constructor
  · intro executes
    induction executes with
    | nil => exact ⟨rfl, nofun⟩
    | cons decoded goes _ ih =>
      refine ⟨ih.1, fun k i there => ?_⟩
      cases k with
      | zero =>
        obtain rfl := Option.some.inj there
        exact ⟨decoded, goes⟩
      | succ k => exact ih.2 k i there
  · rintro ⟨rfl, each⟩
    induction is generalizing m with
    | nil => exact .nil
    | cons i is ih =>
      obtain ⟨decoded, goes⟩ := each 0 i rfl
      exact .cons decoded goes (ih fun k j there => each (k + 1) j there)

end Machine

end RegisterVM
