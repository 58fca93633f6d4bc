import RegisterVM.Machine.Step

/-!
# Runs

A run is what a machine has come to after some steps: the machine, the values it has put
out, how many steps were taken, and whether it has ended.  The step at which it ends counts.

* `Run.extend`: one more step, unless the run has ended.
* `Machine.run`: at most so many steps from a machine.
* `output_extend_extends`: what was put out is never taken back.
-/

namespace RegisterVM

/-- How a run ended. -/
inductive Ending where
  | halted
  | faulted (fault : Fault)
  deriving DecidableEq, Repr

/-- The course of a machine. -/
structure Run where
  machine : Machine
  output : Array Word
  taken : Nat
  /-- None as long as the machine can go on. -/
  ending : Option Ending

namespace Run

/-- The run of no step. -/
def start (m : Machine) : Run := ⟨m, #[], 0, none⟩

/-- The run with one more step, whether or not it has ended. -/
def takeStep (r : Run) : Run :=
  let step := r.machine.step
  match step.outcome with
  | .ok .proceed => ⟨step.machine, r.output, r.taken + 1, none⟩
  | .ok (.output value) => ⟨step.machine, r.output.push value, r.taken + 1, none⟩
  | .ok .halt => ⟨step.machine, r.output, r.taken + 1, some .halted⟩
  | .error fault => ⟨step.machine, r.output, r.taken + 1, some (.faulted fault)⟩

/-- At most `steps` more steps. -/
def extend : Nat → Run → Run
  | 0, r => r
  | steps + 1, r => if r.ending.isSome then r else extend steps r.takeStep

theorem extend_of_ended {r : Run} (h : r.ending.isSome = true) (steps : Nat) :
    extend steps r = r := by
  cases steps with
  | zero => rfl
  | succ steps => rw [extend, if_pos h]

theorem extend_add (a b : Nat) (r : Run) : extend (a + b) r = extend b (extend a r) := by
  induction a generalizing r with
  | zero => rw [Nat.zero_add, extend]
  | succ a ih =>
    rw [Nat.add_right_comm, extend, extend]
    split
    · next h => rw [extend_of_ended h]
    · exact ih r.takeStep

theorem output_takeStep_extends (r : Run) : r.output.toList <+: r.takeStep.output.toList := by
  unfold takeStep
  dsimp only
  split <;> simp

/-- What a run has put out stays in front of what it puts out later. -/
theorem output_extend_extends (steps : Nat) (r : Run) :
    r.output.toList <+: (extend steps r).output.toList := by
  induction steps generalizing r with
  | zero => exact List.prefix_refl _
  | succ steps ih =>
    rw [extend]
    split
    · exact List.prefix_refl _
    · exact (output_takeStep_extends r).trans (ih r.takeStep)

end Run

/-- At most `steps` steps of a machine. -/
def Machine.run (steps : Nat) (m : Machine) : Run := (Run.start m).extend steps

end RegisterVM
