import Mathlib.Data.List.Iterate
import Mathlib.Logic.Function.Iterate
import RegisterVM.Machine.Step
import RegisterVM.Text.Lines

/-!
# Iterating the step

What a machine does is the iteration of one map, `Machine.next`: the step, with its outcome
forgotten.  A step that halts or faults leaves the machine as it is, so such a machine is a
fixed point and the iteration can go past the end of a program without harm.

* `Machine.next`, `Machine.Ends`: the machine after a step, and that the step halts or faults.
* `next_of_ends`: a machine whose step halts or faults is a fixed point of `next`.
* `next_circle`: a program that goes on forever in one place.
* `Machine.output?`, `outputText`: what a step puts out, and the text of what several machines
  put out, one line a value.
-/

namespace RegisterVM

/-! ## Halting -/

/-- Only `halt` asks to stop, and it does nothing else. -/
theorem Instruction.eq_of_execute_halt {i : Instruction} {m after : Machine}
    (h : i.execute m = .ok (.halt, after)) : i = .halt ∧ after = m := by
  cases i with
  | halt =>
    simp only [Instruction.execute, pure, Except.pure, Except.ok.injEq, Prod.mk.injEq,
      true_and] at h
    exact ⟨rfl, h.symm⟩
  | idiv rs rd =>
    simp only [Instruction.execute] at h
    split at h <;> simp [pure, Except.pure, throw, throwThe, MonadExceptOf.throw] at h
  | ld _ _ | st _ _ | push _ | pop _ | ldlo _ _ | stlo _ _ =>
    -- an access to memory: refused, or followed by a step that goes on
    simp only [Instruction.execute, bind, Except.bind] at h
    split at h <;> simp [pure, Except.pure] at h
  | invalid tag =>
    simp [Instruction.execute, throw, throwThe, MonadExceptOf.throw] at h
  | _ => simp [Instruction.execute, pure, Except.pure] at h

namespace Machine

/-- A step that halts executes `halt` and leaves the machine as it is. -/
theorem current_and_machine_of_halt {m : Machine} (h : m.step.outcome = .ok .halt) :
    m.current = .ok .halt ∧ m.step.machine = m := by
  unfold step at h ⊢
  cases hc : m.current with
  | error f => simp [hc, Except.bind] at h
  | ok i =>
    rw [hc] at h
    cases he : i.execute m with
    | error f => simp [Except.bind, he] at h
    | ok done =>
      obtain ⟨outcome, after⟩ := done
      simp only [Except.bind, he, Except.ok.injEq] at h ⊢
      rw [h] at he
      exact Instruction.eq_of_execute_halt he

theorem machine_step_of_halt {m : Machine} (h : m.step.outcome = .ok .halt) :
    m.step.machine = m := (current_and_machine_of_halt h).2

/-! ## The machine after a step -/

/-- The machine after one step, however the step goes. -/
def next (m : Machine) : Machine := m.step.machine

/-- The next step halts or faults. -/
def Ends (m : Machine) : Prop :=
  m.step.outcome = .ok .halt ∨ ∃ f, m.step.outcome = .error f

/-- A machine whose step halts or faults stays as it is. -/
theorem next_of_ends {m : Machine} (h : m.Ends) : m.next = m := by
  rcases h with h | ⟨f, h⟩
  · exact machine_step_of_halt h
  · exact machine_step_of_error h

/-- A step that goes on does not end the program. -/
theorem not_ends_of_proceed {m : Machine} (goes : m.step.outcome = .ok .proceed) : ¬ m.Ends := by
  rintro (halts | ⟨f, faults⟩)
  · exact absurd (goes.symm.trans halts) (by simp)
  · exact absurd (goes.symm.trans faults) (by simp)

/-! ## What is put out -/

/-- The value that the next step puts out, if it does. -/
def output? (m : Machine) : Option Word :=
  match m.step.outcome with
  | .ok (.output value) => some value
  | _ => none

end Machine

/-- The text of what some machines put out, each at its next step: one line a value. -/
def outputText (machines : List Machine) : String :=
  Text.unlines ((machines.filterMap Machine.output?).map Word.text)

@[simp] theorem outputText_nil : outputText [] = "" := rfl

@[simp] theorem outputText_append (as bs : List Machine) :
    outputText (as ++ bs) = outputText as ++ outputText bs := by
  simp only [outputText, Text.unlines, List.filterMap_append, List.map_append,
    String.join_append]

/-! ## Two small programs -/

/-- Puts seven into a register, puts it out and halts. -/
def Image.seven : Image := ⟨[1, 7, 1, 9, 1, 10], by decide⟩

/-- Jumps to itself forever. -/
def Image.circle : Image := ⟨[7, 1], by decide⟩

namespace Machine

theorem not_ends_circle : ¬ (ofImage .circle).Ends := not_ends_of_proceed (by decide +kernel)

/-- The jump leads back to where it was. -/
theorem next_circle : (ofImage .circle).next = ofImage .circle := by
  have jump : (ofImage .circle).current = .ok (.jmp 1) := by decide +kernel
  have here : (ofImage .circle).reg 1 = (ofImage .circle).ip := by decide +kernel
  rw [next, step, jump]
  show (ofImage .circle).setReg .ip ((ofImage .circle).reg 1) = ofImage .circle
  rw [here]
  exact congrArg (Machine.mk · (ofImage .circle).memory) (Vector.set_getElem_self _)

end Machine

end RegisterVM
