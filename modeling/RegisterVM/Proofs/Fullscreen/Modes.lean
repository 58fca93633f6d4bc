import RegisterVM.Fullscreen.App
import RegisterVM.Proofs.Console.Prompts
import RegisterVM.Proofs.Debugger.Execution

/-!
# What the application shows

The application does not keep the result of a call.  It takes from it whether the session is
finished and whether to quit, writes the cause into its log, and reads everything else off the
session: it is paused exactly when the session waits.

* `mode_eq_paused_iff`, `mode_eq_running_iff`: the modes.
* `App.Reflects`: what the application shows after a result; `reflects_handle` establishes it.
* `App.Ended`: the end of a session as the application shows it.
* `ended_iff`: the application shows the end that the result says, and no other.
-/

namespace RegisterVM

namespace App

variable {app : App}

/-! ## Modes -/

theorem mode_eq_paused_iff : app.mode = .paused ↔ app.finished = false ∧ app.session.Waits := by
  rw [Session.waits_iff, mode]
  cases app.finished with
  | true => simp
  | false => cases app.session.isPaused && !app.session.hasPending <;> simp

theorem mode_eq_running_iff :
    app.mode = .running ↔ app.finished = false ∧ ¬ app.session.Waits := by
  rw [Session.waits_iff, mode]
  cases app.finished with
  | true => simp
  | false => cases app.session.isPaused && !app.session.hasPending <;> simp

/-! ## Results -/

/-- What the application shows after a result. -/
def Reflects (app : App) : Except SessionError Poll → Prop
  | .ok (.finished .halted) =>
      app.finished = true ∧ app.shouldQuit = false ∧ app.logs.getLast? = some "Program halted"
  | .ok (.finished .quit) => app.finished = false ∧ app.shouldQuit = true
  | .ok .needCommand | .ok .running => app.finished = false ∧ app.shouldQuit = false
  | .error e =>
      app.finished = true ∧ app.shouldQuit = false ∧
        app.logs.getLast? = some ("Stopped: " ++ e.message)

/-- The newest line is the last one in the log. -/
theorem getLast?_appendLogs (app : App) (line : String) :
    (app.appendLogs [line]).logs.getLast? = some line := by
  rw [appendLogs, List.getLast?_drop, List.getLast?_concat, if_neg]
  simp only [List.length_append, List.length_singleton, logCapacity]
  omega

@[simp] theorem session_appendLogs (app : App) (lines : List String) :
    (app.appendLogs lines).session = app.session := by
  simp only [appendLogs]

@[simp] theorem finished_appendLogs (app : App) (lines : List String) :
    (app.appendLogs lines).finished = app.finished := by
  simp only [appendLogs]

@[simp] theorem shouldQuit_appendLogs (app : App) (lines : List String) :
    (app.appendLogs lines).shouldQuit = app.shouldQuit := by
  simp only [appendLogs]

/-- An application that is not at an end takes in any result. -/
theorem reflects_handle (going : app.finished = false ∧ app.shouldQuit = false)
    (result : Except SessionError Poll) : (app.handle result).Reflects result := by
  rcases result with e | poll
  · have last := getLast?_appendLogs app ("Stopped: " ++ e.message)
    simp only [handle, Reflects, shouldQuit_appendLogs, going.2, last, and_self]
  · cases poll with
    | needCommand => exact going
    | running => exact going
    | finished exit =>
      cases exit with
      | halted =>
        have last := getLast?_appendLogs app "Program halted"
        simp only [handle, Reflects, shouldQuit_appendLogs, going.2, last, and_self]
      | quit => exact ⟨going.1, rfl⟩

/-- The typed text has no part in it. -/
theorem Reflects.edited {result : Except SessionError Poll} (h : app.Reflects result)
    (editor : Editor) : Reflects { app with editor } result := by
  rcases result with e | poll
  · exact h
  · cases poll with
    | needCommand | running => exact h
    | finished exit => cases exit <;> exact h

/-- An application that is not at an end, and whose session does not run, shows that it needs
a command. -/
theorem Reflects.eq_needCommand {result : Except SessionError Poll} (h : app.Reflects result)
    (going : app.finished = false ∧ app.shouldQuit = false) (stops : result ≠ .ok .running) :
    result = .ok .needCommand := by
  rcases result with e | poll
  · exact absurd (going.1.symm.trans h.1) (by simp)
  · cases poll with
    | needCommand => rfl
    | running => exact absurd rfl stops
    | finished exit =>
      cases exit with
      | halted => exact absurd (going.1.symm.trans h.1) (by simp)
      | quit => exact absurd (going.2.symm.trans h.2) (by simp)

/-- Taking in a result leaves the session alone. -/
@[simp] theorem session_handle (app : App) (result : Except SessionError Poll) :
    (app.handle result).session = app.session := by
  unfold handle
  split <;> simp

/-! ## Ends -/

/-- The application shows the end of the session: that it halted, that it was told to quit, or
that it stopped with an error of this wording. -/
def Ended (app : App) : Except String Exit → Prop
  | .ok .halted => app.finished = true ∧ app.logs.getLast? = some "Program halted"
  | .ok .quit => app.shouldQuit = true
  | .error message => app.finished = true ∧ app.logs.getLast? = some ("Stopped: " ++ message)

/-- The application shows the end that the result says, and no other. -/
theorem ended_iff {result : Except SessionError Poll} (h : app.Reflects result)
    (x : Except String Exit) :
    app.Ended x ↔ (Console.ending? result).map (Except.mapError SessionError.message) = some x := by
  have apart (message : String) : "Stopped: " ++ message ≠ "Program halted" := by
    intro eq
    have chars := congrArg String.toList eq
    simp at chars
  rcases result with e | poll
  · obtain ⟨finished, stays, last⟩ := h
    rcases x with message | exit
    · simp [Ended, Console.ending?, Except.mapError, finished, last]
    · cases exit <;> simp [Ended, Console.ending?, Except.mapError, stays, last, apart]
  · cases poll with
    | needCommand | running =>
      rcases x with message | exit
      · simp [Ended, Console.ending?, h.1]
      · cases exit <;> simp [Ended, Console.ending?, h.1, h.2]
    | finished exit =>
      cases exit with
      | halted =>
        obtain ⟨finished, stays, last⟩ := h
        rcases x with message | exit
        · simp [Ended, Console.ending?, Except.mapError, last, (apart message).symm]
        · cases exit <;> simp [Ended, Console.ending?, Except.mapError, finished, stays, last]
      | quit =>
        rcases x with message | exit
        · simp [Ended, Console.ending?, Except.mapError, h.1]
        · cases exit <;> simp [Ended, Console.ending?, Except.mapError, h.1, h.2]

end App

end RegisterVM
