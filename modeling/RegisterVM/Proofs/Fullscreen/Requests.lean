import RegisterVM.Proofs.Debugger.Invariant
import RegisterVM.Proofs.Fullscreen.Guarded

/-!
# Requests to the application

The application is asked to submit a line or to run a batch.  Either comes to some calls of its
session, one reply for each: a line to at most one call, a batch to as many as the session runs
for.  Everything that a request does to the application, its log included, is read off these
replies.

* `Session.batch`: the replies of a batch; `advanceWhileRunning_eq_batch` says that they are what
  a batch leaves.
* `batch_cases`: in a batch every reply runs, or every one but the last.
* `App.Request`, `App.request`, `App.served`, `App.after`: requests, and what they make of an
  application, or of one at its start.
* `App.replies`: the replies to the calls that a request makes.
* `request_eq`: a request in terms of its replies; `session_request`, `finished_request_iff` and
  `shouldQuit_request_iff` read it off.
-/

namespace RegisterVM

/-! ## The replies of a batch -/

/-- The replies of a session that goes on for at most `rounds` rounds, until it no longer runs by
itself. -/
def Session.batch : Nat → Session → List Reply
  | 0, _ => []
  | rounds + 1, s =>
      match s.advance.result with
      | .ok .running => s.advance :: batch rounds s.advance.session
      | _ => [s.advance]

/-- The result of the last reply; before the first call the session runs. -/
def Reply.lastResult (rs : List Reply) : Except SessionError Poll :=
  rs.foldl (fun _ (r : Reply) => r.result) (.ok .running)

namespace Session

/-- The session that the last reply leaves behind. -/
def latest (s : Session) (rs : List Reply) : Session :=
  rs.foldl (fun _ (r : Reply) => r.session) s

variable {s : Session} {rounds : Nat}

theorem batch_of_running (h : s.advance.result = .ok .running) :
    s.batch (rounds + 1) = s.advance :: s.advance.session.batch rounds := by
  rw [batch, h]

theorem batch_of_not_running (h : s.advance.result ≠ .ok .running) :
    s.batch (rounds + 1) = [s.advance] := by
  rw [batch]
  split
  · next running => exact absurd running h
  · rfl

/-- A session that runs and comes back to where it was does so in all rounds of a batch. -/
theorem batch_of_fixed (running : s.advance.result = .ok .running)
    (same : s.advance.session = s) (rounds : Nat) :
    (∀ r ∈ s.batch rounds, r.result = .ok .running) ∧ s.latest (s.batch rounds) = s := by
  induction rounds with
  | zero => exact ⟨List.forall_mem_nil _, rfl⟩
  | succ rounds ih =>
    rw [batch_of_running running, same]
    refine ⟨List.forall_mem_cons.mpr ⟨running, ih.1⟩, ?_⟩
    rw [latest, List.foldl_cons, same]
    exact ih.2

/-- Going on while the session runs leaves behind what the last reply does, and has all of them on
record. -/
theorem advanceWhileRunning_eq_batch (rounds : Nat) (s : Session) (t : Transcript) :
    s.advanceWhileRunning rounds t =
      (s.latest (s.batch rounds), (s.batch rounds).foldl Transcript.append t,
        Reply.lastResult (s.batch rounds)) := by
  induction rounds generalizing s t with
  | zero => rfl
  | succ rounds ih =>
    rw [advanceWhileRunning]
    split
    · next running =>
      rw [ih, batch_of_running running]
      simp only [latest, Reply.lastResult, List.foldl_cons, running]
    · next stops =>
      rw [batch_of_not_running stops]
      rfl

/-- A batch calls nothing else than `advance`. -/
theorem exists_eq_advance_of_mem_batch {r : Reply} (mem : r ∈ s.batch rounds) :
    ∃ t : Session, r = t.advance := by
  induction rounds generalizing s with
  | zero => exact absurd mem List.not_mem_nil
  | succ rounds ih =>
    by_cases running : s.advance.result = .ok .running
    · rw [batch_of_running running] at mem
      rcases List.mem_cons.mp mem with rfl | mem
      · exact ⟨s, rfl⟩
      · exact ih mem
    · rw [batch_of_not_running running] at mem
      exact ⟨s, List.mem_singleton.mp mem⟩

/-! ## The steps of a batch -/

theorem length_stepped_advance_le (s : Session) : s.advance.stepped.length ≤ 1 := by
  by_cases h : s.checked.GoesOn
  · rw [(moves_advance_of_goesOn h).stepped, List.length_singleton]
  · rw [(moves_advance_of_not_goesOn h).stepped]
    exact Nat.zero_le 1

/-- Going on that runs has taken a step: without one the session asks for a command. -/
theorem length_stepped_advance_of_running (h : s.advance.result = .ok .running) :
    s.advance.stepped.length = 1 := by
  rw [length_stepped_advance_iff]
  by_contra stays
  by_cases hit : s.debug = true ∧ s.paused = false ∧ s.atBreakpoint = true
  · rw [advance_of_hit hit.1 hit.2.1 hit.2.2] at h
    cases h
  · rw [checked, if_neg hit] at stays
    rw [advance_of_waits (not_goesOn_iff.mp stays)] at h
    cases h

/-- A batch takes at most one step a round. -/
theorem length_steps_batch_le (rounds : Nat) (s : Session) :
    ((s.batch rounds).flatMap Reply.stepped).length ≤ rounds := by
  induction rounds generalizing s with
  | zero => exact le_rfl
  | succ rounds ih =>
    have first := s.length_stepped_advance_le
    by_cases running : s.advance.result = .ok .running
    · have rest := ih s.advance.session
      rw [batch_of_running running, List.flatMap_cons, List.length_append]
      omega
    · rw [batch_of_not_running running, List.flatMap_singleton]
      omega

/-- In a batch every reply runs, and then each of the rounds has taken its step; or every reply but
the last one runs. -/
theorem batch_cases (rounds : Nat) (s : Session) :
    (∀ r ∈ s.batch rounds, r.result = .ok .running) ∧
        ((s.batch rounds).flatMap Reply.stepped).length = rounds ∨
      ∃ runs last, s.batch rounds = runs ++ [last] ∧
        (∀ r ∈ runs, r.result = .ok .running) ∧ last.result ≠ .ok .running := by
  induction rounds generalizing s with
  | zero => exact .inl ⟨List.forall_mem_nil _, rfl⟩
  | succ rounds ih =>
    by_cases running : s.advance.result = .ok .running
    · rw [batch_of_running running]
      rcases ih s.advance.session with ⟨run, steps⟩ | ⟨runs, last, eq, run, stops⟩
      · refine .inl ⟨List.forall_mem_cons.mpr ⟨running, run⟩, ?_⟩
        rw [List.flatMap_cons, List.length_append, length_stepped_advance_of_running running,
          steps, Nat.add_comm]
      · refine .inr ⟨s.advance :: runs, last, by rw [eq, List.cons_append], ?_, stops⟩
        exact List.forall_mem_cons.mpr ⟨running, run⟩
    · rw [batch_of_not_running running]
      exact .inr ⟨[], s.advance, rfl, List.forall_mem_nil _, running⟩

theorem running_of_mem_dropLast_batch {r : Reply} (mem : r ∈ (s.batch rounds).dropLast) :
    r.result = .ok .running := by
  rcases batch_cases rounds s with ⟨run, -⟩ | ⟨runs, last, eq, run, -⟩
  · exact run r (List.dropLast_subset _ mem)
  · rw [eq, List.dropLast_concat] at mem
    exact run r mem

end Session

namespace App

variable {app : App} {rs : List Reply}

/-! ## Taking in replies -/

/-- The result ends the session for good: the program halted, or the session cannot go on. -/
def Closes (result : Except SessionError Poll) : Prop :=
  result = .ok (.finished .halted) ∨ ∃ e, result = .error e

/-- The application takes in the replies to its calls: the session that the last one leaves behind,
all that was said, and the last result. -/
def takeIn (app : App) (rs : List Reply) : App :=
  ({ app with session := app.session.latest rs }.appendLogs
    (rs.foldl Transcript.append .empty).logLines).handle (Reply.lastResult rs)

/-- What is true of the last result, and not of one that runs, is true of the result of some
call. -/
theorem last_result_iff {p : Except SessionError Poll → Prop}
    (run : ∀ r ∈ rs.dropLast, r.result = .ok .running) (stops : ¬ p (.ok .running)) :
    p (Reply.lastResult rs) ↔ ∃ r ∈ rs, p r.result := by
  rcases rs.eq_nil_or_concat with rfl | ⟨runs, last, rfl⟩
  · simpa [Reply.lastResult] using stops
  · rw [List.concat_eq_append] at run ⊢
    rw [List.dropLast_concat] at run
    rw [Reply.lastResult, List.foldl_concat]
    refine ⟨fun h => ⟨last, List.mem_concat_self, h⟩, ?_⟩
    rintro ⟨r, mem, h⟩
    rcases List.mem_append.mp mem with early | late
    · exact absurd (run r early ▸ h) stops
    · rwa [← List.mem_singleton.mp late]

theorem finished_handle_iff (result : Except SessionError Poll) :
    (app.handle result).finished = true ↔ app.finished = true ∨ Closes result := by
  rcases result with e | poll
  · simp [handle, Closes]
  · cases poll with
    | needCommand | running => simp [handle, Closes]
    | finished exit => cases exit <;> simp [handle, Closes]

theorem shouldQuit_handle_iff (result : Except SessionError Poll) :
    (app.handle result).shouldQuit = true ↔
      app.shouldQuit = true ∨ result = .ok (.finished .quit) := by
  rcases result with e | poll
  · simp [handle]
  · cases poll with
    | needCommand | running => simp [handle]
    | finished exit => cases exit <;> simp [handle]

@[simp] theorem session_takeIn (app : App) (rs : List Reply) :
    (app.takeIn rs).session = app.session.latest rs := by
  rw [takeIn, session_handle, session_appendLogs]

theorem finished_takeIn_iff (run : ∀ r ∈ rs.dropLast, r.result = .ok .running) :
    (app.takeIn rs).finished = true ↔ app.finished = true ∨ ∃ r ∈ rs, Closes r.result := by
  rw [takeIn, finished_handle_iff, finished_appendLogs,
    last_result_iff run (p := Closes) (by simp [Closes])]

theorem shouldQuit_takeIn_iff (run : ∀ r ∈ rs.dropLast, r.result = .ok .running) :
    (app.takeIn rs).shouldQuit = true ↔
      app.shouldQuit = true ∨ ∃ r ∈ rs, r.result = .ok (.finished .quit) := by
  rw [takeIn, shouldQuit_handle_iff, shouldQuit_appendLogs,
    last_result_iff run (p := (· = .ok (.finished .quit))) (by simp)]

theorem editor_handle (app : App) (result : Except SessionError Poll) :
    (app.handle result).editor = app.editor := by
  unfold handle
  split <;> simp only [appendLogs]

/-- Replies leave the typed text alone. -/
theorem takeIn_with_editor (app : App) (rs : List Reply) :
    { app.takeIn rs with editor := app.editor } = app.takeIn rs := by
  have kept : (app.takeIn rs).editor = app.editor := by
    rw [takeIn, editor_handle]
    simp only [appendLogs]
  rw [← kept]

/-! ## Requests -/

/-- What is asked of the application. -/
inductive Request where
  | submit (line : String)
  | runBatch
  deriving DecidableEq, Repr

/-- The application after a request. -/
def request (app : App) : Request → App
  | .submit line => app.submit line
  | .runBatch => app.runBatch

/-- The application when it has served some requests. -/
def served (app : App) (requests : List Request) : App := requests.foldl request app

/-- The application after some requests, from its start over the session on. -/
def after (s : Session) (requests : List Request) : App := (start s).served requests

/-- The replies to the calls of the session that a request comes to.  A line is handed over only
when the session waits for one, and a finished application makes no calls. -/
def replies (app : App) : Request → List Reply
  | .submit line => if app.mode = .paused then [app.session.submit (some line)] else []
  | .runBatch => if app.finished then [] else app.session.batch batchSize

theorem served_append (app : App) (requests more : List Request) :
    app.served (requests ++ more) = (app.served requests).served more := List.foldl_append

theorem served_concat (app : App) (requests : List Request) (q : Request) :
    app.served (requests ++ [q]) = (app.served requests).request q := app.served_append requests [q]

theorem replies_runBatch (going : app.finished = false) :
    app.replies .runBatch = app.session.batch batchSize := by
  rw [replies, if_neg (by simp [going])]

/-- Of the calls of a request all but the last one run. -/
theorem running_of_mem_dropLast_replies {q : Request} :
    ∀ r ∈ (app.replies q).dropLast, r.result = .ok .running := by
  intro r mem
  cases q with
  | submit line =>
    rw [replies] at mem
    split at mem <;> exact absurd mem List.not_mem_nil
  | runBatch =>
    rw [replies] at mem
    split at mem
    · exact absurd mem List.not_mem_nil
    · exact Session.running_of_mem_dropLast_batch mem

/-- The prompt of a line that is handed over, as it is logged. -/
def prompted (app : App) : Request → List String
  | .submit line => if app.mode = .paused then [app.session.prompt ++ line] else []
  | .runBatch => []

/-- The typed text is cleared when a line is handed over. -/
def typed (app : App) : Request → Editor
  | .submit _ => if app.mode = .paused then .empty else app.editor
  | .runBatch => app.editor

/-- Without a call there is nothing to take in. -/
theorem takeIn_nil (tidy : app.Tidy) : app.takeIn [] = app := by
  have same : app.appendLogs [] = app := appendLogs_nil tidy
  rw [takeIn]
  exact same

/-- What a request does, in one equation: it logs a prompt, takes in the replies to its calls, and
clears the typed text. -/
theorem request_eq (tidy : app.Tidy) (q : Request) :
    app.request q =
      { (app.appendLogs (app.prompted q)).takeIn (app.replies q) with editor := app.typed q } := by
  cases q with
  | submit line =>
    rw [request, submit, prompted, typed, replies]
    by_cases paused : app.mode = .paused
    · simp only [if_pos paused]
      rfl
    · simp only [if_neg paused]
      rw [appendLogs_nil tidy, takeIn_nil tidy]
  | runBatch =>
    rw [request, runBatch, prompted, typed, replies, appendLogs_nil tidy]
    by_cases done : app.finished = true
    · rw [if_pos done, if_pos done, takeIn_nil tidy]
    · rw [if_neg done, if_neg done, Session.advanceWhileRunning_eq_batch, takeIn_with_editor]
      rfl

/-! ## What a request does -/

theorem tidy_request (tidy : app.Tidy) (q : Request) : (app.request q).Tidy := by
  cases q with
  | submit line => exact tidy_submit tidy line
  | runBatch => exact tidy_runBatch tidy

/-- The typed text has no part in it. -/
theorem Tidy.edited (tidy : app.Tidy) (editor : Editor) : Tidy { app with editor } := tidy

theorem tidy_start (s : Session) : (start s).Tidy := tidy_appendLogs _ _

theorem tidy_served (tidy : app.Tidy) (requests : List Request) : (app.served requests).Tidy := by
  induction requests using List.reverseRecOn with
  | nil => exact tidy
  | append_singleton requests q ih =>
    rw [served_concat]
    exact tidy_request ih q

theorem session_request (tidy : app.Tidy) (q : Request) :
    (app.request q).session = app.session.latest (app.replies q) := by
  simp only [request_eq tidy, session_takeIn, session_appendLogs]

theorem editor_request (tidy : app.Tidy) (q : Request) : (app.request q).editor = app.typed q := by
  simp only [request_eq tidy]

/-- A request finishes the application exactly when one of its calls ended the session for good. -/
theorem finished_request_iff (tidy : app.Tidy) (q : Request) :
    (app.request q).finished = true ↔
      app.finished = true ∨ ∃ r ∈ app.replies q, Closes r.result := by
  simp only [request_eq tidy, finished_appendLogs,
    finished_takeIn_iff running_of_mem_dropLast_replies]

theorem shouldQuit_request_iff (tidy : app.Tidy) (q : Request) :
    (app.request q).shouldQuit = true ↔
      app.shouldQuit = true ∨ ∃ r ∈ app.replies q, r.result = .ok (.finished .quit) := by
  simp only [request_eq tidy, shouldQuit_appendLogs,
    shouldQuit_takeIn_iff running_of_mem_dropLast_replies]

end App

end RegisterVM
