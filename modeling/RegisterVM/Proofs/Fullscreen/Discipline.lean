import RegisterVM.Proofs.Fullscreen.Requests

/-!
# The discipline of the modes

The application keeps two flags: that the session has finished, and that it was told to quit.  Its
mode is not kept but made up each time, from the first flag and from what the session says of
itself; so it is not obvious that the mode is right wherever a batch may have ended, at a
breakpoint, a fault, the end of a counted step, or after its last round.

* `replies_quit_iff`: only the command `quit` tells the application to quit.
* `request_of_finished`, `runBatch_of_paused`, `submit_of_not_paused`: requests without effect.
* `length_steps_of_running`: a batch that ends early does not leave the mode running.
* `raised_iff`: a flag is up exactly when it was up before or some request has raised it; nothing
  takes it down.
* `mode_discipline`: the main statement, over all applications and all requests.
-/

namespace RegisterVM

/-! ## The command to quit -/

namespace Session

variable {s : Session}

theorem result_execute_ne_quit (s : Session) : s.execute.result ≠ .ok (.finished .quit) := by
  unfold execute
  dsimp only
  split
  · exact nofun
  · exact nofun
  · exact nofun
  · split <;> exact nofun

theorem result_advance_ne_quit (s : Session) : s.advance.result ≠ .ok (.finished .quit) := by
  unfold advance
  split
  · exact nofun
  · split
    · split
      · exact nofun
      · exact result_execute_ne_quit _
    · exact result_execute_ne_quit s

theorem result_perform_eq_quit_iff {c : Command} :
    (s.perform c).result = .ok (.finished .quit) ↔ c = .quit := by
  constructor
  · intro quits
    cases s.course c with
    | answers b text eq =>
      rw [eq] at quits
      cases quits
    | quits => rfl
    | counts valid =>
      simp only [perform, valid] at quits
      exact absurd quits (result_execute_ne_quit _)
    | proceeds => exact absurd quits (result_execute_ne_quit _)
    | restarts =>
      simp only [perform, reload] at quits
      split at quits <;> cases quits
  · rintro rfl
    rfl

/-- A waiting session is told to quit by a line exactly when the line means that command. -/
theorem result_submit_eq_quit_iff (waits : s.Waits) {line : String} :
    (s.submit (some line)).result = .ok (.finished .quit) ↔
      Command.ofLine line = some (.ok .quit) := by
  have paused : s.isPaused = true := by rw [isPaused, waits.debug, waits.paused, Bool.and_self]
  rw [submit, if_pos paused]
  cases Command.ofLine line with
  | none => simp [Reply.silent]
  | some meant =>
    cases meant with
    | error word => simp
    | ok command => simp [result_perform_eq_quit_iff]

end Session

namespace App

variable {app : App}

/-- The application is told to quit by the command `quit`, submitted while it is paused. -/
theorem replies_quit_iff {q : Request} :
    (∃ r ∈ app.replies q, r.result = .ok (.finished .quit)) ↔
      ∃ line, q = .submit line ∧ app.mode = .paused ∧ Command.ofLine line = some (.ok .quit) := by
  cases q with
  | submit line =>
    rw [replies]
    by_cases paused : app.mode = .paused
    · have waits := (mode_eq_paused_iff.mp paused).2
      simp [paused, Session.result_submit_eq_quit_iff waits]
    · simp [paused]
  | runBatch =>
    simp only [reduceCtorEq, false_and, exists_false, iff_false, replies]
    rintro ⟨r, mem, quits⟩
    split at mem
    · exact absurd mem List.not_mem_nil
    · obtain ⟨t, rfl⟩ := Session.exists_eq_advance_of_mem_batch mem
      exact t.result_advance_ne_quit quits

/-! ## Requests without effect -/

theorem submit_of_not_paused (still : app.mode ≠ .paused) (line : String) :
    app.submit line = app := if_neg still

/-- A batch of a paused application calls the session once, which only asks again. -/
theorem runBatch_of_paused (tidy : app.Tidy) (paused : app.mode = .paused) :
    app.runBatch = app := by
  obtain ⟨going, waits⟩ := mode_eq_paused_iff.mp paused
  have silent := Session.advance_of_waits waits
  have asks : app.session.advance.result ≠ .ok .running := by simp [silent, Reply.silent]
  have calls : app.replies .runBatch = [.silent app.session .needCommand] := by
    rw [replies_runBatch going, ← silent]
    exact Session.batch_of_not_running asks
  have same : app.appendLogs [] = app := appendLogs_nil tidy
  have eq := request_eq tidy .runBatch
  rw [calls, prompted, typed, same, takeIn_with_editor] at eq
  exact eq.trans same

theorem request_of_finished (h : app.finished = true) (q : Request) : app.request q = app := by
  cases q with
  | submit line =>
    refine submit_of_not_paused ?_ line
    intro paused
    rw [(mode_eq_paused_iff.mp paused).1] at h
    cases h
  | runBatch => exact if_pos h

/-! ## The steps of a batch -/

/-- A batch leaves the mode running only when all its rounds were used up. -/
theorem length_steps_of_running (tidy : app.Tidy) (runs : app.runBatch.mode = .running) :
    ((app.replies .runBatch).flatMap Reply.stepped).length = batchSize := by
  obtain ⟨open', free⟩ := mode_eq_running_iff.mp runs
  have finished := finished_request_iff tidy .runBatch
  have session := session_request tidy .runBatch
  rw [request] at finished session
  have going : app.finished = false := by
    rw [Bool.eq_false_iff]
    intro done
    rw [finished.mpr (.inl done)] at open'
    cases open'
  rw [replies_runBatch going] at finished session ⊢
  rcases Session.batch_cases batchSize app.session with ⟨-, steps⟩ | ⟨before, last, eq, -, stops⟩
  · exact steps
  · -- the last reply does not run: it asks, closes the session, or quits
    exfalso
    have mem : last ∈ app.session.batch batchSize := by
      rw [eq]
      exact List.mem_concat_self
    have left : app.runBatch.session = last.session := by
      rw [session, eq, Session.latest, List.foldl_concat]
    obtain ⟨t, rfl⟩ := Session.exists_eq_advance_of_mem_batch mem
    have closes : ¬ Closes t.advance.result := by
      intro closes
      rw [finished.mpr (.inr ⟨_, mem, closes⟩)] at open'
      cases open'
    rcases result : t.advance.result with e | poll
    · exact closes (.inr ⟨e, result⟩)
    · cases poll with
      | running => exact stops result
      | needCommand => exact free (left ▸ Session.waits_of_asks result)
      | finished exit =>
        cases exit with
        | halted => exact closes (.inl result)
        | quit => exact t.result_advance_ne_quit result

theorem length_steps_runBatch_le (app : App) :
    ((app.replies .runBatch).flatMap Reply.stepped).length ≤ batchSize := by
  rw [replies]
  split
  · exact Nat.zero_le _
  · exact Session.length_steps_batch_le batchSize app.session

/-- A session that comes back to where it was keeps every batch running. -/
theorem mode_runBatch_of_fixed (tidy : app.Tidy) (going : app.finished = false)
    (running : app.session.advance.result = .ok .running)
    (same : app.session.advance.session = app.session) : app.runBatch.mode = .running := by
  have calls : app.replies .runBatch = app.session.batch batchSize := replies_runBatch going
  obtain ⟨run, latest⟩ := Session.batch_of_fixed running same batchSize
  rw [← calls] at run latest
  rw [mode_eq_running_iff, Bool.eq_false_iff]
  refine ⟨fun done => ?_, fun waits => ?_⟩
  · rcases (finished_request_iff tidy .runBatch).mp done with done | ⟨r, mem, closes⟩
    · rw [going] at done
      cases done
    · rw [Closes, run r mem] at closes
      simp at closes
  · have session : app.runBatch.session = app.session :=
      (session_request tidy .runBatch).trans latest
    rw [session] at waits
    rw [Session.advance_of_waits waits] at running
    cases running

/-! ## Flags -/

/-- A flag that a request raises under a condition, and never takes down, is up exactly when it was
up before or some request met the condition. -/
theorem raised_iff (tidy : app.Tidy) (flag : App → Prop) {raises : App → Request → Prop}
    (step : ∀ app q, app.Tidy → (flag (app.request q) ↔ flag app ∨ raises app q))
    (requests : List Request) :
    flag (app.served requests) ↔
      flag app ∨ ∃ earlier q, earlier ++ [q] <+: requests ∧ raises (app.served earlier) q := by
  induction requests using List.reverseRecOn with
  | nil => simp [served]
  | append_singleton requests q ih =>
    rw [served_concat, step _ q (tidy_served tidy requests), ih, or_assoc]
    refine or_congr_right ⟨?_, ?_⟩
    · rintro (⟨earlier, q', before, raised⟩ | raised)
      · exact ⟨earlier, q', before.trans (List.prefix_append requests [q]), raised⟩
      · exact ⟨requests, q, List.prefix_rfl, raised⟩
    · rintro ⟨earlier, q', upTo, raised⟩
      rcases List.prefix_concat_iff.mp upTo with eq | before
      · obtain ⟨rfl, last⟩ := List.append_inj' eq rfl
        obtain rfl := List.singleton_inj.mp last
        exact .inr raised
      · exact .inl ⟨earlier, q', before, raised⟩

/-- The application has finished exactly when it had before, or when one of the calls it made ended
the session for good. -/
theorem finished_served_iff (tidy : app.Tidy) (requests : List Request) :
    (app.served requests).finished = true ↔
      app.finished = true ∨ ∃ earlier q, earlier ++ [q] <+: requests ∧
        ∃ r ∈ (app.served earlier).replies q, Closes r.result :=
  raised_iff tidy (fun app => app.finished = true)
    (fun _ q tidy => finished_request_iff tidy q) requests

/-- The application was told to quit exactly when it had been before, or when the command was
submitted while it was paused. -/
theorem shouldQuit_served_iff (tidy : app.Tidy) (requests : List Request) :
    (app.served requests).shouldQuit = true ↔
      app.shouldQuit = true ∨ ∃ earlier line, earlier ++ [.submit line] <+: requests ∧
        (app.served earlier).mode = .paused ∧ Command.ofLine line = some (.ok .quit) := by
  rw [raised_iff tidy (fun app => app.shouldQuit = true)
    (fun _ q tidy => shouldQuit_request_iff tidy q) requests]
  simp only [replies_quit_iff]
  refine or_congr_right ⟨?_, ?_⟩
  · rintro ⟨earlier, -, upTo, line, rfl, paused, quits⟩
    exact ⟨earlier, line, upTo, paused, quits⟩
  · rintro ⟨earlier, line, upTo, paused, quits⟩
    exact ⟨earlier, .submit line, upTo, line, rfl, paused, quits⟩

/-- Behind the end no request has an effect. -/
theorem served_append_of_finished {requests : List Request}
    (h : (app.served requests).finished = true) (more : List Request) :
    app.served (requests ++ more) = app.served requests := by
  rw [served_append]
  exact List.foldl_fixed' (request_of_finished h) more

/-- An application that was told to quit stays told. -/
theorem shouldQuit_served (tidy : app.Tidy) (quits : app.shouldQuit = true)
    (requests : List Request) : (app.served requests).shouldQuit = true :=
  (shouldQuit_served_iff tidy requests).mpr (.inl quits)

/-! ## The main statement -/

/-- **The modes are kept in order.**  At its start an application has both flags down.  Let it be in
any state, with any text typed and a log that is not too long, and let it have served any requests.
The log is still not too long.

* What a request does to the session are the calls that it is replied to.
* The application has finished exactly when it had before, or when one of these calls replied that
  the program halted or that the session cannot go on; and after that no request changes anything.
* It was told to quit exactly when it had been before, or when the command `quit` was submitted
  while it was paused; so it stays told.
* A batch has no effect on a paused application, and a line none on an application that is not
  paused.  The typed text is cleared by a line that is handed over, and by nothing else.
* A batch takes at most 10000 steps of the machine, and leaves the mode running only if it took
  exactly as many.
* The mode is paused exactly when the application has not finished and going on would neither take a
  step nor write anything. -/
theorem mode_discipline :
    (∀ s, (start s).Tidy ∧ (start s).finished = false ∧ (start s).shouldQuit = false) ∧
    ∀ app : App, app.Tidy → ∀ requests,
      let last := app.served requests
      last.Tidy ∧
      (∀ q, (last.request q).session = last.session.latest (last.replies q)) ∧
      (last.finished = true ↔ app.finished = true ∨ ∃ earlier q, earlier ++ [q] <+: requests ∧
        ∃ r ∈ (app.served earlier).replies q,
          r.result = .ok (.finished .halted) ∨ ∃ e, r.result = .error e) ∧
      (last.finished = true → ∀ more, app.served (requests ++ more) = last) ∧
      (last.shouldQuit = true ↔ app.shouldQuit = true ∨
        ∃ earlier line, earlier ++ [.submit line] <+: requests ∧
          (app.served earlier).mode = .paused ∧ Command.ofLine line = some (.ok .quit)) ∧
      (last.shouldQuit = true → ∀ more, (app.served (requests ++ more)).shouldQuit = true) ∧
      (last.mode = .paused → last.request .runBatch = last) ∧
      (last.mode ≠ .paused → ∀ line, last.request (.submit line) = last) ∧
      (∀ q, (last.request q).editor =
        if last.mode = .paused ∧ q ≠ .runBatch then .empty else last.editor) ∧
      ((last.replies .runBatch).flatMap Reply.stepped).length ≤ 10000 ∧
      ((last.request .runBatch).mode = .running →
        ((last.replies .runBatch).flatMap Reply.stepped).length = 10000) ∧
      (last.mode = .paused ↔ last.finished = false ∧ last.session.advance.stepped = [] ∧
        ∀ channel, last.session.advance.textOn channel = "") := by
  refine ⟨fun s => ⟨tidy_start s, rfl, rfl⟩, fun app tidy requests => ?_⟩
  intro last
  have tidy' : last.Tidy := tidy_served tidy requests
  refine ⟨tidy', session_request tidy', finished_served_iff tidy requests, served_append_of_finished,
    shouldQuit_served_iff tidy requests, fun quits more => ?_, runBatch_of_paused tidy',
    submit_of_not_paused, fun q => ?_, length_steps_runBatch_le last,
    length_steps_of_running tidy', ?_⟩
  · rw [served_append]
    exact shouldQuit_served tidy' quits more
  · rw [editor_request tidy']
    cases q with
    | submit line => simp [typed]
    | runBatch => simp [typed]
  · rw [mode_eq_paused_iff]
    refine and_congr_right fun _ => ⟨fun waits => ?_, fun h => ?_⟩
    · rw [Session.advance_of_waits waits]
      exact ⟨rfl, fun _ => rfl⟩
    · exact Session.waits_of_silence h.1 (h.2 .diagnostics)

/-- A program that is continued and halts in the batch behind it, while the operator has begun to
type; one that is given up at once; and a jump to itself without an operator, which keeps every
batch busy. -/
theorem mode_discipline_seven :
    let s : Session :=
      ⟨.constant "seven" (.ok .seven), .ofImage .seven, true, true, none, 0⟩
    let t : Session :=
      ⟨.constant "circle" (.ok .circle), .ofImage .circle, false, false, none, 0⟩
    let typing : Editor := ⟨['n', 'i', 'r', 'p'], ['t']⟩
    let waiting : App := { start s with editor := typing }
    let continued : App := { (start s).request (.submit "continue") with editor := typing }
    let ended := continued.served [.runBatch]
    (waiting.request .runBatch = waiting) ∧
      (∀ line, continued.request (.submit line) = continued) ∧
      (ended.finished = true ∧ ended.editor.text = "print") ∧
      (∀ more, continued.served ([.runBatch] ++ more) = ended) ∧
      (∀ more, (waiting.served ([.submit "quit"] ++ more)).shouldQuit = true) ∧
      (waiting.request (.submit "step")).editor = .empty ∧
      (((start t).replies .runBatch).flatMap Reply.stepped).length = 10000 := by
  intro s t typing waiting continued ended
  have paused : waiting.mode = .paused := by decide +kernel
  have runs : continued.mode ≠ .paused := by decide +kernel
  have finished : ended.finished = true := by decide +kernel
  have quits : (waiting.served [.submit "quit"]).shouldQuit = true := by decide +kernel
  obtain ⟨starts, discipline⟩ := mode_discipline
  have tidy : waiting.Tidy := (starts s).1.edited typing
  have tidy' : continued.Tidy := (tidy_request (starts s).1 (.submit "continue")).edited typing
  obtain ⟨-, -, -, -, -, -, still, -, cleared, -⟩ := discipline waiting tidy []
  obtain ⟨-, -, -, -, -, -, -, unread, kept, -⟩ := discipline continued tidy' []
  obtain ⟨-, -, -, ends, -⟩ := discipline continued tidy' [.runBatch]
  obtain ⟨-, -, -, -, -, told, -⟩ := discipline waiting tidy [.submit "quit"]
  obtain ⟨-, -, -, -, -, -, -, -, -, -, busy, -⟩ := discipline (start t) (starts t).1 []
  have text : ended.editor.text = "print" := by
    have same : ended.editor = typing := (kept .runBatch).trans (if_neg fun h => h.2 rfl)
    rw [same]
    decide +kernel
  refine ⟨still paused, unread runs, ⟨finished, text⟩, ends finished, told quits,
    (cleared (.submit "step")).trans (if_pos ⟨paused, nofun⟩), busy ?_⟩
  -- every round is as the first one
  obtain ⟨same, running, -⟩ := Session.execute_of_not_ends (s := t) Machine.not_ends_circle
  rw [← Session.advance_of_free rfl (fun hd => absurd hd Bool.false_ne_true)] at same running
  rw [Machine.next_circle] at same
  exact mode_runBatch_of_fixed (tidy_start t) rfl running same

end App

end RegisterVM
