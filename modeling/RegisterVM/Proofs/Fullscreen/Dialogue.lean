import RegisterVM.Proofs.Debugger.Dialogue
import RegisterVM.Proofs.Fullscreen.Modes

/-!
# The application in a dialogue

The application is the other driver that hands over a list of command lines.  It lets the
session go on in batches and decides by its mode, not by the result of a call; a batch may end
anywhere in a run, also right where the session has nothing left to do.  Still it follows the
dialogue: where the batches are cut shows neither in the session nor in the output.

* `Stage`: the application with the output that its calls have collected so far.
* `Stage.Settles`: batch after batch until the mode is no longer running.
* `Stage.Follows`: the lines handed over one by one, each with the batches behind it.
* `Stage.Shows`: the stage stands where a reply leads.
* `shows_submit`, `shows_runBatch`: a line and a batch.
* `Settles.drains`, `exists_settles`: settling is letting the session run out.
* `Follows.obeys`, `exists_follows`: following is taking the lines.
-/

namespace RegisterVM

/-! ## A batch -/

/-- A batch of rounds behind a reply that runs: it leads where the rounds of the reply lead,
and collects what they put out. -/
theorem Session.advanceWhileRunning_eq {r : Reply} (running : r.result = .ok .running)
    (rounds : Nat) {before : String} {t : Transcript}
    (said : before ++ t.output = r.textOn .output) :
    ∃ t', advanceWhileRunning rounds r.session t =
        ((r.drain rounds).session, t', (r.drain rounds).result) ∧
      before ++ t'.output = (r.drain rounds).textOn .output := by
  induction rounds generalizing r t with
  | zero => exact ⟨t, by rw [advanceWhileRunning, Reply.drain, running], said⟩
  | succ rounds ih =>
    have more : before ++ (t.append r.session.advance).output =
        (r.andThen advance).textOn .output := by
      rw [Reply.textOn_andThen, ← said, String.append_assoc]
      rfl
    rw [Reply.drain_succ_of_running running, advanceWhileRunning]
    split
    · next goes => exact ih (r := r.andThen advance) goes more
    · next stops =>
      rw [Reply.drain_of_not_running (r := r.andThen advance) stops]
      exact ⟨_, rfl, more⟩

/-! ## Stages -/

/-- The application, with the output that its calls have collected so far. -/
structure Stage where
  app : App
  output : String

namespace Stage

/-- A command line is submitted.  Only a paused application has the session reply to it. -/
def submit (g : Stage) (line : String) : Stage where
  app := g.app.submit line
  output :=
    if g.app.mode = .paused then
      g.output ++ (Transcript.empty.append (g.app.session.submit (some line))).output
    else g.output

/-- One batch is run, unless the session is finished. -/
def runBatch (g : Stage) : Stage where
  app := g.app.runBatch
  output :=
    if g.app.finished then g.output
    else g.output ++ (g.app.session.advanceWhileRunning App.batchSize .empty).2.1.output

/-- Batch after batch is run until the mode is no longer running. -/
inductive Settles : Stage → Stage → Prop where
  | still {g : Stage} (stops : g.app.mode ≠ .running) : Settles g g
  | batch {g k : Stage} (runs : g.app.mode = .running) (rest : Settles g.runBatch k) :
      Settles g k

/-- The first `i` of the lines are submitted, each followed by batches until the stage settles;
there is no next line once the application is finished or told to quit. -/
inductive Follows (g : Stage) (lines : List String) : Nat → Stage → Prop where
  | opened : Follows g lines 0 g
  | taken {i : Nat} {k k' : Stage} {line : String} (before : Follows g lines i k)
      (going : k.app.finished = false ∧ k.app.shouldQuit = false)
      (line_eq : lines[i]? = some line) (settles : (k.submit line).Settles k') :
      Follows g lines (i + 1) k'

/-- The stage stands where the reply leads, and shows its result. -/
structure Shows (g : Stage) (r : Reply) : Prop where
  session : g.app.session = r.session
  output : g.output = r.textOn .output
  result : g.app.Reflects r.result

variable {g k : Stage} {r out : Reply}

/-! ## One call -/

/-- Before a session that needs a command, the line is handed over. -/
theorem Shows.submit (h : g.Shows r) (asks : r.result = .ok .needCommand)
    (waits : r.session.Waits) (line : String) :
    (g.submit line).Shows (r.andThen fun t => t.submit (some line)) := by
  have going : g.app.finished = false ∧ g.app.shouldQuit = false := by
    have result := h.result
    rwa [asks] at result
  have paused : g.app.mode = .paused :=
    App.mode_eq_paused_iff.mpr ⟨going.1, h.session ▸ waits⟩
  unfold Stage.submit App.submit
  rw [if_pos paused, if_pos paused]
  refine ⟨?_, ?_, ?_⟩
  · simp [h.session]
  · rw [Reply.textOn_andThen, ← h.output, ← h.session]
    exact congrArg (g.output ++ ·) String.empty_append
  · rw [Reply.result_andThen, ← h.session]
    exact (App.reflects_handle (by simp [going]) _).edited .empty

/-- A batch is so many rounds of a session that runs. -/
theorem Shows.runBatch (h : g.Shows r) (running : r.result = .ok .running) :
    g.runBatch.Shows (r.drain App.batchSize) := by
  have going : g.app.finished = false ∧ g.app.shouldQuit = false := by
    have result := h.result
    rwa [running] at result
  have said : g.output ++ Transcript.empty.output = r.textOn .output := by
    rw [h.output]
    exact String.append_empty
  obtain ⟨t, eq, output⟩ := Session.advanceWhileRunning_eq running App.batchSize said
  rw [← h.session] at eq
  unfold Stage.runBatch App.runBatch
  rw [if_neg (by simp [going.1]), if_neg (by simp [going.1]), eq]
  refine ⟨?_, output, ?_⟩
  · simp
  · exact App.reflects_handle (by simp [going]) _

/-! ## Settling -/

/-- A running session that nevertheless waits has come to the end of a counted step: a batch
would find it asking for a command. -/
theorem Shows.waits (h : g.Shows r) (running : r.result = .ok .running)
    (waits : r.session.Waits) : g.Shows (r.andThen Session.advance) := by
  have result := h.result
  rw [running] at result
  rw [Reply.andThen_advance_of_waits waits]
  exact ⟨h.session, h.output, result⟩

/-- A stage that does not run shows where the session has run out. -/
theorem Shows.still (h : g.Shows r) (stops : g.app.mode ≠ .running) :
    ∃ out, r.Drains out ∧ g.Shows out := by
  by_cases running : r.result = .ok .running
  · have result := h.result
    rw [running] at result
    have waits : r.session.Waits := by
      by_contra waits
      exact stops (App.mode_eq_running_iff.mpr ⟨result.1, h.session ▸ waits⟩)
    refine ⟨_, .of_drain 1 (Reply.drain_succ_of_running running 0) ?_, h.waits running waits⟩
    rw [Reply.andThen_advance_of_waits waits]
    simp [Reply.drain]
  · exact ⟨r, Reply.drains_self running, h⟩

/-- A stage that runs shows a session that runs. -/
theorem Shows.running (h : g.Shows r) (attended : r.Attended) (runs : g.app.mode = .running) :
    r.result = .ok .running := by
  obtain ⟨going, free⟩ := App.mode_eq_running_iff.mp runs
  rw [h.session] at free
  have result := h.result
  rcases eq : r.result with e | poll
  · rw [eq] at result
    exact absurd (going.symm.trans result.1) (by simp)
  · cases poll with
    | running => rfl
    | needCommand => exact absurd (attended.asks eq) free
    | finished exit =>
      cases exit with
      | halted =>
        rw [eq] at result
        exact absurd (going.symm.trans result.1) (by simp)
      | quit => exact absurd (attended.quits eq) free

/-- A stage that settles shows what the session runs out with. -/
theorem Settles.drains (h : g.Settles k) (shows : g.Shows r) (attended : r.Attended) :
    ∃ out, r.Drains out ∧ k.Shows out := by
  induction h generalizing r with
  | still stops => exact shows.still stops
  | batch runs rest ih =>
    obtain ⟨out, ⟨⟨rounds, eq⟩, ended⟩, shows'⟩ :=
      ih (shows.runBatch (shows.running attended runs)) (attended.drain App.batchSize)
    exact ⟨out, ⟨⟨App.batchSize + rounds, by rw [Reply.drain_add, eq]⟩, ended⟩, shows'⟩

/-- When the session runs out the stage settles, and shows it. -/
theorem exists_settles (shows : g.Shows r) (attended : r.Attended) (drains : r.Drains out) :
    ∃ k, g.Settles k ∧ k.Shows out := by
  obtain ⟨⟨rounds, eq⟩, ended⟩ := drains
  induction rounds using Nat.strong_induction_on generalizing g r with
  | _ rounds ih =>
    by_cases runs : g.app.mode = .running
    · have running := shows.running attended runs
      have pos : 0 < rounds := by
        rcases Nat.eq_zero_or_pos rounds with rfl | pos
        · rw [Reply.drain] at eq
          exact absurd (eq ▸ running) ended
        · exact pos
      have batch : 0 < App.batchSize := by decide
      -- a batch takes at most all the rounds that are left
      have rest : (r.drain App.batchSize).drain (rounds - App.batchSize) = out := by
        rw [← Reply.drain_add]
        rcases Nat.le_total App.batchSize rounds with le | le
        · rw [Nat.add_sub_cancel' le, eq]
        · obtain ⟨more, size⟩ := Nat.exists_eq_add_of_le le
          rw [Nat.sub_eq_zero_of_le le, Nat.add_zero, size, Reply.drain_add, eq,
            Reply.drain_of_not_running ended]
      obtain ⟨k, settles, shows'⟩ := ih (rounds - App.batchSize) (by omega)
        (shows.runBatch running) (attended.drain App.batchSize) rest
      exact ⟨k, .batch runs settles, shows'⟩
    · obtain ⟨out', drains, shows'⟩ := shows.still runs
      obtain rfl := drains.unique (.of_drain rounds eq ended)
      exact ⟨g, .still runs, shows'⟩

/-! ## Following the lines -/

variable {s : Session} {lines : List String} {i : Nat}

/-- Between two lines the stage shows what the session has replied to the lines so far. -/
theorem Follows.obeys (h : g.Follows lines i k) (waits : s.Waits)
    (shows : g.Shows (.silent s .needCommand)) : ∃ r, s.Obeys lines i r ∧ k.Shows r := by
  induction h with
  | opened => exact ⟨_, .opened, shows⟩
  | @taken i k k' line before going line_eq settles ih =>
    obtain ⟨r, obeys, shows⟩ := ih
    have asks := shows.result.eq_needCommand going obeys.not_running
    have waits := (obeys.attended waits).asks asks
    obtain ⟨out, drains, shows'⟩ := settles.drains (shows.submit asks waits line)
      (.andThen (Session.attended_submit waits line))
    exact ⟨out, .taken obeys asks line_eq drains, shows'⟩

/-- Where the session has taken the lines the stage has followed them. -/
theorem exists_follows (h : s.Obeys lines i r) (waits : s.Waits)
    (shows : g.Shows (.silent s .needCommand)) : ∃ k, g.Follows lines i k ∧ k.Shows r := by
  induction h with
  | opened => exact ⟨g, .opened, shows⟩
  | @taken i r out line before asks line_eq runs ih =>
    obtain ⟨k, follows, shows⟩ := ih
    have waits := (before.attended waits).asks asks
    have result := shows.result
    rw [asks] at result
    obtain ⟨k', settles, shows'⟩ := exists_settles (shows.submit asks waits line)
      (.andThen (Session.attended_submit waits line)) runs
    exact ⟨k', .taken follows result line_eq settles, shows'⟩

end Stage

end RegisterVM
