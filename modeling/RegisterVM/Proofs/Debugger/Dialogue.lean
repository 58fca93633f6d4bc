import RegisterVM.Proofs.Debugger.Drain

/-!
# Dialogues

An operator hands over one command line after the other, each only when the session asks for
one.  What the session has replied until then is a single reply again, the session let run out
behind every line.  Nothing here says who counts the rounds, so every driver is compared with
this.

* `Reply.Attended`: a reply to an operator, after which a session that asks for a command, or
  is told to quit, waits.
* `attended_advance`, `attended_submit`: the calls of a driver give such replies.
* `Session.Obeys`: what a session has replied after so many lines; there is at most one such
  reply (`Obeys.unique`).
* `Obeys.attended`, `Obeys.faithful`: what holds of it.
-/

namespace RegisterVM

/-! ## Replies to an operator -/

/-- The session keeps its operator.  When it asks for a command, or was told to quit, it
waits. -/
structure Reply.Attended (r : Reply) : Prop where
  debug : r.session.debug = true
  asks : r.result = .ok .needCommand → r.session.Waits
  quits : r.result = .ok (.finished .quit) → r.session.Waits

/-- A reply that leaves a waiting session behind. -/
theorem Reply.attended_of_waits {r : Reply} (h : r.session.Waits) : r.Attended :=
  ⟨h.debug, fun _ => h, fun _ => h⟩

/-- Only the last of two replies in a row counts. -/
theorem Reply.Attended.andThen {r : Reply} {next : Session → Reply}
    (h : (next r.session).Attended) : (r.andThen next).Attended :=
  ⟨h.debug, h.asks, h.quits⟩

namespace Session

variable {s : Session}

/-- Of the courses of a step only the fault asks for a command, and it pauses. -/
theorem attended_execute (hd : s.debug = true) : s.execute.Attended := by
  by_cases ends : s.machine.Ends
  · rcases ends with halts | ⟨f, faults⟩
    · obtain ⟨session, result, -⟩ := execute_of_halt halts hd
      exact ⟨by rw [session, hd], by simp [result], by simp [result]⟩
    · refine Reply.attended_of_waits ?_
      rw [(execute_of_fault faults hd).1]
      exact waits_pause hd
  · obtain ⟨session, result, -⟩ := execute_of_not_ends ends
    exact ⟨by rw [session, hd], by simp [result], by simp [result]⟩

theorem attended_advance (hd : s.debug = true) : s.advance.Attended := by
  unfold advance
  split
  · exact Reply.attended_of_waits (waits_pause hd)
  · split
    · next paused =>
      have hp : s.paused = true := by simpa [isPaused, hd] using paused
      split
      · next none => exact Reply.attended_of_waits ⟨hd, hp, none⟩
      · exact attended_execute hd
    · exact attended_execute hd

/-- A command that does not execute leaves a waiting session waiting, unless it restarts a
program that cannot be loaded. -/
theorem attended_perform (hs : s.Waits) (c : Command) : (s.perform c).Attended := by
  cases s.course c with
  | answers b text eq =>
    rw [eq]
    exact Reply.attended_of_waits ⟨hs.debug, hs.paused, hs.pending⟩
  | quits => exact Reply.attended_of_waits hs
  | counts valid =>
    simp only [perform, valid]
    exact attended_execute hs.debug
  | proceeds =>
    have attended := attended_execute (s := { s with paused := false, pending := 0 }) hs.debug
    exact ⟨attended.debug, attended.asks, attended.quits⟩
  | restarts =>
    simp only [perform, reload]
    split
    · exact ⟨hs.debug, by simp, by simp⟩
    · exact Reply.attended_of_waits ⟨hs.debug, hs.paused, rfl⟩

theorem attended_submit (hs : s.Waits) (line : String) : (s.submit (some line)).Attended := by
  cases h : s.command? (.submit (some line)) with
  | some command =>
    rw [submit_of_command h]
    exact attended_perform hs command
  | none =>
    have same := (submit_of_no_command h).1
    exact Reply.attended_of_waits (same.symm ▸ hs)

end Session

namespace Reply

variable {r out : Reply}

/-- Going on behind a reply to an operator is one again. -/
theorem Attended.drain (h : r.Attended) (rounds : Nat) : (r.drain rounds).Attended := by
  induction rounds generalizing r with
  | zero => exact h
  | succ rounds ih =>
    by_cases running : r.result = .ok .running
    · rw [drain_succ_of_running running]
      exact ih (.andThen (Session.attended_advance h.debug))
    · rw [drain_of_not_running running]
      exact h

/-- A waiting session that goes on does nothing, and asks for a command. -/
theorem andThen_advance_of_waits (h : r.session.Waits) :
    r.andThen Session.advance = { r with result := .ok .needCommand } := by
  rw [andThen, Session.advance_of_waits h]
  exact congrArg (Reply.mk · r.session (.ok .needCommand)) (List.append_nil r.acts)

/-- A driver may have a session go on once more that asks for a command: it runs out the same
way. -/
theorem drains_andThen_advance_iff (h : r.Attended)
    (goes : r.result = .ok .running ∨ r.result = .ok .needCommand) :
    (r.andThen Session.advance).Drains out ↔ r.Drains out := by
  rcases goes with running | asks
  · exact drains_andThen_advance_of_running running
  · rw [andThen_advance_of_waits (h.asks asks), ← asks]

end Reply

/-! ## Lines one by one -/

/-- The session has taken the first `i` of the command lines, one whenever it asked for a
command, and was let run out behind each; the reply is all that it did until then.  The first
line is taken right away. -/
inductive Session.Obeys (s : Session) (lines : List String) : Nat → Reply → Prop where
  | opened : Obeys s lines 0 (.silent s .needCommand)
  | taken {i : Nat} {r out : Reply} {line : String} (before : Obeys s lines i r)
      (asks : r.result = .ok .needCommand) (line_eq : lines[i]? = some line)
      (runs : (r.andThen fun t => t.submit (some line)).Drains out) : Obeys s lines (i + 1) out

namespace Session.Obeys

variable {s : Session} {lines : List String} {i : Nat} {r r' : Reply}

/-- There is one way to take the lines. -/
theorem unique (h : s.Obeys lines i r) (h' : s.Obeys lines i r') : r = r' := by
  induction h generalizing r' with
  | opened =>
    cases h'
    rfl
  | taken before asks line_eq runs ih =>
    cases h' with
    | taken before' asks' line_eq' runs' =>
      obtain rfl := ih before'
      obtain rfl := Option.some.inj (line_eq.symm.trans line_eq')
      exact runs.unique runs'

/-- Only the lines that there are can be taken. -/
theorem le_length (h : s.Obeys lines i r) : i ≤ lines.length := by
  cases h with
  | opened => exact Nat.zero_le _
  | taken before asks line_eq runs => exact (List.getElem?_eq_some_iff.mp line_eq).1

/-- Whoever waits at the start is attended all the time. -/
theorem attended (hs : s.Waits) (h : s.Obeys lines i r) : r.Attended := by
  induction h with
  | opened => exact Reply.attended_of_waits hs
  | @taken i r out line before asks line_eq runs ih =>
    obtain ⟨⟨rounds, rfl⟩, -⟩ := runs
    exact (Reply.Attended.andThen (Session.attended_submit (ih.asks asks) line)).drain rounds

/-- What was put out is what the steps put out. -/
theorem faithful (h : s.Obeys lines i r) : r.Faithful := by
  induction h with
  | opened => rfl
  | @taken i r out line before asks line_eq runs ih =>
    obtain ⟨⟨rounds, rfl⟩, -⟩ := runs
    exact (ih.andThen (r.session.faithful_reply (.submit (some line)))).drain rounds

/-- A dialogue stands still only between two lines. -/
theorem not_running (h : s.Obeys lines i r) : r.result ≠ .ok .running := by
  cases h with
  | opened => simp [Reply.silent]
  | taken before asks line_eq runs => exact runs.2

end Session.Obeys

end RegisterVM
