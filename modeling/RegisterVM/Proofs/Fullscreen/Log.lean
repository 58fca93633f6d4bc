import RegisterVM.Proofs.Debugger.Remarks
import RegisterVM.Proofs.Fullscreen.Requests

/-!
# The log

The log keeps the newest thousand lines, and it is cut with every line that is put into it.  One
batch may put out ten times as many values as the log has room for, so the log alone says little.
What it is a part of is the history: all lines that were ever logged, from the start on.  The
history is said here without any log, from what the calls of the session replied.

* `App.logged`, `App.history`: the lines that a request logs, and those of all requests so far.
* `App.newest`: the lines that are kept; `newest_newest_append` says that lines that were dropped
  earlier would be dropped again.
* `logs_request`, `logs_after`: a request, and any requests; the log is the end of the history.
* `filter_logged`, `filter_history`: a line that looks like output is the output of a step.
* `log_keeps_newest_lines`: the main statement.
-/

namespace RegisterVM

/-! ## Replies in a row -/

/-- A transcript of replies holds what they wrote, channel by channel. -/
theorem Transcript.foldl_append (rs : List Reply) (t : Transcript) :
    rs.foldl append t =
      ⟨t.output ++ String.join (rs.map (Reply.textOn .output)),
        t.diagnostics ++ String.join (rs.map (Reply.textOn .diagnostics))⟩ := by
  induction rs generalizing t with
  | nil => simp
  | cons r rs ih =>
    rw [List.foldl_cons, ih]
    simp [append, String.append_assoc]

/-- Faithful replies put out what their steps put out. -/
theorem outputText_steps {rs : List Reply} (faithful : ∀ r ∈ rs, r.Faithful) :
    String.join (rs.map (Reply.textOn .output)) = outputText (rs.flatMap Reply.stepped) := by
  induction rs with
  | nil => rfl
  | cons r rs ih =>
    rw [List.forall_mem_cons] at faithful
    rw [List.map_cons, String.join_cons, List.flatMap_cons, outputText_append, ih faithful.2,
      faithful.1]

/-- The output of some machines has a line for each value. -/
theorem lines_outputText (machines : List Machine) :
    Text.lines (outputText machines) = (machines.filterMap Machine.output?).map Word.text := by
  refine Text.lines_unlines ?_
  rw [List.forall_mem_map]
  exact fun value _ => value.isRemark_text.unbroken

namespace App

variable {app : App} {rs : List Reply}

/-! ## What is logged -/

/-- What was said in some replies, line by line, empty lines left out. -/
def remarks (rs : List Reply) : List String :=
  (Text.lines (String.join (rs.map (Reply.textOn .diagnostics)))).filter (fun line => line ≠ "")

/-- A line for each value that some machines put out. -/
def outLines (machines : List Machine) : List String :=
  (machines.filterMap Machine.output?).map fun value => "out: " ++ value.text

/-- The line for a result that ends the session. -/
def closing : Except SessionError Poll → List String
  | .ok (.finished .halted) => ["Program halted"]
  | .error e => ["Stopped: " ++ e.message]
  | .ok _ => []

/-- The lines that a request logs: a prompt, what was said, what was put out, and how it ended. -/
def logged (app : App) (q : Request) : List String :=
  app.prompted q ++ remarks (app.replies q) ++ outLines ((app.replies q).flatMap Reply.stepped) ++
    (app.replies q).flatMap fun r => closing r.result

/-- The requests, each with the application that it is made of. -/
def course (app : App) : List Request → List (App × Request)
  | [] => []
  | q :: requests => (app, q) :: course (app.request q) requests

/-- All lines that were ever logged. -/
def history (s : Session) (requests : List Request) : List String :=
  ("Loaded " ++ s.source.name) ::
    (course (start s) requests).flatMap fun (app, q) => app.logged q

/-- All machines that took a step. -/
def steps (s : Session) (requests : List Request) : List Machine :=
  (course (start s) requests).flatMap fun (app, q) => (app.replies q).flatMap Reply.stepped

/-- The newest lines, as many as the log keeps. -/
def newest (lines : List String) : List String := lines.drop (lines.length - logCapacity)

/-! ## Keeping the newest lines -/

theorem logs_appendLogs (app : App) (lines : List String) :
    (app.appendLogs lines).logs = newest (app.logs ++ lines) := by
  simp only [appendLogs, newest]

/-- Lines that were dropped earlier would be dropped again. -/
theorem newest_newest_append (older newer : List String) :
    newest (newest older ++ newer) = newest (older ++ newer) :=
  newest_append older newer logCapacity

theorem newest_logs (tidy : app.Tidy) : newest app.logs = app.logs := by
  rw [newest, Nat.sub_eq_zero_of_le tidy, List.drop_zero]

/-- The newest lines are the last ones, a thousand of them if there are as many. -/
theorem newest_suffix (lines : List String) : newest lines <:+ lines := List.drop_suffix _ lines

theorem length_newest (lines : List String) : (newest lines).length = min 1000 lines.length := by
  rw [newest, List.length_drop, logCapacity]
  omega

theorem logs_handle (tidy : app.Tidy) (result : Except SessionError Poll) :
    (app.handle result).logs = newest (app.logs ++ closing result) := by
  have same : newest (app.logs ++ []) = app.logs := by rw [List.append_nil, newest_logs tidy]
  rcases result with e | poll
  · simp only [handle, closing, logs_appendLogs]
  · cases poll with
    | needCommand | running => exact same.symm
    | finished exit =>
      cases exit with
      | halted => simp only [handle, closing, logs_appendLogs]
      | quit => exact same.symm

/-! ## Requests -/

/-- A request calls nothing else than `advance`, and `submit` with a line. -/
theorem exists_call_of_mem_replies {q : Request} {r : Reply} (mem : r ∈ app.replies q) :
    ∃ t : Session, r = t.advance ∨ ∃ line, r = t.submit (some line) := by
  cases q with
  | submit line =>
    rw [replies] at mem
    split at mem
    · exact ⟨app.session, .inr ⟨line, List.mem_singleton.mp mem⟩⟩
    · exact absurd mem List.not_mem_nil
  | runBatch =>
    rw [replies] at mem
    split at mem
    · exact absurd mem List.not_mem_nil
    · obtain ⟨t, eq⟩ := Session.exists_eq_advance_of_mem_batch mem
      exact ⟨t, .inl eq⟩

theorem faithful_of_mem_replies {q : Request} : ∀ r ∈ app.replies q, r.Faithful := by
  intro r mem
  obtain ⟨t, rfl | ⟨line, rfl⟩⟩ := exists_call_of_mem_replies mem
  · exact t.faithful_reply .advance
  · exact t.faithful_reply (.submit (some line))

/-- Only the last result can end the session. -/
theorem closing_lastResult (run : ∀ r ∈ rs.dropLast, r.result = .ok .running) :
    closing (Reply.lastResult rs) = rs.flatMap fun r => closing r.result := by
  rcases rs.eq_nil_or_concat with rfl | ⟨runs, last, rfl⟩
  · rfl
  · rw [List.concat_eq_append] at run ⊢
    rw [List.dropLast_concat] at run
    have silent : runs.flatMap (fun r => closing r.result) = [] := by
      rw [List.flatMap_eq_nil_iff]
      intro r mem
      rw [run r mem]
      rfl
    rw [Reply.lastResult, List.foldl_concat, List.flatMap_append, silent, List.flatMap_singleton,
      List.nil_append]

theorem logLines_eq (faithful : ∀ r ∈ rs, r.Faithful) :
    (rs.foldl Transcript.append .empty).logLines =
      remarks rs ++ outLines (rs.flatMap Reply.stepped) := by
  rw [Transcript.foldl_append, Transcript.logLines, remarks, outLines, Transcript.empty]
  dsimp only
  rw [String.empty_append, String.empty_append, outputText_steps faithful, lines_outputText,
    List.map_map]
  rfl

/-- A request puts its lines into the log, and keeps the newest. -/
theorem logs_request (tidy : app.Tidy) (q : Request) :
    (app.request q).logs = newest (app.logs ++ app.logged q) := by
  simp only [request_eq tidy, takeIn]
  rw [logs_handle (tidy_appendLogs _ _), closing_lastResult running_of_mem_dropLast_replies,
    logs_appendLogs, logLines_eq faithful_of_mem_replies, logs_appendLogs, newest_newest_append]
  simp only [logged, List.append_assoc, newest_newest_append]

/-- The log is the end of the history. -/
theorem logs_after (s : Session) (requests : List Request) :
    (after s requests).logs = newest (history s requests) := by
  have run (app : App) (tidy : app.Tidy) (older : List String) (kept : app.logs = newest older) :
      (requests.foldl request app).logs =
        newest (older ++ (course app requests).flatMap fun (app, q) => app.logged q) := by
    induction requests generalizing app older with
    | nil => simpa [course] using kept
    | cons q requests ih =>
      have logs : (app.request q).logs = newest (older ++ app.logged q) := by
        rw [logs_request tidy, kept, newest_newest_append]
      rw [List.foldl_cons, ih _ (tidy_request tidy q) _ logs, course, List.flatMap_cons,
        List.append_assoc]
  have opened : (start s).logs = newest ["Loaded " ++ s.source.name] := by
    rw [start, logs_appendLogs, List.nil_append]
  exact run (start s) (tidy_appendLogs _ _) ["Loaded " ++ s.source.name] opened

/-! ## Lines of output -/

/-- The line is marked as output. -/
def marked (line : String) : Bool := "out: ".toList.isPrefixOf line.toList

theorem marked_eq_false {line : String} (h : line.toList.head? ≠ some 'o') :
    marked line = false := by
  rw [Bool.eq_false_iff]
  intro mark
  obtain ⟨rest, eq⟩ := List.isPrefixOf_iff_prefix.mp mark
  exact h (by rw [← eq]; rfl)

theorem marked_out (text : String) : marked ("out: " ++ text) = true := by
  rw [marked, List.isPrefixOf_iff_prefix, String.toList_append]
  exact List.prefix_append _ _

theorem filter_outLines (machines : List Machine) :
    (outLines machines).filter marked = outLines machines := by
  rw [List.filter_eq_self, outLines, List.forall_mem_map]
  exact fun value _ => marked_out value.text

theorem filter_prompted (app : App) (q : Request) : (app.prompted q).filter marked = [] := by
  cases q with
  | submit line =>
    have prompt : marked (app.session.prompt ++ line) = false :=
      marked_eq_false (by simp [Session.prompt])
    rw [prompted]
    split
    · rw [List.filter_singleton, prompt]
      rfl
    · rfl
  | runBatch => rfl

/-- Nothing that a session says is marked as output. -/
theorem filter_remarks (app : App) (q : Request) :
    (remarks (app.replies q)).filter marked = [] := by
  have report : IsReport (String.join ((app.replies q).map (Reply.textOn .diagnostics))) := by
    refine isReport_join ?_
    rw [List.forall_mem_map]
    intro r mem
    obtain ⟨t, rfl | ⟨line, rfl⟩⟩ := exists_call_of_mem_replies mem
    · exact t.isReport_advance
    · exact t.isReport_submit line
  rw [List.filter_eq_nil_iff]
  intro line mem
  have remark := report.isRemark (List.mem_filter.mp mem).1
  rw [marked_eq_false remark.unmarked]
  exact Bool.false_ne_true

theorem filter_closing (result : Except SessionError Poll) :
    (closing result).filter marked = [] := by
  unfold closing
  split
  · rfl
  · rw [List.filter_singleton, marked_eq_false (by simp)]
    rfl
  · rfl

/-- Of the lines that a request logs those of its output are marked. -/
theorem filter_logged (app : App) (q : Request) :
    (app.logged q).filter marked = outLines ((app.replies q).flatMap Reply.stepped) := by
  have closed : ((app.replies q).flatMap fun r => closing r.result).filter marked = [] := by
    rw [List.filter_flatMap, List.flatMap_eq_nil_iff]
    exact fun r _ => filter_closing r.result
  rw [logged, List.filter_append, List.filter_append, List.filter_append, filter_prompted,
    filter_remarks, filter_outLines, closed, List.nil_append, List.nil_append, List.append_nil]

/-- Of all lines those of the output are marked. -/
theorem filter_history (s : Session) (requests : List Request) :
    (history s requests).filter marked = outLines (steps s requests) := by
  have opened : marked ("Loaded " ++ s.source.name) = false := marked_eq_false (by simp)
  rw [history, List.filter_cons_of_neg (by simp [opened]), List.filter_flatMap, outLines, steps,
    List.filterMap_flatMap, List.map_flatMap]
  exact List.flatMap_congr fun x _ => filter_logged x.1 x.2

/-! ## The main statement -/

/-- **The log keeps the newest lines, and no output is lost.**  Let any requests have been made of
an application over any session.

* The log is the end of the history: the last 1000 of all lines that were ever logged, in their
  order, or all of them when there are not as many.
* The lines of the history that are marked as output are the values that the steps of the machine
  put out, each of them once and in the order of the steps, whatever the batches were and however
  many values one of them put out. -/
theorem log_keeps_newest_lines (s : Session) (requests : List Request) :
    (after s requests).logs <:+ history s requests ∧
    (after s requests).logs.length = min 1000 (history s requests).length ∧
    (history s requests).filter marked =
      ((steps s requests).filterMap Machine.output?).map fun value => "out: " ++ value.text := by
  rw [logs_after]
  exact ⟨newest_suffix _, length_newest _, filter_history s requests⟩

/-- A session from its first line to its last. -/
example :
    history ⟨.constant "seven" (.ok .seven), .ofImage .seven, true, true, none, 0⟩
      [.submit "print r1", .submit "continue", .runBatch] =
    ["Loaded seven", "dbg[000]> print r1", "r1: 0", "dbg[000]> continue",
      "Program exited normally", "out: 7", "Program halted"] := by
  decide +kernel

end App

end RegisterVM
