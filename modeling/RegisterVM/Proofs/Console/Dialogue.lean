import RegisterVM.Proofs.Console.Prompts
import RegisterVM.Proofs.Console.Unlimited
import RegisterVM.Proofs.Debugger.Dialogue
import RegisterVM.Proofs.Text.Words

/-!
# The console in a dialogue

On outlets that take everything the console is one of the drivers that hand over a list of
command lines: its `i`-th prompt stands where the session, having taken `i` lines, asks for the
next one, and it returns with the line that ends the session.  A prompt is only one more text
for the operator.

* `Console.Tells`: the console stands where a reply leads.
* `ComesTo.drains`, `exists_comesTo`: going on is letting the session run out.
* `Prompts.obeys`, `exists_prompts`: prompts, and lines that were taken.
* `Returns.obeys`, `exists_returns`: returns, and lines that end the session.
-/

namespace RegisterVM

/-- A line feed at the end of a command line does not matter to the session. -/
theorem Session.submit_line (s : Session) (text : String) :
    s.submit (some (Text.line text)) = s.submit (some text) := by
  rw [submit, submit, Command.ofLine_line]

namespace Console

/-- The console stands where the reply leads, and its output is what the reply puts out. -/
structure Tells (c : Console) (r : Reply) : Prop where
  session : c.session = r.session
  unlimited : c.outlets.Unlimited
  output : c.outlets.output.written = (r.textOn .output).toUTF8

variable {c d : Console} {r : Reply}

/-! ## Single rounds -/

/-- The console plays what its session replies next. -/
theorem Tells.play (h : c.Tells r) (next : Session → Reply) :
    (c.play (next c.session)).1.Tells (r.andThen next) ∧
      (c.play (next c.session)).2 = (r.andThen next).result ∧
      (c.play (next c.session)).1.input = c.input := by
  obtain ⟨d, eq, plays⟩ := exists_plays h.unlimited (next c.session)
  rw [eq]
  refine ⟨⟨?_, plays.unlimited, ?_⟩, ?_, plays.input⟩
  · rw [plays.session, Reply.session_andThen, ← h.session]
  · rw [plays.output, Reply.textOn_andThen, Text.toUTF8_append, ← h.output, ← h.session]
  · rw [Reply.result_andThen, ← h.session]

/-- A round of going on; the prompt at its end, if there is one, leaves all this alone. -/
theorem Tells.tick {result : Except SessionError Poll} (h : c.Tells r)
    (ticked : c.tick = (d, result)) : result = (r.andThen Session.advance).result ∧
      d.Tells (r.andThen Session.advance) ∧ d.input = c.input := by
  obtain ⟨e, eq, session, input, unlimited, output⟩ := exists_tick h.unlimited
  obtain ⟨rfl, rfl⟩ := Prod.mk.inj (ticked.symm.trans eq)
  refine ⟨?_, ⟨?_, unlimited, ?_⟩, input⟩
  · rw [Reply.result_andThen, ← h.session]
  · rw [session, Reply.session_andThen, ← h.session]
  · rw [output, Reply.textOn_andThen, Text.toUTF8_append, ← h.output, ← h.session]

/-- The next line is handed over. -/
theorem Tells.feed {line : String} {rest : List InputLine} {result : Except SessionError Poll}
    (h : c.Tells r) (input : c.input = .text (Text.line line) :: rest)
    (fed : c.feed = (d, result)) :
    result = (r.andThen fun t => t.submit (some line)).result ∧
      d.Tells (r.andThen fun t => t.submit (some line)) ∧ d.input = rest := by
  have moved : Tells { c with input := rest } r := ⟨h.session, h.unlimited, h.output⟩
  have eq : c.feed = Console.play { c with input := rest } (c.session.submit (some line)) := by
    rw [Console.feed, input, ← Session.submit_line]
    rfl
  obtain ⟨tells, answer, same⟩ := moved.play fun t => t.submit (some line)
  rw [← eq, fed] at tells answer same
  exact ⟨answer, tells, same⟩

/-! ## Going on -/

/-- A console that goes on lets its session run out. -/
theorem ComesTo.drains {result : Except SessionError Poll} (h : c.ComesTo d result)
    (tells : c.Tells r) : ∃ out, (r.andThen Session.advance).Drains out ∧
      out.result = result ∧ d.Tells out ∧ d.input = c.input := by
  induction h generalizing r with
  | stop ticked stops =>
    obtain ⟨rfl, told, input⟩ := tells.tick ticked
    exact ⟨_, Reply.drains_self stops, rfl, told, input⟩
  | more ticked rest ih =>
    obtain ⟨running, told, input⟩ := tells.tick ticked
    obtain ⟨out, drains, result, told, same⟩ := ih told
    exact ⟨out, (Reply.drains_andThen_advance_of_running running.symm).mp drains, result, told,
      same.trans input⟩

/-- A session that runs out lets its console come to an end of going on. -/
theorem exists_comesTo {out : Reply} (tells : c.Tells r)
    (drains : (r.andThen Session.advance).Drains out) : ∃ d, c.ComesTo d out.result := by
  obtain ⟨⟨rounds, eq⟩, ended⟩ := drains
  induction rounds generalizing c r with
  | zero =>
    have ticked : c.tick = (c.tick.1, c.tick.2) := rfl
    rw [Reply.drain] at eq
    rw [(tells.tick ticked).1, eq] at ticked
    exact ⟨_, .stop ticked ended⟩
  | succ rounds ih =>
    have ticked : c.tick = (c.tick.1, c.tick.2) := rfl
    obtain ⟨result, told, -⟩ := tells.tick ticked
    rw [result] at ticked
    by_cases running : (r.andThen Session.advance).result = .ok .running
    · rw [Reply.drain_succ_of_running running] at eq
      obtain ⟨e, goes⟩ := ih told eq
      rw [running] at ticked
      exact ⟨e, .more ticked goes⟩
    · rw [Reply.drain_of_not_running running] at eq
      rw [eq] at ticked
      exact ⟨_, .stop ticked ended⟩

/-! ## Prompts -/

variable {s : Session} {lines : List String} {i : Nat}

/-- The console is about to open a dialogue: its session waits, nothing is put out yet, and
its input is made of the lines. -/
structure Opens (c : Console) (s : Session) (lines : List String) : Prop where
  waits : s.Waits
  tells : c.Tells (.silent s .needCommand)
  input : c.input = lines.map fun line => .text (Text.line line)

/-- The next of the lines is handed over. -/
theorem Tells.feed_next {line : String} {result : Except SessionError Poll} (h : c.Tells r)
    (input : c.input = (lines.drop i).map fun line => .text (Text.line line))
    (line_eq : lines[i]? = some line) (fed : c.feed = (d, result)) :
    result = (r.andThen fun t => t.submit (some line)).result ∧
      d.Tells (r.andThen fun t => t.submit (some line)) ∧
      d.input = (lines.drop (i + 1)).map fun line => .text (Text.line line) := by
  obtain ⟨lt, eq⟩ := List.getElem?_eq_some_iff.mp line_eq
  rw [List.drop_eq_getElem_cons lt, eq, List.map_cons] at input
  exact h.feed input fed

/-- A session that is still asked or running behind a line runs out as with one more round. -/
theorem drains_of_open {line : String} {out : Reply} (waits : r.session.Waits)
    (open_ : ending? (r.andThen fun t => t.submit (some line)).result = none) :
    ((r.andThen fun t => t.submit (some line)).andThen Session.advance).Drains out ↔
      (r.andThen fun t => t.submit (some line)).Drains out := by
  refine Reply.drains_andThen_advance_iff (.andThen (Session.attended_submit waits line)) ?_
  by_cases asks : (r.andThen fun t => t.submit (some line)).result = .ok .needCommand
  · exact Or.inr asks
  · exact Or.inl (eq_running_of_open open_ asks)

/-- The first thing that the console comes to is a prompt. -/
theorem ComesTo.opened {result : Except SessionError Poll} (h : c.ComesTo d result)
    (opens : c.Opens s lines) : result = .ok .needCommand ∧
      d.Tells (.silent s .needCommand) ∧
      d.input = lines.map fun line => .text (Text.line line) := by
  obtain ⟨out, drains, eq, told, same⟩ := h.drains opens.tells
  have attended := Reply.attended_of_waits (r := .silent s .needCommand) opens.waits
  have silent := (Reply.drains_andThen_advance_iff attended (Or.inr rfl)).mp drains
  obtain rfl := silent.eq_self (by simp [Reply.silent])
  exact ⟨eq.symm, told, same.trans opens.input⟩

/-- What the console comes to behind a line is what the session runs out with. -/
theorem ComesTo.taken {line : String} {result : Except SessionError Poll}
    (h : c.ComesTo d result) (waits : r.session.Waits)
    (told : c.Tells (r.andThen fun t => t.submit (some line)))
    (open_ : ending? (r.andThen fun t => t.submit (some line)).result = none) :
    ∃ out, (r.andThen fun t => t.submit (some line)).Drains out ∧ out.result = result ∧
      d.Tells out ∧ d.input = c.input := by
  obtain ⟨out, drains, eq, told', same⟩ := h.drains told
  exact ⟨out, (drains_of_open waits open_).mp drains, eq, told', same⟩

/-- At its `i`-th prompt the console has handed over `i` lines, and the session asks for one
more. -/
theorem Prompts.obeys (h : c.Prompts i d) (opens : c.Opens s lines) (le : i ≤ lines.length) :
    ∃ r, s.Obeys lines i r ∧ r.result = .ok .needCommand ∧ d.Tells r ∧
      d.input = (lines.drop i).map fun line => .text (Text.line line) := by
  induction h with
  | first goes => exact ⟨_, .opened, rfl, (goes.opened opens).2⟩
  | @later i d e d' result before fed open_ goes ih =>
    obtain ⟨r, obeys, asks, told, input⟩ := ih (by omega)
    have line_eq : lines[i]? = some lines[i] := List.getElem?_eq_getElem (by omega)
    obtain ⟨rfl, told', input'⟩ := told.feed_next input line_eq fed
    obtain ⟨out, runs, result, told'', same⟩ :=
      goes.taken ((obeys.attended opens.waits).asks asks) told' open_
    exact ⟨out, .taken obeys asks line_eq runs, result, told'', same.trans input'⟩

/-- Where the session asks for one more line there is a prompt. -/
theorem exists_prompts (opens : c.Opens s lines) (h : s.Obeys lines i r)
    (asks : r.result = .ok .needCommand) : ∃ d, c.Prompts i d := by
  induction h with
  | opened =>
    have attended := Reply.attended_of_waits (r := .silent s .needCommand) opens.waits
    have drains := (Reply.drains_andThen_advance_iff attended (Or.inr rfl)).mpr
      (Reply.drains_self (by simp [Reply.silent]))
    obtain ⟨d, goes⟩ := exists_comesTo opens.tells drains
    exact ⟨d, .first goes⟩
  | @taken i r out line before asked line_eq runs ih =>
    obtain ⟨d, prompts⟩ := ih asked
    obtain ⟨r', obeys, -, told, input⟩ := prompts.obeys opens before.le_length
    obtain rfl := before.unique obeys
    have fed : d.feed = (d.feed.1, d.feed.2) := rfl
    obtain ⟨result, told', -⟩ := told.feed_next input line_eq fed
    rw [result] at fed
    -- a line that ended the session would have been the end of it
    have open_ : ending? (r.andThen fun t => t.submit (some line)).result = none := by
      cases ends : ending? (r.andThen fun t => t.submit (some line)).result with
      | none => rfl
      | some x =>
        rw [runs.eq_self (ne_running_of_ends ends)] at asks
        rw [asks] at ends
        simp [ending?] at ends
    have waits := (before.attended opens.waits).asks asked
    obtain ⟨d', goes⟩ := exists_comesTo told' ((drains_of_open waits open_).mpr runs)
    rw [asks] at goes
    exact ⟨d', .later prompts fed open_ goes⟩

/-! ## Returns -/

variable {x : Except SessionError Exit}

/-- A console that returns after `i` lines does so because the last of them ends the
session. -/
theorem Returns.obeys (h : c.Returns i d x) (opens : c.Opens s lines) (le : i ≤ lines.length) :
    ∃ r, s.Obeys lines i r ∧ ending? r.result = some x ∧ d.Tells r := by
  cases h with
  | going goes ends =>
    rw [(goes.opened opens).1] at ends
    simp [ending?] at ends
  | @fed i d e result x before fed ends =>
    obtain ⟨r, obeys, asks, told, input⟩ := before.obeys opens (by omega)
    have line_eq : lines[i]? = some lines[i] := List.getElem?_eq_getElem (by omega)
    obtain ⟨rfl, told', -⟩ := told.feed_next input line_eq fed
    exact ⟨_, .taken obeys asks line_eq (Reply.drains_self (ne_running_of_ends ends)), ends,
      told'⟩
  | @later i d e d' result result' x before fed open_ goes ends =>
    obtain ⟨r, obeys, asks, told, input⟩ := before.obeys opens (by omega)
    have line_eq : lines[i]? = some lines[i] := List.getElem?_eq_getElem (by omega)
    obtain ⟨rfl, told', -⟩ := told.feed_next input line_eq fed
    obtain ⟨out, runs, result, told'', -⟩ :=
      goes.taken ((obeys.attended opens.waits).asks asks) told' open_
    rw [← result] at ends
    exact ⟨out, .taken obeys asks line_eq runs, ends, told''⟩

/-- With a line that ends the session the console returns. -/
theorem exists_returns (opens : c.Opens s lines) (h : s.Obeys lines i r)
    (ends : ending? r.result = some x) : ∃ d, c.Returns i d x := by
  cases h with
  | opened => simp [Reply.silent, ending?] at ends
  | @taken i r' _ line before asked line_eq runs =>
    obtain ⟨d, prompts⟩ := exists_prompts opens before asked
    obtain ⟨r'', obeys, -, told, input⟩ := prompts.obeys opens before.le_length
    obtain rfl := before.unique obeys
    have fed : d.feed = (d.feed.1, d.feed.2) := rfl
    obtain ⟨result, told', -⟩ := told.feed_next input line_eq fed
    rw [result] at fed
    cases open_ : ending? (r'.andThen fun t => t.submit (some line)).result with
    | some y =>
      obtain rfl := runs.eq_self (ne_running_of_ends open_)
      obtain rfl : y = x := Option.some.inj (open_.symm.trans ends)
      exact ⟨d.feed.1, .fed prompts fed open_⟩
    | none =>
      have waits := (before.attended opens.waits).asks asked
      obtain ⟨d', goes⟩ := exists_comesTo told' ((drains_of_open waits open_).mpr runs)
      exact ⟨d', .later prompts fed open_ goes ends⟩

end Console

end RegisterVM
