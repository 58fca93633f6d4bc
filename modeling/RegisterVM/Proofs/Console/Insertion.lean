import Mathlib.Data.List.Forall2
import RegisterVM.Proofs.Console.Dialogue
import RegisterVM.Proofs.Console.Input
import RegisterVM.Proofs.Debugger.Inert
import RegisterVM.Proofs.Debugger.Invariant

/-!
# Lines that may be left out

A line that a session only answers may stand anywhere in the command input, any number of times:
the run takes a few rounds more and comes to the same end, with the same output.  What shifts is
which line the console reads at which prompt, so the two runs are compared prompt by prompt, and
not line by line.

## 1.  Inputs

`Inserted` says that one list of lines is another one with inert lines between, in front or
behind.  The lines may be spelled with or without a line feed, so the last line of an input need
not end with one; `Reads` leaves this open.

## 2.  Two consoles in step

Going on does not look at the input, so alike consoles stay alike until both prompt
(`Alike.tick`).  At a prompt the session waits, and the inert lines that come next are answered
one after the other, each answer followed by another prompt (`exists_skipped`).  Then both
consoles read the same line.

## 3.  Two runs

The induction is on the rounds of the shorter run.  The longer one needs as many rounds more as
there are lines to answer, and the statement is about both answers, the missing one included: so
a run that never returns is met by one that never returns.
-/

namespace RegisterVM

/-! ## 1.  Inputs -/

/-- The second list is the first one with inert lines inserted. -/
inductive Inserted : List String → List String → Prop
  | nil : Inserted [] []
  | keep {lines more : List String} (line : String) (rest : Inserted lines more) :
      Inserted (line :: lines) (line :: more)
  | insert {lines more : List String} {line : String} (inert : Inert line)
      (rest : Inserted lines more) : Inserted lines (line :: more)

/-- The line of input spells the command line, with or without a line feed at its end. -/
def InputLine.Spells (i : InputLine) (line : String) : Prop :=
  i = .text line ∨ i = .text (Text.line line)

/-- The input is made of the command lines. -/
def Reads (input : List InputLine) (lines : List String) : Prop :=
  List.Forall₂ InputLine.Spells input lines

/-- Lines with line feeds make up an input. -/
theorem reads_unlines {lines : List String} (h : ∀ line ∈ lines, '\n' ∉ line.toList) :
    Reads (InputLine.ofBytes (Text.unlines lines).toUTF8) lines := by
  rw [InputLine.ofBytes_unlines h, Reads, List.forall₂_map_left_iff, List.forall₂_same]
  exact fun line _ => .inr rfl

theorem Session.take_of_spells {i : InputLine} {line : String} (h : i.Spells line)
    (s : Session) : s.take (some i) = s.submit (some line) := by
  rcases h with rfl | rfl
  · rfl
  · exact s.submit_line line

/-! ## 2.  Two consoles in step -/

namespace Console

/-- The consoles have the same session, and have put out the same. -/
structure Alike (c d : Console) : Prop where
  session : c.session = d.session
  unlimited : c.outlets.Unlimited
  unlimited' : d.outlets.Unlimited
  output : c.outlets.output.written = d.outlets.output.written

variable {c d : Console}

/-- Alike consoles go on alike. -/
theorem Alike.tick (h : Alike c d) : ∃ c' d' result, c.tick = (c', result) ∧
    d.tick = (d', result) ∧ Alike c' d' ∧ c'.input = c.input ∧ d'.input = d.input ∧
    (result = .ok .needCommand → c'.session.Waits) := by
  obtain ⟨c', eq, session, input, unlimited, output⟩ := exists_tick h.unlimited
  obtain ⟨d', eq', session', input', unlimited', output'⟩ := exists_tick h.unlimited'
  rw [← h.session] at eq' session' output'
  refine ⟨c', d', _, eq, eq', ⟨session.trans session'.symm, unlimited, unlimited', ?_⟩, input,
    input', ?_⟩
  · rw [output, output', h.output]
  · intro asks
    rw [session]
    exact Session.waits_of_asks asks

/-- Alike consoles that are about to take the same stay alike. -/
theorem Alike.feed (h : Alike c d)
    (same : c.session.take c.input.head? = c.session.take d.input.head?) :
    ∃ c' d' result, c.feed = (c', result) ∧ d.feed = (d', result) ∧ Alike c' d' ∧
      c'.input = c.input.tail ∧ d'.input = d.input.tail := by
  obtain ⟨c', eq, plays⟩ := exists_feed h.unlimited
  obtain ⟨d', eq', plays'⟩ := exists_feed h.unlimited'
  rw [← h.session, ← same] at eq' plays'
  refine ⟨c', d', _, eq, eq', ⟨plays.session.trans plays'.session.symm, plays.unlimited,
    plays'.unlimited, ?_⟩, plays.input, plays'.input⟩
  rw [plays.output, plays'.output]
  exact congrArg (· ++ _) h.output

/-- A console at its prompt answers an inert line and prompts again. -/
theorem Alike.answered {i : InputLine} {line : String} {rest : List InputLine} (h : Alike c d)
    (waits : c.session.Waits) (input : d.input = i :: rest) (spells : i.Spells line)
    (inert : Inert line) :
    ∃ e, Alike c e ∧ e.input = rest ∧
      ∀ fuel, resume (fuel + 1) d.feed = resume fuel e.feed := by
  have paused : d.session.isPaused = true := by
    rw [← h.session, Session.isPaused, waits.debug, waits.paused]
    rfl
  have answers := Session.answers_submit paused inert
  obtain ⟨f, fed, plays⟩ := exists_feed h.unlimited'
  rw [input, List.head?_cons, Session.take_of_spells spells, answers.result] at fed
  rw [input, List.head?_cons, Session.take_of_spells spells] at plays
  have session : f.session = d.session := plays.session.trans answers.session
  obtain ⟨e, ticked, session', input', unlimited, output⟩ := exists_tick plays.unlimited
  have again : f.session.advance = .silent f.session .needCommand := by
    rw [session, ← h.session]
    exact Session.advance_of_waits waits
  rw [again] at ticked session' output
  refine ⟨e, ⟨?_, h.unlimited, unlimited, ?_⟩, input'.trans plays.input, fun fuel => ?_⟩
  · exact h.session.trans (session'.trans session).symm
  · have nothing : (Reply.silent f.session .needCommand).textOn .output = "" := rfl
    rw [h.output, output, plays.output, answers.output, nothing]
    simp
  · rw [fed, resume_of_open rfl, run_succ, turn_of_prompt ticked]

/-- The inert lines that are next are answered, and then both consoles take the same. -/
theorem exists_skipped {lines more : List String} (inserted : Inserted lines more)
    (h : Alike c d) (waits : c.session.Waits) (reads : Reads c.input lines)
    (reads' : Reads d.input more) :
    ∃ n e, (∀ fuel, resume (fuel + n) d.feed = resume fuel e.feed) ∧ Alike c e ∧
      c.session.take c.input.head? = c.session.take e.input.head? ∧
      ∃ lines more, Inserted lines more ∧ Reads c.input.tail lines ∧
        Reads e.input.tail more := by
  induction inserted generalizing d with
  | nil =>
    have empty : c.input = [] := List.forall₂_nil_right_iff.mp reads
    have empty' : d.input = [] := List.forall₂_nil_right_iff.mp reads'
    refine ⟨0, d, fun fuel => rfl, h, by rw [empty, empty'], [], [], .nil, ?_, ?_⟩
    · rw [empty]
      exact .nil
    · rw [empty']
      exact .nil
  | @keep lines more line rest ih =>
    obtain ⟨i, input, spells, reads, eq⟩ := List.forall₂_cons_right_iff.mp reads
    obtain ⟨i', input', spells', reads', eq'⟩ := List.forall₂_cons_right_iff.mp reads'
    refine ⟨0, d, fun fuel => rfl, h, ?_, lines, more, rest, ?_, ?_⟩
    · rw [eq, eq', List.head?_cons, List.head?_cons, Session.take_of_spells spells,
        Session.take_of_spells spells']
    · rw [eq]
      exact reads
    · rw [eq']
      exact reads'
  | @insert lines more line inert rest ih =>
    obtain ⟨i, input', spells, reads', eq⟩ := List.forall₂_cons_right_iff.mp reads'
    obtain ⟨e, alike, input, answered⟩ := h.answered waits eq spells inert
    obtain ⟨n, e', skipped, same⟩ := ih alike reads (input ▸ reads')
    exact ⟨n + 1, e', fun fuel => by rw [← Nat.add_assoc, answered, skipped], same⟩

/-! ## 3.  Two runs -/

/-- However far a run is followed, the run with inert lines inserted comes to the same answer,
or to none, when it is followed further. -/
theorem exists_run_alike {lines more : List String} (inserted : Inserted lines more)
    (h : Alike c d) (reads : Reads c.input lines) (reads' : Reads d.input more) (fuel : Nat) :
    ∃ n, Option.Rel (fun x y => x.2 = y.2 ∧ Alike x.1 y.1) (c.run fuel) (d.run (fuel + n)) := by
  induction fuel generalizing c d lines more with
  | zero => exact ⟨0, .none⟩
  | succ fuel ih =>
    -- whatever comes of a round of both consoles, the runs go on from there in the same way
    have onward {c d : Console} {lines more : List String} (h : Alike c d)
        (inserted : Inserted lines more) (reads : Reads c.input lines)
        (reads' : Reads d.input more) (result : Except SessionError Poll) :
        ∃ n, Option.Rel (fun x y => x.2 = y.2 ∧ Alike x.1 y.1) (resume fuel (c, result))
          (resume (fuel + n) (d, result)) := by
      cases ends : ending? result with
      | some x =>
        refine ⟨0, ?_⟩
        rw [resume_of_ends ends, resume_of_ends ends]
        exact .some ⟨rfl, h⟩
      | none =>
        obtain ⟨n, both⟩ := ih inserted h reads reads'
        refine ⟨n, ?_⟩
        rw [resume_of_open ends, resume_of_open ends]
        exact both
    obtain ⟨c', d', result, ticked, ticked', alike, input, input', waits⟩ := h.tick
    by_cases asks : result = .ok .needCommand
    · rw [asks] at ticked ticked'
      obtain ⟨n, e, skipped, alike, same, lines, more, inserted, reads, reads'⟩ :=
        exists_skipped inserted alike (waits asks) (input.symm ▸ reads) (input'.symm ▸ reads')
      obtain ⟨c'', e', result', fed, fed', alike, input, input'⟩ := alike.feed same
      obtain ⟨k, both⟩ := onward alike inserted (input.symm ▸ reads) (input'.symm ▸ reads')
        result'
      refine ⟨k + n, ?_⟩
      rw [show fuel + 1 + (k + n) = fuel + k + n + 1 by omega, run_succ, run_succ,
        turn_of_prompt ticked, turn_of_prompt ticked', fed, skipped, fed']
      exact both
    · obtain ⟨n, both⟩ := onward alike inserted (input.symm ▸ reads) (input'.symm ▸ reads')
        result
      refine ⟨n, ?_⟩
      rw [Nat.add_right_comm, run_succ, run_succ, turn_of_tick ticked asks,
        turn_of_tick ticked' asks]
      exact both

/-- A run and the run with inert lines inserted have the same answers. -/
theorem exists_answer_alike {lines more : List String} (inserted : Inserted lines more)
    (h : Alike c d) (reads : Reads c.input lines) (reads' : Reads d.input more) {fuel : Nat}
    {e : Console} {x : Except SessionError Exit} (eq : c.run fuel = some (e, x)) :
    ∃ fuel' e', d.run fuel' = some (e', x) ∧ Alike e e' := by
  obtain ⟨n, both⟩ := exists_run_alike inserted h reads reads' fuel
  rw [eq] at both
  cases eq' : d.run (fuel + n) with
  | none => rw [eq'] at both; cases both
  | some y =>
    rw [eq'] at both
    cases both with
    | some both =>
      obtain ⟨same, alike⟩ := both
      exact ⟨fuel + n, y.1, eq'.trans (congrArg (fun z => some (y.1, z)) same.symm), alike⟩

/-- What the run with inert lines inserted answers, the plain run answers too. -/
theorem exists_answer_of_inserted {lines more : List String} (inserted : Inserted lines more)
    (h : Alike c d) (reads : Reads c.input lines) (reads' : Reads d.input more) {fuel : Nat}
    {e : Console} {x : Except SessionError Exit} (eq : d.run fuel = some (e, x)) :
    ∃ e', c.run fuel = some (e', x) := by
  obtain ⟨n, both⟩ := exists_run_alike inserted h reads reads' fuel
  rw [run_mono eq] at both
  cases eq' : c.run fuel with
  | none => rw [eq'] at both; cases both
  | some y =>
    rw [eq'] at both
    cases both with
    | some both => exact ⟨y.1, congrArg (fun z => some (y.1, z)) both.1⟩

end Console

/-! ## The main statement -/

/-- **Lines that are only answered do not interfere.**

* A paused session that takes an inert line is the same session afterwards and puts nothing out,
  and unless its answer is refused it asks for the next command.
* Let two inputs consist of command lines, those of the second being those of the first with
  inert lines inserted anywhere.  A run on the one returns exactly when a run on the other does,
  with the same result; and then they have put out the same, and leave the same session behind,
  its machine and its breakpoint included. -/
theorem inert_lines_do_not_interfere (s : Session) :
    (∀ line, Inert line → s.isPaused = true → ∀ o : Outlets,
      (o.play (s.submit (some line))).2.1 = s ∧
      (o.play (s.submit (some line))).1.output = o.output ∧
      ((o.act (s.submit (some line)).acts).2 = none →
        (o.play (s.submit (some line))).2.2 = .ok .needCommand)) ∧
    ∀ (verbosity : Option Level) (bytes bytes' : ByteArray) (lines more : List String),
      Reads (InputLine.ofBytes bytes) lines → Reads (InputLine.ofBytes bytes') more →
      Inserted lines more →
      let c : Console := ⟨s, ⟨.empty none, .empty none, verbosity⟩, InputLine.ofBytes bytes⟩
      let d : Console := ⟨s, ⟨.empty none, .empty none, verbosity⟩, InputLine.ofBytes bytes'⟩
      (∀ x, (∃ fuel e, c.run fuel = some (e, x)) ↔ ∃ fuel e, d.run fuel = some (e, x)) ∧
      ∀ fuel fuel' e e' x x', c.run fuel = some (e, x) → d.run fuel' = some (e', x') →
        x = x' ∧ e.session = e'.session ∧
          e.outlets.output.written = e'.outlets.output.written := by
  refine ⟨fun line inert paused o => ?_, ?_⟩
  · have answers := Session.answers_submit paused inert
    obtain ⟨same, output⟩ := answers.play o
    exact ⟨same, output, answers.result_play⟩
  intro verbosity bytes bytes' lines more reads reads' inserted c d
  have unlimited := Outlets.unlimited_empty verbosity
  have alike : c.Alike d := ⟨rfl, unlimited, unlimited, rfl⟩
  refine ⟨fun x => ⟨?_, ?_⟩, ?_⟩
  · rintro ⟨fuel, e, eq⟩
    obtain ⟨fuel', e', eq', -⟩ := Console.exists_answer_alike inserted alike reads reads' eq
    exact ⟨fuel', e', eq'⟩
  · rintro ⟨fuel, e, eq⟩
    obtain ⟨e', eq'⟩ := Console.exists_answer_of_inserted inserted alike reads reads' eq
    exact ⟨fuel, e', eq'⟩
  · intro fuel fuel' e e' x x' eq eq'
    obtain ⟨fuel'', f, eq'', same⟩ := Console.exists_answer_alike inserted alike reads reads' eq
    obtain ⟨rfl, rfl⟩ := Prod.mk.inj (Console.run_unique eq' eq'')
    exact ⟨rfl, same.session, same.output⟩

/-- A program that is looked at, and given a breakpoint outside memory, before it is continued,
and asked for help after it has ended. -/
theorem inert_lines_do_not_interfere_seven :
    let s : Session :=
      ⟨.constant "seven" (.ok .seven), .ofImage .seven, true, true, none, 0⟩
    let d : Console := ⟨s, ⟨.empty none, .empty none, none⟩, InputLine.ofBytes
      (Text.unlines ["print r1", "", "break 500", "continue", "help"]).toUTF8⟩
    (Outlets.play d.outlets (s.submit (some "print r1"))).2.1.machine = s.machine ∧
      ∃ fuel e, d.run fuel = some (e, .ok .halted) ∧
        e.outlets.output.written = "7\n".toUTF8 := by
  intro s d
  have print : Inert "print r1" := by
    intro command eq
    obtain rfl : .print (some "r1") = command := Except.ok.inj (Option.some.inj eq)
    exact trivial
  have blank : Inert "" := by
    intro command eq
    cases eq
  have outside : Inert "break 500" := by
    intro command eq
    obtain rfl : .breakAt (some "500") = command := Except.ok.inj (Option.some.inj eq)
    refine ⟨by decide, ?_⟩
    rintro ⟨n, read, lt⟩
    obtain rfl : 500 = n := Option.some.inj read
    omega
  have help : Inert "help" := by
    intro command eq
    obtain rfl : .help = command := Except.ok.inj (Option.some.inj eq)
    exact trivial
  have inserted : Inserted ["continue"] ["print r1", "", "break 500", "continue", "help"] :=
    .insert print (.insert blank (.insert outside (.keep _ (.insert help .nil))))
  -- the plain run is followed round by round
  have plain : ∃ fuel e, Console.run fuel ⟨s, d.outlets, InputLine.ofBytes
      (Text.unlines ["continue"]).toUTF8⟩ = some (e, .ok .halted) ∧
        e.outlets.output.written = "7\n".toUTF8 := by
    rw [InputLine.ofBytes_unlines (by decide)]
    have ends : ((Console.run 3 ⟨s, d.outlets, [.text "continue\n"]⟩).map fun y =>
        (y.2, y.1.outlets.output.written)) = some (.ok .halted, "7\n".toUTF8) := by
      decide +kernel
    obtain ⟨⟨e, x⟩, eq, both⟩ := Option.map_eq_some_iff.mp ends
    obtain ⟨rfl, output⟩ := Prod.mk.inj both
    exact ⟨3, e, eq, output⟩
  obtain ⟨fuel, e, eq, output⟩ := plain
  obtain ⟨single, runs⟩ := inert_lines_do_not_interfere s
  obtain ⟨returns, agree⟩ := runs none _ _ _ _ (reads_unlines (by decide))
    (reads_unlines (by decide)) inserted
  obtain ⟨fuel', e', eq'⟩ := (returns _).mp ⟨fuel, e, eq⟩
  refine ⟨?_, fuel', e', eq', ?_⟩
  · rw [(single "print r1" print rfl d.outlets).1]
  · rw [← (agree _ _ _ _ _ _ eq eq').2.2, output]

end RegisterVM
