import RegisterVM.Console.Loop

/-!
# Prompts

The console alternates between going on, which ends with a prompt or for good, and handing one
line to the session.  `Console.run` does both in one loop with fuel.  Here the loop is cut at
its prompts: a prompt is a place that a run may or may not reach, and the end of a run comes
behind a certain number of lines.

* `Console.ComesTo`: going on until the session no longer runs by itself.
* `Console.Prompts c i d`: the `i`-th prompt, counted from zero, leaves the console `d`.
* `Console.Returns c i d x`: the run ends as `x` after `i` prompts, and leaves `d`.
* `run_of_prompts`: behind its `i`-th prompt a run hands over the next line.
* `exists_run_iff`: `Returns` is `Console.run`, with the fuel left out and the prompts counted.
-/

namespace RegisterVM

namespace Console

/-! ## The loop, cut at its prompts -/

/-- The console goes on until its session does not run by itself any more; the last round
gives this result, behind a prompt when the session needs a command. -/
inductive ComesTo : Console → Console → Except SessionError Poll → Prop where
  | stop {c d : Console} {result : Except SessionError Poll} (ticked : c.tick = (d, result))
      (stops : result ≠ .ok .running) : ComesTo c d result
  | more {c d e : Console} {result : Except SessionError Poll}
      (ticked : c.tick = (d, .ok .running)) (rest : ComesTo d e result) : ComesTo c e result

/-- How a run ends with a result, if it does. -/
def ending? : Except SessionError Poll → Option (Except SessionError Exit)
  | .ok (.finished exit) => some (.ok exit)
  | .ok _ => none
  | .error e => some (.error e)

/-- The console with its `i`-th prompt just written, counted from zero. -/
inductive Prompts (c : Console) : Nat → Console → Prop where
  | first {d : Console} (goes : c.ComesTo d (.ok .needCommand)) : Prompts c 0 d
  | later {i : Nat} {d e d' : Console} {result : Except SessionError Poll}
      (before : Prompts c i d) (fed : d.feed = (e, result)) (open_ : ending? result = none)
      (goes : e.ComesTo d' (.ok .needCommand)) : Prompts c (i + 1) d'

/-- The run ends after `i` prompts: while the console goes on, or with the line that it hands
over. -/
inductive Returns (c : Console) : Nat → Console → Except SessionError Exit → Prop where
  | going {d : Console} {result : Except SessionError Poll} {x : Except SessionError Exit}
      (goes : c.ComesTo d result) (ends : ending? result = some x) : Returns c 0 d x
  | fed {i : Nat} {d e : Console} {result : Except SessionError Poll}
      {x : Except SessionError Exit} (before : Prompts c i d) (fed : d.feed = (e, result))
      (ends : ending? result = some x) : Returns c (i + 1) e x
  | later {i : Nat} {d e d' : Console} {result result' : Except SessionError Poll}
      {x : Except SessionError Exit} (before : Prompts c i d) (fed : d.feed = (e, result))
      (open_ : ending? result = none) (goes : e.ComesTo d' result')
      (ends : ending? result' = some x) : Returns c (i + 1) d' x

/-- A session that runs ends nothing. -/
theorem ne_running_of_ends {result : Except SessionError Poll} {x : Except SessionError Exit}
    (h : ending? result = some x) : result ≠ .ok .running := by
  rintro rfl
  simp [ending?] at h

/-! ## The loop as a whole -/

/-- What a run makes of the result of a round. -/
def resume (fuel : Nat) : Console × Except SessionError Poll →
    Option (Console × Except SessionError Exit)
  | (d, result) =>
      match ending? result with
      | some x => some (d, x)
      | none => run fuel d

theorem run_succ (fuel : Nat) (c : Console) : c.run (fuel + 1) = resume fuel c.turn := by
  rw [run]
  unfold resume
  split
  · next d exit eq => rw [eq]; rfl
  · next d poll other eq =>
    rw [eq]
    cases poll with
    | finished exit => exact absurd rfl (other exit)
    | needCommand => rfl
    | running => rfl
  · next d e eq => rw [eq]; rfl

/-- A run has one answer, whatever fuel it is given. -/
theorem run_unique {a b : Nat} {c : Console} {x y : Console × Except SessionError Exit}
    (h : c.run a = some x) (h' : c.run b = some y) : x = y := by
  have more : c.run (a + b) = some x := run_mono h
  have more' : c.run (b + a) = some y := run_mono h'
  rw [Nat.add_comm] at more'
  exact Option.some.inj (more.symm.trans more')

theorem resume_of_open {fuel : Nat} {d : Console} {result : Except SessionError Poll}
    (h : ending? result = none) : resume fuel (d, result) = run fuel d := by
  simp only [resume, h]

theorem resume_of_ends {fuel : Nat} {d : Console} {result : Except SessionError Poll}
    {x : Except SessionError Exit} (h : ending? result = some x) :
    resume fuel (d, result) = some (d, x) := by
  simp only [resume, h]

variable {c d e : Console} {result : Except SessionError Poll} {i : Nat}
  {x : Except SessionError Exit}

/-- A round that asks for no command is only the going on. -/
theorem turn_of_tick (h : c.tick = (d, result)) (other : result ≠ .ok .needCommand) :
    c.turn = (d, result) := by
  rw [turn, h]
  split
  · next d' eq => exact absurd (Prod.mk.inj eq).2 other
  · rfl

/-- A round that asks for a command hands over a line. -/
theorem turn_of_prompt (h : c.tick = (d, .ok .needCommand)) : c.turn = d.feed := by
  rw [turn, h]

/-- A result that asks for no command and ends nothing is that the session runs. -/
theorem eq_running_of_open (h : ending? result = none) (other : result ≠ .ok .needCommand) :
    result = .ok .running := by
  rcases result with e | poll
  · simp [ending?] at h
  · cases poll with
    | needCommand => exact absurd rfl other
    | running => rfl
    | finished exit => simp [ending?] at h

/-- A run that goes on comes to the round that ends this. -/
theorem run_of_comesTo (h : c.ComesTo d result) :
    ∃ n, ∃ last : Console, last.tick = (d, result) ∧
      ∀ fuel, c.run (fuel + n + 1) = resume fuel last.turn := by
  induction h with
  | @stop c d result ticked stops => exact ⟨0, c, ticked, fun fuel => run_succ fuel c⟩
  | @more c d e result ticked rest ih =>
    obtain ⟨n, last, eq, runs⟩ := ih
    refine ⟨n + 1, last, eq, fun fuel => ?_⟩
    rw [run_succ, turn_of_tick ticked (by simp), resume_of_open rfl]
    exact runs fuel

/-- Behind its `i`-th prompt a run hands over the next line. -/
theorem run_of_prompts (h : c.Prompts i d) :
    ∃ n, ∀ fuel, c.run (fuel + n + 1) = resume fuel d.feed := by
  induction h with
  | first goes =>
    obtain ⟨n, last, ticked, runs⟩ := run_of_comesTo goes
    exact ⟨n, fun fuel => by rw [runs, turn_of_prompt ticked]⟩
  | later before fed open_ goes ih =>
    obtain ⟨n, runs⟩ := ih
    obtain ⟨k, last, ticked, runs'⟩ := run_of_comesTo goes
    refine ⟨k + 1 + n, fun fuel => ?_⟩
    rw [show fuel + (k + 1 + n) + 1 = fuel + k + 1 + n + 1 by omega, runs, fed,
      resume_of_open open_, runs', turn_of_prompt ticked]

/-- A run that goes on to an end returns it. -/
theorem run_of_ends (h : c.ComesTo d result) (ends : ending? result = some x) :
    ∃ n, ∀ fuel, c.run (fuel + n + 1) = some (d, x) := by
  obtain ⟨n, last, ticked, runs⟩ := run_of_comesTo h
  have other : result ≠ .ok .needCommand := by
    rintro rfl
    simp [ending?] at ends
  exact ⟨n, fun fuel => by rw [runs, turn_of_tick ticked other, resume_of_ends ends]⟩

theorem Returns.run (h : c.Returns i d x) : ∃ fuel, c.run fuel = some (d, x) := by
  cases h with
  | going goes ends =>
    obtain ⟨n, runs⟩ := run_of_ends goes ends
    exact ⟨_, runs 0⟩
  | fed before fed ends =>
    obtain ⟨n, runs⟩ := run_of_prompts before
    exact ⟨_, by rw [runs 0, fed, resume_of_ends ends]⟩
  | later before fed open_ goes ends =>
    obtain ⟨n, runs⟩ := run_of_prompts before
    obtain ⟨k, runs'⟩ := run_of_ends goes ends
    exact ⟨_, by rw [runs (0 + k + 1), fed, resume_of_open open_, runs']⟩

/-! ## One round in front -/

/-- A round that runs on moves no prompt. -/
theorem Prompts.of_tick (h : d.Prompts i e) (ticked : c.tick = (d, .ok .running)) :
    c.Prompts i e := by
  induction h with
  | first goes => exact .first (.more ticked goes)
  | later before fed open_ goes ih => exact .later ih fed open_ goes

theorem Returns.of_tick (h : d.Returns i e x) (ticked : c.tick = (d, .ok .running)) :
    c.Returns i e x := by
  cases h with
  | going goes ends => exact .going (.more ticked goes) ends
  | fed before fed ends => exact .fed (before.of_tick ticked) fed ends
  | later before fed open_ goes ends =>
    exact .later (before.of_tick ticked) fed open_ goes ends

/-- A line in front moves every prompt by one. -/
theorem Prompts.of_feed {d' : Console} (h : e.Prompts i d') (prompts : c.Prompts 0 d)
    (fed : d.feed = (e, result)) (open_ : ending? result = none) : c.Prompts (i + 1) d' := by
  induction h with
  | first goes => exact .later prompts fed open_ goes
  | later before fed open_ goes ih => exact .later ih fed open_ goes

theorem Returns.of_feed {d' : Console} (h : e.Returns i d' x) (prompts : c.Prompts 0 d)
    (fed : d.feed = (e, result)) (open_ : ending? result = none) :
    c.Returns (i + 1) d' x := by
  cases h with
  | going goes ends => exact .later prompts fed open_ goes ends
  | fed before fed' ends => exact .fed (before.of_feed prompts fed open_) fed' ends
  | later before fed' open_' goes ends =>
    exact .later (before.of_feed prompts fed open_) fed' open_' goes ends

/-- **A run returns exactly after some number of prompts**, whatever fuel it is given. -/
theorem exists_run_iff : (∃ fuel, c.run fuel = some (d, x)) ↔ ∃ i, c.Returns i d x := by
  constructor
  · rintro ⟨fuel, eq⟩
    induction fuel generalizing c with
    | zero => simp [run] at eq
    | succ fuel ih =>
      rw [run_succ] at eq
      cases ticked : c.tick with
      | mk e result =>
        by_cases asks : result = .ok .needCommand
        · -- a prompt, and behind it a line
          rw [asks] at ticked
          have prompts : c.Prompts 0 e := .first (.stop ticked (by simp))
          cases fed : e.feed with
          | mk f next =>
            rw [turn_of_prompt ticked, fed] at eq
            cases ends : ending? next with
            | some y =>
              rw [resume_of_ends ends] at eq
              cases eq
              exact ⟨1, .fed prompts fed ends⟩
            | none =>
              rw [resume_of_open ends] at eq
              obtain ⟨i, returns⟩ := ih eq
              exact ⟨i + 1, returns.of_feed prompts fed ends⟩
        · rw [turn_of_tick ticked asks] at eq
          cases ends : ending? result with
          | some y =>
            rw [resume_of_ends ends] at eq
            cases eq
            exact ⟨0, .going (.stop ticked (ne_running_of_ends ends)) ends⟩
          | none =>
            rw [resume_of_open ends] at eq
            rw [eq_running_of_open ends asks] at ticked
            obtain ⟨i, returns⟩ := ih eq
            exact ⟨i, returns.of_tick ticked⟩
  · rintro ⟨i, returns⟩
    exact returns.run

end Console

end RegisterVM
