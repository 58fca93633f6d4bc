import Mathlib.Order.Bounds.Defs
import RegisterVM.Proofs.Debugger.Runs

/-!
# The meaning of `continue`

A free run goes as far as the first step that halts, faults, or leads to the breakpoint.  The
first instruction runs with the command and is not held against the breakpoint, so a run that
starts at the breakpoint makes progress and comes back to it only by its own steps.

* `Machine.StopsAt`: the `k`-th step from a machine ends a free run.
* `Session.freed`: the session in the middle of a free run.
* `poised_continue`: as long as no step ends the run, the next one is taken, one a round.
* `continue_runs_to_first_stop`: the main statement.
-/

namespace RegisterVM

/-- The `k`-th step from the machine halts, faults, or leads to the breakpoint. -/
def Machine.StopsAt (m : Machine) (breakpoint : Option Address) (k : Nat) : Prop :=
  (next^[k - 1] m).Ends ∨ ∃ a, breakpoint = some a ∧ (next^[k] m).ip.toInt = a.val

/-- A word that is an address has the text of the address. -/
theorem Word.text_of_toInt_eq {w : Word} {a : Address} (h : w.toInt = a.val) :
    w.text = a.text := by
  rw [Word.text, h, Text.Numeral.integer, if_neg (by omega), Int.natAbs_natCast]
  rfl

namespace Session

variable {s : Session}

/-- The session in a free run of which `j` steps are taken. -/
def freed (s : Session) (j : Nat) : Session :=
  { s with paused := false, pending := 0, machine := Machine.next^[j] s.machine }

/-- A free run that pauses is the paused session further on. -/
theorem pause_freed (hp : s.paused = true) (j : Nat) :
    (s.freed j).pause = { s with machine := Machine.next^[j] s.machine, pending := 0 } := by
  rw [pause, freed, ← hp]

/-- As long as no step ends the run, the next step is about to be taken. -/
theorem poised_continue (hd : s.debug = true) (hp : s.paused = true) {j : Nat}
    (free : ∀ i, 1 ≤ i → i ≤ j → ¬ s.machine.StopsAt s.breakpoint i) :
    (s.submit (some "continue")).Poised s.machine j (s.freed j) := by
  induction j with
  | zero =>
    have line : Command.ofLine "continue" = some (.ok .proceed) := rfl
    rw [submit_of_ofLine hd hp line]
    exact Reply.poised_zero (t := s.freed 0) [.log (.proceeding s.machine.ip)] rfl rfl rfl
  | succ j ih =>
    have stays := free (j + 1) (by omega) le_rfl
    rw [Machine.StopsAt, Nat.add_sub_cancel, not_or] at stays
    have ran := (ih fun i one le => free i one (by omega)).goOn stays.1
    refine ran.poised rfl (advance_of_free ?_ fun _ => ?_)
    · exact Bool.and_false _
    · rw [← Bool.not_eq_true, atBreakpoint_iff]
      exact stays.2

/-- A run whose `j + 1`-st step leads to the breakpoint says so and waits there. -/
theorem ran_arrival (hd : s.debug = true) {first : Reply} {j : Nat} {a : Address}
    (ran : (first.drain j).Ran s.machine (j + 1) (s.freed (j + 1)) .running "")
    (hb : s.breakpoint = some a)
    (arrives : (Machine.next^[j + 1] s.machine).ip.toInt = a.val) :
    (first.drain (j + 1)).Ran s.machine (j + 1) (s.freed (j + 1)).pause .needCommand
      (Text.line ("Hit breakpoint at " ++ a.text)) := by
  have hit : (s.freed (j + 1)).advance = ⟨[.write .diagnostics
      (Text.line ("Hit breakpoint at " ++ a.text)) (s.freed (j + 1)),
      .log (.pausedAtBreakpoint (s.freed (j + 1)).machine.ip)],
      (s.freed (j + 1)).pause, .ok .needCommand⟩ := by
    have ip : (s.freed (j + 1)).machine.ip.toInt = a.val := arrives
    rw [advance_of_hit (s := s.freed (j + 1)) hd rfl (atBreakpoint_iff.mpr ⟨a, hb, ip⟩),
      Word.text_of_toInt_eq ip]
  rw [Reply.drain_succ ran.result]
  refine ⟨?_, ?_, ?_, ?_⟩
  · rw [Reply.stepped_andThen, ran.stepped, ran.session, hit]
    exact List.append_nil _
  · rw [Reply.session_andThen, ran.session, hit]
  · rw [Reply.result_andThen, ran.session, hit]
  · rw [Reply.textOn_andThen, ran.session, hit, ran.said, String.empty_append]
    simp [Reply.textOn_eq_join, Act.textOn]

/-- **The meaning of `continue`.**  Let a paused session take `continue` and go on until it no
longer runs.  When some step ends the run, it takes exactly the steps up to the first such step:

* if that step halts, the session is finished and says so;
* if it faults, the session says the fault and waits at the instruction that faults;
* otherwise it leads to the breakpoint, and the session says so and waits there, the
  instruction at the breakpoint not yet executed.

When no step ends the run, the session goes on forever, one step a round, and says nothing. -/
theorem continue_runs_to_first_stop (s : Session) (hd : s.debug = true)
    (hp : s.paused = true) :
    (∀ k, IsLeast {k | 1 ≤ k ∧ s.machine.StopsAt s.breakpoint k} k →
      ∃ out, (s.submit (some "continue")).Drains out ∧
        out.stepped = List.iterate Machine.next s.machine k ∧
        out.textOn .output = outputText out.stepped ∧
        ((Machine.next^[k - 1] s.machine).step.outcome = .ok .halt →
          out.result = .ok (.finished .halted) ∧
          out.textOn .diagnostics = "Program exited normally\n") ∧
        (∀ f, (Machine.next^[k - 1] s.machine).step.outcome = .error f →
          out.result = .ok .needCommand ∧ out.textOn .diagnostics = Text.line f.message ∧
          out.session = { s with machine := Machine.next^[k - 1] s.machine, pending := 0 }) ∧
        (¬ (Machine.next^[k - 1] s.machine).Ends → ∃ a, s.breakpoint = some a ∧
          (Machine.next^[k] s.machine).ip.toInt = a.val ∧
          out.result = .ok .needCommand ∧
          out.textOn .diagnostics = Text.line ("Hit breakpoint at " ++ a.text) ∧
          out.session = { s with machine := Machine.next^[k] s.machine, pending := 0 })) ∧
    ((∀ k, 1 ≤ k → ¬ s.machine.StopsAt s.breakpoint k) → ∀ rounds,
      ((s.submit (some "continue")).drain rounds).result = .ok .running ∧
      ((s.submit (some "continue")).drain rounds).stepped =
        List.iterate Machine.next s.machine (rounds + 1) ∧
      ((s.submit (some "continue")).drain rounds).textOn .diagnostics = "" ∧
      ((s.submit (some "continue")).drain rounds).session.machine =
        Machine.next^[rounds + 1] s.machine) := by
  have faithful (rounds : Nat) : ((s.submit (some "continue")).drain rounds).Faithful :=
    (s.faithful_reply (.submit (some "continue"))).drain rounds
  constructor
  · rintro k ⟨⟨one, stops⟩, least⟩
    obtain ⟨j, rfl⟩ : ∃ j, k = j + 1 := ⟨k - 1, by omega⟩
    have free (i : Nat) (one : 1 ≤ i) (le : i ≤ j) : ¬ s.machine.StopsAt s.breakpoint i :=
      fun stops => absurd (least ⟨one, stops⟩) (by omega)
    have poised := poised_continue hd hp free
    rw [Nat.add_sub_cancel]
    by_cases ends : (Machine.next^[j] s.machine).Ends
    · -- the last step halts or faults: the round that takes it is the last one
      rcases ends with halts | ⟨f, faults⟩
      · have ran := poised.halt hd halts
        refine ⟨_, ran.drains (by simp), ran.stepped, faithful j, ?_, ?_, ?_⟩
        · exact fun _ => ⟨ran.result, ran.said⟩
        · exact fun f faults => absurd (halts.symm.trans faults) (by simp)
        · exact fun goes => absurd (Or.inl halts) goes
      · have ran := poised.fault hd faults
        refine ⟨_, ran.drains (by simp), ran.stepped, faithful j, ?_, ?_, ?_⟩
        · exact fun halts => absurd (halts.symm.trans faults) (by simp)
        · intro g faults'
          obtain rfl : f = g := Except.error.inj (faults.symm.trans faults')
          exact ⟨ran.result, ran.said, ran.session.trans (pause_freed hp j)⟩
        · exact fun goes => absurd (Or.inr ⟨f, faults⟩) goes
    · -- the last step leads to the breakpoint, and one more round finds it there
      rw [Machine.StopsAt, Nat.add_sub_cancel] at stops
      obtain ⟨a, hb, arrives⟩ := stops.resolve_left ends
      have ran := ran_arrival hd (poised.goOn ends) hb arrives
      refine ⟨_, ran.drains (by simp), ran.stepped, faithful (j + 1), ?_, ?_, ?_⟩
      · exact fun halts => absurd (Or.inl halts) ends
      · exact fun f faults => absurd (Or.inr ⟨f, faults⟩) ends
      · exact fun _ => ⟨a, hb, arrives, ran.result, ran.said,
          ran.session.trans (pause_freed hp (j + 1))⟩
  · intro free rounds
    have poised := poised_continue hd hp (j := rounds) fun i one _ => free i one
    have stays := free (rounds + 1) (by omega)
    rw [Machine.StopsAt, Nat.add_sub_cancel, not_or] at stays
    have ran := poised.goOn stays.1
    exact ⟨ran.result, ran.stepped, ran.said, congrArg Session.machine ran.session⟩

/-- A jump to itself, on the breakpoint and in the middle of a counted step: the jump is
taken once, and leads to the breakpoint. -/
theorem continue_runs_to_first_stop_circle :
    let s : Session :=
      ⟨.constant "circle" (.ok .circle), .ofImage .circle, true, true, some 0, 3⟩
    ∃ out, (s.submit (some "continue")).Drains out ∧ out.stepped.length = 1 ∧
      out.textOn .diagnostics = "Hit breakpoint at 0\n" ∧ out.session.Waits := by
  intro s
  have stays : ¬ (Machine.next^[1 - 1] s.machine).Ends := Machine.not_ends_circle
  have arrives : (Machine.next^[1] s.machine).ip.toInt = (0 : Address).val := by decide +kernel
  obtain ⟨out, drains, stepped, -, -, -, hit⟩ :=
    (continue_runs_to_first_stop s rfl rfl).1 1
      ⟨⟨le_rfl, Or.inr ⟨0, rfl, arrives⟩⟩, fun k stops => stops.1⟩
  obtain ⟨a, hb, -, -, said, session⟩ := hit stays
  obtain rfl : 0 = a := Option.some.inj hb
  refine ⟨out, drains, by rw [stepped]; rfl, said.trans (by decide +kernel), ?_⟩
  rw [session]
  exact ⟨rfl, rfl, rfl⟩

end Session

end RegisterVM
