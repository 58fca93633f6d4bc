import RegisterVM.Proofs.Debugger.Drain

/-!
# Runs between two commands

`continue` and a counted step both take their first instruction with the command and the
others by going on.  What they share is said here once: after `j` rounds the reply so far has
taken `j` steps in silence and is about to take the next.

* `Reply.Ran`: what a reply has come to after some steps from a machine.
* `Reply.Poised`: after `j` rounds, `j` steps are taken and one more is about to be.
* `Poised.goOn`, `Poised.halt`, `Poised.fault`: how that step can go.
* `poised_zero`, `Ran.poised`: the first step, and from one step to the next.
* `Ran.andThen`, `Ran.waits`: the steps of replies in a row, and the round that finds nothing
  left to do.
-/

namespace RegisterVM

namespace Reply

/-- The reply has taken exactly the first `k` steps from `m`, has said `said`, and leaves `s`
behind with the result `poll`. -/
structure Ran (r : Reply) (m : Machine) (k : Nat) (s : Session) (poll : Poll)
    (said : String) : Prop where
  stepped : r.stepped = List.iterate Machine.next m k
  session : r.session = s
  result : r.result = .ok poll
  said : r.textOn .diagnostics = said

/-- A reply that has run `k` steps in silence, followed by the `k + 1`-st step. -/
structure Poised (first : Reply) (m : Machine) (j : Nat) (t : Session) : Prop where
  /-- The machine has taken `j` steps. -/
  machine : t.machine = Machine.next^[j] m
  /-- The next one is the last thing that the first `j` rounds do. -/
  round : ∃ (r : Reply) (next : Session → Reply), first.drain j = r.andThen next ∧
    r.stepped = List.iterate Machine.next m j ∧ r.textOn .diagnostics = "" ∧
    next r.session = t.execute

variable {first : Reply} {m : Machine} {j : Nat} {t : Session}

namespace Poised

/-- The step is the `j + 1`-st one. -/
theorem stepped (h : first.Poised m j t) :
    (first.drain j).stepped = List.iterate Machine.next m (j + 1) := by
  obtain ⟨r, next, eq, steps, -, exec⟩ := h.round
  rw [eq, stepped_andThen, exec, Session.stepped_execute, steps, h.machine, List.iterate_add]
  rfl

/-- What is said is what the step has to say. -/
theorem said (h : first.Poised m j t) :
    (first.drain j).textOn .diagnostics = t.execute.textOn .diagnostics := by
  obtain ⟨r, next, eq, -, silent, exec⟩ := h.round
  rw [eq, textOn_andThen, exec, silent, String.empty_append]

theorem session (h : first.Poised m j t) : (first.drain j).session = t.execute.session := by
  obtain ⟨r, next, eq, -, -, exec⟩ := h.round
  rw [eq, session_andThen, exec]

theorem result (h : first.Poised m j t) : (first.drain j).result = t.execute.result := by
  obtain ⟨r, next, eq, -, -, exec⟩ := h.round
  rw [eq, result_andThen, exec]

/-- The step goes on. -/
theorem goOn (h : first.Poised m j t) (goes : ¬ (Machine.next^[j] m).Ends) :
    (first.drain j).Ran m (j + 1) { t with machine := Machine.next^[j + 1] m } .running "" := by
  rw [← h.machine] at goes
  obtain ⟨session, result, said⟩ := Session.execute_of_not_ends goes
  refine ⟨h.stepped, ?_, h.result.trans result, h.said.trans said⟩
  rw [h.session, session, h.machine, Function.iterate_succ_apply']

/-- The step halts. -/
theorem halt (h : first.Poised m j t) (hd : t.debug = true)
    (halts : (Machine.next^[j] m).step.outcome = .ok .halt) :
    (first.drain j).Ran m (j + 1) t (.finished .halted) "Program exited normally\n" := by
  rw [← h.machine] at halts
  obtain ⟨session, result, said⟩ := Session.execute_of_halt halts hd
  exact ⟨h.stepped, h.session.trans session, h.result.trans result, h.said.trans said⟩

/-- The step faults. -/
theorem fault (h : first.Poised m j t) (hd : t.debug = true) {f : Fault}
    (faults : (Machine.next^[j] m).step.outcome = .error f) :
    (first.drain j).Ran m (j + 1) t.pause .needCommand (Text.line f.message) := by
  rw [← h.machine] at faults
  obtain ⟨session, result, said⟩ := Session.execute_of_fault faults hd
  exact ⟨h.stepped, h.session.trans session, h.result.trans result, h.said.trans said⟩

end Poised

/-- A reply that is the execution of a session, behind acts that neither step nor say
anything, is about to take its first step. -/
theorem poised_zero (acts : List Act) (still : acts.filterMap Act.stepped? = [])
    (silent : String.join (acts.map (Act.textOn .diagnostics)) = "")
    (eq : first = ⟨acts ++ t.execute.acts, t.execute.session, t.execute.result⟩) :
    first.Poised t.machine 0 t :=
  ⟨rfl, ⟨acts, t, .ok .running⟩, Session.execute, eq, still, silent, rfl⟩

/-- A reply that has come to another result than running has run out. -/
theorem Ran.drains {k : Nat} {s : Session} {poll : Poll} {said : String}
    (h : (first.drain j).Ran m k s poll said) (stops : poll ≠ .running) :
    first.Drains (first.drain j) := by
  refine .of_drain j rfl ?_
  rw [h.result]
  exact fun running => stops (Except.ok.inj running)

/-- A session that goes on with a step is about to take it in the next round. -/
theorem Ran.poised {s : Session} (h : (first.drain j).Ran m (j + 1) s .running "")
    (ht : t.machine = Machine.next^[j + 1] m) (exec : s.advance = t.execute) :
    first.Poised m (j + 1) t :=
  ⟨ht, first.drain j, Session.advance, drain_succ h.result, h.stepped, h.said,
    by rw [h.session, exec]⟩

/-- The steps of two replies in a row are taken one after the other. -/
theorem Ran.andThen {r : Reply} {f : Session → Reply} {k k' : Nat} {s s' : Session}
    {poll poll' : Poll} {said said' : String} (h : r.Ran m k s poll said)
    (h' : (f s).Ran (Machine.next^[k] m) k' s' poll' said') :
    (r.andThen f).Ran m (k + k') s' poll' (said ++ said') := by
  obtain ⟨stepped, rfl, -, spoken⟩ := h
  refine ⟨?_, h'.session, h'.result, ?_⟩
  · rw [stepped_andThen, stepped, h'.stepped, List.iterate_add]
  · rw [textOn_andThen, spoken, h'.said]

/-- A session that waits needs one more round to find that it does. -/
theorem Ran.waits {k : Nat} {s : Session} {said : String}
    (h : (first.drain j).Ran m k s .running said) (hs : s.Waits) :
    (first.drain (j + 1)).Ran m k s .needCommand said := by
  have silent : s.advance.Ran (Machine.next^[k] m) 0 s .needCommand "" := by
    rw [Session.advance_of_waits hs]
    exact ⟨rfl, rfl, rfl, rfl⟩
  have both := h.andThen silent
  rw [String.append_empty] at both
  rw [drain_succ h.result]
  exact both

end Reply

end RegisterVM
