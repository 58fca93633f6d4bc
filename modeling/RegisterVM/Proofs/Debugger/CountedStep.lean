import Mathlib.Data.Nat.Find
import Mathlib.Order.Bounds.Defs
import RegisterVM.Proofs.Debugger.Dialogue
import RegisterVM.Proofs.Debugger.Runs
import RegisterVM.Proofs.Text.Words

/-!
# The meaning of a counted step

A step with a count takes its first instruction with the command and counts the others down
while the session goes on.  Nothing but a halt or a fault cuts it short: the session stays
paused all the while, so its breakpoint is never looked at.

* `Session.counting`: the session in the middle of a counted step.
* `poised_step`: as long as no step halts or faults, the next one is taken, one a round.
* `ran_step`: a counted step that is not cut short.
* `Obeys.counted`: counted steps in a row, each of them let run out.
* `step_count_runs`: the main statement.
-/

namespace RegisterVM

/-- The command line of a step with a count. -/
def stepLine (count : Nat) : String := "step " ++ Text.Numeral.decimal count

theorem Command.ofLine_stepLine (count : Nat) :
    Command.ofLine (stepLine count) =
      some (.ok (.step (some (Text.Numeral.decimal count)))) :=
  ofLine_numbered "step" (by decide) (by decide) count

/-- Reading a count inverts writing it. -/
theorem Session.stepCount?_decimal {count : Nat} (pos : 1 ≤ count)
    (le : count ≤ 2 ^ 32 - 1) :
    stepCount? (some (Text.Numeral.decimal count)) = some count := by
  have read : Text.Numeral.readUnsigned? (Text.Numeral.natural count) = some count := by
    obtain ⟨c, cs, eq, digit⟩ := Text.Numeral.exists_natural_eq_cons count
    have back := Text.Numeral.readNatural?_natural count
    rw [eq] at back ⊢
    unfold Text.Numeral.readUnsigned?
    split
    · next plus =>
      obtain rfl := (List.cons.inj plus).1
      exact absurd digit (by decide)
    · exact back
  rw [stepCount?, Text.Numeral.decimal, String.toList_ofList, read]
  exact if_pos ⟨pos, by omega⟩

namespace Session

variable {s : Session}

/-- The session in a counted step of which `j` steps are taken and `left` are not. -/
def counting (s : Session) (left j : Nat) : Session :=
  { s with pending := left, machine := Machine.next^[j] s.machine }

theorem submit_stepLine (hd : s.debug = true) (hp : s.paused = true) {count : Nat}
    (pos : 1 ≤ count) (le : count ≤ 2 ^ 32 - 1) :
    s.submit (some (stepLine count)) = execute (s.counting (count - 1) 0) := by
  rw [submit_of_ofLine hd hp (Command.ofLine_stepLine count), perform,
    stepCount?_decimal pos le]
  rfl

/-- As long as no step halts or faults, the next step is about to be taken. -/
theorem poised_step (hd : s.debug = true) (hp : s.paused = true) {first : Reply} {count : Nat}
    (eq : first = execute (s.counting (count - 1) 0)) {j : Nat} (lt : j < count)
    (goes : ∀ i < j, ¬ (Machine.next^[i] s.machine).Ends) :
    first.Poised s.machine j (s.counting (count - (j + 1)) j) := by
  induction j with
  | zero => exact Reply.poised_zero (t := s.counting (count - 1) 0) [] rfl rfl eq
  | succ j ih =>
    have ran := (ih (by omega) fun i hi => goes i (by omega)).goOn (goes j (by omega))
    refine ran.poised rfl ?_
    have left : (s.counting (count - (j + 1)) (j + 1)).pending = count - (j + 1 + 1) + 1 := by
      show count - (j + 1) = _
      omega
    exact advance_of_counted hd hp left

/-- A counted step that nothing cuts short leaves the session waiting that many steps on. -/
theorem ran_step (hd : s.debug = true) (hp : s.paused = true) {first : Reply} {count : Nat}
    (pos : 1 ≤ count) (eq : first = execute (s.counting (count - 1) 0))
    (goes : ∀ i < count, ¬ (Machine.next^[i] s.machine).Ends) :
    (first.drain count).Ran s.machine count (s.counting 0 count) .needCommand "" := by
  obtain ⟨j, rfl⟩ : ∃ j, count = j + 1 := ⟨count - 1, by omega⟩
  have ran := (poised_step hd hp eq (Nat.lt_succ_self j)
    fun i hi => goes i (by omega)).goOn (goes j (Nat.lt_succ_self j))
  rw [Nat.sub_self] at ran
  exact ran.waits ⟨hd, hp, rfl⟩

/-- A counted step that a halt or a fault cuts short ends with that step. -/
theorem drains_cut_step (hd : s.debug = true) (hp : s.paused = true) {first : Reply}
    {count : Nat} (eq : first = execute (s.counting (count - 1) 0)) {i : Nat} (lt : i < count)
    (goes : ∀ k < i, ¬ (Machine.next^[k] s.machine).Ends)
    (ends : (Machine.next^[i] s.machine).Ends) :
    first.Drains (first.drain i) ∧
      (first.drain i).stepped = List.iterate Machine.next s.machine (i + 1) ∧
      ((Machine.next^[i] s.machine).step.outcome = .ok .halt →
        (first.drain i).result = .ok (.finished .halted) ∧
        (first.drain i).textOn .diagnostics = "Program exited normally\n") ∧
      ∀ f, (Machine.next^[i] s.machine).step.outcome = .error f →
        (first.drain i).result = .ok .needCommand ∧
        (first.drain i).textOn .diagnostics = Text.line f.message ∧
        (first.drain i).session =
          { s with machine := Machine.next^[i] s.machine, pending := 0 } := by
  have poised := poised_step hd hp eq lt goes
  refine ⟨?_, poised.stepped, fun halts => ?_, fun f faults => ?_⟩
  · rcases ends with halts | ⟨f, faults⟩
    · exact (poised.halt hd halts).drains (by simp)
    · exact (poised.fault hd faults).drains (by simp)
  · have ran := poised.halt hd halts
    exact ⟨ran.result, ran.said⟩
  · have ran := poised.fault hd faults
    refine ⟨ran.result, ran.said, ran.session.trans ?_⟩
    rw [pause, counting, ← hp]

/-! ## Counted steps in a row -/

/-- Steps that were taken count for nothing. -/
theorem counting_counting (s : Session) (left a b : Nat) :
    (s.counting 0 a).counting left b = s.counting left (a + b) := by
  rw [counting, counting, counting, ← Function.iterate_add_apply, Nat.add_comm b a]

/-- One more counted step that nothing cuts short, at the end of a dialogue. -/
theorem Obeys.counted {lines : List String} {line : String} {i k count : Nat} {m : Machine}
    {t : Session} {r : Reply} (before : s.Obeys lines i r) (ran : r.Ran m k t .needCommand "")
    (hm : t.machine = Machine.next^[k] m) (hd : t.debug = true) (hp : t.paused = true)
    (line_eq : lines[i]? = some line) (pos : 1 ≤ count)
    (eq : t.submit (some line) = execute (t.counting (count - 1) 0))
    (goes : ∀ i < count, ¬ (Machine.next^[i] t.machine).Ends) :
    ∃ out, s.Obeys lines (i + 1) out ∧
      out.Ran m (k + count) (t.counting 0 count) .needCommand "" := by
  have step := ran_step hd hp pos eq goes
  rw [hm] at step
  have both := ran.andThen (f := fun t => (t.submit (some line)).drain count) step
  rw [← Reply.drain_andThen] at both
  exact ⟨_, .taken before ran.result line_eq (both.drains (by simp)), both⟩

theorem submit_step (hd : s.debug = true) (hp : s.paused = true) :
    s.submit (some "step") = execute (s.counting (1 - 1) 0) := by
  have line : Command.ofLine "step" = some (.ok (.step none)) := rfl
  exact submit_of_ofLine hd hp line

/-- Nothing is taken before the first line. -/
theorem ran_opened (s : Session) :
    (Reply.silent s .needCommand).Ran s.machine 0 s .needCommand "" := ⟨rfl, rfl, rfl, rfl⟩

/-- A single counted step in front of other lines. -/
theorem obeys_stepLine (hd : s.debug = true) (hp : s.paused = true) {count : Nat}
    (pos : 1 ≤ count) (le : count ≤ 2 ^ 32 - 1) (lines : List String)
    (goes : ∀ i < count, ¬ (Machine.next^[i] s.machine).Ends) :
    ∃ out, s.Obeys (stepLine count :: lines) 1 out ∧
      out.Ran s.machine count (s.counting 0 count) .needCommand "" := by
  have first : ∃ out, s.Obeys (stepLine count :: lines) 1 out ∧
      out.Ran s.machine (0 + count) (s.counting 0 count) .needCommand "" :=
    Obeys.opened.counted s.ran_opened rfl hd hp rfl pos (submit_stepLine hd hp pos le) goes
  rwa [Nat.zero_add count] at first

/-- The counted steps of a sum, one after the other. -/
theorem obeys_stepLine_stepLine (hd : s.debug = true) (hp : s.paused = true) {a b : Nat}
    (ha : 1 ≤ a) (hb : 1 ≤ b) (le : a + b ≤ 2 ^ 32 - 1)
    (goes : ∀ i < a + b, ¬ (Machine.next^[i] s.machine).Ends) :
    ∃ out, s.Obeys [stepLine a, stepLine b] 2 out ∧
      out.Ran s.machine (a + b) (s.counting 0 (a + b)) .needCommand "" := by
  obtain ⟨r, before, ran⟩ := obeys_stepLine hd hp ha (by omega) [stepLine b]
    fun i hi => goes i (by omega)
  have later (i : Nat) (hi : i < b) : ¬ (Machine.next^[i] (s.counting 0 a).machine).Ends := by
    show ¬ (Machine.next^[i] (Machine.next^[a] s.machine)).Ends
    rw [← Function.iterate_add_apply]
    exact goes (i + a) (by omega)
  have second := before.counted ran rfl hd hp rfl hb
    (submit_stepLine (s := s.counting 0 a) hd hp hb (by omega)) later
  rwa [counting_counting] at second

/-- Single steps, one after the other. -/
theorem obeys_replicate_step (hd : s.debug = true) (hp : s.paused = true) {count j : Nat}
    (lt : j < count) (goes : ∀ i < count, ¬ (Machine.next^[i] s.machine).Ends) :
    ∃ out, s.Obeys (List.replicate count "step") (j + 1) out ∧
      out.Ran s.machine (j + 1) (s.counting 0 (j + 1)) .needCommand "" := by
  have line (i : Nat) (hi : i < count) :
      (List.replicate count "step")[i]? = some "step" := List.getElem?_replicate_of_lt hi
  induction j with
  | zero =>
    -- the first step drops what is left of an earlier counted step
    exact Obeys.opened.counted s.ran_opened rfl hd hp (line 0 lt) le_rfl
      (submit_step hd hp) fun i hi => goes i (by omega)
  | succ j ih =>
    obtain ⟨r, before, ran⟩ := ih (by omega)
    have later (i : Nat) (hi : i < 1) :
        ¬ (Machine.next^[i] (s.counting 0 (j + 1)).machine).Ends := by
      obtain rfl : i = 0 := by omega
      exact goes (j + 1) lt
    have next := before.counted ran rfl hd hp (line (j + 1) lt) le_rfl
      (submit_step (s := s.counting 0 (j + 1)) hd hp) later
    rwa [counting_counting] at next

/-- Dialogues that take the same steps and leave the same session put out the same. -/
theorem exists_same {lines lines' : List String} {i j k : Nat} {t : Session}
    (one : ∃ out, s.Obeys lines i out ∧ out.Ran s.machine k t .needCommand "")
    (other : ∃ out, s.Obeys lines' j out ∧ out.Ran s.machine k t .needCommand "") :
    ∃ a b, s.Obeys lines i a ∧ s.Obeys lines' j b ∧ a.session = b.session ∧
      a.textOn .output = b.textOn .output := by
  obtain ⟨a, obeys, ran⟩ := one
  obtain ⟨b, obeys', ran'⟩ := other
  refine ⟨a, b, obeys, obeys', ran.session.trans ran'.session.symm, ?_⟩
  rw [obeys.faithful, obeys'.faithful, ran.stepped, ran'.stepped]

/-! ## The main statement -/

/-- The first step that halts or faults, counted from one. -/
theorem eq_succ_of_isLeast_ends {m : Machine} {i j : Nat} (ends : (Machine.next^[i] m).Ends)
    (goes : ∀ k < i, ¬ (Machine.next^[k] m).Ends)
    (least : IsLeast {j | 1 ≤ j ∧ (Machine.next^[j - 1] m).Ends} j) : j = i + 1 := by
  have le : j ≤ i + 1 := least.2 ⟨by omega, by rwa [Nat.add_sub_cancel]⟩
  have ge : ¬ j - 1 < i := fun lt => goes (j - 1) lt least.1.2
  have pos := least.1.1
  omega

/-- **The meaning of a counted step.**  Let a paused session take a step with a count and go
on until it no longer runs; it always comes to that.

* It takes as many steps as the count says, but none after the first that halts or faults.
* When none of them halts or faults, the session waits that many steps on, its breakpoint as
  it was, and has said nothing; otherwise it says the end of the program or the fault, and
  nothing else.
* When none of them halts or faults, single steps in that number come to the same session and
  the same output, and so do two counted steps with the same sum. -/
theorem step_count_runs (s : Session) (hd : s.debug = true) (hp : s.paused = true)
    (count : Nat) (pos : 1 ≤ count) (le : count ≤ 2 ^ 32 - 1) :
    (∃ out, (s.submit (some (stepLine count))).Drains out ∧
      (∀ j, IsLeast {j | 1 ≤ j ∧ (Machine.next^[j - 1] s.machine).Ends} j →
        out.stepped = List.iterate Machine.next s.machine (min count j)) ∧
      ((∀ i < count, ¬ (Machine.next^[i] s.machine).Ends) →
        out.stepped = List.iterate Machine.next s.machine count ∧
        out.result = .ok .needCommand ∧ out.textOn .diagnostics = "" ∧
        out.session = { s with machine := Machine.next^[count] s.machine, pending := 0 }) ∧
      (∀ j, IsLeast {j | 1 ≤ j ∧ (Machine.next^[j - 1] s.machine).Ends} j → j ≤ count →
        ((Machine.next^[j - 1] s.machine).step.outcome = .ok .halt →
          out.result = .ok (.finished .halted) ∧
          out.textOn .diagnostics = "Program exited normally\n") ∧
        ∀ f, (Machine.next^[j - 1] s.machine).step.outcome = .error f →
          out.result = .ok .needCommand ∧ out.textOn .diagnostics = Text.line f.message ∧
          out.session =
            { s with machine := Machine.next^[j - 1] s.machine, pending := 0 })) ∧
    ((∀ i < count, ¬ (Machine.next^[i] s.machine).Ends) →
      ∃ one many, s.Obeys [stepLine count] 1 one ∧
        s.Obeys (List.replicate count "step") count many ∧
        one.session = many.session ∧ one.textOn .output = many.textOn .output) ∧
    (∀ more, 1 ≤ more → count + more ≤ 2 ^ 32 - 1 →
      (∀ i < count + more, ¬ (Machine.next^[i] s.machine).Ends) →
      ∃ one two, s.Obeys [stepLine (count + more)] 1 one ∧
        s.Obeys [stepLine count, stepLine more] 2 two ∧
        one.session = two.session ∧ one.textOn .output = two.textOn .output) := by
  refine ⟨?_, fun goes => ?_, fun more one sum goes => ?_⟩
  · have eq := submit_stepLine hd hp pos le
    by_cases cut : ∃ i, i < count ∧ (Machine.next^[i] s.machine).Ends
    · -- the first step that halts or faults is the last one taken
      classical
      obtain ⟨lt, ends⟩ := Nat.find_spec cut
      have goes (k : Nat) (hk : k < Nat.find cut) : ¬ (Machine.next^[k] s.machine).Ends :=
        fun ends => Nat.find_min cut hk ⟨by omega, ends⟩
      generalize Nat.find cut = i at lt ends goes
      obtain ⟨drains, stepped, halted, faulted⟩ := drains_cut_step hd hp eq lt goes ends
      refine ⟨_, drains, ?_, fun all => absurd ends (all i lt), ?_⟩
      · intro j least
        rw [eq_succ_of_isLeast_ends ends goes least, Nat.min_eq_right (by omega)]
        exact stepped
      · intro j least _
        rw [eq_succ_of_isLeast_ends ends goes least, Nat.add_sub_cancel]
        exact ⟨halted, faulted⟩
    · have goes (i : Nat) (hi : i < count) : ¬ (Machine.next^[i] s.machine).Ends :=
        fun ends => cut ⟨i, hi, ends⟩
      have ran := ran_step hd hp pos eq goes
      have late {j : Nat} (least : IsLeast {j | 1 ≤ j ∧ (Machine.next^[j - 1] s.machine).Ends} j) :
          count < j := by
        by_contra le
        exact goes (j - 1) (by have := least.1.1; omega) least.1.2
      refine ⟨_, ran.drains (by simp), ?_,
        fun _ => ⟨ran.stepped, ran.result, ran.said, ran.session⟩, ?_⟩
      · intro j least
        rw [Nat.min_eq_left (by have := late least; omega)]
        exact ran.stepped
      · intro j least le
        exact absurd le (by have := late least; omega)
  · have many := obeys_replicate_step hd hp (j := count - 1) (by omega) goes
    rw [Nat.sub_add_cancel pos] at many
    exact exists_same (obeys_stepLine hd hp pos le [] goes) many
  · exact exists_same (obeys_stepLine hd hp (by omega) sum [] goes)
      (obeys_stepLine_stepLine hd hp pos one sum goes)

/-- Two steps over a breakpoint, of the program that puts out seven. -/
theorem step_count_runs_seven :
    let s : Session :=
      ⟨.constant "seven" (.ok .seven), .ofImage .seven, true, true, some 3, 0⟩
    ∃ out, (s.submit (some "step 2")).Drains out ∧ out.stepped.length = 2 ∧
      out.result = .ok .needCommand ∧ out.textOn .diagnostics = "" ∧
      out.session.breakpoint = some 3 := by
  intro s
  have moves : s.machine.step.outcome = .ok .proceed := by decide +kernel
  have puts : s.machine.next.step.outcome = .ok (.output 7) := by decide +kernel
  have goes (i : Nat) (hi : i < 2) : ¬ (Machine.next^[i] s.machine).Ends := by
    rintro (halts | ⟨f, faults⟩)
    · rcases (by omega : i = 0 ∨ i = 1) with rfl | rfl
      · exact absurd (moves.symm.trans halts) (by simp)
      · exact absurd (puts.symm.trans halts) (by simp)
    · rcases (by omega : i = 0 ∨ i = 1) with rfl | rfl
      · exact absurd (moves.symm.trans faults) (by simp)
      · exact absurd (puts.symm.trans faults) (by simp)
  obtain ⟨⟨out, drains, -, whole, -⟩, -⟩ :=
    step_count_runs s rfl rfl 2 (by decide) (by decide)
  obtain ⟨stepped, result, said, session⟩ := whole goes
  refine ⟨out, drains, by rw [stepped]; rfl, result, said, ?_⟩
  rw [session]

end Session

end RegisterVM
