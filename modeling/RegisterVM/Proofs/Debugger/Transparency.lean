import RegisterVM.Proofs.Console.Unlimited
import RegisterVM.Proofs.Debugger.Calls

/-!
# The debugger is transparent

A session shows the machine as it is.  Whatever a driver asks of it, in whatever order, the
machine is the one that plain iteration of the step from the latest load gives, and the
output of the program is what these steps put out: no step is lost, doubled or swallowed.

* `History`: a session with its outlets and the record of what was done with it.
* `History.Transparent`: the record and the session agree; `transparent_of_start` and
  `Transparent.call` say that they do at the start and after every call.
* `debugger_transparent`: the main statement, over all histories.
-/

namespace RegisterVM

/-- A session under a driver: its outlets, and the record of what was done so far. -/
structure History where
  session : Session
  outlets : Outlets
  /-- The image of the latest load that succeeded. -/
  image : Image
  /-- The machines that took a step since that load. -/
  recent : List Machine
  /-- The machines that took a step before that load. -/
  earlier : List Machine

namespace History

/-- The history of a new session, on outlets that take everything. -/
def start (source : Source) (debug : Bool) (verbosity : Option Level) :
    Except LoadError History := do
  let image ← source.load
  let session ← Session.start source debug
  return ⟨session, ⟨.empty none, .empty none, verbosity⟩, image, [], []⟩

/-- One more call.  A load that succeeds opens a new page of the record. -/
def call (h : History) (c : Call) : History :=
  let reply := h.session.reply c
  let played := h.outlets.play reply
  match h.session.loaded? c with
  | some image => ⟨played.2.1, played.1, image, [], h.earlier ++ (h.recent ++ reply.stepped)⟩
  | none => ⟨played.2.1, played.1, h.image, h.recent ++ reply.stepped, h.earlier⟩

/-- The record and the session agree: the steps since the latest load are the iteration of
the step from its image, the machine is where they lead, and the output is what all steps
put out. -/
structure Transparent (h : History) : Prop where
  unlimited : h.outlets.Unlimited
  recent : h.recent = List.iterate Machine.next (.ofImage h.image) h.recent.length
  machine : h.session.machine = Machine.next^[h.recent.length] (.ofImage h.image)
  output : h.outlets.output.written = (outputText (h.earlier ++ h.recent)).toUTF8

variable {source : Source} {debug : Bool} {verbosity : Option Level} {h : History}

theorem transparent_of_start (opened : start source debug verbosity = .ok h) :
    h.Transparent := by
  unfold start Session.start at opened
  cases hl : source.load with
  | error e => simp [hl, bind, Except.bind] at opened
  | ok image =>
    simp only [hl, bind, Except.bind, Except.map, pure, Except.pure,
      Except.ok.injEq] at opened
    subst opened
    exact ⟨Outlets.unlimited_empty verbosity, rfl, rfl, rfl⟩

/-- Every call keeps the record and the session in agreement. -/
theorem Transparent.call (ht : h.Transparent) (c : Call) : (h.call c).Transparent := by
  obtain ⟨unlimited, written⟩ :=
    Outlets.output_play_of_unlimited ht.unlimited (h.session.reply c)
  have session : (h.outlets.play (h.session.reply c)).2.1 = (h.session.reply c).session := by
    rw [Outlets.play_of_unlimited ht.unlimited]
  rw [ht.output, ← Text.toUTF8_append] at written
  unfold History.call
  dsimp only
  rw [session]
  rcases h.session.moves_reply c with ⟨moves, noload⟩ | moves
  · -- a step: the record grows by the machine, and the machine moves on
    rw [moves.output, ← outputText_append, List.append_assoc] at written
    rw [noload, moves.stepped]
    refine ⟨unlimited, ?_, ?_, written⟩
    · rw [List.length_append, List.iterate_add, ← ht.recent, ← ht.machine]
      rfl
    · rw [moves.machine, ht.machine, List.length_append]
      exact (Function.iterate_succ_apply' _ _ _).symm
  · rw [moves.output, ← outputText_append, List.append_nil] at written
    rw [moves.stepped, List.append_nil]
    have machine := moves.machine
    cases hl : h.session.loaded? c with
    | none =>
      rw [hl] at machine
      exact ⟨unlimited, ht.recent, machine.trans ht.machine, written⟩
    | some image =>
      rw [hl] at machine
      refine ⟨unlimited, rfl, machine, ?_⟩
      rw [List.append_nil]
      exact written

/-- After any calls, the record and the session agree. -/
theorem Transparent.calls (ht : h.Transparent) (cs : List Call) :
    (cs.foldl History.call h).Transparent := by
  induction cs generalizing h with
  | nil => exact ht
  | cons c cs ih => exact ih (ht.call c)

end History

/-- **The debugger is transparent.**  After any calls of a new session, on outlets that take
everything:

* the next call takes at most one step, and that of the machine of the session; going on takes
  it exactly when the session goes on after its breakpoint check, any other call exactly when
  it carries out a command that executes;
* the machine is what the step gives, iterated from the image of the latest load as often as a
  step was taken since, and an iteration past a halt or a fault changes nothing;
* the output is what all these steps put out, one line a value, in their order. -/
theorem debugger_transparent {source : Source} {debug : Bool} {verbosity : Option Level}
    {first : History} (opened : History.start source debug verbosity = .ok first)
    (calls : List Call) :
    let h := calls.foldl History.call first
    (∀ c, (h.session.reply c).stepped.length ≤ 1 ∧
        ∀ m ∈ (h.session.reply c).stepped, m = h.session.machine) ∧
      ((h.session.reply .advance).stepped.length = 1 ↔ h.session.checked.GoesOn) ∧
      (∀ c, c ≠ .advance → ((h.session.reply c).stepped.length = 1 ↔
        ∃ command, h.session.command? c = some command ∧ command.Executes)) ∧
      h.session.machine = Machine.next^[h.recent.length] (.ofImage h.image) ∧
      (h.session.machine.Ends → h.session.machine.next = h.session.machine) ∧
      h.outlets.output.written = (outputText (h.earlier ++ h.recent)).toUTF8 := by
  intro h
  have ht : h.Transparent := (History.transparent_of_start opened).calls calls
  refine ⟨fun c => ?_, h.session.length_stepped_advance_iff,
    fun c hc => Session.length_stepped_reply_iff hc, ht.machine, Machine.next_of_ends,
    ht.output⟩
  rcases h.session.moves_reply c with ⟨moves, -⟩ | moves
  · simp [moves.stepped]
  · simp [moves.stepped]

/-- Two steps of the program that puts out seven, the second one by going on. -/
theorem debugger_transparent_seven :
    ∃ first, History.start (.constant "seven" (.ok .seven)) true none = .ok first ∧
      let h := [Call.submit (some "step 2"), .advance].foldl History.call first
      h.session.machine = Machine.next^[2] (.ofImage .seven) ∧
        h.outlets.output.written = "7\n".toUTF8 := by
  refine ⟨_, rfl, ?_⟩
  intro h
  have opened : History.start (.constant "seven" (.ok .seven)) true none = .ok _ := rfl
  obtain ⟨-, -, -, machine, -, output⟩ :=
    debugger_transparent opened [.submit (some "step 2"), .advance]
  have image : h.image = .seven := by decide +kernel
  have steps : h.recent.length = 2 := by decide +kernel
  have said : outputText (h.earlier ++ h.recent) = "7\n" := by decide +kernel
  refine ⟨?_, output.trans (congrArg String.toUTF8 said)⟩
  rw [← image, ← steps]
  exact machine

end RegisterVM
