import Mathlib.Logic.Relation
import RegisterVM.Proofs.Console.Refusal
import RegisterVM.Proofs.Debugger.Dialogue

/-!
# The state of a session

Whether a session has an operator, whether it is paused, and how many steps it has still to take
is set by different calls in different orders, now before a text that may be refused and now
after it.  This file says what holds of the three in every state that calls can lead to.

## 1.  One call

`Session.InOrder` says that steps are left only while the session is paused under its operator,
and `s.Keeps t` that `t` is in order and has no operator unless `s` has one.  Each function that
makes a reply keeps this for every session that the reply may leave behind.  For a command that
takes a session which is paused already (`keeps_perform`), and `submit` sees to that: a counted
step that was carried out regardless would leave steps to a session that is running.

## 2.  Any calls

A `Session.Turn` is one call of a driver on outlets of its own, so every text of every call may
be refused at any byte.  Nothing is asked of the result: the next call may follow an error or the
end of the program.  The induction is on the number of turns.

## 3.  Asking for a command

Going on asks for a command only when it leaves the session waiting.  It does so without a step
and without a word exactly when the session was waiting before: running into the breakpoint is
reported, and a fault has taken its step.
-/

namespace RegisterVM

namespace Session

variable {s t u : Session}

/-! ## 1.  One call -/

/-- Steps are left only while the session is paused under its operator. -/
def InOrder (s : Session) : Prop := 0 < s.pending → s.debug = true ∧ s.paused = true

/-- The second session is in order, and has an operator only if the first has. -/
structure Keeps (s t : Session) : Prop where
  inOrder : t.InOrder
  debug : t.debug = true → s.debug = true

theorem inOrder_of_none_left (h : s.pending = 0) : s.InOrder := fun pos => by omega

theorem InOrder.keeps (h : s.InOrder) : s.Keeps s := ⟨h, id⟩

theorem Keeps.trans (h : s.Keeps t) (h' : t.Keeps u) : s.Keeps u :=
  ⟨h'.inOrder, fun hd => h.debug (h'.debug hd)⟩

/-- The trace carries no session. -/
theorem kept_trace (s : Session) : s.trace.filterMap Act.kept? = [] := by
  unfold trace
  split <;> rfl

/-- A step of the machine leaves the session where it was or, after a fault, paused. -/
theorem remains_execute (s : Session) :
    ∀ u ∈ s.execute.remains, u = { s with machine := s.machine.next } ∨
      u = pause { s with machine := s.machine.next } := by
  unfold execute Machine.next
  dsimp only
  split
  · simp [Reply.remains, kept_trace]
  · simp [Reply.remains, kept_trace, Act.kept?]
  · split <;> simp [Reply.remains, kept_trace, Act.kept?]
  · split <;> simp [Reply.remains, kept_trace, Act.kept?]

theorem keeps_execute (h : s.Keeps t) : ∀ u ∈ t.execute.remains, s.Keeps u := by
  intro u mem
  rcases t.remains_execute u mem with rfl | rfl
  · exact ⟨h.inOrder, h.debug⟩
  · exact ⟨inOrder_of_none_left rfl, h.debug⟩

theorem keeps_silent (h : s.Keeps t) (poll : Poll) :
    ∀ u ∈ (Reply.silent t poll).remains, s.Keeps u := by
  simp [Reply.silent, Reply.remains, h]

theorem keeps_advance (h : s.InOrder) : ∀ u ∈ s.advance.remains, s.Keeps u := by
  unfold advance
  split
  · have paused : s.Keeps s.pause := ⟨inOrder_of_none_left rfl, id⟩
    simp [Reply.remains, Act.kept?, paused, h.keeps]
  · split
    · split
      · exact keeps_silent h.keeps _
      · next left eq => exact keeps_execute ⟨fun _ => h (by omega), id⟩
    · exact keeps_execute h.keeps

/-- A paused session may count: a command finds it in order and leaves it so. -/
theorem keeps_perform (hd : s.debug = true) (hp : s.paused = true) (c : Command) :
    ∀ u ∈ (s.perform c).remains, s.Keeps u := by
  have alike {t : Session} (debug : t.debug = s.debug) (paused : t.paused = s.paused) :
      s.Keeps t := ⟨fun _ => ⟨debug.trans hd, paused.trans hp⟩, fun _ => hd⟩
  cases s.course c with
  | answers b text eq =>
    rw [eq]
    simp [Reply.remains, Act.kept?, alike]
  | quits => exact keeps_silent (alike rfl rfl) _
  | counts valid =>
    simp only [perform, valid]
    exact keeps_execute (alike rfl rfl)
  | proceeds =>
    have freed : s.Keeps { s with paused := false, pending := 0 } :=
      ⟨inOrder_of_none_left rfl, id⟩
    exact keeps_execute freed
  | restarts =>
    simp only [perform, reload]
    split <;> simp [Reply.remains, Act.kept?, alike]

theorem keeps_submit (h : s.InOrder) (line : Option String) :
    ∀ u ∈ (s.submit line).remains, s.Keeps u := by
  cases line with
  | none =>
    have ended : s.Keeps { s with debug := false, pending := 0 } :=
      ⟨inOrder_of_none_left rfl, nofun⟩
    simp [submit, endInput, Reply.remains, Act.kept?, h.keeps, ended]
  | some line =>
    simp only [submit]
    split
    · next paused =>
      obtain ⟨hd, hp⟩ : s.debug = true ∧ s.paused = true := by simpa [isPaused] using paused
      split
      · exact keeps_silent h.keeps _
      · exact keeps_perform hd hp _
      · simp [Reply.remains, Act.kept?, h.keeps]
    · exact keeps_silent h.keeps _

/-! ## 2.  Any calls -/

/-- One call of a driver that goes on and submits, on outlets of its own. -/
inductive Turn (s : Session) : Session → Prop
  | advance (o : Outlets) : Turn s (o.play s.advance).2.1
  | submit (o : Outlets) (line : Option String) : Turn s (o.play (s.submit line)).2.1

/-- Calls one after the other, whatever their results. -/
abbrev Turns : Session → Session → Prop := Relation.ReflTransGen Turn

theorem Turn.keeps (turn : s.Turn t) (h : s.InOrder) : s.Keeps t := by
  cases turn with
  | advance o => exact keeps_advance h _ (o.session_play_mem_remains _)
  | submit o line => exact keeps_submit h line _ (o.session_play_mem_remains _)

theorem Turns.keeps (turns : s.Turns t) (h : s.InOrder) : s.Keeps t := by
  induction turns with
  | refl => exact h.keeps
  | tail _ turn ih => exact ih.trans (turn.keeps ih.inOrder)

theorem inOrder_of_start {source : Source} {debug : Bool}
    (h : start source debug = .ok s) : s.InOrder := by
  obtain ⟨image, -, rfl⟩ := start_eq_ok_iff.mp h
  exact inOrder_of_none_left rfl

/-! ## 3.  Asking for a command -/

/-- Without an operator nobody is asked. -/
theorem result_execute_of_no_operator (hd : s.debug = false) :
    s.execute.result ≠ .ok .needCommand := by
  unfold execute
  dsimp only
  split <;> simp [hd]

/-- Going on that asks for a command leaves the session waiting for it. -/
theorem waits_of_asks (h : s.advance.result = .ok .needCommand) : s.advance.session.Waits := by
  cases hd : s.debug with
  | true => exact (attended_advance hd).asks h
  | false =>
    have free : s.isPaused = false := by simp [isPaused, hd]
    rw [advance_of_free free (by simp [hd])] at h
    exact absurd h (result_execute_of_no_operator hd)

/-- A session that goes on without a step and without a word has been waiting. -/
theorem waits_of_silence (still : s.advance.stepped = [])
    (silent : s.advance.textOn .diagnostics = "") : s.Waits := by
  have stays : ¬ s.checked.GoesOn := by
    rw [← length_stepped_advance_iff, still]
    exact nofun
  by_cases hit : s.debug = true ∧ s.paused = false ∧ s.atBreakpoint = true
  · -- the breakpoint would have been reported
    rw [advance_of_hit hit.1 hit.2.1 hit.2.2] at silent
    simp [Reply.textOn, Act.textOn, Text.line] at silent
  · rw [checked, if_neg hit] at stays
    exact not_goesOn_iff.mp stays

/-- The session that has been waiting asks again, and only this one asks without a step and
without a word. -/
theorem asks_in_silence_iff (s : Session) (o : Outlets) :
    ((o.play s.advance).2.2 = .ok .needCommand ∧ s.advance.stepped = [] ∧
      (o.play s.advance).1 = o) ↔ s.Waits := by
  constructor
  · rintro ⟨asks, still, same⟩
    obtain ⟨accepted, -, -⟩ := Outlets.play_eq_ok asks
    exact waits_of_silence still (Outlets.textOn_of_unchanged accepted same .diagnostics)
  · intro waits
    rw [advance_of_waits waits]
    exact ⟨rfl, rfl, rfl⟩

/-! ## The main statement -/

/-- **A session counts only while it is paused.**  In every state that any calls lead to from a
loaded program, with debugging or without, whatever is refused and whatever the calls result in,

* the breakpoint is unset or the address of a cell;
* steps are left only while the session is paused under its operator;
* an operator who has gone never comes back;
* when going on asks for a command, the session is left paused with no steps left, and it asks
  without a step and without a byte written exactly if it was so before. -/
theorem counts_only_while_paused {source : Source} {debug : Bool} {s₀ s : Session}
    (loaded : start source debug = .ok s₀) (turns : s₀.Turns s) :
    (s.breakpoint = none ∨ ∃ a, s.breakpoint = some a ∧ a.val < 500) ∧
    (0 < s.pending → s.debug = true ∧ s.paused = true) ∧
    (∀ t, s.Turns t → s.debug = false → t.debug = false) ∧
    ∀ o : Outlets,
      ((o.play s.advance).2.2 = .ok .needCommand →
        (o.play s.advance).2.1.isPaused = true ∧ (o.play s.advance).2.1.hasPending = false) ∧
      ((o.play s.advance).2.2 = .ok .needCommand ∧ s.advance.stepped = [] ∧
        (o.play s.advance).1 = o ↔ s.isPaused = true ∧ s.hasPending = false) := by
  have inOrder : s.InOrder := (Turns.keeps turns (inOrder_of_start loaded)).inOrder
  have waits (t : Session) : t.Waits ↔ t.isPaused = true ∧ t.hasPending = false := by
    rw [waits_iff, Bool.and_eq_true, Bool.not_eq_true']
  refine ⟨?_, inOrder, fun t later gone => ?_, fun o => ⟨fun asks => ?_, ?_⟩⟩
  · cases s.breakpoint with
    | none => exact .inl rfl
    | some a => exact .inr ⟨a, rfl, a.isLt⟩
  · have back := (Turns.keeps later inOrder).debug
    rw [gone] at back
    exact Bool.eq_false_of_not_eq_true fun on => Bool.false_ne_true (back on)
  · obtain ⟨-, result, left⟩ := Outlets.play_eq_ok asks
    rw [left]
    exact (waits _).mp (waits_of_asks result)
  · rw [← waits]
    exact asks_in_silence_iff s o

/-- A counted step on sinks without any room.  After its first instruction one step is left; the
second has its output refused, and behind that the session waits. -/
theorem counts_only_while_paused_seven :
    let source : Source := .constant "seven" (.ok .seven)
    let full : Outlets := ⟨.empty (some 0), .empty (some 0), none⟩
    ∃ s₀, start source true = .ok s₀ ∧
      let s := (full.play (s₀.submit (some "step 2"))).2.1
      let t := (full.play s.advance).2.1
      s.pending = 1 ∧ s.debug = true ∧ s.paused = true ∧
        (full.play s.advance).2.2 = .error (.unwritable "sink full") ∧
        (full.play t.advance).2.2 = .ok .needCommand ∧ (full.play t.advance).1 = full := by
  intro source full
  have loaded : start source true = .ok ⟨source, .ofImage .seven, true, true, none, 0⟩ := rfl
  refine ⟨_, loaded, ?_⟩
  intro s t
  have turns : Turns _ s := .single (.submit full (some "step 2"))
  have later : Turns _ t := turns.tail (.advance full)
  have left : s.pending = 1 := by decide +kernel
  obtain ⟨-, counts, -, -⟩ := counts_only_while_paused loaded turns
  obtain ⟨hd, hp⟩ := counts (by omega)
  have refused : (full.play s.advance).2.2 = .error (.unwritable "sink full") := by
    decide +kernel
  obtain ⟨-, -, -, asks⟩ := counts_only_while_paused loaded later
  have waits : t.isPaused = true ∧ t.hasPending = false := by decide +kernel
  obtain ⟨asked, -, unchanged⟩ := (asks full).2.mpr waits
  exact ⟨left, hd, hp, refused, asked, unchanged⟩

end Session

end RegisterVM
