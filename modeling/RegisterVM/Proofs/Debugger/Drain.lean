import RegisterVM.Proofs.Debugger.Calls

/-!
# Letting a session run out

A driver that has made a call lets the session go on until the first result that is not
`running`.  Replies in a row are one reply again, so what the driver has then is a single
reply: everything that was written, every step taken, and the last result.

* `Reply.andThen`: one reply after another.
* `Reply.drain`: a reply, and going on for at most so many rounds while the session runs.
* `Reply.Drains`: the reply that the session runs out with; there is at most one
  (`Drains.unique`).
* `drain_of_not_running`, `drain_add`: a reply that has run out stays, and rounds add up.
* `Reply.Faithful`: the output is that of the steps; `Faithful.drain` keeps it.
-/

namespace RegisterVM

namespace Reply

/-! ## Replies in a row -/

/-- A reply, and what the session it leaves behind replies next. -/
def andThen (r : Reply) (next : Session → Reply) : Reply :=
  ⟨r.acts ++ (next r.session).acts, (next r.session).session, (next r.session).result⟩

@[simp] theorem acts_andThen (r : Reply) (next : Session → Reply) :
    (r.andThen next).acts = r.acts ++ (next r.session).acts := rfl

@[simp] theorem session_andThen (r : Reply) (next : Session → Reply) :
    (r.andThen next).session = (next r.session).session := rfl

@[simp] theorem result_andThen (r : Reply) (next : Session → Reply) :
    (r.andThen next).result = (next r.session).result := rfl

@[simp] theorem stepped_andThen (r : Reply) (next : Session → Reply) :
    (r.andThen next).stepped = r.stepped ++ (next r.session).stepped := by
  rw [stepped, andThen, List.filterMap_append]
  rfl

@[simp] theorem textOn_andThen (channel : Channel) (r : Reply) (next : Session → Reply) :
    (r.andThen next).textOn channel =
      r.textOn channel ++ (next r.session).textOn channel := by
  rw [textOn, andThen, List.map_append, String.join_append]
  rfl

/-- Replies in a row may be bracketed either way. -/
theorem andThen_assoc (r : Reply) (f g : Session → Reply) :
    (r.andThen f).andThen g = r.andThen fun s => (f s).andThen g := by
  simp only [andThen, List.append_assoc]

/-- Only the reply of the session that is left behind counts. -/
theorem andThen_congr {r : Reply} {f g : Session → Reply} (h : f r.session = g r.session) :
    r.andThen f = r.andThen g := by
  rw [andThen, andThen, h]

/-! ## Running out -/

/-- The reply, and then at most `rounds` rounds of going on, as long as the session runs. -/
def drain : Nat → Reply → Reply
  | 0, r => r
  | rounds + 1, r =>
      match r.result with
      | .ok .running => drain rounds (r.andThen Session.advance)
      | _ => r

/-- The reply runs out as the other one: some number of rounds leads there, and the session no
longer runs. -/
def Drains (r out : Reply) : Prop :=
  (∃ rounds, r.drain rounds = out) ∧ out.result ≠ .ok .running

theorem drain_succ_of_running {r : Reply} (h : r.result = .ok .running) (rounds : Nat) :
    drain (rounds + 1) r = drain rounds (r.andThen Session.advance) := by
  rw [drain, h]

theorem drain_of_not_running {r : Reply} (h : r.result ≠ .ok .running) (rounds : Nat) :
    drain rounds r = r := by
  cases rounds with
  | zero => rfl
  | succ rounds =>
    rw [drain]
    split
    · next running => exact absurd running h
    · rfl

theorem drain_add (a b : Nat) (r : Reply) : drain (a + b) r = drain b (drain a r) := by
  induction a generalizing r with
  | zero => rw [Nat.zero_add, drain]
  | succ a ih =>
    by_cases h : r.result = .ok .running
    · rw [Nat.add_right_comm, drain_succ_of_running h, drain_succ_of_running h, ih]
    · rw [drain_of_not_running h, drain_of_not_running h, drain_of_not_running h]

/-- The last of `rounds + 1` rounds, when the session still runs before it. -/
theorem drain_succ {r : Reply} {rounds : Nat} (h : (r.drain rounds).result = .ok .running) :
    r.drain (rounds + 1) = (r.drain rounds).andThen Session.advance := by
  rw [drain_add, drain_succ_of_running h, drain]

/-- A reply behind another one runs out as it does alone. -/
theorem drain_andThen (r : Reply) (f : Session → Reply) (rounds : Nat) :
    (r.andThen f).drain rounds = r.andThen fun s => (f s).drain rounds := by
  induction rounds generalizing f with
  | zero => rfl
  | succ rounds ih =>
    by_cases h : (f r.session).result = .ok .running
    · rw [drain_succ_of_running (r := r.andThen f) h, andThen_assoc, ih]
      exact andThen_congr (drain_succ_of_running h rounds).symm
    · rw [drain_of_not_running (r := r.andThen f) h]
      exact andThen_congr (drain_of_not_running h (rounds + 1)).symm

theorem Drains.of_drain {r out : Reply} (rounds : Nat) (h : r.drain rounds = out)
    (ended : out.result ≠ .ok .running) : r.Drains out := ⟨⟨rounds, h⟩, ended⟩

/-- A reply that does not run has run out. -/
theorem drains_self {r : Reply} (h : r.result ≠ .ok .running) : r.Drains r := ⟨⟨0, rfl⟩, h⟩

/-- Going on once more while the session runs is a round of it. -/
theorem drains_andThen_advance_of_running {r out : Reply} (h : r.result = .ok .running) :
    (r.andThen Session.advance).Drains out ↔ r.Drains out := by
  constructor
  · rintro ⟨⟨rounds, eq⟩, ended⟩
    exact ⟨⟨rounds + 1, by rw [drain_succ_of_running h, eq]⟩, ended⟩
  · rintro ⟨⟨rounds, eq⟩, ended⟩
    refine ⟨⟨rounds, ?_⟩, ended⟩
    -- one round more does not change a reply that has run out
    rw [← drain_succ_of_running h, drain_add, eq, drain_of_not_running ended]

/-- A session runs out in one way only. -/
theorem Drains.unique {r out out' : Reply} (h : r.Drains out) (h' : r.Drains out') :
    out = out' := by
  obtain ⟨⟨a, rfl⟩, ha⟩ := h
  obtain ⟨⟨b, rfl⟩, hb⟩ := h'
  rcases Nat.le_total a b with le | le
  · obtain ⟨k, rfl⟩ := Nat.exists_eq_add_of_le le
    rw [drain_add, drain_of_not_running ha]
  · obtain ⟨k, rfl⟩ := Nat.exists_eq_add_of_le le
    rw [drain_add, drain_of_not_running hb]

/-- A reply that does not run runs out as itself. -/
theorem Drains.eq_self {r out : Reply} (h : r.Drains out) (stops : r.result ≠ .ok .running) :
    out = r := h.unique (drains_self stops)

/-! ## The output of a run -/

/-- The reply puts out exactly what its steps put out. -/
def Faithful (r : Reply) : Prop := r.textOn .output = outputText r.stepped

theorem Moves.faithful {r : Reply} {steps : List Machine} {after : Machine}
    (h : r.Moves steps after) : r.Faithful := by
  rw [Faithful, h.output, h.stepped]

theorem Faithful.andThen {r : Reply} {next : Session → Reply} (h : r.Faithful)
    (hn : (next r.session).Faithful) : (r.andThen next).Faithful := by
  rw [Faithful, textOn_andThen, stepped_andThen, outputText_append, h, hn]

end Reply

namespace Session

/-- Whatever a session is called for, it puts out exactly what its steps put out. -/
theorem faithful_reply (s : Session) (c : Call) : (s.reply c).Faithful := by
  rcases s.moves_reply c with ⟨moves, -⟩ | moves
  · exact moves.faithful
  · exact moves.faithful

end Session

namespace Reply

theorem Faithful.drain {r : Reply} (h : r.Faithful) (rounds : Nat) :
    (r.drain rounds).Faithful := by
  induction rounds generalizing r with
  | zero => exact h
  | succ rounds ih =>
    by_cases running : r.result = .ok .running
    · rw [drain_succ_of_running running]
      exact ih (h.andThen (r.session.faithful_reply .advance))
    · rw [drain_of_not_running running]
      exact h

end Reply

end RegisterVM
