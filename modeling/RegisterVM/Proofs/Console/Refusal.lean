import RegisterVM.Proofs.Console.Unlimited

/-!
# Outlets that may refuse

A reply carries, with each of its texts, the session that remains should the text be refused.
So every session that playing it can leave behind stands in the reply, and what is shown of all
of them holds however little room the sinks have.

* `Reply.remains`: these sessions; `session_play_mem_remains`: the one that is left is of them.
* `play_eq_ok`: a result other than an error means that every text was taken.
* `size_act`: a sink grows by what it is given, and no log line takes anything away.
* `textOn_of_unchanged`: outlets that are as before were given nothing.
* `output_play_of_nothing`, `play_of_nothing`: a reply that puts nothing out leaves the output sink
  alone, and can be refused by the other sink only.
-/

namespace RegisterVM

/-! ## The sessions that may be left behind -/

/-- The session that remains when an act is refused. -/
def Act.kept? : Act → Option Session
  | write _ _ kept => some kept
  | log _ | step _ => none

/-- The sessions that a reply may leave behind: its own, and for each of its texts the one that
remains when the text is refused. -/
def Reply.remains (r : Reply) : List Session := r.session :: r.acts.filterMap Act.kept?

namespace Outlets

variable {o : Outlets} {r : Reply}

/-- What remains after a refusal is what one of the texts carries. -/
theorem mem_kept_of_refused {acts : List Act} {t : Session} (h : (o.act acts).2 = some t) :
    t ∈ acts.filterMap Act.kept? := by
  induction acts generalizing o with
  | nil => cases h
  | cons a acts ih =>
    cases a with
    | step machine => exact ih h
    | log event => exact ih h
    | write channel text kept =>
      rw [act] at h
      split at h
      · exact List.mem_cons_of_mem kept (ih h)
      · obtain rfl := Option.some.inj h
        exact List.mem_cons_self

/-- Playing a reply acts on the outlets, and leaves its session unless a text is refused. -/
theorem play_eq (o : Outlets) (r : Reply) :
    o.play r = match (o.act r.acts).2 with
      | none => ((o.act r.acts).1, r.session, r.result)
      | some kept => ((o.act r.acts).1, kept, .error (.unwritable "sink full")) := by
  unfold play
  cases o.act r.acts with
  | mk after refused => cases refused <;> rfl

/-- A result of a call, other than an error, means that every text was taken. -/
theorem play_eq_ok {poll : Poll} (h : (o.play r).2.2 = .ok poll) :
    (o.act r.acts).2 = none ∧ r.result = .ok poll ∧ (o.play r).2.1 = r.session := by
  rw [play_eq] at h ⊢
  cases refused : (o.act r.acts).2 with
  | none =>
    rw [refused] at h
    exact ⟨rfl, h, rfl⟩
  | some kept =>
    rw [refused] at h
    cases h

/-- Whatever is refused, the session that is left behind is one of those in the reply. -/
theorem session_play_mem_remains (o : Outlets) (r : Reply) : (o.play r).2.1 ∈ r.remains := by
  rw [play_eq]
  cases refused : (o.act r.acts).2 with
  | none => exact List.mem_cons_self
  | some kept => exact List.mem_cons_of_mem _ (mem_kept_of_refused refused)

end Outlets

/-! ## What the sinks are given -/

/-- A sink takes nothing back. -/
theorem Sink.size_le_write (k : Sink) (text : String) :
    k.written.size ≤ (k.write text).written.size := by
  unfold Sink.write
  split <;> simp [ByteArray.size_append]

/-- A sink grows by the whole of a text that fits. -/
theorem Sink.size_write_of_fits {k : Sink} {text : String} (h : k.fits text = true) :
    (k.write text).written.size = k.written.size + text.utf8ByteSize := by
  rw [Sink.written_write_of_fits h, ByteArray.size_append]
  rfl

namespace Outlets

variable {o : Outlets} {r : Reply}

/-- No log line takes anything away. -/
theorem size_le_log (o : Outlets) (event : Event) (channel : Channel) :
    (o.sink channel).written.size ≤ ((o.log event).sink channel).written.size := by
  unfold log
  split
  · cases channel with
    | output => exact Nat.le_refl _
    | diagnostics => exact o.diagnostics.size_le_write _
  · exact Nat.le_refl _

/-- A text grows the sink of its channel. -/
theorem size_write {channel : Channel} {text : String}
    (h : (o.sink channel).fits text = true) (other : Channel) :
    ((o.write channel text).sink other).written.size =
      (o.sink other).written.size + (if channel = other then text else "").utf8ByteSize := by
  rw [sink_write]
  split
  · next same =>
    subst same
    exact Sink.size_write_of_fits h
  · rfl

/-- When no text is refused, a sink grows at least by the texts of its channel. -/
theorem size_act {acts : List Act} (accepted : (o.act acts).2 = none) (channel : Channel) :
    (o.sink channel).written.size +
        (String.join (acts.map (Act.textOn channel))).utf8ByteSize ≤
      ((o.act acts).1.sink channel).written.size := by
  induction acts generalizing o with
  | nil => simp [act]
  | cons a acts ih =>
    rw [List.map_cons, String.join_cons, String.utf8ByteSize_append]
    cases a with
    | step machine =>
      rw [act] at accepted ⊢
      rw [Act.textOn, String.utf8ByteSize_empty, Nat.zero_add]
      exact ih accepted
    | log event =>
      rw [act] at accepted ⊢
      rw [Act.textOn, String.utf8ByteSize_empty, Nat.zero_add]
      exact Nat.le_trans (Nat.add_le_add_right (o.size_le_log event channel) _) (ih accepted)
    | write own text kept =>
      rw [act] at accepted ⊢
      split at accepted
      · next fits =>
        have rest := ih accepted
        rw [size_write fits channel] at rest
        rw [if_pos fits, Act.textOn]
        omega
      · cases accepted

/-- Outlets that are as they were have been given nothing. -/
theorem textOn_of_unchanged (accepted : (o.act r.acts).2 = none) (same : (o.play r).1 = o)
    (channel : Channel) : r.textOn channel = "" := by
  have grown := size_act accepted channel
  rw [play_eq, accepted] at same
  rw [same] at grown
  exact String.utf8ByteSize_eq_zero_iff.mp (by rw [Reply.textOn]; omega)

end Outlets

/-! ## Nothing is put out -/

/-- An empty text leaves a sink as it is. -/
theorem Sink.write_empty (k : Sink) : k.write "" = k := by
  obtain ⟨written, room⟩ := k
  cases room with
  | none => simp [Sink.write]
  | some room => simp [Sink.write, Sink.extract_of_size_le]

theorem Sink.fits_empty (k : Sink) : k.fits "" = true := by
  simp [Sink.fits_eq_true_iff]

namespace Outlets

variable {o : Outlets} {acts : List Act} {r : Reply}

/-- Diagnostics without a limit stay so. -/
theorem room_write (room : o.diagnostics.room = none) (channel : Channel) (text : String) :
    (o.write channel text).diagnostics.room = none := by
  cases channel with
  | output => exact room
  | diagnostics => rw [write, Sink.write_of_room_eq_none room]

theorem room_log (room : o.diagnostics.room = none) (event : Event) :
    (o.log event).diagnostics.room = none := by
  unfold log
  split
  · exact room_write room _ _
  · exact room

/-- Acts that put nothing out leave the output sink alone. -/
theorem output_act_of_nothing (nothing : String.join (acts.map (Act.textOn .output)) = "") :
    (o.act acts).1.output = o.output := by
  induction acts generalizing o with
  | nil => rfl
  | cons a acts ih =>
    rw [List.map_cons, String.join_cons, String.append_eq_empty_iff] at nothing
    cases a with
    | step machine => exact ih nothing.2
    | log event => exact (ih nothing.2).trans (sink_log (.inl rfl) event)
    | write channel text kept =>
      have same : (o.write channel text).output = o.output := by
        cases channel with
        | diagnostics => rfl
        | output =>
          obtain rfl : text = "" := nothing.1
          exact o.output.write_empty
      rw [act]
      split
      · exact (ih nothing.2).trans same
      · exact same

/-- When the diagnostics have no limit, acts that put nothing out are not refused. -/
theorem accepted_of_nothing (room : o.diagnostics.room = none)
    (nothing : String.join (acts.map (Act.textOn .output)) = "") : (o.act acts).2 = none := by
  induction acts generalizing o with
  | nil => rfl
  | cons a acts ih =>
    rw [List.map_cons, String.join_cons, String.append_eq_empty_iff] at nothing
    cases a with
    | step machine => exact ih room nothing.2
    | log event => exact ih (room_log room event) nothing.2
    | write channel text kept =>
      have fits : (o.sink channel).fits text = true := by
        cases channel with
        | diagnostics => exact Sink.fits_of_room_eq_none room text
        | output =>
          obtain rfl : text = "" := nothing.1
          exact Sink.fits_empty _
      rw [act, if_pos fits]
      exact ih (room_write room channel text) nothing.2

/-- A reply that puts nothing out leaves the output sink alone. -/
theorem output_play_of_nothing (nothing : r.textOn .output = "") (o : Outlets) :
    (o.play r).1.output = o.output := by
  rw [play_eq]
  cases (o.act r.acts).2 <;> exact output_act_of_nothing nothing

/-- When the diagnostics have no limit, a reply that puts nothing out comes to its session and its
result. -/
theorem play_of_nothing (room : o.diagnostics.room = none) (nothing : r.textOn .output = "") :
    (o.play r).2 = (r.session, r.result) := by
  rw [play_eq, accepted_of_nothing room nothing]

end Outlets

end RegisterVM
