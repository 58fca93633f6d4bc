import RegisterVM.Console.Loop

/-!
# Outlets that take everything

On two sinks without a limit a reply comes to what it says: nothing is refused, the session
and the result are those of the reply, and the output of the program grows by exactly the
texts of its channel, whatever is logged in between.

* `Outlets.Unlimited`: neither sink has a limit.
* `Outlets.Clear`: a channel without log lines.
* `act_of_unlimited`, `written_act`: what some acts come to, and what they add to such a channel;
  `act_append_of_unlimited`: they may be cut in two.
* `play_of_unlimited`, `output_play_of_unlimited`: what a reply comes to.
* `Console.Plays`: what a reply comes to at a console; `exists_plays`, `exists_tick`,
  `exists_feed` say it of the parts of a round.
-/

namespace RegisterVM

/-- The bytes of two texts in a row. -/
theorem Text.toUTF8_append (a b : String) : (a ++ b).toUTF8 = a.toUTF8 ++ b.toUTF8 := by
  simp only [String.toUTF8_eq_toByteArray, String.toByteArray_append]

/-- A sink without a limit takes every text. -/
theorem Sink.fits_of_room_eq_none {k : Sink} (h : k.room = none) (text : String) :
    k.fits text = true := by
  rw [Sink.fits, h, Option.all_none]

/-- A sink without a limit appends, and stays without one. -/
theorem Sink.write_of_room_eq_none {k : Sink} (h : k.room = none) (text : String) :
    k.write text = ⟨k.written ++ text.toUTF8, none⟩ := by
  obtain ⟨written, room⟩ := k
  dsimp only at h
  subst h
  rfl

namespace Outlets

variable {o : Outlets}

/-- Neither sink has a limit. -/
structure Unlimited (o : Outlets) : Prop where
  output : o.output.room = none
  diagnostics : o.diagnostics.room = none

theorem unlimited_empty (verbosity : Option Level) :
    Unlimited ⟨.empty none, .empty none, verbosity⟩ := ⟨rfl, rfl⟩

namespace Unlimited

theorem fits (h : o.Unlimited) (channel : Channel) (text : String) :
    (o.sink channel).fits text = true := by
  cases channel with
  | output => exact Sink.fits_of_room_eq_none h.output text
  | diagnostics => exact Sink.fits_of_room_eq_none h.diagnostics text

theorem write (h : o.Unlimited) (channel : Channel) (text : String) :
    (o.write channel text).Unlimited := by
  cases channel with
  | output => exact ⟨by rw [Outlets.write, Sink.write_of_room_eq_none h.output], h.diagnostics⟩
  | diagnostics =>
    exact ⟨h.output, by rw [Outlets.write, Sink.write_of_room_eq_none h.diagnostics]⟩

theorem log (h : o.Unlimited) (event : Event) : (o.log event).Unlimited := by
  unfold Outlets.log
  split
  · exact h.write _ _
  · exact h

end Unlimited

/-- What a text adds to a channel. -/
theorem written_write (h : o.Unlimited) (channel : Channel) (text : String) (other : Channel) :
    ((o.write channel text).sink other).written =
      (o.sink other).written ++ (if channel = other then text else "").toUTF8 := by
  rw [sink_write]
  split
  · exact Sink.written_write_of_fits (h.fits other text)
  · exact ByteArray.append_empty.symm

theorem log_of_quiet (quiet : o.verbosity = none) (event : Event) : o.log event = o := by
  have silent (level : Level) : o.logs level = false := by
    cases level <;> simp [logs, quiet]
  rw [log, silent]
  rfl

theorem verbosity_log (o : Outlets) (event : Event) :
    (o.log event).verbosity = o.verbosity := by
  unfold log
  split
  · exact o.verbosity_write _ _
  · rfl

/-- A channel has no log lines in it: that of the output never has, and the other one has not
when nothing is logged. -/
def Clear (o : Outlets) (channel : Channel) : Prop := channel = .output ∨ o.verbosity = none

theorem sink_log {channel : Channel} (clear : o.Clear channel) (event : Event) :
    (o.log event).sink channel = o.sink channel := by
  rcases clear with rfl | quiet
  · unfold log
    split <;> rfl
  · rw [log_of_quiet quiet]

/-- How much is logged does not change. -/
theorem verbosity_act (o : Outlets) (acts : List Act) :
    (o.act acts).1.verbosity = o.verbosity := by
  induction acts generalizing o with
  | nil => rfl
  | cons a acts ih =>
    cases a with
    | step machine => exact ih o
    | log event => exact (ih _).trans (o.verbosity_log event)
    | write channel text kept =>
      rw [act]
      split
      · exact (ih _).trans (o.verbosity_write channel text)
      · exact o.verbosity_write channel text

/-- Acts on unlimited outlets all take place. -/
theorem act_of_unlimited (h : o.Unlimited) (acts : List Act) :
    (o.act acts).2 = none ∧ (o.act acts).1.Unlimited := by
  induction acts generalizing o with
  | nil => exact ⟨rfl, h⟩
  | cons a acts ih =>
    cases a with
    | step machine => exact ih h
    | log event => exact ih (h.log event)
    | write channel text kept =>
      rw [act, if_pos (h.fits channel text)]
      exact ih (h.write channel text)

/-- Acts on unlimited outlets may be cut in two. -/
theorem act_append_of_unlimited (h : o.Unlimited) (acts more : List Act) :
    o.act (acts ++ more) = (o.act acts).1.act more := by
  induction acts generalizing o with
  | nil => rfl
  | cons a acts ih =>
    cases a with
    | step machine => exact ih h
    | log event => exact ih (h.log event)
    | write channel text kept =>
      rw [List.cons_append, act, act, if_pos (h.fits channel text), if_pos (h.fits channel text)]
      exact ih (h.write channel text)

/-- Without log lines in it, a channel grows by what acts on unlimited outlets write there. -/
theorem written_act (h : o.Unlimited) (channel : Channel) (clear : o.Clear channel)
    (acts : List Act) : ((o.act acts).1.sink channel).written =
      (o.sink channel).written ++ (String.join (acts.map (Act.textOn channel))).toUTF8 := by
  induction acts generalizing o with
  | nil => simp [act]
  | cons a acts ih =>
    rw [List.map_cons, String.join_cons]
    cases a with
    | step machine =>
      rw [act, Act.textOn, String.empty_append]
      exact ih h clear
    | log event =>
      have clear' : (o.log event).Clear channel := clear.imp_right (o.verbosity_log event).trans
      rw [act, Act.textOn, String.empty_append, ih (h.log event) clear', sink_log clear]
    | write own text kept =>
      have clear' : (o.write own text).Clear channel :=
        clear.imp_right (o.verbosity_write own text).trans
      rw [act, if_pos (h.fits own text), ih (h.write own text) clear', written_write h,
        ByteArray.append_assoc, ← Text.toUTF8_append, Act.textOn]

/-- A reply on unlimited outlets comes to its session and its result. -/
theorem play_of_unlimited (h : o.Unlimited) (r : Reply) :
    o.play r = ((o.act r.acts).1, r.session, r.result) := by
  have accepted := (act_of_unlimited h r.acts).1
  unfold play
  split
  · next after eq => rw [eq]
  · next after kept eq => simp [eq] at accepted

/-- A reply on unlimited outlets adds to the output what it writes there. -/
theorem output_play_of_unlimited (h : o.Unlimited) (r : Reply) :
    (o.play r).1.Unlimited ∧
      (o.play r).1.output.written = o.output.written ++ (r.textOn .output).toUTF8 := by
  rw [play_of_unlimited h]
  exact ⟨(act_of_unlimited h r.acts).2, written_act h .output (.inl rfl) r.acts⟩

end Outlets

namespace Console

variable {c d : Console}

/-! ## Rounds of a console -/

/-- The second console is the first one after a reply, on outlets that take everything. -/
structure Plays (c : Console) (r : Reply) (d : Console) : Prop where
  session : d.session = r.session
  input : d.input = c.input
  unlimited : d.outlets.Unlimited
  output : d.outlets.output.written =
    c.outlets.output.written ++ (r.textOn .output).toUTF8
  verbosity : d.outlets.verbosity = c.outlets.verbosity
  diagnostics : c.outlets.verbosity = none → d.outlets.diagnostics.written =
    c.outlets.diagnostics.written ++ (r.textOn .diagnostics).toUTF8

theorem play_of_unlimited (h : c.outlets.Unlimited) (r : Reply) :
    c.play r =
      ({ c with session := r.session, outlets := (c.outlets.act r.acts).1 }, r.result) := by
  rw [play, Outlets.play_of_unlimited h]

theorem exists_plays (h : c.outlets.Unlimited) (r : Reply) :
    ∃ d, c.play r = (d, r.result) ∧ c.Plays r d := by
  exact ⟨_, play_of_unlimited h r, rfl, rfl,
    (Outlets.act_of_unlimited h r.acts).2, Outlets.written_act h .output (.inl rfl) r.acts,
    Outlets.verbosity_act _ _, fun quiet => Outlets.written_act h .diagnostics (.inr quiet) r.acts⟩

/-- Going on comes to what the session replies; a prompt at the end puts nothing out. -/
theorem exists_tick (h : c.outlets.Unlimited) : ∃ d, c.tick = (d, c.session.advance.result) ∧
    d.session = c.session.advance.session ∧ d.input = c.input ∧ d.outlets.Unlimited ∧
    d.outlets.output.written =
      c.outlets.output.written ++ (c.session.advance.textOn .output).toUTF8 := by
  obtain ⟨d, eq, plays⟩ := exists_plays h c.session.advance
  by_cases asks : c.session.advance.result = .ok .needCommand
  · obtain ⟨e, prompt, asked⟩ := exists_plays plays.unlimited d.session.ask
    rw [asks] at eq
    refine ⟨e, ?_, asked.session.trans plays.session, asked.input.trans plays.input,
      asked.unlimited, ?_⟩
    · rw [tick, eq, asks]
      exact prompt
    · rw [asked.output, plays.output]
      exact ByteArray.append_empty
  · refine ⟨d, ?_, plays.session, plays.input, plays.unlimited, plays.output⟩
    rw [tick, eq]
    split
    · next d' needs => exact absurd (Prod.mk.inj needs).2 asks
    · rfl

/-- Handing over a line comes to what the session replies to it. -/
theorem exists_feed (h : c.outlets.Unlimited) :
    ∃ d, c.feed = (d, (c.session.take c.input.head?).result) ∧
      Plays { c with input := c.input.tail } (c.session.take c.input.head?) d :=
  exists_plays (c := { c with input := c.input.tail }) h _

end Console

end RegisterVM
