import RegisterVM.Proofs.Console.InPlace
import RegisterVM.Proofs.Console.Unlimited
import RegisterVM.Proofs.Debugger.Invariant

/-!
# Sinks that run full

Two runs of one console are compared: one on sinks that take everything, and one on sinks that
take only so many bytes each.  The two go together text by text.  Either everything that the first
run writes fits, and then there is no difference; or there is a first text that does not fit, and
the second run stops there with an error, at the session that the first run has at this moment.

## How the comparison is carried through

Nothing is said of the twenty or so places where a session writes.  `Work.InStep` says that a
piece of work does what was just described, from any two desks that have gone together so far; it
holds of a change, of a log line and above all of a text (`inStep_write`), and it holds of two
pieces of work one after the other when it holds of both (`InStep.bind`).  A reply is a sequence
of such pieces, so every call of a session is in step, and the run is by induction on its rounds.

Both desks keep a record of what was written, and the limits are limits on the record as a whole.
So there is nothing to be added up when one piece of work follows another: a record that does not
fit does not fit any better when it grows.

* `Writing.bytes`, `Fits`: what a record comes to on a channel, and that it is within the limits.
* `Desk.Free`, `Twin`, `Stopped`: the desk that takes everything; the one that goes together with
  it; and the one that has refused a text.
* `Work.InStep`: the comparison, for one piece of work.
* `limited_run_stops_at_first_refusal`: the main statement.
-/

namespace RegisterVM

/-! ## Records -/

/-- The bytes that some writings come to on a channel. -/
def Writing.bytes (channel : Channel) (ws : List Writing) : ByteArray :=
  (String.join (ws.map fun w => if w.channel = channel then w.text else "")).toUTF8

/-- The writings are within the limit of each channel. -/
def Fits (limit : Channel → Nat) (ws : List Writing) : Prop :=
  ∀ channel, (Writing.bytes channel ws).size ≤ limit channel

namespace Writing

theorem bytes_append (channel : Channel) (ws vs : List Writing) :
    bytes channel (ws ++ vs) = bytes channel ws ++ bytes channel vs := by
  rw [bytes, List.map_append, String.join_append, Text.toUTF8_append]
  rfl

/-- A text grows what its own channel comes to. -/
theorem bytes_concat (channel : Channel) (ws : List Writing) (w : Writing) :
    bytes channel (ws ++ [w]) =
      if w.channel = channel then bytes channel ws ++ w.text.toUTF8 else bytes channel ws := by
  rw [bytes_append]
  have last : bytes channel [w] = (if w.channel = channel then w.text else "").toUTF8 := by
    simp [bytes]
  rw [last]
  split
  · rfl
  · exact ByteArray.append_empty

end Writing

/-- What fits, fits in part. -/
theorem Fits.of_prefix {limit : Channel → Nat} {ws vs : List Writing} (h : Fits limit vs)
    (part : ws <+: vs) : Fits limit ws := by
  obtain ⟨more, rfl⟩ := part
  intro channel
  have whole := h channel
  rw [Writing.bytes_append, ByteArray.size_append] at whole
  omega

/-- A text that fits is taken as a whole. -/
theorem Sink.write_of_le {written : ByteArray} {room : Nat} {text : String}
    (h : text.utf8ByteSize ≤ room) :
    write ⟨written, some room⟩ text =
      ⟨written ++ text.toUTF8, some (room - text.utf8ByteSize)⟩ := by
  have whole : text.toUTF8.extract 0 room = text.toUTF8 := Sink.extract_of_size_le h
  show Sink.mk (written ++ text.toUTF8.extract 0 room) _ = _
  rw [whole]

/-! ## Desks -/

namespace Desk

theorem sink_write (d : Desk) (channel : Channel) (text : String) (other : Channel) :
    (d.write channel text).outlets.sink other =
      if channel = other then (d.outlets.sink other).write text else d.outlets.sink other :=
  d.outlets.sink_write channel text other

theorem bytes_write (d : Desk) (channel : Channel) (text : String) (other : Channel) :
    Writing.bytes other (d.write channel text).record =
      if channel = other then Writing.bytes other d.record ++ text.toUTF8
      else Writing.bytes other d.record :=
  Writing.bytes_concat other d.record _

theorem verbosity_write (d : Desk) (channel : Channel) (text : String) :
    (d.write channel text).outlets.verbosity = d.outlets.verbosity :=
  d.outlets.verbosity_write channel text

end Desk

/-- The sinks take everything and hold what is on record, and nothing is logged. -/
structure Desk.Free (f : Desk) : Prop where
  sink : ∀ channel, f.outlets.sink channel = ⟨Writing.bytes channel f.record, none⟩
  quiet : f.outlets.verbosity = none

/-- The first desk has done the same as the second one, on sinks with limits. -/
structure Twin (limit : Channel → Nat) (t f : Desk) : Prop where
  session : t.session = f.session
  input : t.input = f.input
  record : t.record = f.record
  fits : Fits limit f.record
  sink : ∀ channel, t.outlets.sink channel =
    ⟨Writing.bytes channel f.record,
      some (limit channel - (Writing.bytes channel f.record).size)⟩
  quiet : t.outlets.verbosity = none

/-- The desk has refused a text, the first of the record that does not fit.  It is left with the
session of this moment, and each sink has what it has room for. -/
structure Stopped (limit : Channel → Nat) (t : Desk) (ws : List Writing) : Prop where
  part : t.record <+: ws
  last : ∃ before w, t.record = before ++ [w] ∧ Fits limit before ∧ t.session = w.session
  full : ¬ Fits limit t.record
  written : ∀ channel, (t.outlets.sink channel).written =
    (Writing.bytes channel t.record).extract 0 (limit channel)

variable {limit : Channel → Nat} {t f : Desk}

theorem Desk.Free.write (h : f.Free) (channel : Channel) (text : String) :
    (f.write channel text).Free := by
  refine ⟨fun other => ?_, (f.verbosity_write channel text).trans h.quiet⟩
  rw [Desk.sink_write, Desk.bytes_write, h.sink other]
  split <;> rfl

namespace Twin

theorem record_write (h : Twin limit t f) (channel : Channel) (text : String) :
    (t.write channel text).record = (f.write channel text).record := by
  rw [Desk.write, Desk.write, h.record, h.session]

/-- A text is taken exactly when the record with it fits. -/
theorem fits_iff (h : Twin limit t f) (channel : Channel) (text : String) :
    (t.outlets.sink channel).fits text = true ↔ Fits limit (f.write channel text).record := by
  have size : text.toUTF8.size = text.utf8ByteSize := rfl
  have before := h.fits channel
  rw [h.sink channel, Sink.fits_eq_true_iff]
  constructor
  · intro room other
    have room := room _ rfl
    rw [Desk.bytes_write]
    split
    · next same =>
      subst same
      rw [ByteArray.size_append]
      omega
    · exact h.fits other
  · intro fits room here
    obtain rfl := Option.some.inj here
    have fits := fits channel
    rw [Desk.bytes_write, if_pos rfl, ByteArray.size_append] at fits
    omega

/-- A text that fits is taken by both. -/
theorem write (h : Twin limit t f) {channel : Channel} {text : String}
    (fits : Fits limit (f.write channel text).record) :
    Twin limit (t.write channel text) (f.write channel text) := by
  have taken := (h.fits_iff channel text).mpr fits
  refine ⟨h.session, h.input, h.record_write channel text, fits, fun other => ?_,
    (t.verbosity_write channel text).trans h.quiet⟩
  rw [Desk.sink_write, Desk.bytes_write]
  split
  · next same =>
    subst same
    rw [h.sink channel, Sink.fits_eq_true_iff] at taken
    rw [h.sink channel, Sink.write_of_le (taken _ rfl), ByteArray.size_append, Nat.sub_sub]
    rfl
  · exact h.sink other

/-- A text that does not fit stops the desk with limits. -/
theorem stopped (h : Twin limit t f) {channel : Channel} {text : String}
    (full : ¬ Fits limit (f.write channel text).record) :
    Stopped limit (t.write channel text) (f.write channel text).record := by
  have same := h.record_write channel text
  rw [← same] at full ⊢
  refine ⟨List.prefix_rfl, ⟨f.record, ⟨channel, text, t.session⟩, ?_, h.fits, rfl⟩, full,
    fun other => ?_⟩
  · rw [Desk.write, h.record]
  · rw [same, Desk.sink_write, Desk.bytes_write]
    split
    · next same =>
      subst same
      rw [h.sink channel, ByteArray.extract_append, Sink.extract_of_size_le (h.fits channel)]
      simp [Sink.write]
    · rw [h.sink other, Sink.extract_of_size_le (h.fits other)]

end Twin

/-- What is written later changes nothing for a desk that has stopped. -/
theorem Stopped.mono {ws vs : List Writing} (h : Stopped limit t ws) (more : ws <+: vs) :
    Stopped limit t vs :=
  ⟨h.part.trans more, h.last, h.full, h.written⟩

/-- What the sinks of a desk that has stopped hold is the beginning of what the record comes
to. -/
theorem Stopped.exists_more {ws : List Writing} (h : Stopped limit t ws) (channel : Channel) :
    ∃ more, Writing.bytes channel ws = (t.outlets.sink channel).written ++ more := by
  obtain ⟨rest, rfl⟩ := h.part
  have parts (bytes : ByteArray) (n : Nat) :
      bytes.extract 0 n ++ bytes.extract n bytes.size = bytes := by
    rw [ByteArray.extract_append_extract, Nat.zero_min]
    exact Sink.extract_of_size_le (Nat.le_max_right _ _)
  refine ⟨(Writing.bytes channel t.record).extract (limit channel)
    (Writing.bytes channel t.record).size ++ Writing.bytes channel rest, ?_⟩
  rw [h.written, ← ByteArray.append_assoc, parts, Writing.bytes_append]

/-! ## Work -/

namespace Work

variable {α β : Type}

/-- The work does the same at sinks with limits as long as what it writes fits, and stops at the
first text that does not. -/
structure InStep (limit : Channel → Nat) (x : Work α) : Prop where
  free : ∀ f : Desk, f.Free → (x.desk f).Free ∧ f.record <+: (x.desk f).record
  fits : ∀ t f : Desk, f.Free → Twin limit t f → Fits limit (x.desk f).record →
    x.result t = x.result f ∧ Twin limit (x.desk t) (x.desk f)
  full : ∀ t f : Desk, f.Free → Twin limit t f → ¬ Fits limit (x.desk f).record →
    x.result t = .error (.unwritable "sink full") ∧ Stopped limit (x.desk t) (x.desk f).record

/-- What the session and the input come to is decided by themselves, and nothing is written. -/
theorem inStep_of_still {x : Work α}
    (g : Session → List InputLine → Except SessionError α × Session × List InputLine)
    (still : ∀ d : Desk, d.outlets.verbosity = none →
      x.result d = (g d.session d.input).1 ∧
        x.desk d = { d with
          session := (g d.session d.input).2.1
          input := (g d.session d.input).2.2 }) : InStep limit x := by
  refine ⟨fun f free => ?_, fun t f free twin _ => ?_, fun t f free twin full => ?_⟩
  · rw [(still f free.quiet).2]
    exact ⟨⟨free.sink, free.quiet⟩, List.prefix_rfl⟩
  · obtain ⟨result, desk⟩ := still f free.quiet
    obtain ⟨result', desk'⟩ := still t twin.quiet
    rw [result, desk, result', desk', twin.session, twin.input]
    exact ⟨rfl, rfl, rfl, twin.record, twin.fits, twin.sink, twin.quiet⟩
  · rw [(still f free.quiet).2] at full
    exact absurd twin.fits full

theorem inStep_pure (a : α) : InStep limit (pure a : Work α) :=
  inStep_of_still (fun s input => (.ok a, s, input)) fun _ _ => ⟨rfl, rfl⟩

theorem inStep_conclude (result : Except SessionError α) : InStep limit (conclude result) := by
  refine inStep_of_still (fun s input => (result, s, input)) fun _ _ => ?_
  cases result <;> exact ⟨rfl, rfl⟩

theorem inStep_session : InStep limit session :=
  inStep_of_still (fun s input => (.ok s, s, input)) fun _ _ => ⟨rfl, rfl⟩

theorem inStep_change (g : Session → Session) : InStep limit (change g) :=
  inStep_of_still (fun s input => (.ok (), g s, input)) fun _ _ => ⟨rfl, rfl⟩

theorem inStep_readLine : InStep limit readLine :=
  inStep_of_still (fun s input => (.ok input.head?, s, input.tail)) fun _ _ => ⟨rfl, rfl⟩

theorem inStep_log (event : Event) : InStep limit (log event) := by
  refine inStep_of_still (fun s input => (.ok (), s, input)) fun d quiet => ⟨rfl, ?_⟩
  show { d with outlets := d.outlets.log event } = d
  rw [Outlets.log_of_quiet quiet]

theorem inStep_write (channel : Channel) (text : String) :
    InStep limit (write channel text) := by
  have taken {d : Desk} (h : (d.outlets.sink channel).fits text = true) :
      write channel text d = .ok () (d.write channel text) := if_pos h
  have refused {d : Desk} (h : ¬ (d.outlets.sink channel).fits text = true) :
      write channel text d = .error (.unwritable "sink full") (d.write channel text) := if_neg h
  have free {f : Desk} (h : f.Free) : (f.outlets.sink channel).fits text = true := by
    rw [h.sink]
    rfl
  refine ⟨fun f h => ?_, fun t f h twin fits => ?_, fun t f h twin full => ?_⟩
  · rw [desk, taken (free h)]
    exact ⟨h.write channel text, List.prefix_append _ _⟩
  · rw [desk, taken (free h)] at fits
    have goes := taken ((twin.fits_iff channel text).mpr fits)
    rw [result, result, desk, desk, taken (free h), goes]
    exact ⟨rfl, twin.write fits⟩
  · rw [desk, taken (free h)] at full
    have stops := refused (mt (twin.fits_iff channel text).mp full)
    rw [result, desk, desk, taken (free h), stops]
    exact ⟨rfl, twin.stopped full⟩

theorem desk_bind (x : Work α) (k : α → Work β) (d : Desk) :
    (x >>= k).desk d = match x.result d with
      | .ok a => (k a).desk (x.desk d)
      | .error _ => x.desk d := by
  rcases h : x d with ⟨a, e⟩ | ⟨cause, e⟩
  · rw [desk, bind_of_ok h, result, desk, h]
    rfl
  · rw [desk, bind_of_error h, result, desk, h]

theorem result_bind (x : Work α) (k : α → Work β) (d : Desk) :
    (x >>= k).result d = match x.result d with
      | .ok a => (k a).result (x.desk d)
      | .error cause => .error cause := by
  rcases h : x d with ⟨a, e⟩ | ⟨cause, e⟩
  · rw [result, bind_of_ok h, result, desk, h]
    rfl
  · rw [result, bind_of_error h, result, h]

/-- Work behind work is in step. -/
theorem InStep.bind {x : Work α} {k : α → Work β} (hx : InStep limit x)
    (hk : ∀ a, InStep limit (k a)) : InStep limit (x >>= k) := by
  refine ⟨fun f free => ?_, fun t f free twin fits => ?_, fun t f free twin full => ?_⟩
  · obtain ⟨free', grows⟩ := hx.free f free
    rw [desk_bind]
    cases x.result f with
    | error cause => exact ⟨free', grows⟩
    | ok a =>
      obtain ⟨free'', grows'⟩ := (hk a).free _ free'
      exact ⟨free'', grows.trans grows'⟩
  · obtain ⟨free', -⟩ := hx.free f free
    rw [desk_bind] at fits
    have first : Fits limit (x.desk f).record := by
      cases eq : x.result f with
      | error cause =>
        rw [eq] at fits
        exact fits
      | ok a =>
        rw [eq] at fits
        exact fits.of_prefix ((hk a).free _ free').2
    obtain ⟨same, twin'⟩ := hx.fits t f free twin first
    rw [result_bind, result_bind, desk_bind, desk_bind, same]
    cases eq : x.result f with
    | error cause => exact ⟨rfl, twin'⟩
    | ok a =>
      rw [eq] at fits
      exact (hk a).fits _ _ free' twin' fits
  · obtain ⟨free', -⟩ := hx.free f free
    rw [desk_bind] at full
    by_cases first : Fits limit (x.desk f).record
    · obtain ⟨same, twin'⟩ := hx.fits t f free twin first
      rw [result_bind, desk_bind, desk_bind, same]
      cases eq : x.result f with
      | error cause =>
        rw [eq] at full
        exact absurd first full
      | ok a =>
        rw [eq] at full
        exact (hk a).full _ _ free' twin' full
    · -- the first work has stopped already, and the second only adds to the record
      obtain ⟨stops, stopped⟩ := hx.full t f free twin first
      rw [result_bind, desk_bind, desk_bind, stops]
      refine ⟨rfl, ?_⟩
      cases x.result f with
      | error cause => exact stopped
      | ok a => exact stopped.mono ((hk a).free _ free').2

/-! ## Calls and rounds -/

theorem inStep_replay (s : Session) (result : Except SessionError Poll) (acts : List Act) :
    InStep limit (replay s result acts) := by
  induction acts with
  | nil => exact (inStep_change _).bind fun _ => inStep_conclude result
  | cons a acts ih =>
    cases a with
    | log event => exact (inStep_log event).bind fun _ => ih
    | step machine => exact ih
    | write channel text kept =>
      exact (inStep_change _).bind fun _ => (inStep_write channel text).bind fun _ => ih

/-- Work that comes to a reply of the session is in step. -/
theorem inStep_of_reply {x : Work Poll} {r : Session → Reply}
    (h : ∀ d : Desk, x d = ofReply (r d.session) d) : InStep limit x := by
  have eq : x = session >>= fun s => ofReply (r s) := funext h
  rw [eq]
  exact inStep_session.bind fun s => inStep_replay _ _ _

theorem inStep_submit (line : Option String) : InStep limit (submit line) :=
  inStep_of_reply (r := fun s => s.submit line) (submit_eq line)

theorem inStep_readCommandLine : InStep limit readCommandLine := by
  refine inStep_readLine.bind fun line => ?_
  rcases line with _ | line | _
  · exact inStep_pure none
  · exact inStep_pure (some line)
  · exact (inStep_write _ _).bind fun _ => inStep_pure none

theorem inStep_turn : InStep limit turn := by
  refine (inStep_of_reply advance_eq).bind fun poll => ?_
  cases poll with
  | needCommand =>
    refine inStep_session.bind fun s => (inStep_write _ _).bind fun _ => ?_
    exact inStep_readCommandLine.bind fun line => inStep_submit line
  | running => exact inStep_pure _
  | finished exit => exact inStep_pure _

/-- A run is in step. -/
theorem inStep_run (fuel : Nat) : InStep limit (run fuel) := by
  induction fuel with
  | zero => exact inStep_pure none
  | succ fuel ih =>
    refine inStep_turn.bind fun poll => ?_
    cases poll with
    | finished exit => exact inStep_pure (some exit)
    | running => exact ih
    | needCommand => exact ih

/-- The console of an answer is that of the desk which the run leaves. -/
theorem console_of_answer {x : Work (Option Exit)} {d : Desk} {c : Console}
    {y : Except SessionError Exit} (h : x.answer d = some (c, y)) :
    c = (x.desk d).toConsole := by
  unfold answer at h
  split at h
  · cases h
  · exact (congrArg Prod.fst (Option.some.inj h)).symm
  · exact (congrArg Prod.fst (Option.some.inj h)).symm

end Work

/-! ## Single texts -/

/-- When the first text of a reply is refused, what it keeps is what is left. -/
theorem Outlets.play_of_refused {o : Outlets} {r : Reply} (before : List Act)
    {after : List Act} {channel : Channel} {text : String} {kept : Session}
    (quiet : o.verbosity = none) (acts : r.acts = before ++ .write channel text kept :: after)
    (silent : before.filterMap Act.kept? = []) (full : (o.sink channel).fits text = false) :
    (o.play r).2 = (kept, .error (.unwritable "sink full")) := by
  have refused : (o.act r.acts).2 = some kept := by
    rw [acts]
    clear acts
    induction before with
    | nil => simp [act, full]
    | cons a before ih =>
      cases a with
      | step machine => exact ih silent
      | log event =>
        rw [List.cons_append, act, log_of_quiet quiet]
        exact ih silent
      | write channel text kept => simp [Act.kept?] at silent
  rw [play_eq, refused]

/-- What a session is left with when the outlets refuse the text of a call. -/
structure Session.LeftBehind (s : Session) (o : Outlets) : Prop where
  /-- An output has been executed, and once. -/
  output {value : Word} (outcome : s.machine.step.outcome = .ok (.output value))
    (full : (o.sink .output).fits (Text.line value.text) = false) :
    (o.play s.execute).2 =
      ({ s with machine := s.machine.next }, .error (.unwritable "sink full"))
  /-- A breakpoint has not paused the session. -/
  hit (hd : s.debug = true) (hp : s.paused = false) (hb : s.atBreakpoint = true)
    (full : (o.sink .diagnostics).fits
      (Text.line ("Hit breakpoint at " ++ s.machine.ip.text)) = false) :
    (o.play s.advance).2 = (s, .error (.unwritable "sink full"))
  /-- A fault has not paused the session. -/
  fault {fault : Fault} (hd : s.debug = true) (outcome : s.machine.step.outcome = .error fault)
    (full : (o.sink .diagnostics).fits (Text.line fault.message) = false) :
    (o.play s.execute).2 = (s, .error (.unwritable "sink full"))
  /-- The operator has not gone. -/
  endInput (full : (o.sink .diagnostics).fits "\nEnd of input, continuing program\n" = false) :
    (o.play (s.submit none)).2 = (s, .error (.unwritable "sink full"))
  /-- The breakpoint is set. -/
  breakAt {arg : Option String} {a : Address} (resolved : s.breakAddress arg = .ok a)
    (full : (o.sink .diagnostics).fits
      (Text.line ("Breakpoint set at address " ++ a.text)) = false) :
    (o.play (s.perform (.breakAt arg))).2 =
      ({ s with breakpoint := some a }, .error (.unwritable "sink full"))
  /-- The breakpoint is deleted. -/
  deleteBreak {a : Address} (set : s.breakpoint = some a)
    (full : (o.sink .diagnostics).fits
      (Text.line ("Breakpoint deleted (was " ++ a.text ++ ")")) = false) :
    (o.play (s.perform .deleteBreak)).2 =
      ({ s with breakpoint := none }, .error (.unwritable "sink full"))

theorem Session.leftBehind (s : Session) {o : Outlets} (quiet : o.verbosity = none) :
    s.LeftBehind o where
  output {value} outcome full := by
    have reply : s.execute.acts = s.trace ++
        [.write .output (Text.line value.text) { s with machine := s.machine.step.machine }] := by
      simp only [execute, outcome]
    exact Outlets.play_of_refused s.trace quiet reply s.kept_trace full
  hit hd hp hb full := by
    rw [advance_of_hit hd hp hb]
    exact Outlets.play_of_refused [] quiet rfl rfl full
  fault {fault} hd outcome full := by
    have still : s.machine.step.machine = s.machine := Machine.machine_step_of_error outcome
    have reply : s.execute.acts = (s.trace ++ [.log (.faulted fault s.machine)]) ++
        [.write .diagnostics (Text.line fault.message) s] := by
      simp only [execute, outcome, still, if_pos hd, List.append_assoc]
      rfl
    refine Outlets.play_of_refused _ quiet reply ?_ full
    rw [List.filterMap_append, s.kept_trace]
    rfl
  endInput full := Outlets.play_of_refused [] quiet rfl rfl full
  breakAt resolved full := by
    simp only [perform, resolved]
    exact Outlets.play_of_refused [] quiet rfl rfl full
  deleteBreak set full := by
    simp only [perform, set]
    exact Outlets.play_of_refused [] quiet rfl rfl full

/-! ## The main statement -/

/-- Two runs have ended alike: with one result, one session and one rest of the input, and the same
bytes in their sinks. -/
def EndAlike (a b : Console × Except SessionError Exit) : Prop :=
  a.2 = b.2 ∧ a.1.session = b.1.session ∧ a.1.input = b.1.input ∧
    ∀ channel, (a.1.outlets.sink channel).written = (b.1.outlets.sink channel).written

/-- **A run stops at the first text that its sinks refuse.**  Let a session be run on sinks that
take everything and on sinks that take only so many bytes each.  Whatever the session, the input
and the limits are, and however long the two are run:

* A run is carried out in place, one change and one text after the other, and what the first run
  writes is its record.
* If the record is within the limits, both runs end alike or neither has ended.
* Otherwise the second run ends at the first text of the record that exceeds a limit, with an
  error.  Its session is the one in place when this text was written, and its sinks hold what they
  have room for, which is the beginning of what the first run writes.
* What a session is left with at the texts that stand next to its changes. -/
theorem limited_run_stops_at_first_refusal (s : Session) (input : ByteArray)
    (limit : Channel → Nat) (fuel : Nat) :
    let console (room : Channel → Option Nat) : Console :=
      ⟨s, ⟨.empty (room .output), .empty (room .diagnostics), none⟩, InputLine.ofBytes input⟩
    let free := console fun _ => none
    let tight := console fun channel => some (limit channel)
    let record := ((Work.run fuel).desk ⟨free, []⟩).record
    ((∀ c, (Work.run fuel).answer ⟨c, []⟩ = c.run fuel) ∧
      ∀ c x, free.run fuel = some (c, x) →
        ∀ channel, (c.outlets.sink channel).written = Writing.bytes channel record) ∧
    (Fits limit record → Option.Rel EndAlike (tight.run fuel) (free.run fuel)) ∧
    (¬ Fits limit record → ∃ before w c, before ++ [w] <+: record ∧
      Fits limit before ∧ ¬ Fits limit (before ++ [w]) ∧
      tight.run fuel = some (c, .error (.unwritable "sink full")) ∧ c.session = w.session ∧
      ∀ channel, (c.outlets.sink channel).written =
          (Writing.bytes channel (before ++ [w])).extract 0 (limit channel) ∧
        ∃ more, Writing.bytes channel record = (c.outlets.sink channel).written ++ more) ∧
    ∀ o : Outlets, o.verbosity = none → s.LeftBehind o := by
  intro console free tight record
  have inPlace (c : Console) : (Work.run fuel).answer ⟨c, []⟩ = c.run fuel :=
    Work.answer_run fuel ⟨c, []⟩
  have free₀ : Desk.Free ⟨free, []⟩ := by
    refine ⟨fun channel => ?_, rfl⟩
    cases channel <;> rfl
  have twin₀ : Twin limit ⟨tight, []⟩ ⟨free, []⟩ := by
    refine ⟨rfl, rfl, rfl, fun channel => Nat.zero_le _, fun channel => ?_, rfl⟩
    cases channel <;> rfl
  obtain ⟨goes, fits, full⟩ : Work.InStep limit (Work.run fuel) := Work.inStep_run fuel
  obtain ⟨free₁, -⟩ := goes _ free₀
  refine ⟨⟨inPlace, fun c x ran channel => ?_⟩, fun within => ?_, fun beyond => ?_,
    fun o => s.leftBehind⟩
  · rw [← inPlace] at ran
    rw [Work.console_of_answer ran, free₁.sink channel]
  · obtain ⟨same, twin⟩ := fits _ _ free₀ twin₀ within
    rw [← inPlace, ← inPlace, Work.answer, Work.answer, same]
    have alike (x : Except SessionError Exit) : EndAlike
        (((Work.run fuel).desk ⟨tight, []⟩).toConsole, x)
        (((Work.run fuel).desk ⟨free, []⟩).toConsole, x) := by
      refine ⟨rfl, twin.session, twin.input, fun channel => ?_⟩
      dsimp only
      rw [twin.sink channel, free₁.sink channel]
    rcases (Work.run fuel).result ⟨free, []⟩ with cause | _ | exit
    · exact .some (alike _)
    · exact .none
    · exact .some (alike _)
  · obtain ⟨stops, stopped⟩ := full _ _ free₀ twin₀ beyond
    obtain ⟨before, w, last, fits, session⟩ := stopped.last
    have part := stopped.part
    have overflow := stopped.full
    rw [last] at part overflow
    refine ⟨before, w, _, part, fits, overflow, ?_, session, fun channel => ?_⟩
    · rw [← inPlace, Work.answer, stops]
    · have written := stopped.written channel
      rw [last] at written
      exact ⟨written, stopped.exists_more channel⟩

/-- A diagnostics sink of twenty bytes takes a prompt and ten bytes of the message that a
breakpoint is set.  The breakpoint is set. -/
theorem limited_run_stops_at_first_refusal_seven :
    let s : Session := ⟨.constant "seven" (.ok .seven), .ofImage .seven, true, true, none, 0⟩
    let tight : Console :=
      ⟨s, ⟨.empty (some 20), .empty (some 20), none⟩, InputLine.ofBytes "break 3\n".toUTF8⟩
    ∃ c, tight.run 2 = some (c, .error (.unwritable "sink full")) ∧
      c.session.breakpoint = some 3 ∧
      c.outlets.diagnostics.written = "dbg[000]> Breakpoint".toUTF8 := by
  intro s tight
  obtain ⟨-, -, stops, -⟩ := limited_run_stops_at_first_refusal s "break 3\n".toUTF8
    (fun _ => 20) 2
  have beyond : ¬ Fits (fun _ => 20) ((Work.run 2).desk ⟨⟨s,
      ⟨.empty none, .empty none, none⟩, InputLine.ofBytes "break 3\n".toUTF8⟩, []⟩).record := by
    intro fits
    exact absurd (fits .diagnostics) (by decide +kernel)
  obtain ⟨before, w, c, -, -, -, ran, -, -⟩ := stops beyond
  have seen : (tight.run 2).map (fun x =>
      (x.1.session.breakpoint, x.1.outlets.diagnostics.written)) =
        some (some 3, "dbg[000]> Breakpoint".toUTF8) := by
    decide +kernel
  rw [ran, Option.map_some, Option.some.injEq, Prod.mk.injEq] at seen
  exact ⟨c, ran, seen⟩

end RegisterVM
