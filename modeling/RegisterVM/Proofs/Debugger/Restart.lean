import RegisterVM.Proofs.Debugger.Arguments
import RegisterVM.Proofs.Debugger.Invariant
import RegisterVM.Proofs.Machine.Loading

/-!
# Restarting

A restart puts the machine of a fresh load in place of the machine that there is, or, when there
is no load, does nothing but fail.  Of all that a session has been through only the breakpoint
is left: a program that has written over its own code, a counted step that a fault cut short and
a machine that has halted are gone.

## Why it is enough to look at sessions

When the loads of the source do not differ, the restarted session *is* the session that was
started, its breakpoint apart, and the breakpoint is one that the operator could have set there.
This is an equation between sessions.  A session is all that later calls depend on, so no command
line can tell the two apart, and nothing has to be shown line by line.  What does have to be
shown is that no history leaves a mark on the source, whichever texts were refused on the way.

* `source_remains`: a call leaves the source as it is, or behind its next load.
* `source_after`: so a source whose loads are the same stays as it is through any history.
* `play_restart_of_ok`, `play_restart_of_error`: what a restart comes to on any outlets.
* `session_submit_breakLine`: a breakpoint at any address can be set by a command line.
* `restart_is_fresh_start`: the main statement.
-/

namespace RegisterVM

/-! ## The source of a session -/

/-- A source whose loads are all the same is the same after a load. -/
theorem Source.rest_eq_self {source : Source} (same : ∀ n, source.loads n = source.load) :
    source.rest = source := by
  obtain ⟨name, loads⟩ := source
  rw [rest]
  refine congrArg (Source.mk name) (funext fun n => ?_)
  exact (same (n + 1)).trans (same n).symm

namespace Session

variable {s : Session}

theorem source_execute (s : Session) : ∀ u ∈ s.execute.remains, u.source = s.source := by
  intro u mem
  rcases s.remains_execute u mem with rfl | rfl
  · rfl
  · rfl

theorem source_advance (s : Session) : ∀ u ∈ s.advance.remains, u.source = s.source := by
  unfold advance
  split
  · simp [Reply.remains, Act.kept?, pause]
  · split
    · split
      · simp [Reply.silent, Reply.remains]
      · next left eq => exact source_execute { s with pending := left }
    · exact s.source_execute

theorem source_perform (s : Session) (c : Command) :
    ∀ u ∈ (s.perform c).remains, u.source = s.source ∨ u.source = s.source.rest := by
  cases s.course c with
  | answers b text eq =>
    rw [eq]
    simp [Reply.remains, Act.kept?]
  | quits => simp [perform, Reply.silent, Reply.remains]
  | @counts arg count valid =>
    simp only [perform, valid]
    intro u mem
    exact .inl (source_execute { s with pending := count - 1 } u mem)
  | proceeds =>
    intro u mem
    exact .inl (source_execute { s with paused := false, pending := 0 } u mem)
  | restarts =>
    simp only [perform, reload]
    split <;> simp [Reply.remains, Act.kept?]

theorem source_submit (s : Session) (line : Option String) :
    ∀ u ∈ (s.submit line).remains, u.source = s.source ∨ u.source = s.source.rest := by
  cases line with
  | none => simp [submit, endInput, Reply.remains, Act.kept?]
  | some line =>
    simp only [submit]
    split
    · split
      · simp [Reply.silent, Reply.remains]
      · exact s.source_perform _
      · simp [Reply.remains, Act.kept?]
    · simp [Reply.silent, Reply.remains]

/-- Whatever is refused, a call leaves the source as it is, or behind its next load. -/
theorem source_remains (s : Session) (c : Call) :
    ∀ u ∈ (s.reply c).remains, u.source = s.source ∨ u.source = s.source.rest := by
  cases c with
  | advance => exact fun u mem => .inl (s.source_advance u mem)
  | submit line => exact s.source_submit line
  | perform command => exact s.source_perform command

/-! ## Histories -/

/-- The session after some calls, each on outlets of its own: any text may have been refused. -/
def after (s : Session) (history : List (Outlets × Call)) : Session :=
  history.foldl (fun t (o, c) => (o.play (t.reply c)).2.1) s

/-- A source whose loads are all the same is the same after any history. -/
theorem source_after (same : ∀ n, s.source.loads n = s.source.load)
    (history : List (Outlets × Call)) : (s.after history).source = s.source := by
  induction history generalizing s with
  | nil => rfl
  | cons call history ih =>
    obtain ⟨o, c⟩ := call
    have kept : (o.play (s.reply c)).2.1.source = s.source := by
      rcases s.source_remains c _ (o.session_play_mem_remains _) with eq | eq
      · exact eq
      · exact eq.trans (Source.rest_eq_self same)
    exact (ih (by rw [kept]; exact same)).trans kept

/-! ## Restarts -/

/-- A restart that finds a program replaces the machine, and forgets what is left of a counted
step. -/
theorem play_restart_of_ok {image : Image} (found : s.source.load = .ok image) (o : Outlets) :
    (o.play (s.perform .restart)).2 =
      ({ s with source := s.source.rest, machine := .ofImage image, pending := 0 },
        .ok .needCommand) := by
  simp only [perform, reload, found]
  rfl

/-- The session that a restart leaves when it finds a program. -/
theorem session_restart_of_ok {image : Image} (found : s.source.load = .ok image) :
    (s.perform .restart).session =
      { s with source := s.source.rest, machine := .ofImage image, pending := 0 } := by
  simp only [perform, reload, found]

/-- A restart that finds none leaves everything but the source, and writes and logs nothing. -/
theorem play_restart_of_error {cause : LoadError} (missing : s.source.load = .error cause)
    (o : Outlets) :
    o.play (s.perform .restart) =
      (o, { s with source := s.source.rest }, .error (.restart cause)) := by
  simp only [perform, reload, missing]
  rfl

end Session

/-! ## Setting a breakpoint -/

/-- The text of an address stands for the address, whatever the registers hold. -/
theorem resolveAddress_text (content : Register → Word) (a : Address) :
    resolveAddress content a.text = .ok a := by
  obtain ⟨isDigits, number⟩ := Text.Numeral.readNatural?_eq_some_iff.mp
    (Text.Numeral.readNatural?_natural a.val)
  have token : Text.trimBlanks a.text.toList = Text.Numeral.natural a.val := by
    rw [← String.toList_ofList (l := Text.trimBlanks a.text.toList)]
    exact (congrArg String.toList (Text.trim_decimal a.val)).trans String.toList_ofList
  refine resolveAddress_of_addressOf ?_
  rw [token]
  exact .literal (fun r named => named.not_isDigits isDigits) isDigits number

/-- The line that sets a breakpoint. -/
def breakLine (a : Address) : String := "break " ++ a.text

theorem Command.ofLine_breakLine (a : Address) :
    Command.ofLine (breakLine a) = some (.ok (.breakAt (some a.text))) :=
  ofLine_numbered "break" (by decide) (by decide) a.val

namespace Session

variable {s s₀ : Session}

/-- A breakpoint at any address can be set by a command line. -/
theorem session_submit_breakLine (hd : s.debug = true) (hp : s.paused = true) (a : Address) :
    (s.submit (some (breakLine a))).session = { s with breakpoint := some a } := by
  rw [submit_of_ofLine hd hp (Command.ofLine_breakLine a)]
  simp only [perform, breakAddress, resolveAddress_text]
  rfl

/-- The session after a command line that sets the breakpoint, when there is to be one. -/
def marked (s : Session) : Option Address → Session
  | some a => (s.submit (some (breakLine a))).session
  | none => s

/-- Marking a session without a breakpoint sets the breakpoint and nothing else. -/
theorem marked_eq (hd : s.debug = true) (hp : s.paused = true) (unset : s.breakpoint = none)
    (b : Option Address) : s.marked b = { s with breakpoint := b } := by
  cases b with
  | some a => exact session_submit_breakLine hd hp a
  | none =>
    rw [marked, ← unset]

/-! ## The main statement -/

/-- **A restart is a fresh start.**  Let a session with an operator be paused after any calls,
whatever they result in and whatever is refused on the way, and let the operator restart it.

* If the next load gives an image, the machine becomes that of the image and nothing is left of
  a counted step, while the breakpoint stays; if it fails, so does the restart, and nothing
  changes but that a load is behind.
* The machine of an image is the same whatever was there before the load, and every register and
  every cell of it is known.
* If all loads are the same, the session is then the fresh one with the same breakpoint set.  So
  it goes on as the fresh one would, at any console, and a second restart does nothing. -/
theorem restart_is_fresh_start {source : Source} {s₀ : Session}
    (loaded : start source true = .ok s₀) (history : List (Outlets × Call))
    (paused : (s₀.after history).isPaused = true) {line : String}
    (asked : Command.ofLine line = some (.ok .restart)) :
    let s := s₀.after history
    let t := (s.submit (some line)).session
    let fresh := s₀.marked s.breakpoint
    (∀ image, s.source.load = .ok image → ∀ o : Outlets,
      (o.play (s.submit (some line))).2 =
        ({ s with source := s.source.rest, machine := .ofImage image, pending := 0 },
          .ok .needCommand)) ∧
    (∀ cause, s.source.load = .error cause → ∀ o : Outlets,
      o.play (s.submit (some line)) =
        (o, { s with source := s.source.rest }, .error (.restart cause))) ∧
    (∀ image,
      (∀ m : Machine, m.load image = .ofImage image) ∧
      (∀ r, (Machine.ofImage image).reg r =
        if r = .fp ∨ r = .sp then Int32.ofNat image.words.length else 0) ∧
      ∀ a : Address, (Machine.ofImage image).cell a = image.words[a.val]?.getD 0) ∧
    ((∀ n, source.loads n = source.load) →
      t = fresh ∧
      (∀ o lines fuel, Console.run fuel ⟨t, o, lines⟩ = Console.run fuel ⟨fresh, o, lines⟩) ∧
      ∀ o : Outlets, (o.play (t.submit (some line))).2 = (t, .ok .needCommand)) := by
  intro s t fresh
  obtain ⟨hd, hp⟩ : s.debug = true ∧ s.paused = true := by
    simpa [isPaused] using paused
  have restarts : s.submit (some line) = s.perform .restart := submit_of_ofLine hd hp asked
  refine ⟨fun image found o => ?_, fun cause missing o => ?_,
    fun image => ⟨fun m => m.load_eq_ofImage image, Machine.reg_ofImage image,
      Machine.cell_ofImage image⟩, fun same => ?_⟩
  · rw [restarts]
    exact play_restart_of_ok found o
  · rw [restarts]
    exact play_restart_of_error missing o
  · obtain ⟨image, found, rfl⟩ := start_eq_ok_iff.mp loaded
    -- neither the start nor the history has moved the source
    have rest : source.rest = source := Source.rest_eq_self same
    have unmoved : s.source = source := by
      refine (source_after ?_ history).trans rest
      rw [rest]
      exact same
    have found' : s.source.load = .ok image := by rw [unmoved, found]
    have reloaded : t = ⟨source, .ofImage image, true, true, s.breakpoint, 0⟩ := by
      show (s.submit (some line)).session = _
      rw [restarts, session_restart_of_ok found', unmoved, rest, hd, hp]
    have equal : t = fresh := by
      show t = marked _ s.breakpoint
      rw [reloaded, marked_eq rfl rfl rfl, rest]
    refine ⟨equal, fun o lines fuel => by rw [equal], fun o => ?_⟩
    rw [reloaded, submit_of_ofLine rfl rfl asked, play_restart_of_ok found]
    simp only [rest]

/-- A counted step whose output was refused, after a break whose message was refused: the steps
that are left and the seven in the register are gone, and the breakpoint is not. -/
theorem restart_is_fresh_start_seven :
    let source : Source := .constant "seven" (.ok .seven)
    let full : Outlets := ⟨.empty (some 0), .empty (some 0), none⟩
    let s₀ : Session := ⟨source, .ofImage .seven, true, true, none, 0⟩
    let s := s₀.after
      [(full, .submit (some "break 3")), (full, .submit (some "step 5")), (full, .advance)]
    start source true = .ok s₀ ∧ s.pending = 3 ∧ s.machine.reg 1 = 7 ∧ s.breakpoint = some 3 ∧
      (s.submit (some "r")).session = (s₀.submit (some (breakLine 3))).session := by
  intro source full s₀ s
  have loaded : start source true = .ok s₀ := rfl
  have left : s.pending = 3 := by decide +kernel
  have seven : s.machine.reg 1 = 7 := by decide +kernel
  have set : s.breakpoint = some 3 := by decide +kernel
  have paused : s.isPaused = true := by decide +kernel
  have asked : Command.ofLine "r" = some (.ok .restart) := by decide +kernel
  obtain ⟨-, -, -, fresh⟩ := restart_is_fresh_start loaded _ paused asked
  obtain ⟨equal, -, -⟩ := fresh fun _ => rfl
  exact ⟨loaded, left, seven, set, equal.trans (congrArg s₀.marked set)⟩

end Session

end RegisterVM
