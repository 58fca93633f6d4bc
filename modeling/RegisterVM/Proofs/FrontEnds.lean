import RegisterVM.Proofs.Console.Dialogue
import RegisterVM.Proofs.Console.Input
import RegisterVM.Proofs.Fullscreen.Dialogue

/-!
# The two front ends agree

The console and the application drive the same session, the one by the results of its calls,
the other by its mode and in batches.  Both were compared with the dialogue that the session
has with anyone who hands over the lines one by one; so they agree with each other, prompt by
prompt and in how they end.

* `Agree`: the same session, and the same values put out.
* `front_ends_agree`: the main statement.
-/

namespace RegisterVM

/-- The console and the stage stand at the same session, and the same values were put out. -/
structure Agree (c : Console) (g : Stage) : Prop where
  session : c.session = g.app.session
  output : ∃ values : List Word,
    c.outlets.output.written = (Text.unlines (values.map Word.text)).toUTF8 ∧
      g.output = Text.unlines (values.map Word.text)

/-- A driver that stands where a dialogue leads puts out the values of its steps. -/
theorem agree_of_obeys {s : Session} {lines : List String} {i : Nat} {r : Reply} {c : Console}
    {g : Stage} (obeys : s.Obeys lines i r) (tells : c.Tells r) (shows : g.Shows r) :
    Agree c g where
  session := tells.session.trans shows.session.symm
  output := ⟨r.stepped.filterMap Machine.output?, by rw [tells.output, obeys.faithful]; rfl,
    by rw [shows.output, obeys.faithful]; rfl⟩

/-- A session that has just been loaded with debugging waits. -/
theorem Session.waits_of_start {source : Source} {s : Session}
    (h : Session.start source true = .ok s) : s.Waits := by
  obtain ⟨image, -, rfl⟩ := start_eq_ok_iff.mp h
  exact ⟨rfl, rfl, rfl⟩

/-- **The two front ends agree.**  Let a program be loaded with debugging, and let the console
read some lines, on outlets that take everything, while the application is handed the same
lines one by one, each with as many batches as it takes behind it.

* The console prompts for the `i`-th time, counted from zero, exactly when the application has
  followed `i` lines, is paused and was not told to quit; then both are at the same session,
  and the same values were put out.
* The console returns with a line exactly when the application shows the end there: halted,
  told to quit, or stopped with the same error; then too they agree.
* The batches show nowhere: the application is where the session itself comes to when it takes
  the lines and goes on one round at a time.

The prompts and returns of the console are those of its loop, for any fuel that reaches so
far. -/
theorem front_ends_agree {source : Source} {s : Session}
    (loaded : Session.start source true = .ok s) (lines : List String)
    (unbroken : ∀ line ∈ lines, '\n' ∉ line.toList) (verbosity : Option Level) :
    let c : Console := ⟨s, ⟨.empty none, .empty none, verbosity⟩,
      InputLine.ofBytes (Text.unlines lines).toUTF8⟩
    let g : Stage := ⟨App.start s, ""⟩
    (∀ i ≤ lines.length,
      ((∃ d, c.Prompts i d) ↔
        ∃ k, g.Follows lines i k ∧ k.app.mode = .paused ∧ k.app.shouldQuit = false) ∧
      ∀ d k, c.Prompts i d → g.Follows lines i k → Agree d k) ∧
    (∀ i ≤ lines.length, ∀ x : Except String Exit,
      ((∃ d y, c.Returns i d y ∧ y.mapError SessionError.message = x) ↔
        ∃ k, g.Follows lines i k ∧ k.app.Ended x) ∧
      ∀ d y k, c.Returns i d y → g.Follows lines i k → Agree d k) ∧
    (∀ i k, g.Follows lines i k → ∃ r, s.Obeys lines i r ∧ k.app.session = r.session ∧
      k.output = outputText r.stepped) ∧
    (∀ i d, c.Prompts i d → ∃ n, ∀ fuel, c.run (fuel + n + 1) = Console.resume fuel d.feed) ∧
    (∀ d y, (∃ fuel, c.run fuel = some (d, y)) ↔ ∃ i, c.Returns i d y) := by
  intro c g
  have waits := Session.waits_of_start loaded
  have opens : c.Opens s lines :=
    ⟨waits, ⟨rfl, Outlets.unlimited_empty verbosity, rfl⟩, InputLine.ofBytes_unlines unbroken⟩
  have shows : g.Shows (.silent s .needCommand) := ⟨rfl, rfl, rfl, rfl⟩
  refine ⟨fun i le => ⟨⟨?_, ?_⟩, ?_⟩, fun i le x => ⟨⟨?_, ?_⟩, ?_⟩, ?_,
    fun i d prompts => Console.run_of_prompts prompts, fun d y => Console.exists_run_iff⟩
  · rintro ⟨d, prompts⟩
    obtain ⟨r, obeys, asks, -, -⟩ := prompts.obeys opens le
    obtain ⟨k, follows, shown⟩ := Stage.exists_follows obeys waits shows
    have result := shown.result
    rw [asks] at result
    have paused := App.mode_eq_paused_iff.mpr
      ⟨result.1, shown.session ▸ (obeys.attended waits).asks asks⟩
    exact ⟨k, follows, paused, result.2⟩
  · rintro ⟨k, follows, paused, stays⟩
    obtain ⟨r, obeys, shown⟩ := follows.obeys waits shows
    have going := (App.mode_eq_paused_iff.mp paused).1
    exact Console.exists_prompts opens obeys
      (shown.result.eq_needCommand ⟨going, stays⟩ obeys.not_running)
  · intro d k prompts follows
    obtain ⟨r, obeys, -, tells, -⟩ := prompts.obeys opens le
    obtain ⟨r', obeys', shown⟩ := follows.obeys waits shows
    obtain rfl := obeys.unique obeys'
    exact agree_of_obeys obeys tells shown
  · rintro ⟨d, y, returns, rfl⟩
    obtain ⟨r, obeys, ends, -⟩ := returns.obeys opens le
    obtain ⟨k, follows, shown⟩ := Stage.exists_follows obeys waits shows
    exact ⟨k, follows, (App.ended_iff shown.result _).mpr (by rw [ends]; rfl)⟩
  · rintro ⟨k, follows, ended⟩
    obtain ⟨r, obeys, shown⟩ := follows.obeys waits shows
    obtain ⟨y, ends, rfl⟩ := Option.map_eq_some_iff.mp ((App.ended_iff shown.result x).mp ended)
    obtain ⟨d, returns⟩ := Console.exists_returns opens obeys ends
    exact ⟨d, y, returns, rfl⟩
  · intro d y k returns follows
    obtain ⟨r, obeys, -, tells⟩ := returns.obeys opens le
    obtain ⟨r', obeys', shown⟩ := follows.obeys waits shows
    obtain rfl := obeys.unique obeys'
    exact agree_of_obeys obeys tells shown
  · intro i k follows
    obtain ⟨r, obeys, shown⟩ := follows.obeys waits shows
    exact ⟨r, obeys, shown.session, by rw [shown.output, obeys.faithful]⟩

/-- A program that runs to its end in one batch behind the only line: the application shows
that it halted, and so the console returns with this line, at the same session and with the
same output. -/
theorem front_ends_agree_seven :
    let s : Session :=
      ⟨.constant "seven" (.ok .seven), .ofImage .seven, true, true, none, 0⟩
    let c : Console := ⟨s, ⟨.empty none, .empty none, none⟩,
      InputLine.ofBytes (Text.unlines ["continue"]).toUTF8⟩
    let g : Stage := ⟨App.start s, ""⟩
    ∃ d k, c.Returns 1 d (.ok .halted) ∧ g.Follows ["continue"] 1 k ∧
      k.app.Ended (.ok .halted) ∧ Agree d k := by
  intro s c g
  have loaded : Session.start (.constant "seven" (.ok .seven)) true = .ok s := rfl
  have unbroken : ∀ line ∈ ["continue"], '\n' ∉ line.toList := by decide
  obtain ⟨-, ends, -⟩ := front_ends_agree loaded ["continue"] unbroken none
  obtain ⟨both, agree⟩ := ends 1 le_rfl (.ok .halted)
  have runs : (g.submit "continue").app.mode = .running := by decide +kernel
  have stops : (g.submit "continue").runBatch.app.mode ≠ .running := by decide +kernel
  have finished : (g.submit "continue").runBatch.app.finished = true := by decide +kernel
  have last : (g.submit "continue").runBatch.app.logs.getLast? = some "Program halted" := by
    decide +kernel
  have follows : g.Follows ["continue"] 1 (g.submit "continue").runBatch :=
    .taken .opened ⟨rfl, rfl⟩ rfl (.batch runs (.still stops))
  obtain ⟨d, y, returns, eq⟩ := both.mpr ⟨_, follows, finished, last⟩
  cases y with
  | error e => exact absurd eq (by simp [Except.mapError])
  | ok exit =>
    obtain rfl : exit = .halted := Except.ok.inj eq
    exact ⟨d, _, returns, follows, ⟨finished, last⟩, agree d _ _ returns follows⟩

end RegisterVM
