import RegisterVM.Proofs.Fullscreen.Panes
import RegisterVM.Proofs.Text.Lines

/-!
# The window on the log

The log is shown through a window that ends as many lines before its end as are scrolled out, and
that begins as many lines earlier as it is high.  Both places are differences that stop at zero, so
the window is always a part of the log: it gets shorter at the beginning of the log, and is empty
once all lines are scrolled out.

* `App.window`: the lines that are shown when so many lines are scrolled out.
* `App.take_append_visibleLogs_append_drop`: what the window is, and what it leaves out.
* `App.pageCount`: the number of pages; `pageCount_le_iff` says which windows are pages.
* `App.drop_eq_window_append`: a page further back shows the lines right before; from this
  `flatMap_window`, by induction on the pages: any number of them make up the end of the log.
* `App.shows_logs`, `App.getElem?_logRows`: the box on the screen.
* `App.pages_cover_log`: the main statement.
-/

namespace RegisterVM

open Screen

namespace App

variable (app : App) {width height j : Nat}

/-! ## One window -/

/-- What a window of the given height shows when `scroll` lines are scrolled out at the bottom. -/
def window (height scroll : Nat) : List String :=
  { app with logsScroll := scroll }.visibleLogs height

theorem logStart_le_logStop (height : Nat) : app.logStart height ≤ app.logStop := Nat.sub_le _ _

theorem logStop_le : app.logStop ≤ app.logs.length := Nat.sub_le _ _

/-- The window is as high as it may be, unless the log begins inside it. -/
theorem logStop_sub_logStart (height : Nat) :
    app.logStop - app.logStart height = min height app.logStop := by
  rw [logStart]
  omega

theorem length_visibleLogs (height : Nat) :
    (app.visibleLogs height).length = min height app.logStop := by
  rw [visibleLogs, List.length_drop, List.length_take, Nat.min_eq_left app.logStop_le,
    logStop_sub_logStart]

/-- The log is what stands before the window, the window, and what stands behind it. -/
theorem take_append_visibleLogs_append_drop (height : Nat) :
    app.logs.take (app.logStart height) ++ app.visibleLogs height ++ app.logs.drop app.logStop =
      app.logs := by
  have before : (app.logs.take app.logStop).take (app.logStart height) =
      app.logs.take (app.logStart height) := by
    rw [List.take_take, Nat.min_eq_left (app.logStart_le_logStop height)]
  rw [visibleLogs, ← before, List.take_append_drop, List.take_append_drop]

theorem window_eq (height scroll : Nat) :
    app.window height scroll =
      (app.logs.take (app.logs.length - scroll)).drop (app.logs.length - scroll - height) :=
  rfl

/-- With nothing scrolled out the window shows the end of the log. -/
theorem window_zero (height : Nat) :
    app.window height 0 = app.logs.drop (app.logs.length - height) := by
  rw [window_eq, Nat.sub_zero, List.take_length]

/-- So the newest line is the last one shown. -/
theorem getLast?_window_zero (pos : 0 < height) :
    (app.window height 0).getLast? = app.logs.getLast? := by
  rw [window_zero, List.getLast?_drop]
  split
  · next all =>
    have empty : app.logs = [] := List.length_eq_zero_iff.mp (by omega)
    rw [empty, List.getLast?_nil]
  · rfl

theorem window_eq_nil_iff (pos : 0 < height) (scroll : Nat) :
    app.window height scroll = [] ↔ app.logs.length ≤ scroll := by
  rw [← List.length_eq_zero_iff, window, length_visibleLogs, logStop]
  dsimp only
  omega

/-! ## Pages -/

/-- The number of pages of the given height that the log has, a partly filled one included. -/
def pageCount (height : Nat) : Nat := (app.logs.length + height - 1) / height

theorem pageCount_le_iff (pos : 0 < height) (k : Nat) :
    app.pageCount height ≤ k ↔ app.logs.length ≤ k * height := by
  rw [pageCount, Nat.div_le_iff_le_mul pos]
  omega

/-- A page further back shows the lines right before those of the page. -/
theorem drop_eq_window_append (height k : Nat) :
    app.logs.drop (app.logs.length - (k + 1) * height) =
      app.window height (k * height) ++ app.logs.drop (app.logs.length - k * height) := by
  have start : app.logs.length - (k + 1) * height = app.logs.length - k * height - height := by
    rw [Nat.succ_mul, Nat.sub_add_eq]
  have whole := List.take_append_drop (app.logs.length - k * height) app.logs
  have inside : (app.logs.take (app.logs.length - k * height)).length =
      app.logs.length - k * height := by
    rw [List.length_take, Nat.min_eq_left (Nat.sub_le _ _)]
  rw [start, window_eq, ← List.drop_append_of_le_length (inside.symm ▸ Nat.sub_le _ _), whole]

/-- The newest pages, the oldest of them first, are the end of the log. -/
theorem flatMap_window (height n : Nat) :
    ((List.range n).reverse.flatMap fun k => app.window height (k * height)) =
      app.logs.drop (app.logs.length - n * height) := by
  induction n with
  | zero => simp
  | succ n ih =>
    rw [List.range_succ, List.reverse_concat, List.flatMap_cons, ih, ← drop_eq_window_append]

/-- All pages, the oldest first, are the log. -/
theorem flatMap_window_pageCount (pos : 0 < height) :
    ((List.range (app.pageCount height)).reverse.flatMap fun k => app.window height (k * height)) =
      app.logs := by
  have all := (app.pageCount_le_iff pos _).mp (Nat.le_refl (app.pageCount height))
  rw [flatMap_window, Nat.sub_eq_zero_of_le all, List.drop_zero]

/-! ## The window on the screen -/

/-- The rows of the box with the log are those of a window of its height. -/
theorem shows_logs (wide : 6 ≤ width) (high : 18 ≤ height) (hj : j < 8) :
    (logsArea width height).Shows (app.draw width height) j ((app.logRows 8)[j]?.getD []) := by
  have boxed : (Box.inside (width - 2) 8).Shows (app.logsBox.rows (width - 2) 8) j
      ((app.logRows 8)[j]?.getD []) := by
    have content : app.logsBox.content = app.logRows 8 := rfl
    rw [← content]
    exact app.logsBox.shows_rows hj
  have place : height - 12 + j = 3 + (height - 16 + (1 + j)) := by omega
  have inside : 1 + j < (app.logsBox.rows (width - 2) 8).length := by
    rw [Box.length_rows]
    omega
  intro i hi
  show cellAt (app.draw width height) (height - 12 + j) (1 + i) = _
  rw [draw_eq, place, cellAt_append_right (app.statusBox.length_rows _ _),
    cellAt_append_right (app.sized_machineRows wide high).height, cellAt_append_left inside]
  exact boxed i hi

/-- Each line that is not broken has a row of its own. -/
theorem getElem?_logRows (unbroken : ∀ l ∈ app.visibleLogs height, Text.Unbroken l.toList) (j : Nat) :
    (app.logRows height)[j]?.getD [] =
      ((app.visibleLogs height)[j]?.map (Row.ofText .plain)).getD [] := by
  have rows (ls : List String) :
      (ls[j]?.map (Row.ofText .plain)).getD [] = Row.ofText .plain (ls[j]?.getD "") := by
    cases ls[j]? <;> rfl
  rw [logRows, List.getElem?_map, rows, rows, Text.getElem?_lines_intercalate unbroken]

/-! ## The main statement -/

/-- **The window on the log is always valid, and pages cover the log.**  Let a window be at least
one line high, let the log have any lines, and let any number of them be scrolled out.

* The window begins where it ends or earlier, and ends inside the log.  It shows the lines between
  the two places: as many as it is high, or all from the beginning of the log on.
* With nothing scrolled out the newest line is the last one shown.
* The windows with no line, one window, two windows and so on scrolled out are the pages of the log
  and, behind them, empty windows.  From the last page to the first they are the log: no line is
  missing, none is shown twice, and all are in order.
* On each of the terminals, the box shows the window of eight lines, joined to one text; and when
  none of them is broken, a row shows a line. -/
theorem pages_cover_log (app : App) {height : Nat} (pos : 0 < height) :
    (app.logStart height ≤ app.logStop ∧ app.logStop ≤ app.logs.length ∧
      app.logStop - app.logStart height = min height app.logStop ∧
      (app.visibleLogs height).length = min height app.logStop ∧
      app.logs.take (app.logStart height) ++ app.visibleLogs height ++
        app.logs.drop app.logStop = app.logs) ∧
    (app.window height 0).getLast? = app.logs.getLast? ∧
    (∀ k, app.window height (k * height) = [] ↔ app.pageCount height ≤ k) ∧
    ((List.range (app.pageCount height)).reverse.flatMap fun k => app.window height (k * height)) =
      app.logs ∧
    ∀ width ∈ [80, 100, 120, 160], ∀ rows, 26 ≤ rows → ∀ j < 8,
      (logsArea width rows).Shows (app.draw width rows) j ((app.logRows 8)[j]?.getD []) ∧
      ((∀ l ∈ app.visibleLogs 8, Text.Unbroken l.toList) →
        (logsArea width rows).Shows (app.draw width rows) j
          (((app.visibleLogs 8)[j]?.map (Row.ofText .plain)).getD [])) := by
  refine ⟨⟨app.logStart_le_logStop height, app.logStop_le, app.logStop_sub_logStart height,
    app.length_visibleLogs height, app.take_append_visibleLogs_append_drop height⟩,
    app.getLast?_window_zero pos, fun k => ?_, app.flatMap_window_pageCount pos,
    fun width wide rows high j hj => ?_⟩
  · rw [app.window_eq_nil_iff pos, app.pageCount_le_iff pos]
  · have wide' : 9 ≤ width := nine_le_of_terminal wide
    have shown := app.shows_logs (by omega : 6 ≤ width) (by omega : 18 ≤ rows) hj
    refine ⟨shown, fun unbroken => ?_⟩
    rwa [app.getElem?_logRows unbroken] at shown

/-- A log of five lines in a window of two: the last page has one line only, and it is the one that
the box shows when four lines are scrolled out. -/
theorem pages_cover_log_five :
    let app : App :=
      ⟨⟨.ofTexts "halt" ["1 10"], .blank, true, true, none, 0⟩, .empty, .logs, .hex, 0, 0, 4,
        ["a", "b", "c", "d", "e"], false, false⟩
    app.logStop - app.logStart 2 = 1 ∧ (app.window 2 0).getLast? = some "e" ∧
      app.window 2 (3 * 2) = [] ∧
      ((List.range 3).reverse.flatMap fun k => app.window 2 (k * 2)) =
        ["a", "b", "c", "d", "e"] ∧
      (logsArea 80 26).Shows (app.draw 80 26) 0 (.ofText .plain "a") ∧
      (logsArea 80 26).Shows (app.draw 80 26) 1 [] := by
  intro app
  have pos : 0 < 2 := by decide
  obtain ⟨⟨-, -, lines, -, -⟩, newest, pages, cover, box⟩ := pages_cover_log app pos
  have three : app.pageCount 2 = 3 := by decide
  rw [three] at cover
  have wide : 80 ∈ [80, 100, 120, 160] := by decide
  have high : 26 ≤ 26 := le_rfl
  have unbroken : ∀ l ∈ app.visibleLogs 8, Text.Unbroken l.toList := by decide
  exact ⟨lines, newest, (pages 3).mpr (by decide), cover,
    (box 80 wide 26 high 0 (by decide)).2 unbroken, (box 80 wide 26 high 1 (by decide)).2 unbroken⟩

end App

end RegisterVM
