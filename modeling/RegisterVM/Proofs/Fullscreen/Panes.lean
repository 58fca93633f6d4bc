import RegisterVM.Fullscreen.View
import RegisterVM.Proofs.Screen.Placement
import RegisterVM.Proofs.Text.Digits

/-!
# What the panes show

The boxes with the registers and the memory show the machine: each of their lines is that of the
register or cell that the scroll position says, in the current number format.  What is shown in the
memory or in the log stays inside its own box.

* `App.memoryLine`, `App.registerLine`: the text of a line.
* `Marked`: the style of a memory line, by the pointers that point to the cell.
* `App.memoryArea`, `App.registersArea`, `App.logsArea`: the cells inside the frames of the boxes.
* `App.line_draw_memory`, `App.line_draw_registers`: what a box shows, the screen shows there.
* `App.panes_show_machine`: the main statement.
-/

namespace RegisterVM

open Screen

/-- A word is written in ASCII, whatever the format is. -/
theorem NumberFormat.toNat_lt_of_mem_render (format : NumberFormat) (w : Word)
    {c : Char} (mem : c ∈ format.render w) : c.toNat < 0x80 := by
  cases format with
  | hex =>
    rcases List.mem_cons.mp mem with rfl | mem
    · decide
    rcases List.mem_cons.mp mem with rfl | mem
    · decide
    · exact Text.Numeral.toNat_lt_of_mem_places (by decide) mem
  | binary =>
    rcases List.mem_cons.mp mem with rfl | mem
    · decide
    rcases List.mem_cons.mp mem with rfl | mem
    · decide
    · exact Text.Numeral.toNat_lt_of_mem_places (by decide) mem
  | decimal =>
    rcases List.mem_append.mp mem with number | blank
    · exact Text.Numeral.toNat_lt_of_mem_integer number
    · rw [List.eq_of_mem_replicate blank]
      decide

/-! ## The marks of memory lines -/

/-- A style marks a cell for the pointers that point to it: the instruction pointer goes before the
stack pointer, and this before the frame pointer. -/
structure Marked (m : Machine) (a : Address) (style : Style) : Prop where
  ip : style = .coloredOn .green .darkGray ↔ (m.reg .ip).toInt = a.val
  sp : style = .colored .cyan ↔ (m.reg .ip).toInt ≠ a.val ∧ (m.reg .sp).toInt = a.val
  fp : style = .colored .magenta ↔
    (m.reg .ip).toInt ≠ a.val ∧ (m.reg .sp).toInt ≠ a.val ∧ (m.reg .fp).toInt = a.val
  plain : style = .plain ↔
    (m.reg .ip).toInt ≠ a.val ∧ (m.reg .sp).toInt ≠ a.val ∧ (m.reg .fp).toInt ≠ a.val

namespace App

variable (app : App) {width height j : Nat}

theorem marked_cellStyle (a : Address) : Marked app.session.machine a (app.cellStyle a) := by
  have style : app.cellStyle a =
      if (app.session.machine.reg .ip).toInt = a.val then .coloredOn .green .darkGray
      else if (app.session.machine.reg .sp).toInt = a.val then .colored .cyan
      else if (app.session.machine.reg .fp).toInt = a.val then .colored .magenta
      else .plain := by
    simp only [cellStyle, beq_iff_eq]
  rw [style]
  -- no two of the four styles are equal
  split_ifs with ip sp fp <;> constructor <;>
    simp [*, Style.coloredOn, Style.colored, Style.plain]

/-! ## The lines of the machine -/

/-- The text of a memory line: the address on three digits, and what the cell holds. -/
def memoryLine (a : Address) : List Char :=
  [(a.val / 100).digitChar, (a.val / 10 % 10).digitChar, (a.val % 10).digitChar, ':', ' '] ++
    app.format.render (app.session.machine.cell a)

/-- The text of a register line: the name on three characters, and what the register holds. -/
def registerLine (r : Register) : List Char :=
  r.name.toList.rightpad 3 ' ' ++ [':', ' '] ++ app.format.render (app.session.machine.reg r)

theorem cellRow_eq (a : Address) :
    app.cellRow a = .ofChars (app.cellStyle a) (app.memoryLine a) := by
  rw [cellRow, Text.Numeral.zeroFilled_three (by omega)]
  rfl

theorem registerRow_eq (r : Register) : app.registerRow r = .ofChars .plain (app.registerLine r) :=
  rfl

theorem ascii_memoryLine (a : Address) : ∀ c ∈ app.memoryLine a, c.toNat < 0x80 := by
  intro c mem
  rcases List.mem_append.mp mem with label | value
  · simp only [List.mem_cons, List.not_mem_nil, or_false] at label
    rcases label with rfl | rfl | rfl | rfl | rfl
    · exact Text.Numeral.toNat_digitChar_lt _
    · exact Text.Numeral.toNat_digitChar_lt _
    · exact Text.Numeral.toNat_digitChar_lt _
    · decide
    · decide
  · exact app.format.toNat_lt_of_mem_render _ value

theorem ascii_registerLine (r : Register) : ∀ c ∈ app.registerLine r, c.toNat < 0x80 := by
  have labels : ∀ r : Register, (r.name.toList.rightpad 3 ' ' ++ [':', ' ']).all
      (fun c => c.toNat < 0x80) = true := by
    decide
  intro c mem
  rcases List.mem_append.mp mem with label | value
  · exact of_decide_eq_true (List.all_eq_true.mp (labels r) c label)
  · exact app.format.toNat_lt_of_mem_render _ value

/-- A register line begins with the name. -/
theorem exists_first_registerLine (r : Register) :
    ∃ c, (app.registerLine r)[0]? = some c ∧ c ≠ ' ' := by
  have names : ∀ r : Register, r.name.toList.head?.any (fun c => c ≠ ' ') = true := by decide
  obtain ⟨c, first, visible⟩ := (Option.any_eq_true _ _).mp (names r)
  refine ⟨c, ?_, of_decide_eq_true visible⟩
  rw [← List.head?_eq_getElem?, registerLine, List.head?_append, List.head?_append, List.rightpad,
    List.head?_append, first]
  rfl

/-! ## The boxes -/

/-- The box at the top. -/
def statusBox : Box := ⟨"", .plain, [.ofText .plain app.status]⟩

def registersBox : Box := ⟨"Registers", app.frame .registers, app.registerRows⟩

def memoryBox : Box :=
  ⟨"Memory (IP green, SP cyan, FP magenta)", app.frame .memory, app.memoryRows⟩

def logsBox : Box := ⟨"Execution Logs", app.frame .logs, app.logRows 8⟩

/-- The box at the bottom. -/
def commandBox : Box := ⟨app.commandTitle, .plain, [app.commandRow]⟩

/-- The rows of the box with the registers, which has thirty-five hundredths of the width. -/
def registersPane (width height : Nat) : List Row :=
  app.registersBox.rows (width * 35 / 100 - 2) (height - 18)

/-- The rows of the memory box, which has what is left of the width. -/
def memoryPane (width height : Nat) : List Row :=
  app.memoryBox.rows (width - width * 35 / 100 - 2) (height - 18)

/-- The registers and the memory beside each other. -/
def machineRows (width height : Nat) : List Row :=
  beside (app.registersPane width height) (app.memoryPane width height)

theorem draw_eq (width height : Nat) :
    app.draw width height =
      app.statusBox.rows (width - 2) 1 ++ (app.machineRows width height ++
        (app.logsBox.rows (width - 2) 8 ++ app.commandBox.rows (width - 2) 1)) := by
  have inner : height - 18 = height - 16 - 2 := by omega
  rw [← List.append_assoc, ← List.append_assoc, machineRows, registersPane, memoryPane, inner]
  rfl

/-- The terminals are wide enough for every box. -/
theorem nine_le_of_terminal (wide : width ∈ [80, 100, 120, 160]) : 9 ≤ width := by
  simp only [List.mem_cons, List.not_mem_nil, or_false] at wide
  omega

/-- The cells inside the frame of the memory box. -/
def memoryArea (width height : Nat) : Area :=
  ⟨4, height - 18, width * 35 / 100 + 1, width - width * 35 / 100 - 2⟩

/-- The cells inside the frame of the box with the registers. -/
def registersArea (width height : Nat) : Area := ⟨4, height - 18, 1, width * 35 / 100 - 2⟩

/-- The cells inside the frame of the box with the log. -/
def logsArea (width height : Nat) : Area := ⟨height - 12, 8, 1, width - 2⟩

theorem sized_registersPane (wide : 6 ≤ width) (high : 18 ≤ height) :
    Sized (app.registersPane width height) (width * 35 / 100) (height - 16) :=
  app.registersBox.sized_rows (by omega) (by omega)

theorem sized_memoryPane (wide : 6 ≤ width) (high : 18 ≤ height) :
    Sized (app.memoryPane width height) (width - width * 35 / 100) (height - 16) :=
  app.memoryBox.sized_rows (by omega) (by omega)

theorem sized_machineRows (wide : 6 ≤ width) (high : 18 ≤ height) :
    Sized (app.machineRows width height) width (height - 16) := by
  have beside := (app.sized_registersPane wide high).beside (app.sized_memoryPane wide high)
  have whole : width * 35 / 100 + (width - width * 35 / 100) = width := by omega
  rw [whole] at beside
  exact beside

/-- The screen has the size of the terminal. -/
theorem sized_draw (wide : 6 ≤ width) (high : 18 ≤ height) :
    Sized (app.draw width height) width height := by
  have box (b : Box) (n : Nat) : Sized (b.rows (width - 2) n) width (n + 2) :=
    b.sized_rows (by omega) rfl
  have parts := (box app.statusBox 1).append ((app.sized_machineRows wide high).append
    ((box app.logsBox 8).append (box app.commandBox 1)))
  have whole : 1 + 2 + (height - 16 + (8 + 2 + (1 + 2))) = height := by omega
  rw [whole, ← draw_eq] at parts
  exact parts

/-! ## What the boxes show on the screen -/

/-- What the registers and the memory show beside each other, the screen shows below the status. -/
theorem line_draw {area : Area} {style : Style} {text : List Char} (wide : 6 ≤ width)
    (high : 18 ≤ height) (inside : area.top + j < height - 16)
    (shown : area.Line (app.machineRows width height) j style text) :
    (area.down 3).Line (app.draw width height) j style text := by
  rw [← (app.sized_machineRows wide high).height] at inside
  rw [draw_eq]
  exact (shown.above inside _).below (app.statusBox.length_rows _ _)

theorem line_draw_memory {style : Style} {text : List Char} (wide : 6 ≤ width)
    (high : 18 ≤ height) (hj : j < height - 18)
    (shown : (Box.inside (width - width * 35 / 100 - 2) (height - 18)).Line
      (app.memoryPane width height) j style text) :
    (memoryArea width height).Line (app.draw width height) j style text := by
  have beside := shown.toRight (app.sized_registersPane wide high)
    (app.sized_memoryPane wide high).height
  have inside : 1 + j < height - 16 := by omega
  exact app.line_draw wide high inside beside

theorem line_draw_registers {style : Style} {text : List Char} (wide : 6 ≤ width)
    (high : 18 ≤ height) (hj : j < height - 18)
    (shown : (Box.inside (width * 35 / 100 - 2) (height - 18)).Line
      (app.registersPane width height) j style text) :
    (registersArea width height).Line (app.draw width height) j style text := by
  have fits : 1 + (width * 35 / 100 - 2) ≤ width * 35 / 100 := by omega
  have beside := shown.toLeft (app.sized_registersPane wide high)
    (app.sized_memoryPane wide high).height fits
  have inside : 1 + j < height - 16 := by omega
  exact app.line_draw wide high inside beside

theorem getElem?_drop_finRange {n s : Nat} (i : Fin n) (h : i.val = s + j) :
    ((List.finRange n).drop s)[j]? = some i := by
  rw [List.getElem?_drop, ← h, List.getElem?_eq_getElem (by simp), List.getElem_finRange]
  rfl

theorem getElem?_drop_finRange_of_le {n s : Nat} (h : n ≤ s + j) :
    ((List.finRange n).drop s)[j]? = none := by
  rw [List.getElem?_drop, List.getElem?_eq_none (by simpa using h)]

/-- Line `j` of the memory box is that of the cell that many places behind the first one that is
not scrolled out. -/
theorem line_memory (wide : 6 ≤ width) (high : 18 ≤ height) (hj : j < height - 18) (a : Address)
    (h : a.val = app.memoryScroll + j) :
    (memoryArea width height).Line (app.draw width height) j (app.cellStyle a)
      (app.memoryLine a) := by
  have content : app.memoryBox.content[j]? =
      some (.ofChars (app.cellStyle a) (app.memoryLine a)) := by
    rw [← cellRow_eq, memoryBox, memoryRows, List.getElem?_map, getElem?_drop_finRange a h]
    rfl
  exact app.line_draw_memory wide high hj
    (app.memoryBox.line_rows hj content (app.ascii_memoryLine a))

/-- A line of the memory box is blank exactly behind the last cell. -/
theorem blank_memory_iff (wide : 6 ≤ width) (high : 18 ≤ height) (hj : j < height - 18) :
    (memoryArea width height).Blank (app.draw width height) j ↔ 500 ≤ app.memoryScroll + j := by
  constructor
  · intro blank
    by_contra! inside
    have shown := app.line_memory wide high hj ⟨app.memoryScroll + j, inside⟩ rfl
    have broad : 0 < width - width * 35 / 100 - 2 := by omega
    exact shown.not_blank broad rfl (Nat.digitChar_ne ' ' (by decide)) blank
  · intro beyond
    have content : app.memoryBox.content[j]? = none := by
      rw [memoryBox, memoryRows, List.getElem?_map, getElem?_drop_finRange_of_le beyond]
      rfl
    exact (app.line_draw_memory wide high hj (app.memoryBox.line_rows_nil hj content .plain)).blank

/-- Line `j` of the box with the registers is that of the register that many places behind the
first one that is not scrolled out. -/
theorem line_registers (wide : 6 ≤ width) (high : 18 ≤ height) (hj : j < height - 18) (r : Register)
    (h : r.val = app.registersScroll + j) :
    (registersArea width height).Line (app.draw width height) j .plain (app.registerLine r) := by
  have content : app.registersBox.content[j]? = some (.ofChars .plain (app.registerLine r)) := by
    rw [← registerRow_eq, registersBox, registerRows, List.getElem?_map, getElem?_drop_finRange r h]
    rfl
  exact app.line_draw_registers wide high hj
    (app.registersBox.line_rows hj content (app.ascii_registerLine r))

/-- A line of the box with the registers is blank exactly behind the last register. -/
theorem blank_registers_iff (wide : 9 ≤ width) (high : 18 ≤ height) (hj : j < height - 18) :
    (registersArea width height).Blank (app.draw width height) j ↔
      32 ≤ app.registersScroll + j := by
  constructor
  · intro blank
    by_contra! inside
    have wide' : 6 ≤ width := by omega
    have shown := app.line_registers wide' high hj ⟨app.registersScroll + j, inside⟩ rfl
    have broad : 0 < width * 35 / 100 - 2 := by omega
    obtain ⟨c, first, visible⟩ := app.exists_first_registerLine ⟨app.registersScroll + j, inside⟩
    exact shown.not_blank broad first visible blank
  · intro beyond
    have content : app.registersBox.content[j]? = none := by
      rw [registersBox, registerRows, List.getElem?_map, getElem?_drop_finRange_of_le beyond]
      rfl
    exact (app.line_draw_registers (by omega) high hj
      (app.registersBox.line_rows_nil hj content .plain)).blank

/-! ## What stays in a box -/

variable {app} {other : App}

/-- Screens with the same other boxes differ in the content of the log only. -/
theorem agreeOutside_logs (wide : 6 ≤ width) (high : 18 ≤ height)
    (status : other.statusBox = app.statusBox)
    (machine : other.machineRows width height = app.machineRows width height)
    (frame : other.frame .logs = app.frame .logs) (command : other.commandBox = app.commandBox) :
    AgreeOutside (logsArea width height) (app.draw width height) (other.draw width height) := by
  have boxes : AgreeOutside (Box.inside (width - 2) 8) (app.logsBox.rows (width - 2) 8)
      (other.logsBox.rows (width - 2) 8) := by
    rw [logsBox, logsBox, frame]
    exact Box.agreeOutside_rows _ _ _ _ _ _
  have lower := boxes.above (by rw [Box.length_rows, Box.length_rows])
    (app.commandBox.rows (width - 2) 1)
  have screens := (lower.below (app.sized_machineRows wide high).height).below
    (app.statusBox.length_rows (width - 2) 1)
  have top : height - 12 = 3 + (height - 16 + 1) := by omega
  rw [draw_eq, draw_eq, status, machine, command, logsArea, top]
  exact screens

/-- Screens with the same other boxes differ in the content of the memory only. -/
theorem agreeOutside_memory (wide : 6 ≤ width) (high : 18 ≤ height)
    (status : other.statusBox = app.statusBox) (registers : other.registersBox = app.registersBox)
    (frame : other.frame .memory = app.frame .memory) (logs : other.logsBox = app.logsBox)
    (command : other.commandBox = app.commandBox) :
    AgreeOutside (memoryArea width height) (app.draw width height) (other.draw width height) := by
  have boxes : AgreeOutside (Box.inside (width - width * 35 / 100 - 2) (height - 18))
      (app.memoryPane width height) (other.memoryPane width height) := by
    rw [memoryPane, memoryPane, memoryBox, memoryBox, frame]
    exact Box.agreeOutside_rows _ _ _ _ _ _
  have machine := boxes.toRight (app.sized_registersPane wide high)
    (app.sized_memoryPane wide high).height (other.sized_memoryPane wide high).height
  have left : other.registersPane width height = app.registersPane width height := by
    rw [registersPane, registersPane, registers]
  rw [← machineRows, ← left, ← machineRows] at machine
  have same : (app.machineRows width height).length = (other.machineRows width height).length :=
    (app.sized_machineRows wide high).height.trans (other.sized_machineRows wide high).height.symm
  rw [draw_eq, draw_eq, status, logs, command]
  exact (machine.above same _).below (app.statusBox.length_rows _ _)

/-! ## The main statement -/

/-- **The panes show the machine, and nothing spills.**  On each of the terminals:

* The screen has the size of the terminal.
* Line `j` of the memory box is blank exactly when no cell is left for it.  Otherwise it shows the
  cell that is `j` places behind the first one that is not scrolled out, marked for the pointers.
* The lines of the box with the registers are likewise, without marks.
* Another log, scrolled differently, makes no difference outside the box with the log.
* Another memory, scrolled differently, makes no difference outside the memory box. -/
theorem panes_show_machine (app : App) (wide : width ∈ [80, 100, 120, 160]) (high : 26 ≤ height) :
    let screen := app.draw width height
    let memory := memoryArea width height
    let registers := registersArea width height
    Sized screen width height ∧
    (∀ j < height - 18,
      (memory.Blank screen j ↔ 500 ≤ app.memoryScroll + j) ∧
      ∀ a : Address, a.val = app.memoryScroll + j →
        ∃ style, Marked app.session.machine a style ∧
          memory.Line screen j style (app.memoryLine a)) ∧
    (∀ j < height - 18,
      (registers.Blank screen j ↔ 32 ≤ app.registersScroll + j) ∧
      ∀ r : Register, r.val = app.registersScroll + j →
        registers.Line screen j .plain (app.registerLine r)) ∧
    (∀ logs scroll, AgreeOutside (logsArea width height) screen
      ({ app with logs := logs, logsScroll := scroll }.draw width height)) ∧
    ∀ words scroll, AgreeOutside memory screen
      ({ app with session.machine.memory := words, memoryScroll := scroll }.draw width height) := by
  have wide' : 9 ≤ width := nine_le_of_terminal wide
  have wide'' : 6 ≤ width := by omega
  have high' : 18 ≤ height := by omega
  intro screen memory registers
  refine ⟨app.sized_draw wide'' high', fun j hj => ⟨app.blank_memory_iff wide'' high' hj, ?_⟩,
    fun j hj => ⟨app.blank_registers_iff wide' high' hj, ?_⟩, fun logs scroll => ?_,
    fun words scroll => ?_⟩
  · intro a h
    exact ⟨app.cellStyle a, app.marked_cellStyle a, app.line_memory wide'' high' hj a h⟩
  · intro r h
    exact app.line_registers wide'' high' hj r h
  · exact agreeOutside_logs wide'' high' rfl rfl rfl rfl
  · exact agreeOutside_memory wide'' high' rfl rfl rfl rfl rfl

/-- The stack pointer and the frame pointer at the last cell but one, which stands in the first line
of the memory box. -/
theorem panes_show_machine_last_cells :
    let machine :=
      ((Machine.blank.setReg Register.sp 498).setReg Register.fp 498).setCell 498 (-1)
    let app : App :=
      ⟨⟨.ofTexts "halt" ["1 10"], machine, true, true, none, 0⟩, .empty, .memory, .hex, 31, 498,
        0, [], false, false⟩
    let screen := app.draw 80 26
    Sized screen 80 26 ∧
      (memoryArea 80 26).Line screen 0 (.colored .cyan) "498: 0xffffffff".toList ∧
      (memoryArea 80 26).Line screen 1 .plain "499: 0x00000000".toList ∧
      (memoryArea 80 26).Blank screen 2 ∧
      (registersArea 80 26).Line screen 0 .plain "sp : 0x000001f2".toList ∧
      (registersArea 80 26).Blank screen 1 := by
  intro machine app screen
  have wide : 80 ∈ [80, 100, 120, 160] := by decide
  have high : 26 ≤ 26 := le_rfl
  obtain ⟨sized, cells, registers, -, -⟩ := panes_show_machine app wide high
  obtain ⟨stack, marksStack, first⟩ := (cells 0 (by decide)).2 498 (by decide)
  obtain ⟨last, marksLast, second⟩ := (cells 1 (by decide)).2 499 (by decide)
  have pointer := (registers 0 (by decide)).2 31 (by decide)
  have text : app.memoryLine 498 = "498: 0xffffffff".toList := by decide +kernel
  have text' : app.memoryLine 499 = "499: 0x00000000".toList := by decide +kernel
  have label : app.registerLine 31 = "sp : 0x000001f2".toList := by decide +kernel
  rw [marksStack.sp.mpr (by decide), text] at first
  rw [marksLast.plain.mpr (by decide), text'] at second
  rw [label] at pointer
  exact ⟨sized, first, second, (cells 2 (by decide)).1.mpr (by decide), pointer,
    (registers 1 (by decide)).1.mpr (by decide)⟩

end App

end RegisterVM
