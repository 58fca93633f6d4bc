import RegisterVM.Screen.Box

/-!
# Where things are on a screen

A screen is put together from boxes, below and beside each other.  Where a cell of a box comes to
lie, and that a box keeps to its place, is said here once for all screens, cell by cell.

* `cellAt`: the cell in a row and a column; `cellAt_append` and `cellAt_beside` say where it comes
  from.
* `Sized`: a screen of some rows of some cells each.
* `Area`: a rectangle on a screen; `Area.Line`, `Area.Shows` and `Area.Blank` say what one of its
  lines shows.  The content of a box fills the `Box.inside` of it, line by line (`Box.line_rows`,
  `Box.shows_rows`).
* `AgreeOutside`: two screens that are the same but for an area.  Boxes with the same frame are
  (`Box.agreeOutside_rows`).

An area of a part of a screen is an area of the screen, further down or further right
(`Area.down`, `Area.right`); what it shows and what it confines goes with it.
-/

namespace RegisterVM.Screen

/-- The cell in row `y` and column `x`, both counted from zero. -/
def cellAt (rows : List Row) (y x : Nat) : Option Cell := rows[y]?.bind (·[x]?)

/-- A screen of `height` rows of `width` cells each. -/
structure Sized (rows : List Row) (width height : Nat) : Prop where
  height : rows.length = height
  width : ∀ row ∈ rows, row.length = width

variable {uppers lowers lefts rights : List Row} {width height y x n : Nat}

/-! ## Screens below and beside each other -/

theorem cellAt_append (uppers lowers : List Row) (y x : Nat) :
    cellAt (uppers ++ lowers) y x =
      if y < uppers.length then cellAt uppers y x else cellAt lowers (y - uppers.length) x := by
  rw [cellAt, List.getElem?_append]
  split <;> rfl

theorem cellAt_append_left (h : y < uppers.length) :
    cellAt (uppers ++ lowers) y x = cellAt uppers y x := by
  rw [cellAt_append, if_pos h]

theorem cellAt_append_right (h : uppers.length = n) (y : Nat) :
    cellAt (uppers ++ lowers) (n + y) x = cellAt lowers y x := by
  rw [cellAt_append, if_neg (by omega), h, Nat.add_sub_cancel_left]

/-- Beside each other: the cells of the left screen come first, in each row. -/
theorem cellAt_beside (hl : Sized lefts n height) (hr : rights.length = height) (y x : Nat) :
    cellAt (beside lefts rights) y x =
      if x < n then cellAt lefts y x else cellAt rights y (x - n) := by
  rw [cellAt, beside, List.getElem?_zipWith]
  by_cases h : y < height
  · have first : y < lefts.length := hl.height.symm ▸ h
    have second : y < rights.length := hr.symm ▸ h
    have wide : lefts[y].length = n := hl.width _ (List.getElem_mem first)
    rw [cellAt, cellAt, List.getElem?_eq_getElem first, List.getElem?_eq_getElem second]
    show (lefts[y] ++ rights[y])[x]? = if x < n then lefts[y][x]? else rights[y][x - n]?
    rw [List.getElem?_append, wide]
  · have first : lefts[y]? = none := List.getElem?_eq_none (hl.height ▸ Nat.le_of_not_lt h)
    have second : rights[y]? = none := List.getElem?_eq_none (hr ▸ Nat.le_of_not_lt h)
    rw [cellAt, cellAt, first, second]
    show none = if x < n then none else none
    rw [ite_self]

theorem Sized.append {height' : Nat} (ha : Sized uppers width height)
    (hb : Sized lowers width height') : Sized (uppers ++ lowers) width (height + height') where
  height := by rw [List.length_append, ha.height, hb.height]
  width := by
    intro row mem
    rcases List.mem_append.mp mem with mem | mem
    · exact ha.width row mem
    · exact hb.width row mem

theorem Sized.beside (hl : Sized lefts n height) (hr : Sized rights width height) :
    Sized (beside lefts rights) (n + width) height where
  height := by
    rw [length_beside (hl.height.trans hr.height.symm), hr.height]
  width := by
    intro row mem
    change row ∈ List.zipWith (· ++ ·) lefts rights at mem
    obtain ⟨i, bound, rfl⟩ := List.getElem_of_mem mem
    rw [List.getElem_zipWith, List.length_append, hl.width _ (List.getElem_mem _),
      hr.width _ (List.getElem_mem _)]

/-! ## Areas -/

/-- A rectangle of cells. -/
structure Area where
  /-- Its first row. -/
  top : Nat
  height : Nat
  /-- Its first column. -/
  left : Nat
  width : Nat

namespace Area

/-- Whether the cell in row `y` and column `x` lies in the area. -/
def Contains (area : Area) (y x : Nat) : Prop :=
  (area.top ≤ y ∧ y < area.top + area.height) ∧ area.left ≤ x ∧ x < area.left + area.width

/-- The area on a screen that has `n` more rows above. -/
def down (n : Nat) (area : Area) : Area := { area with top := n + area.top }

/-- The area on a screen that has `n` more columns to the left. -/
def right (n : Nat) (area : Area) : Area := { area with left := n + area.left }

/-- Line `j` of the area shows the characters of `text` in a style, as far as they fit, and blank
cells behind them. -/
def Line (area : Area) (rows : List Row) (j : Nat) (style : Style) (text : List Char) : Prop :=
  ∀ i < area.width, cellAt rows (area.top + j) (area.left + i) =
    some ((text[i]?.map (Cell.ofChar style)).getD Cell.blank)

/-- Line `j` of the area shows a row, as far as it fits, and blank cells behind it. -/
def Shows (area : Area) (rows : List Row) (j : Nat) (row : Row) : Prop :=
  ∀ i < area.width, cellAt rows (area.top + j) (area.left + i) = (Row.fit area.width row)[i]?

/-- Line `j` of the area is blank. -/
def Blank (area : Area) (rows : List Row) (j : Nat) : Prop :=
  ∀ i < area.width, cellAt rows (area.top + j) (area.left + i) = some Cell.blank

variable {area : Area} {rows : List Row} {j : Nat} {style : Style} {text : List Char}

theorem Line.blank (shown : area.Line rows j style []) : area.Blank rows j := shown

/-- A line is not blank when its text begins with something that can be seen. -/
theorem Line.not_blank {c : Char} (shown : area.Line rows j style text) (wide : 0 < area.width)
    (first : text[0]? = some c) (visible : c ≠ ' ') : ¬ area.Blank rows j := by
  intro blank
  have cell : cellAt rows (area.top + j) (area.left + 0) = some (Cell.ofChar style c) := by
    rw [shown 0 wide, first]
    rfl
  have same : Cell.ofChar style c = Cell.blank := Option.some.inj (cell.symm.trans (blank 0 wide))
  have glyph : [c] = [' '] := congrArg Cell.glyph same
  exact visible (List.cons.inj glyph).1

theorem Line.above (shown : area.Line uppers j style text) (inside : area.top + j < uppers.length)
    (lowers : List Row) : area.Line (uppers ++ lowers) j style text := by
  intro i bound
  rw [cellAt_append_left inside]
  exact shown i bound

theorem Line.below (shown : area.Line lowers j style text) (h : uppers.length = n) :
    (area.down n).Line (uppers ++ lowers) j style text := by
  intro i bound
  show cellAt (uppers ++ lowers) (n + area.top + j) (area.left + i) = _
  rw [Nat.add_assoc, cellAt_append_right h]
  exact shown i bound

theorem Line.toLeft (shown : area.Line lefts j style text) (hl : Sized lefts n height)
    (hr : rights.length = height) (inside : area.left + area.width ≤ n) :
    area.Line (beside lefts rights) j style text := by
  intro i bound
  rw [cellAt_beside hl hr, if_pos (by omega)]
  exact shown i bound

theorem Line.toRight (shown : area.Line rights j style text) (hl : Sized lefts n height)
    (hr : rights.length = height) : (area.right n).Line (beside lefts rights) j style text := by
  intro i bound
  show cellAt (beside lefts rights) (area.top + j) (n + area.left + i) = _
  rw [cellAt_beside hl hr, if_neg (by omega), Nat.add_assoc, Nat.add_sub_cancel_left]
  exact shown i bound

end Area

/-! ## Screens that differ in an area -/

/-- Two screens are the same but for an area. -/
def AgreeOutside (area : Area) (rows rows' : List Row) : Prop :=
  ∀ y x, ¬ area.Contains y x → cellAt rows y x = cellAt rows' y x

namespace AgreeOutside

variable {area : Area} {uppers' lowers' rights' : List Row}

theorem above (agree : AgreeOutside area uppers uppers') (same : uppers.length = uppers'.length)
    (lowers : List Row) : AgreeOutside area (uppers ++ lowers) (uppers' ++ lowers) := by
  intro y x outside
  rw [cellAt_append, cellAt_append, ← same, agree y x outside]

theorem below (agree : AgreeOutside area lowers lowers') (h : uppers.length = n) :
    AgreeOutside (area.down n) (uppers ++ lowers) (uppers ++ lowers') := by
  intro y x outside
  rw [cellAt_append, cellAt_append]
  split
  · rfl
  · next beyond =>
    refine agree _ x fun inside => outside ?_
    unfold Area.Contains Area.down at *
    dsimp only
    omega

theorem toRight (agree : AgreeOutside area rights rights') (hl : Sized lefts n height)
    (hr : rights.length = height) (hr' : rights'.length = height) :
    AgreeOutside (area.right n) (beside lefts rights) (beside lefts rights') := by
  intro y x outside
  rw [cellAt_beside hl hr, cellAt_beside hl hr']
  split
  · rfl
  · next beyond =>
    refine agree y _ fun inside => outside ?_
    unfold Area.Contains Area.right at *
    dsimp only
    omega

end AgreeOutside

/-! ## The content of a box -/

theorem Box.sized_rows (b : Box) {inner n : Nat} (hw : inner + 2 = width) (hh : n + 2 = height) :
    Sized (b.rows inner n) width height where
  height := (b.length_rows inner n).trans hh
  width := fun _ mem => (Box.length_of_mem_rows mem).trans hw

/-- A row that is fitted in shows its cells, as far as they fit, and blanks behind them. -/
theorem Row.getElem?_fit (row : Row) {i : Nat} (h : i < width) :
    (Row.fit width row)[i]? = some ((Row.cut width row)[i]?.getD Cell.blank) := by
  rw [Row.fit, List.rightpad, List.getElem?_append]
  split
  · next inside => rw [List.getElem?_eq_getElem inside, Option.getD_some]
  · next outside =>
    rw [List.getElem?_eq_none (Nat.le_of_not_lt outside), Option.getD_none,
      List.getElem?_replicate, if_pos (by omega)]

/-- A row inside a box, with the sides of its frame. -/
theorem Box.getElem?_rows (b : Box) {inner j : Nat} (h : j < height) :
    (b.rows inner height)[j + 1]? = some (b.side inner (b.content[j]?.getD [])) := by
  have shown : (b.visible height)[j]? = some (b.content[j]?.getD []) := by
    rw [Box.visible, List.rightpad, List.getElem?_append, List.getElem?_take, if_pos h]
    split
    · next inside =>
      rw [List.length_take] at inside
      rw [List.getElem?_eq_getElem (by omega), Option.getD_some]
    · next outside =>
      rw [List.length_take] at outside ⊢
      rw [List.getElem?_replicate, if_pos (by omega), List.getElem?_eq_none (by omega),
        Option.getD_none]
  rw [Box.rows, List.cons_append, List.getElem?_cons_succ, List.getElem?_append_left
    (by rw [List.length_map, Box.length_visible]; exact h), List.getElem?_map, shown]
  rfl

/-- The cells inside the frame of a box. -/
def Box.inside (inner height : Nat) : Area := ⟨1, height, 1, inner⟩

/-- The content of a box, cell by cell: a row of it begins behind the left side of the frame. -/
theorem Box.cellAt_content (b : Box) {inner i j : Nat} (hj : j < height) (hi : i < inner) :
    cellAt (b.rows inner height) (1 + j) (1 + i) =
      some ((Row.cut inner (b.content[j]?.getD []))[i]?.getD Cell.blank) := by
  rw [Nat.add_comm 1 j, Nat.add_comm 1 i, cellAt, b.getElem?_rows hj, Option.bind_some, Box.side,
    List.cons_append, List.getElem?_cons_succ,
    List.getElem?_append_left (by rw [Row.length_fit]; exact hi), Row.getElem?_fit _ hi]

/-- The content of a box, row by row. -/
theorem Box.shows_rows (b : Box) {inner j : Nat} (hj : j < height) :
    (Box.inside inner height).Shows (b.rows inner height) j (b.content[j]?.getD []) := by
  intro i hi
  exact (b.cellAt_content hj hi).trans (Row.getElem?_fit _ hi).symm

/-- ASCII can be cut anywhere. -/
theorem Row.cut_ofChars {cs : List Char} (ascii : ∀ c ∈ cs, c.toNat < 0x80) (style : Style)
    (width : Nat) :
    Row.cut width (.ofChars style cs) = (cs.take width).map (Cell.ofChar style) := by
  have narrow : ∀ cell ∈ cs.map (Cell.ofChar style), Text.width cell.glyph ≤ 1 := by
    intro cell mem
    obtain ⟨c, memText, rfl⟩ := List.mem_map.mp mem
    exact Nat.le_of_eq (Text.width_of_ascii (ascii c memText))
  rw [Row.ofChars_of_ascii style ascii, Row.cut_eq_take narrow, List.map_take]

/-- A row of ASCII inside a box. -/
theorem Box.line_rows (b : Box) {inner j : Nat} {style : Style} {text : List Char}
    (hj : j < height) (content : b.content[j]? = some (.ofChars style text))
    (ascii : ∀ c ∈ text, c.toNat < 0x80) :
    (Box.inside inner height).Line (b.rows inner height) j style text := by
  intro i hi
  refine (b.cellAt_content hj hi).trans (congrArg some ?_)
  rw [content, Option.getD_some, Row.cut_ofChars ascii, List.getElem?_map, List.getElem?_take,
    if_pos hi]

/-- Below its content, a box is blank. -/
theorem Box.line_rows_nil (b : Box) {inner j : Nat} (hj : j < height)
    (content : b.content[j]? = none) (style : Style) :
    (Box.inside inner height).Line (b.rows inner height) j style [] := by
  intro i hi
  have empty : Row.cut inner [] = [] := by cases inner <;> rfl
  refine (b.cellAt_content hj hi).trans (congrArg some ?_)
  rw [content, Option.getD_none]
  exact congrArg (·[i]?.getD Cell.blank) empty

/-- Below its content, a box has its lower edge. -/
theorem Box.getElem?_rows_of_le (b : Box) {inner j : Nat} (h : height ≤ j) :
    (b.rows inner height)[j + 1]? = [b.lowerEdge inner][j - height]? := by
  have length : ((b.visible height).map (b.side inner)).length = height := by
    rw [List.length_map, Box.length_visible]
  rw [Box.rows, List.cons_append, List.getElem?_cons_succ,
    List.getElem?_append_right (by rw [length]; exact h), length]

/-- The two sides of the frame stand around whatever is in a row. -/
theorem Box.getElem?_side (b : Box) {inner : Nat} (row : Row) (h : ¬ (1 ≤ x ∧ x < 1 + inner)) :
    (b.side inner row)[x]? = (b.side inner [])[x]? := by
  cases x with
  | zero => rfl
  | succ i =>
    have beyond (cells : Row) : (Row.fit inner cells).length ≤ i := by
      rw [Row.length_fit]
      omega
    simp only [Box.side, List.cons_append, List.getElem?_cons_succ,
      List.getElem?_append_right (beyond _), Row.length_fit]

/-- Boxes with the same frame differ in their content only. -/
theorem Box.agreeOutside_rows (title : String) (frame : Style) (content content' : List Row)
    (inner height : Nat) :
    AgreeOutside (Box.inside inner height) ((⟨title, frame, content⟩ : Box).rows inner height)
      ((⟨title, frame, content'⟩ : Box).rows inner height) := by
  intro y x outside
  -- the upper edge, a line of the content, or the lower edge and what is below it
  cases y with
  | zero => rfl
  | succ j =>
    by_cases hj : j < height
    · have beside : ¬ (1 ≤ x ∧ x < 1 + inner) := fun within =>
        outside ⟨⟨Nat.le_add_left 1 j, show j + 1 < 1 + height by omega⟩, within⟩
      rw [cellAt, cellAt, Box.getElem?_rows _ hj, Box.getElem?_rows _ hj, Option.bind_some,
        Option.bind_some]
      exact (Box.getElem?_side _ _ beside).trans (Box.getElem?_side _ _ beside).symm
    · have under : height ≤ j := Nat.le_of_not_lt hj
      rw [cellAt, cellAt, Box.getElem?_rows_of_le _ under, Box.getElem?_rows_of_le _ under]
      rfl

end RegisterVM.Screen
