import RegisterVM.Text.Cluster
import RegisterVM.Text.Width

/-!
# Cells and rows

A screen is a list of rows, and a row a list of cells; each cell shows one cluster of
characters in a style.  So an accent takes no cell of its own, and a character without a width
that nothing takes in is not shown at all.

* `Row.ofText`: a text in one style; `Row.ofChars_of_ascii` says that a text of ASCII takes
  one cell for each character.
* `Row.cut`: the cells in front of a column, but for a cluster that goes beyond it.
* `Row.fit`: a row cut or filled up with blank cells to a given width (`length_fit`).
* `Row.text`, `Row.runs`: what a row shows, and where it is not plain.
-/

namespace RegisterVM.Screen

/-- The colours in use. -/
inductive Color where
  | yellow
  | green
  | darkGray
  | cyan
  | magenta
  deriving DecidableEq, Repr

/-- The style of a cell; no colour means that of the terminal. -/
structure Style where
  foreground : Option Color
  background : Option Color
  reversed : Bool
  deriving DecidableEq, Repr

namespace Style

/-- The style of the terminal itself. -/
def plain : Style := ⟨none, none, false⟩

/-- A colour on the background of the terminal. -/
def colored (c : Color) : Style := ⟨some c, none, false⟩

/-- A colour on a coloured background. -/
def coloredOn (c background : Color) : Style := ⟨some c, some background, false⟩

/-- The two colours of the terminal exchanged. -/
def inverse : Style := ⟨none, none, true⟩

end Style

/-- One cluster of characters in a style. -/
structure Cell where
  glyph : List Char
  style : Style
  deriving DecidableEq, Repr

namespace Cell

/-- One character in a style. -/
def ofChar (style : Style) (c : Char) : Cell := ⟨[c], style⟩

/-- The cell that shows nothing. -/
def blank : Cell := ofChar .plain ' '

end Cell

/-- A row of cells. -/
abbrev Row : Type := List Cell

/-- A run of cells in one style: where it begins, how long it is, and the style. -/
structure StyleRun where
  start : Nat
  length : Nat
  style : Style
  deriving DecidableEq, Repr

namespace Row

/-- A cluster of characters in one style.  Without a width it takes no cell; one that is wider
than a cell has blank cells behind it. -/
def ofCluster (style : Style) (cluster : List Char) : Row :=
  match Text.width cluster with
  | 0 => []
  | n + 1 => ⟨cluster, style⟩ :: List.replicate n Cell.blank

/-- The characters in one style. -/
def ofChars (style : Style) (cs : List Char) : Row :=
  (Text.clusters cs).flatMap (ofCluster style)

/-- The text in one style. -/
def ofText (style : Style) (text : String) : Row := ofChars style text.toList

/-- The row cut to at most the given width.  The cut is in front of a cluster that does not fit
as a whole. -/
def cut : Nat → Row → Row
  | 0, _ => []
  | _, [] => []
  | width + 1, cell :: cells =>
      if Text.width cell.glyph ≤ width + 1 then cell :: cut width cells else []

/-- The row cut, or filled up with blank cells, to the given width. -/
def fit (width : Nat) (row : Row) : Row := (cut width row).rightpad width Cell.blank

/-- What the row shows. -/
def text (row : Row) : String := String.ofList (row.flatMap (·.glyph))

/-- The runs of equal style, plain ones included, the row beginning at column `start`. -/
def allRuns : Nat → Row → List StyleRun
  | _, [] => []
  | start, cell :: cells =>
      match allRuns (start + 1) cells with
      | [] => [⟨start, 1, cell.style⟩]
      | run :: runs =>
          if run.style = cell.style then ⟨start, run.length + 1, cell.style⟩ :: runs
          else ⟨start, 1, cell.style⟩ :: run :: runs

/-- The runs of equal style that are not plain. -/
def runs (row : Row) : List StyleRun :=
  (allRuns 0 row).filter fun run => run.style ≠ Style.plain

theorem length_ofCluster (style : Style) (cluster : List Char) :
    (ofCluster style cluster).length = Text.width cluster := by
  unfold ofCluster
  split <;> simp_all

theorem ofChars_of_ascii (style : Style) {cs : List Char} (h : ∀ c ∈ cs, c.toNat < 0x80) :
    ofChars style cs = cs.map (Cell.ofChar style) := by
  rw [ofChars, Text.clusters_of_ascii h, List.flatMap_map]
  induction cs with
  | nil => rfl
  | cons c cs ih =>
      have hc : Text.width [c] = 1 := Text.width_of_ascii (h c (by simp))
      rw [List.flatMap_cons, ih fun d hd => h d (by simp [hd]), List.map_cons]
      simp [ofCluster, hc, Cell.ofChar]

theorem length_cut_le (width : Nat) (row : Row) : (cut width row).length ≤ width := by
  induction row generalizing width with
  | nil => cases width <;> simp [cut]
  | cons cell cells ih =>
      cases width with
      | zero => simp [cut]
      | succ width =>
          rw [cut]
          split
          · simpa using ih width
          · simp

/-- A row in which no cluster is wider than a cell can be cut anywhere. -/
theorem cut_eq_take {row : Row} (h : ∀ cell ∈ row, Text.width cell.glyph ≤ 1) (width : Nat) :
    cut width row = row.take width := by
  induction row generalizing width with
  | nil => cases width <;> simp [cut]
  | cons cell cells ih =>
      cases width with
      | zero => simp [cut]
      | succ width =>
          have hc : Text.width cell.glyph ≤ 1 := h cell (by simp)
          rw [cut, if_pos (by omega), ih (fun d hd => h d (by simp [hd])), List.take_succ_cons]

@[simp] theorem length_fit (width : Nat) (row : Row) : (fit width row).length = width := by
  have h : (cut width row).length ≤ width := length_cut_le width row
  simp only [fit, List.rightpad, List.length_append, List.length_replicate]
  omega

end Row

end RegisterVM.Screen
