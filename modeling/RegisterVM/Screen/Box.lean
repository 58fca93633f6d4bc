import RegisterVM.Screen.Cell

/-!
# Boxes

A box is a frame of line-drawing characters with a title in its upper edge and rows of
content inside.  Whatever the content is, a box has exactly the size it is given: rows and
columns that do not fit are cut off, and missing ones are blank.

* `Box.rows`: the rows of a box; `length_rows` and `length_of_mem_rows` give its size.
* `beside`: two boxes next to each other.
-/

namespace RegisterVM.Screen

/-- A frame with a title, and the rows inside. -/
structure Box where
  title : String
  /-- The style of the frame, title included. -/
  frame : Style
  content : List Row

namespace Box

/-- The upper edge: the title begins behind the corner and is cut at the other one. -/
def upperEdge (b : Box) (inner : Nat) : Row :=
  .ofChar b.frame '┌' ::
    (Row.cut inner (.ofText b.frame b.title)).rightpad inner (.ofChar b.frame '─') ++
      [.ofChar b.frame '┐']

/-- The lower edge. -/
def lowerEdge (b : Box) (inner : Nat) : Row :=
  .ofChar b.frame '└' :: List.replicate inner (.ofChar b.frame '─') ++ [.ofChar b.frame '┘']

/-- A row of content between the two sides of the frame. -/
def side (b : Box) (inner : Nat) (row : Row) : Row :=
  .ofChar b.frame '│' :: Row.fit inner row ++ [.ofChar b.frame '│']

/-- The content cut, or filled up with empty rows, to the given height. -/
def visible (b : Box) (height : Nat) : List Row := (b.content.take height).rightpad height []

/-- The rows of a box with the given size inside its frame. -/
def rows (b : Box) (inner height : Nat) : List Row :=
  b.upperEdge inner :: (b.visible height).map (b.side inner) ++ [b.lowerEdge inner]

theorem length_visible (b : Box) (height : Nat) : (b.visible height).length = height := by
  simp only [visible, List.rightpad, List.length_append, List.length_take,
    List.length_replicate]
  omega

theorem length_rows (b : Box) (inner height : Nat) :
    (b.rows inner height).length = height + 2 := by
  simp [rows, length_visible]

theorem length_of_mem_rows {b : Box} {inner height : Nat} {row : Row}
    (h : row ∈ b.rows inner height) : row.length = inner + 2 := by
  simp only [rows, List.cons_append, List.mem_cons, List.mem_append, List.mem_map,
    List.not_mem_nil, or_false] at h
  rcases h with rfl | ⟨_, _, rfl⟩ | rfl
  · have h := Row.length_cut_le inner (.ofText b.frame b.title)
    simp only [upperEdge, List.rightpad, List.length_cons, List.length_append,
      List.length_replicate, List.length_nil]
    omega
  · simp [side]
  · simp [lowerEdge]

end Box

/-- The rows of two boxes of equal height next to each other. -/
def beside (left right : List Row) : List Row := List.zipWith (· ++ ·) left right

theorem length_beside {left right : List Row} (h : left.length = right.length) :
    (beside left right).length = right.length := by
  simp [beside, h]

end RegisterVM.Screen
