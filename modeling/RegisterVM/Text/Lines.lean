/-!
# Lines

A text is cut at its line feeds.  A line feed ends a line, together with a carriage return that
stands in front of it.  What follows the last line feed is a line of its own only when it is not
empty, so that a text made of whole lines has as many lines as line feeds.
-/

namespace RegisterVM.Text

/-- The characters in front of a line feed without a carriage return at their end. -/
def dropReturn (cs : List Char) : List Char :=
  if cs.getLast? = some '\r' then cs.dropLast else cs

/-- The lines of a list of characters, without what ends them. -/
def splitLines (cs : List Char) : List (List Char) :=
  let pieces := cs.splitOn '\n'
  pieces.dropLast.map dropReturn ++ pieces.getLast?.toList.filter fun rest => rest ≠ []

/-- The lines of a text, without what ends them. -/
def lines (text : String) : List String :=
  (splitLines text.toList).map String.ofList

/-- The text as a line of its own. -/
def line (text : String) : String := text ++ "\n"

/-- The text made of the given lines. -/
def unlines (lines : List String) : String := String.join (lines.map line)

theorem splitLines_nil : splitLines [] = [] := rfl

end RegisterVM.Text
