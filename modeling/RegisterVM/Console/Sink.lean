/-!
# Sinks

A sink takes texts as bytes.  One that has a limit takes exactly so many bytes in all: of a
text that does not fit it takes the part that does, and refuses the text.

* `Sink.fits`: the sink takes the whole of a text.
* `Sink.write`: the sink after a text.
* `written_write_of_fits`: a text that fits is appended as a whole.
-/

namespace RegisterVM

/-- What was written, and how many more bytes there is room for. -/
structure Sink where
  written : ByteArray
  /-- None when the sink takes everything. -/
  room : Option Nat

namespace Sink

/-- The empty sink with the given room. -/
def empty (room : Option Nat) : Sink := ⟨ByteArray.empty, room⟩

/-- The text fits into the sink. -/
def fits (s : Sink) (text : String) : Bool :=
  s.room.all fun room => text.utf8ByteSize ≤ room

/-- The sink after a text, of which it takes as much as it has room for. -/
def write (s : Sink) (text : String) : Sink :=
  match s.room with
  | none => { s with written := s.written ++ text.toUTF8 }
  | some room =>
      ⟨s.written ++ text.toUTF8.extract 0 room, some (room - text.utf8ByteSize)⟩

/-- Cutting bytes behind their end changes nothing. -/
theorem extract_of_size_le {bytes : ByteArray} {room : Nat} (h : bytes.size ≤ room) :
    bytes.extract 0 room = bytes := by
  refine ByteArray.ext ?_
  rw [ByteArray.data_extract]
  exact Array.extract_eq_self_of_le h

@[simp] theorem fits_empty_none (text : String) : (empty none).fits text = true := rfl

theorem fits_eq_true_iff {s : Sink} {text : String} :
    s.fits text = true ↔ ∀ room ∈ s.room, text.utf8ByteSize ≤ room := by
  unfold fits
  cases s.room <;> simp

theorem written_write_of_fits {s : Sink} {text : String} (h : s.fits text = true) :
    (s.write text).written = s.written ++ text.toUTF8 := by
  unfold write
  split
  · rfl
  · next room eq =>
    have le : text.utf8ByteSize ≤ room := fits_eq_true_iff.mp h room eq
    exact congrArg (s.written ++ ·) (extract_of_size_le le)

end Sink

end RegisterVM
