import RegisterVM.Console.Input
import RegisterVM.Proofs.Console.Unlimited

/-!
# Command lines as bytes

The command input is cut at the byte of the line feed.  No other character has this byte in
its encoding, so the cuts are exactly those of the text, and each piece is the encoding of a
line.

* `eq_lineFeed_of_mem_utf8EncodeChar`: only the line feed has the byte 10 in its encoding.
* `IsLines`, `isLines_cutLines`: what the lines of some bytes are, and that the bytes are cut into
  them.
* `cutLines_append`: the first line of the bytes.
* `InputLine.ofBytes_unlines`: the lines of a text made of lines.
-/

namespace RegisterVM

/-! ## Bytes -/

theorem toList_loop_eq (bytes : ByteArray) (i : Nat) (done : List UInt8) :
    ByteArray.toList.loop bytes i done = done.reverse ++ bytes.data.toList.drop i := by
  fun_induction ByteArray.toList.loop bytes i done with
  | case1 i done lt ih =>
    have byte : bytes.get! i = bytes.data.toList[i] :=
      (getElem!_pos bytes.data i lt).trans (Array.getElem_toList lt).symm
    rw [ih, List.drop_eq_getElem_cons (Nat.lt_of_lt_of_eq lt Array.length_toList.symm),
      List.reverse_cons, List.append_assoc, byte]
    rfl
  | case2 i done ge =>
    rw [List.drop_eq_nil_of_le (by simpa using Nat.le_of_not_lt ge), List.append_nil]

/-- The bytes of a text are those of its characters. -/
theorem Text.toList_toUTF8 (text : String) :
    text.toUTF8.toList = text.toList.flatMap String.utf8EncodeChar := by
  rw [ByteArray.toList, toList_loop_eq, List.drop_zero, String.toUTF8_eq_toByteArray,
    ← String.utf8Encode_toList, List.utf8Encode, List.toList_data_toByteArray]
  rfl

theorem mk_toArray_toList (bytes : ByteArray) : ByteArray.mk bytes.toList.toArray = bytes := by
  rw [ByteArray.toList, toList_loop_eq]
  rfl

/-- A byte of 128 or more is not that of the line feed. -/
theorem lineFeed_ne_ofNat {n : Nat} (high : 128 ≤ n) (byte : n < 256) :
    (10 : UInt8) ≠ UInt8.ofNat n := by
  intro eq
  have value : 10 = n % 2 ^ 8 := by rw [← UInt8.toNat_ofNat', ← eq]; rfl
  omega

/-- Only the line feed has its byte in its encoding: every byte of a longer encoding is at
least 128. -/
theorem eq_lineFeed_of_mem_utf8EncodeChar {c : Char} (h : 10 ∈ String.utf8EncodeChar c) :
    c = '\n' := by
  unfold String.utf8EncodeChar at h
  dsimp only at h
  split at h
  · next short =>
    have value : 10 = c.val.toNat % 2 ^ 8 := by
      rw [← UInt8.toNat_ofNat', ← List.mem_singleton.mp h]
      rfl
    rw [Nat.mod_eq_of_lt (by omega)] at value
    exact Char.toNat_inj.mp value.symm
  · exfalso
    split at h
    · simp only [List.mem_cons, List.not_mem_nil, or_false] at h
      rcases h with h | h <;> exact lineFeed_ne_ofNat (by omega) (by omega) h
    · split at h
      · simp only [List.mem_cons, List.not_mem_nil, or_false] at h
        rcases h with h | h | h <;> exact lineFeed_ne_ofNat (by omega) (by omega) h
      · simp only [List.mem_cons, List.not_mem_nil, or_false] at h
        rcases h with h | h | h | h <;> exact lineFeed_ne_ofNat (by omega) (by omega) h

/-! ## Lines -/

/-- The pieces are the lines of the bytes: they make up the bytes, none is empty, a line feed stands
only at the end of a piece, and every piece but the last ends with one. -/
structure IsLines (bs : List UInt8) (lines : List (List UInt8)) : Prop where
  whole : lines.flatten = bs
  nonempty : ∀ line ∈ lines, line ≠ []
  unbroken : ∀ line ∈ lines, 10 ∉ line.dropLast
  broken : ∀ line ∈ lines.dropLast, line.getLast? = some 10

namespace IsLines

variable {bs line : List UInt8} {lines : List (List UInt8)} {b : UInt8}

/-- A line feed in front is a line of its own. -/
theorem feed (h : IsLines bs lines) : IsLines (10 :: bs) ([10] :: lines) where
  whole := by rw [List.flatten_cons, h.whole, List.singleton_append]
  nonempty := by simpa using h.nonempty
  unbroken := by simpa using h.unbroken
  broken := by
    cases lines with
    | nil => simp
    | cons first more => simpa [List.dropLast_cons_of_ne_nil] using h.broken

/-- Any other byte in front goes to the first line. -/
theorem extend (h : IsLines bs (line :: lines)) (other : b ≠ 10) :
    IsLines (b :: bs) ((b :: line) :: lines) where
  whole := by rw [List.flatten_cons, List.cons_append, ← List.flatten_cons, h.whole]
  nonempty := by simpa using fun l mem => h.nonempty l (List.mem_cons_of_mem _ mem)
  unbroken := by
    intro l mem
    rcases List.mem_cons.mp mem with rfl | mem
    · have ne : line ≠ [] := h.nonempty line List.mem_cons_self
      rw [List.dropLast_cons_of_ne_nil ne, List.mem_cons, not_or]
      exact ⟨other.symm, h.unbroken line List.mem_cons_self⟩
    · exact h.unbroken l (List.mem_cons_of_mem _ mem)
  broken := by
    have broken := h.broken
    cases lines with
    | nil => simp
    | cons second more =>
      rw [List.dropLast_cons_of_ne_nil (List.cons_ne_nil _ _), List.forall_mem_cons] at broken ⊢
      exact ⟨by rw [List.getLast?_cons, broken.1]; rfl, broken.2⟩

end IsLines

/-- The bytes are cut into their lines. -/
theorem isLines_cutLines (bs : List UInt8) : IsLines bs (cutLines bs) := by
  induction bs with
  | nil => exact ⟨rfl, by simp [cutLines], by simp [cutLines], by simp [cutLines]⟩
  | cons b bs ih =>
    rw [cutLines]
    split
    · next feed => exact feed ▸ ih.feed
    · next other =>
      cases eq : cutLines bs with
      | nil =>
        obtain rfl : [] = bs := by rw [← flatten_cutLines bs, eq]; rfl
        exact ⟨rfl, by simp, by simp, by simp⟩
      | cons line lines => exact (eq ▸ ih).extend other

/-- The bytes up to the first line feed are the first line. -/
theorem cutLines_append {bs : List UInt8} (h : 10 ∉ bs) (rest : List UInt8) :
    cutLines (bs ++ 10 :: rest) = (bs ++ [10]) :: cutLines rest := by
  induction bs with
  | nil => rw [List.nil_append, cutLines, if_pos rfl]; rfl
  | cons b bs ih =>
    rw [List.mem_cons, not_or] at h
    rw [List.cons_append, cutLines, if_neg (Ne.symm h.1), ih h.2]
    rfl

theorem InputLine.ofLineBytes_toUTF8 (text : String) :
    InputLine.ofLineBytes text.toUTF8 = .text text := by
  have read : String.fromUTF8? text.toUTF8 = some text := by
    exact dif_pos text.isValidUTF8
  rw [InputLine.ofLineBytes, read]

/-- The lines of a text made of lines are these lines. -/
theorem InputLine.ofBytes_unlines {lines : List String}
    (h : ∀ line ∈ lines, '\n' ∉ line.toList) :
    InputLine.ofBytes (Text.unlines lines).toUTF8 =
      lines.map fun line => .text (Text.line line) := by
  induction lines with
  | nil =>
    rw [ofBytes, Text.toList_toUTF8]
    rfl
  | cons line lines ih =>
    have first : Text.unlines (line :: lines) = line ++ ("\n" ++ Text.unlines lines) := by
      rw [Text.unlines, List.map_cons, String.join_cons, Text.line, String.append_assoc]
      rfl
    have bytes : (Text.unlines (line :: lines)).toUTF8.toList =
        line.toUTF8.toList ++ 10 :: (Text.unlines lines).toUTF8.toList := by
      rw [first, Text.toList_toUTF8, Text.toList_toUTF8, Text.toList_toUTF8,
        String.toList_append, String.toList_append, List.flatMap_append, List.flatMap_append]
      rfl
    have whole : line.toUTF8.toList ++ [10] = (Text.line line).toUTF8.toList := by
      rw [Text.line, Text.toList_toUTF8, Text.toList_toUTF8, String.toList_append,
        List.flatMap_append]
      rfl
    have unbroken : 10 ∉ line.toUTF8.toList := by
      rw [Text.toList_toUTF8, List.mem_flatMap]
      rintro ⟨c, mem, byte⟩
      rw [eq_lineFeed_of_mem_utf8EncodeChar byte] at mem
      exact h line List.mem_cons_self mem
    have rest := ih fun line mem => h line (List.mem_cons_of_mem _ mem)
    rw [ofBytes] at rest ⊢
    rw [bytes, cutLines_append unbroken, List.map_cons, rest, whole, mk_toArray_toList,
      ofLineBytes_toUTF8, List.map_cons]

end RegisterVM
