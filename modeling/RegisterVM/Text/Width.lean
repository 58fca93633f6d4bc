import RegisterVM.Text.Mark

/-!
# Widths

How many cells of a screen a text takes.  A character takes one or none: marks, the characters
that programs may ignore when they show a text, the vowels and finals that are drawn into the
syllable before them, and the leading signs take none.  The width of a text is the sum over its
characters, but for two things that depend on what stands behind a character:

* a pictograph takes two cells when the selector of the emoji style stands behind it, and a
  sequence of such pictographs with joiners between them takes no more than one of them;
* a letter that the stacking sign puts below the one before it takes none.

Characters that take two cells by themselves are left out: no text that reaches a screen has
them.

* `charWidth`, `width`: the cells of a character and of a text.
-/

namespace RegisterVM.Text

/-- The code points without a width, marks apart. -/
def zeroWidthRanges : List (Nat × Nat) :=
  [(0xad, 0xad), (0x605, 0x605), (0x61c, 0x61c), (0x70f, 0x70f), (0x890, 0x891),
    (0x8e2, 0x8e2), (0xd4e, 0xd4e), (0x1160, 0x11ff), (0x180e, 0x180e), (0x200b, 0x200b),
    (0x200d, 0x200f), (0x202a, 0x202e), (0x2060, 0x206f), (0x3164, 0x3164), (0xa8fa, 0xa8fa),
    (0xd7b0, 0xd7c6), (0xd7cb, 0xd7fb), (0xfeff, 0xfeff), (0xffa0, 0xffa0), (0xfff0, 0xfff8),
    (0x111c2, 0x111c3), (0x1171e, 0x1171e), (0x1193f, 0x1193f), (0x11941, 0x11941),
    (0x11a3a, 0x11a3a), (0x11a84, 0x11a89), (0x11d46, 0x11d46), (0x11f02, 0x11f02),
    (0x1bca0, 0x1bca3), (0x1d173, 0x1d17a), (0xe0000, 0xe001f), (0xe0080, 0xe00ff),
    (0xe01f0, 0xe0fff)]

/-- The code points of the marks that take a cell: the joiner of consonants, and the marks that
came after version 15.1 of the character tables, by which the widths go. -/
def spacedMarkRanges : List (Nat × Nat) :=
  [(0x897, 0x897), (0x1715, 0x1715), (0x1734, 0x1734), (0x1acf, 0x1add), (0x1ae0, 0x1aeb),
    (0x1b44, 0x1b44), (0x1baa, 0x1baa), (0x1bf2, 0x1bf3), (0x2d7f, 0x2d7f), (0xa953, 0xa953),
    (0xa9c0, 0xa9c0), (0x10d69, 0x10d6d), (0x10efa, 0x10efc), (0x111c0, 0x111c0),
    (0x11235, 0x11235), (0x1134d, 0x1134d), (0x113b8, 0x113b8), (0x113bb, 0x113c0),
    (0x113c2, 0x113c2), (0x113c5, 0x113c5), (0x113c7, 0x113c9), (0x113ce, 0x113d0),
    (0x113d2, 0x113d2), (0x113e1, 0x113e2), (0x116b6, 0x116b6), (0x1193d, 0x1193d),
    (0x11b60, 0x11b60), (0x11b62, 0x11b64), (0x11b66, 0x11b66), (0x11f41, 0x11f41),
    (0x11f5a, 0x11f5a), (0x1611e, 0x16129), (0x1612d, 0x1612f), (0x16ff0, 0x16ff1),
    (0x1d166, 0x1d166), (0x1d16d, 0x1d16d), (0x1e5ee, 0x1e5ef), (0x1e6e3, 0x1e6e3),
    (0x1e6e6, 0x1e6e6), (0x1e6ee, 0x1e6ef), (0x1e6f5, 0x1e6f5)]

/-- The code points that the emoji style makes wide. -/
def emojiRanges : List (Nat × Nat) :=
  [(0x23, 0x23), (0x2a, 0x2a), (0x30, 0x39), (0xa9, 0xa9), (0xae, 0xae), (0x203c, 0x203c),
    (0x2049, 0x2049), (0x2122, 0x2122), (0x2139, 0x2139), (0x2194, 0x2199), (0x21a9, 0x21aa),
    (0x2328, 0x2328), (0x23cf, 0x23cf), (0x23ed, 0x23ef), (0x23f1, 0x23f2), (0x23f8, 0x23fa),
    (0x24c2, 0x24c2), (0x25aa, 0x25ab), (0x25b6, 0x25b6), (0x25c0, 0x25c0), (0x25fb, 0x25fc),
    (0x2600, 0x2604), (0x260e, 0x260e), (0x2611, 0x2611), (0x2618, 0x2618), (0x261d, 0x261d),
    (0x2620, 0x2620), (0x2622, 0x2623), (0x2626, 0x2626), (0x262a, 0x262a), (0x262e, 0x262f),
    (0x2638, 0x263a), (0x2640, 0x2640), (0x2642, 0x2642), (0x265f, 0x2660), (0x2663, 0x2663),
    (0x2665, 0x2666), (0x2668, 0x2668), (0x267b, 0x267b), (0x267e, 0x267e), (0x2692, 0x2692),
    (0x2694, 0x2697), (0x2699, 0x2699), (0x269b, 0x269c), (0x26a0, 0x26a0), (0x26a7, 0x26a7),
    (0x26b0, 0x26b1), (0x26c8, 0x26c8), (0x26cf, 0x26cf), (0x26d1, 0x26d1), (0x26d3, 0x26d3),
    (0x26e9, 0x26e9), (0x26f0, 0x26f1), (0x26f4, 0x26f4), (0x26f7, 0x26f9), (0x2702, 0x2702),
    (0x2708, 0x2709), (0x270c, 0x270d), (0x270f, 0x270f), (0x2712, 0x2712), (0x2714, 0x2714),
    (0x2716, 0x2716), (0x271d, 0x271d), (0x2721, 0x2721), (0x2733, 0x2734), (0x2744, 0x2744),
    (0x2747, 0x2747), (0x2763, 0x2764), (0x27a1, 0x27a1), (0x2934, 0x2935), (0x2b05, 0x2b07),
    (0x3030, 0x3030), (0x303d, 0x303d), (0x3297, 0x3297), (0x3299, 0x3299),
    (0x1f170, 0x1f171), (0x1f17e, 0x1f17f), (0x1f202, 0x1f202), (0x1f237, 0x1f237),
    (0x1f321, 0x1f321), (0x1f324, 0x1f32c), (0x1f336, 0x1f336), (0x1f37d, 0x1f37d),
    (0x1f396, 0x1f397), (0x1f399, 0x1f39b), (0x1f39e, 0x1f39f), (0x1f3cb, 0x1f3ce),
    (0x1f3d4, 0x1f3df), (0x1f3f3, 0x1f3f3), (0x1f3f5, 0x1f3f5), (0x1f3f7, 0x1f3f7),
    (0x1f43f, 0x1f43f), (0x1f441, 0x1f441), (0x1f4fd, 0x1f4fd), (0x1f549, 0x1f54a),
    (0x1f56f, 0x1f570), (0x1f573, 0x1f579), (0x1f587, 0x1f587), (0x1f58a, 0x1f58d),
    (0x1f590, 0x1f590), (0x1f5a5, 0x1f5a5), (0x1f5a8, 0x1f5a8), (0x1f5b1, 0x1f5b2),
    (0x1f5bc, 0x1f5bc), (0x1f5c2, 0x1f5c4), (0x1f5d1, 0x1f5d3), (0x1f5dc, 0x1f5de),
    (0x1f5e1, 0x1f5e1), (0x1f5e3, 0x1f5e3), (0x1f5e8, 0x1f5e8), (0x1f5ef, 0x1f5ef),
    (0x1f5f3, 0x1f5f3), (0x1f5fa, 0x1f5fa), (0x1f6cb, 0x1f6cb), (0x1f6cd, 0x1f6cf),
    (0x1f6e0, 0x1f6e5), (0x1f6e9, 0x1f6e9), (0x1f6f0, 0x1f6f0), (0x1f6f3, 0x1f6f3)]

/-- The code points of the letters that the stacking sign puts below others. -/
def stackedRanges : List (Nat × Nat) :=
  [(0x1780, 0x1782), (0x1784, 0x1787), (0x1789, 0x178c), (0x178e, 0x1793), (0x1795, 0x1798),
    (0x179b, 0x179d), (0x17a0, 0x17a0), (0x17a2, 0x17a2), (0x17a7, 0x17a7), (0x17ab, 0x17ac),
    (0x17af, 0x17af)]

/-- The selector of the emoji style. -/
def emojiSelector : Char := '\ufe0f'

/-- The sign that puts the letter behind it below the one before it. -/
def stackingSign : Char := '\u17d2'

/-- The cells of a character by itself. -/
def charWidth (c : Char) : Nat :=
  if isMark c && !inRanges spacedMarkRanges c.toNat || inRanges zeroWidthRanges c.toNat then 0
  else 1

/-- What stands behind a character, as far as its width depends on that. -/
inductive Behind where
  /-- A letter that can be put below another. -/
  | stackable
  /-- The selector of the emoji style. -/
  | selector
  /-- A pictograph in the emoji style. -/
  | emoji
  /-- A joiner with such a pictograph behind it. -/
  | joined
  /-- The selector with such a joiner behind it. -/
  | joinedSelector
  | anything
  deriving DecidableEq, Repr

/-- The width of a text and what it begins with, from those of the text without its first
character. -/
def extendWidth (c : Char) : Nat × Behind → Nat × Behind
  | (n, behind) =>
      if inRanges emojiRanges c.toNat && behind = .selector then (n + 2, .emoji)
      else if inRanges emojiRanges c.toNat && behind = .joinedSelector then (n, .emoji)
      else if c = emojiSelector then (n, if behind = .joined then .joinedSelector else .selector)
      else if c = joiner && behind = .emoji then (n, .joined)
      else if c = stackingSign && behind = .stackable then (n - 1, .anything)
      else (n + charWidth c, if inRanges stackedRanges c.toNat then .stackable else .anything)

/-- The cells of a text. -/
def width (cs : List Char) : Nat := (cs.foldr extendWidth (0, .anything)).1

theorem charWidth_le_one (c : Char) : charWidth c ≤ 1 := by
  unfold charWidth
  split <;> omega

theorem charWidth_of_ascii {c : Char} (h : c.toNat < 0x80) : charWidth c = 1 := by
  have h2 : inRanges zeroWidthRanges c.toNat = false := inRanges_of_lt (by simp only; omega)
  simp [charWidth, isMark_of_ascii h, h2]

@[simp] theorem width_nil : width [] = 0 := rfl

theorem width_of_ascii {c : Char} (h : c.toNat < 0x80) : width [c] = 1 := by
  have h2 : c ≠ emojiSelector := by
    rintro rfl
    exact absurd h (by decide)
  simp [width, extendWidth, charWidth_of_ascii h, h2]

end RegisterVM.Text
