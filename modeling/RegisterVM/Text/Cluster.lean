import RegisterVM.Text.Mark

/-!
# Clusters

What a reader takes for one character may be several: a letter with its accents, a consonant
with its vowel sign, a flag.  A text falls into such clusters by the rules for extended
grapheme clusters:

* a control character is a cluster of its own;
* a mark, a joiner or a vowel sign goes with what stands before it;
* a leading sign goes with what stands behind it;
* the vowels and finals of a syllable go together;
* a consonant goes with the one before it when a linking sign stands between them;
* a pictograph goes with the one before it when a joiner stands between them;
* of a row of flag letters, each two make a flag.

The rules for syllables that begin with a full letter are left out: such a letter is wider
than one cell, and no text that reaches a screen has it.

* `joins`: a cluster takes in the next character.
* `clusters`: a text cut into its clusters; `flatten_clusters` says that nothing is lost,
  `nil_notMem_clusters` that none is empty, and `clusters_of_ascii` that a text of ASCII falls
  into its characters.
-/

namespace RegisterVM.Text

/-- The code points that stand alone: controls, separators and most format characters. -/
def controlRanges : List (Nat × Nat) :=
  [(0x0, 0x1f), (0x7f, 0x9f), (0xad, 0xad), (0x61c, 0x61c), (0x180e, 0x180e),
    (0x200b, 0x200b), (0x200e, 0x200f), (0x2028, 0x202e), (0x2060, 0x206f), (0xfeff, 0xfeff),
    (0xfff0, 0xfffb), (0x13430, 0x1343f), (0x1bca0, 0x1bca3), (0x1d173, 0x1d17a),
    (0xe0000, 0xe001f), (0xe0080, 0xe00ff), (0xe01f0, 0xe0fff)]

/-- The code points of the vowel signs that have a width and go with the letter before. -/
def spacingRanges : List (Nat × Nat) :=
  [(0x903, 0x903), (0x93b, 0x93b), (0x93e, 0x940), (0x949, 0x94c), (0x94e, 0x94f),
    (0x982, 0x983), (0x9bf, 0x9c0), (0x9c7, 0x9c8), (0x9cb, 0x9cc), (0xa03, 0xa03),
    (0xa3e, 0xa40), (0xa83, 0xa83), (0xabe, 0xac0), (0xac9, 0xac9), (0xacb, 0xacc),
    (0xb02, 0xb03), (0xb40, 0xb40), (0xb47, 0xb48), (0xb4b, 0xb4c), (0xbbf, 0xbbf),
    (0xbc1, 0xbc2), (0xbc6, 0xbc8), (0xbca, 0xbcc), (0xc01, 0xc03), (0xc41, 0xc44),
    (0xc82, 0xc83), (0xcbe, 0xcbe), (0xcc1, 0xcc1), (0xcc3, 0xcc4), (0xcf3, 0xcf3),
    (0xd02, 0xd03), (0xd3f, 0xd40), (0xd46, 0xd48), (0xd4a, 0xd4c), (0xd82, 0xd83),
    (0xdd0, 0xdd1), (0xdd8, 0xdde), (0xdf2, 0xdf3), (0xe33, 0xe33), (0xeb3, 0xeb3),
    (0xf3e, 0xf3f), (0xf7f, 0xf7f), (0x1031, 0x1031), (0x103b, 0x103c), (0x1056, 0x1057),
    (0x1084, 0x1084), (0x17b6, 0x17b6), (0x17be, 0x17c5), (0x17c7, 0x17c8), (0x1923, 0x1926),
    (0x1929, 0x192b), (0x1930, 0x1931), (0x1933, 0x1938), (0x1a19, 0x1a1a), (0x1a55, 0x1a55),
    (0x1a57, 0x1a57), (0x1a6d, 0x1a72), (0x1b04, 0x1b04), (0x1b3e, 0x1b41), (0x1b82, 0x1b82),
    (0x1ba1, 0x1ba1), (0x1ba6, 0x1ba7), (0x1be7, 0x1be7), (0x1bea, 0x1bec), (0x1bee, 0x1bee),
    (0x1c24, 0x1c2b), (0x1c34, 0x1c35), (0x1ce1, 0x1ce1), (0x1cf7, 0x1cf7), (0xa823, 0xa824),
    (0xa827, 0xa827), (0xa880, 0xa881), (0xa8b4, 0xa8c3), (0xa952, 0xa952), (0xa983, 0xa983),
    (0xa9b4, 0xa9b5), (0xa9ba, 0xa9bb), (0xa9be, 0xa9bf), (0xaa2f, 0xaa30), (0xaa33, 0xaa34),
    (0xaa4d, 0xaa4d), (0xaaeb, 0xaaeb), (0xaaee, 0xaaef), (0xaaf5, 0xaaf5), (0xabe3, 0xabe4),
    (0xabe6, 0xabe7), (0xabe9, 0xabea), (0xabec, 0xabec), (0x11000, 0x11000),
    (0x11002, 0x11002), (0x11082, 0x11082), (0x110b0, 0x110b2), (0x110b7, 0x110b8),
    (0x1112c, 0x1112c), (0x11145, 0x11146), (0x11182, 0x11182), (0x111b3, 0x111b5),
    (0x111bf, 0x111bf), (0x111ce, 0x111ce), (0x1122c, 0x1122e), (0x11232, 0x11233),
    (0x112e0, 0x112e2), (0x11302, 0x11303), (0x1133f, 0x1133f), (0x11341, 0x11344),
    (0x11347, 0x11348), (0x1134b, 0x1134c), (0x11362, 0x11363), (0x113b9, 0x113ba),
    (0x113ca, 0x113ca), (0x113cc, 0x113cd), (0x11435, 0x11437), (0x11440, 0x11441),
    (0x11445, 0x11445), (0x114b1, 0x114b2), (0x114b9, 0x114b9), (0x114bb, 0x114bc),
    (0x114be, 0x114be), (0x114c1, 0x114c1), (0x115b0, 0x115b1), (0x115b8, 0x115bb),
    (0x115be, 0x115be), (0x11630, 0x11632), (0x1163b, 0x1163c), (0x1163e, 0x1163e),
    (0x116ac, 0x116ac), (0x116ae, 0x116af), (0x1171e, 0x1171e), (0x11726, 0x11726),
    (0x1182c, 0x1182e), (0x11838, 0x11838), (0x11931, 0x11935), (0x11937, 0x11938),
    (0x11940, 0x11940), (0x11942, 0x11942), (0x119d1, 0x119d3), (0x119dc, 0x119df),
    (0x119e4, 0x119e4), (0x11a39, 0x11a39), (0x11a57, 0x11a58), (0x11a97, 0x11a97),
    (0x11b61, 0x11b61), (0x11b65, 0x11b65), (0x11b67, 0x11b67), (0x11c2f, 0x11c2f),
    (0x11c3e, 0x11c3e), (0x11ca9, 0x11ca9), (0x11cb1, 0x11cb1), (0x11cb4, 0x11cb4),
    (0x11d8a, 0x11d8e), (0x11d93, 0x11d94), (0x11d96, 0x11d96), (0x11ef5, 0x11ef6),
    (0x11f03, 0x11f03), (0x11f34, 0x11f35), (0x11f3e, 0x11f3f), (0x1612a, 0x1612c),
    (0x16f51, 0x16f87)]

/-- The code points of the signs that go with the character behind them. -/
def leadingRanges : List (Nat × Nat) :=
  [(0x600, 0x605), (0x6dd, 0x6dd), (0x70f, 0x70f), (0x890, 0x891), (0x8e2, 0x8e2),
    (0xd4e, 0xd4e), (0x110bd, 0x110bd), (0x110cd, 0x110cd), (0x111c2, 0x111c3),
    (0x113d1, 0x113d1), (0x1193f, 0x1193f), (0x11941, 0x11941), (0x11a84, 0x11a89),
    (0x11d46, 0x11d46), (0x11f02, 0x11f02)]

/-- The code points of the vowels of syllables. -/
def vowelRanges : List (Nat × Nat) :=
  [(0x1160, 0x11a7), (0xd7b0, 0xd7c6), (0x16d63, 0x16d63), (0x16d67, 0x16d6a)]

/-- The code points of the finals of syllables. -/
def finalRanges : List (Nat × Nat) := [(0x11a8, 0x11ff), (0xd7cb, 0xd7fb)]

/-- The code points of the consonants that a linking sign joins. -/
def consonantRanges : List (Nat × Nat) :=
  [(0x915, 0x939), (0x958, 0x95f), (0x978, 0x97f), (0x995, 0x9a8), (0x9aa, 0x9b0),
    (0x9b2, 0x9b2), (0x9b6, 0x9b9), (0x9dc, 0x9dd), (0x9df, 0x9df), (0x9f0, 0x9f1),
    (0xa95, 0xaa8), (0xaaa, 0xab0), (0xab2, 0xab3), (0xab5, 0xab9), (0xaf9, 0xaf9),
    (0xb15, 0xb28), (0xb2a, 0xb30), (0xb32, 0xb33), (0xb35, 0xb39), (0xb5c, 0xb5d),
    (0xb5f, 0xb5f), (0xb71, 0xb71), (0xc15, 0xc28), (0xc2a, 0xc39), (0xc58, 0xc5a),
    (0xd15, 0xd3a), (0x1000, 0x1020), (0x103f, 0x103f), (0x1050, 0x1051), (0x105a, 0x105d),
    (0x1061, 0x1061), (0x1065, 0x1066), (0x106e, 0x1070), (0x1075, 0x1081), (0x108e, 0x108e),
    (0x1780, 0x17a2), (0x1a20, 0x1a4c), (0x1a53, 0x1a54), (0x1b13, 0x1b33), (0x1b45, 0x1b4c),
    (0x1b8a, 0x1ba0), (0x1bae, 0x1baf), (0x1bbb, 0x1bbd), (0xa989, 0xa98b), (0xa98f, 0xa9b2),
    (0xa9e0, 0xa9e4), (0xa9e7, 0xa9ef), (0xa9fa, 0xa9fe), (0xaa60, 0xaa6f), (0xaa71, 0xaa73),
    (0xaa7a, 0xaa7a), (0xaa7e, 0xaa7f), (0xaae2, 0xaaea), (0xabc0, 0xabcd), (0xabd0, 0xabd0),
    (0xabd2, 0xabda), (0x10a00, 0x10a00), (0x10a10, 0x10a13), (0x10a15, 0x10a17),
    (0x10a19, 0x10a35), (0x11107, 0x11126), (0x11144, 0x11144), (0x11147, 0x11147),
    (0x11392, 0x113b5), (0x1190c, 0x11913), (0x11915, 0x11916), (0x11918, 0x1192f),
    (0x11a0b, 0x11a32), (0x11a5c, 0x11a83), (0x11f12, 0x11f33)]

/-- The code points of the linking signs. -/
def linkerRanges : List (Nat × Nat) :=
  [(0x94d, 0x94d), (0x9cd, 0x9cd), (0xacd, 0xacd), (0xb4d, 0xb4d), (0xc4d, 0xc4d),
    (0xd4d, 0xd4d), (0x1039, 0x1039), (0x17d2, 0x17d2), (0x1a60, 0x1a60), (0x1b44, 0x1b44),
    (0x1bab, 0x1bab), (0xa9c0, 0xa9c0), (0xaaf6, 0xaaf6), (0x10a3f, 0x10a3f),
    (0x11133, 0x11133), (0x113d0, 0x113d0), (0x1193e, 0x1193e), (0x11a47, 0x11a47),
    (0x11a99, 0x11a99), (0x11f42, 0x11f42)]

/-- The code points of the pictographs, and those kept for more of them. -/
def pictographRanges : List (Nat × Nat) :=
  [(0xa9, 0xa9), (0xae, 0xae), (0x203c, 0x203c), (0x2049, 0x2049), (0x2122, 0x2122),
    (0x2139, 0x2139), (0x2194, 0x2199), (0x21a9, 0x21aa), (0x231a, 0x231b), (0x2328, 0x2328),
    (0x2388, 0x2388), (0x23cf, 0x23cf), (0x23e9, 0x23f3), (0x23f8, 0x23fa), (0x24c2, 0x24c2),
    (0x25aa, 0x25ab), (0x25b6, 0x25b6), (0x25c0, 0x25c0), (0x25fb, 0x25fe), (0x2600, 0x2605),
    (0x2607, 0x2612), (0x2614, 0x2685), (0x2690, 0x2705), (0x2708, 0x2712), (0x2714, 0x2714),
    (0x2716, 0x2716), (0x271d, 0x271d), (0x2721, 0x2721), (0x2728, 0x2728), (0x2733, 0x2734),
    (0x2744, 0x2744), (0x2747, 0x2747), (0x274c, 0x274c), (0x274e, 0x274e), (0x2753, 0x2755),
    (0x2757, 0x2757), (0x2763, 0x2767), (0x2795, 0x2797), (0x27a1, 0x27a1), (0x27b0, 0x27b0),
    (0x27bf, 0x27bf), (0x2934, 0x2935), (0x2b05, 0x2b07), (0x2b1b, 0x2b1c), (0x2b50, 0x2b50),
    (0x2b55, 0x2b55), (0x3030, 0x3030), (0x303d, 0x303d), (0x3297, 0x3297), (0x3299, 0x3299),
    (0x1f000, 0x1f0ff), (0x1f10d, 0x1f10f), (0x1f12f, 0x1f12f), (0x1f16c, 0x1f171),
    (0x1f17e, 0x1f17f), (0x1f18e, 0x1f18e), (0x1f191, 0x1f19a), (0x1f1ad, 0x1f1e5),
    (0x1f201, 0x1f20f), (0x1f21a, 0x1f21a), (0x1f22f, 0x1f22f), (0x1f232, 0x1f23a),
    (0x1f23c, 0x1f23f), (0x1f249, 0x1f3fa), (0x1f400, 0x1f53d), (0x1f546, 0x1f64f),
    (0x1f680, 0x1f6ff), (0x1f774, 0x1f77f), (0x1f7d5, 0x1f7ff), (0x1f80c, 0x1f80f),
    (0x1f848, 0x1f84f), (0x1f85a, 0x1f85f), (0x1f888, 0x1f88f), (0x1f8ae, 0x1f8ff),
    (0x1f90c, 0x1f93a), (0x1f93c, 0x1f945), (0x1f947, 0x1faff), (0x1fc00, 0x1fffd)]

/-- The letters of which two make a flag. -/
def isFlagLetter (c : Char) : Bool := 0x1f1e6 ≤ c.toNat && c.toNat ≤ 0x1f1ff

/-- The character goes with whatever stands before it, a control character apart. -/
def isTrailing (c : Char) : Bool :=
  isMark c || c = joiner || inRanges spacingRanges c.toNat

/-- The character goes on with the syllable that ends in the other one. -/
def goesOnSyllable (last c : Char) : Bool :=
  inRanges vowelRanges last.toNat && inRanges vowelRanges c.toNat ||
    (inRanges vowelRanges last.toNat || inRanges finalRanges last.toNat) &&
      inRanges finalRanges c.toNat

/-- The characters, last one first, end in a consonant with a linking sign behind it.  Other
marks may stand there too, but for the one that keeps letters apart. -/
def endsLinked (back : List Char) : Bool :=
  let marks := back.takeWhile fun c => (isMark c && c != nonJoiner) || c = joiner
  (marks.any fun c => inRanges linkerRanges c.toNat) &&
    (back.drop marks.length).head?.any fun c => inRanges consonantRanges c.toNat

/-- The characters, last one first, end in a pictograph, its marks and a joiner. -/
def endsJoined : List Char → Bool
  | [] => false
  | last :: back =>
      last = joiner &&
        (back.dropWhile isMark).head?.any fun c => inRanges pictographRanges c.toNat

/-- The characters, last one first, end in the first half of a flag. -/
def endsHalfFlag : List Char → Bool
  | [] => false
  | last :: back => isFlagLetter last && !back.any isFlagLetter

/-- The cluster with these characters, last one first, takes in the next character. -/
def joins (back : List Char) (c : Char) : Bool :=
  match back with
  | [] => true
  | last :: _ =>
      !inRanges controlRanges last.toNat && !inRanges controlRanges c.toNat &&
        (isTrailing c || inRanges leadingRanges last.toNat || goesOnSyllable last c ||
          inRanges consonantRanges c.toNat && endsLinked back ||
          inRanges pictographRanges c.toNat && endsJoined back ||
          isFlagLetter c && endsHalfFlag back)

/-- The clusters of a text, the first of them begun with the characters `back`, last one
first. -/
def clustersFrom (back : List Char) : List Char → List (List Char)
  | [] => [back.reverse]
  | c :: cs =>
      if joins back c then clustersFrom (c :: back) cs
      else back.reverse :: clustersFrom [c] cs

/-- The clusters of a text. -/
def clusters : List Char → List (List Char)
  | [] => []
  | c :: cs => clustersFrom [c] cs

theorem isTrailing_of_ascii {c : Char} (h : c.toNat < 0x80) : isTrailing c = false := by
  have h2 : inRanges spacingRanges c.toNat = false := inRanges_of_lt (by simp only; omega)
  have h3 : c ≠ joiner := by
    rintro rfl
    exact absurd h (by decide)
  simp [isTrailing, isMark_of_ascii h, h2, h3]

theorem isFlagLetter_of_ascii {c : Char} (h : c.toNat < 0x80) : isFlagLetter c = false := by
  have h2 : ¬0x1f1e6 ≤ c.toNat := by omega
  simp [isFlagLetter, h2]

/-- Between two characters of ASCII a cluster ends. -/
theorem joins_of_ascii {last c : Char} (back : List Char) (hl : last.toNat < 0x80)
    (hc : c.toNat < 0x80) : joins (last :: back) c = false := by
  have h1 : inRanges leadingRanges last.toNat = false := inRanges_of_lt (by simp only; omega)
  have h2 : inRanges vowelRanges c.toNat = false := inRanges_of_lt (by simp only; omega)
  have h3 : inRanges finalRanges c.toNat = false := inRanges_of_lt (by simp only; omega)
  have h4 : inRanges consonantRanges c.toNat = false := inRanges_of_lt (by simp only; omega)
  have h5 : inRanges pictographRanges c.toNat = false := inRanges_of_lt (by simp only; omega)
  simp [joins, goesOnSyllable, isTrailing_of_ascii hc, isFlagLetter_of_ascii hc, h1, h2, h3, h4,
    h5]

theorem clusters_of_ascii {cs : List Char} (h : ∀ c ∈ cs, c.toNat < 0x80) :
    clusters cs = cs.map fun c => [c] := by
  have aux : ∀ (cs : List Char) (c : Char), c.toNat < 0x80 → (∀ d ∈ cs, d.toNat < 0x80) →
      clustersFrom [c] cs = (c :: cs).map fun c => [c] := by
    intro cs
    induction cs with
    | nil => intros; rfl
    | cons d ds ih =>
        intro c hc hds
        have hd : d.toNat < 0x80 := hds d (by simp)
        rw [clustersFrom, if_neg (by simp [joins_of_ascii [] hc hd]),
          ih d hd fun e he => hds e (by simp [he])]
        rfl
  cases cs with
  | nil => rfl
  | cons c cs => exact aux cs c (h c (by simp)) fun d hd => h d (by simp [hd])

theorem flatten_clustersFrom (back cs : List Char) :
    (clustersFrom back cs).flatten = back.reverse ++ cs := by
  induction cs generalizing back with
  | nil => simp [clustersFrom]
  | cons c cs ih =>
      rw [clustersFrom]
      split <;> simp [ih]

theorem flatten_clusters (cs : List Char) : (clusters cs).flatten = cs := by
  cases cs with
  | nil => rfl
  | cons c cs => simp [clusters, flatten_clustersFrom]

theorem nil_notMem_clustersFrom {back : List Char} (h : back ≠ []) (cs : List Char) :
    [] ∉ clustersFrom back cs := by
  induction cs generalizing back with
  | nil => simpa [clustersFrom] using h
  | cons c cs ih =>
      rw [clustersFrom]
      split
      · exact ih (by simp)
      · simpa [h] using ih (List.cons_ne_nil c [])

theorem nil_notMem_clusters (cs : List Char) : [] ∉ clusters cs := by
  cases cs with
  | nil => simp [clusters]
  | cons c cs => exact nil_notMem_clustersFrom (by simp) cs

end RegisterVM.Text
