import Mathlib.Tactic.IntervalCases
import RegisterVM.Machine.Step

/-!
# Decoding inverts encoding

The table of instructions says which words an instruction is.  Decoding reads these words one
by one, each at an address that it computes with wrapping arithmetic and then holds against
the bounds of memory.  Here the two are compared word by word, and only at the end is the
wrapping arithmetic compared with the plain position in memory.

## 1.  Words

`Fetches memory ip k ws` says that the fetches from the `k`-th word behind `ip` on give the
words `ws`.  `decode_eq_ok_iff` is the whole of decoding in these terms: an instruction is
decoded exactly when its encoding is fetched, where an instruction that is carried as invalid
must not have a tag of the table.

## 2.  Cells

`Memory.slice` is the plain list of words at a place.  An offset of a few words can carry a
wrapping sum from the largest words to the least ones, but never into memory
(`fetch_ofNat_eq_ok_iff`), so fetching is reading a slice (`fetches_iff_slice`).

## 3.  The main statement

`decode_inverts_encode`: what is encoded in memory is decoded, what is decoded is encoded in
memory, and a word outside the table of tags is carried as it is.
-/

namespace RegisterVM

/-! ## 1.  Words -/

/-- A computation in two parts succeeds when both do. -/
theorem bind_eq_ok_iff {ε α β : Type} {x : Except ε α} {f : α → Except ε β} {b : β} :
    x >>= f = .ok b ↔ ∃ a, x = .ok a ∧ f a = .ok b := by
  cases x with
  | error e => simp [bind, Except.bind]
  | ok a => simp [bind, Except.bind]

theorem pure_eq_ok_iff {ε α : Type} {a b : α} : (pure a : Except ε α) = .ok b ↔ a = b := by
  simp [pure, Except.pure]

/-- A word that is the tag of no instruction. -/
def Word.IsNoTag (w : Word) : Prop := w.toInt < 1 ∨ 18 < w.toInt

/-- An instruction of the table, or one that is rightly carried as invalid. -/
def Instruction.WellTagged (i : Instruction) : Prop := ∀ tag, i = .invalid tag → tag.IsNoTag

/-- The fetches from the `k`-th word behind `ip` on give these words. -/
def Fetches (memory : Memory) (ip : Word) : Nat → List Word → Prop
  | _, [] => True
  | k, w :: ws => fetch memory ip (Int32.ofNat k) = .ok w ∧ Fetches memory ip (k + 1) ws

variable {memory : Memory} {ip : Word} {i : Instruction}

/-- The words between one and eighteen are the tags of the table. -/
theorem Word.eq_ofNat_of_not_isNoTag {w : Word} (h : ¬ w.IsNoTag) :
    ∃ n, 1 ≤ n ∧ n ≤ 18 ∧ w = Int32.ofNat n := by
  simp only [Word.IsNoTag, not_or, Int.not_lt] at h
  refine ⟨w.toInt.toNat, by omega, by omega, ?_⟩
  rw [← Int32.toInt_inj, Int32.toInt_ofNat_of_lt (by omega)]
  omega

/-- Only the number of a register names it. -/
theorem Register.eq_registerWord_of_ofWord? {w : Word} {r : Register}
    (h : Register.ofWord? w = some r) : w = Instruction.registerWord r := by
  rw [Register.ofWord?_eq_some_iff] at h
  rw [← Int32.toInt_inj, h, Instruction.registerWord, Int32.toInt_ofNat_of_lt (by omega)]

/-- A register operand is fetched when the word that names it is. -/
theorem fetchRegister_eq_ok_iff {k : Word} {r : Register} :
    fetchRegister memory ip k = .ok r ↔
      fetch memory ip k = .ok (Instruction.registerWord r) := by
  unfold fetchRegister
  rw [bind_eq_ok_iff]
  constructor
  · rintro ⟨w, fetched, named⟩
    split at named
    · next s eq =>
      obtain rfl := Except.ok.inj named
      rw [fetched, Register.eq_registerWord_of_ofWord? eq]
    · simp at named
  · intro fetched
    exact ⟨_, fetched, by rw [Instruction.ofWord?_registerWord]⟩

/-- What is decoded has been fetched. -/
theorem fetches_of_decode (h : decode memory ip = .ok i) :
    i.WellTagged ∧ Fetches memory ip 0 i.encode := by
  unfold decode at h
  obtain ⟨tag, h0, h⟩ := bind_eq_ok_iff.mp h
  split at h
  -- the rows of the table by their operands: two registers, a word and a register, one, none
  case h_2 | h_3 | h_4 | h_5 | h_6 | h_8 | h_11 | h_12 =>
    obtain ⟨r, h1, h⟩ := bind_eq_ok_iff.mp h
    obtain ⟨s, h2, h⟩ := bind_eq_ok_iff.mp h
    obtain rfl := pure_eq_ok_iff.mp h
    exact ⟨by simp [Instruction.WellTagged], h0, fetchRegister_eq_ok_iff.mp h1,
      fetchRegister_eq_ok_iff.mp h2, trivial⟩
  case h_1 | h_17 | h_18 =>
    obtain ⟨w, h1, h⟩ := bind_eq_ok_iff.mp h
    obtain ⟨r, h2, h⟩ := bind_eq_ok_iff.mp h
    obtain rfl := pure_eq_ok_iff.mp h
    exact ⟨by simp [Instruction.WellTagged], h0, h1, fetchRegister_eq_ok_iff.mp h2, trivial⟩
  case h_7 | h_9 | h_13 | h_15 | h_16 =>
    obtain ⟨r, h1, h⟩ := bind_eq_ok_iff.mp h
    obtain rfl := pure_eq_ok_iff.mp h
    exact ⟨by simp [Instruction.WellTagged], h0, fetchRegister_eq_ok_iff.mp h1, trivial⟩
  case h_10 | h_14 =>
    obtain rfl := pure_eq_ok_iff.mp h
    exact ⟨by simp [Instruction.WellTagged], h0, trivial⟩
  case h_19 =>
    obtain rfl := pure_eq_ok_iff.mp h
    refine ⟨?_, h0, trivial⟩
    intro word eq
    obtain rfl := Instruction.invalid.inj eq
    by_contra table
    obtain ⟨n, low, high, rfl⟩ := Word.eq_ofNat_of_not_isNoTag table
    interval_cases n <;> contradiction

/-- What is fetched is decoded. -/
theorem decode_of_fetches (tagged : i.WellTagged) (h : Fetches memory ip 0 i.encode) :
    decode memory ip = .ok i := by
  unfold decode
  refine bind_eq_ok_iff.mpr ?_
  cases i with
  | mov r s | add r s | sub r s | mul r s | idiv r s | jnz r s | ld r s | st r s =>
    obtain ⟨h0, h1, h2, -⟩ := h
    exact ⟨_, h0, bind_eq_ok_iff.mpr ⟨r, fetchRegister_eq_ok_iff.mpr h1,
      bind_eq_ok_iff.mpr ⟨s, fetchRegister_eq_ok_iff.mpr h2, rfl⟩⟩⟩
  | movi w r | ldlo w r | stlo w r =>
    obtain ⟨h0, h1, h2, -⟩ := h
    exact ⟨_, h0, bind_eq_ok_iff.mpr ⟨w, h1,
      bind_eq_ok_iff.mpr ⟨r, fetchRegister_eq_ok_iff.mpr h2, rfl⟩⟩⟩
  | jmp r | out r | jal r | push r | pop r =>
    obtain ⟨h0, h1, -⟩ := h
    exact ⟨_, h0, bind_eq_ok_iff.mpr ⟨r, fetchRegister_eq_ok_iff.mpr h1, rfl⟩⟩
  | halt | ret => exact ⟨_, h.1, rfl⟩
  | invalid tag =>
    have noTag := tagged tag rfl
    refine ⟨tag, h.1, ?_⟩
    split
    case h_19 => rfl
    all_goals exact absurd noTag (by unfold Word.IsNoTag; decide)

theorem decode_eq_ok_iff :
    decode memory ip = .ok i ↔ i.WellTagged ∧ Fetches memory ip 0 i.encode :=
  ⟨fetches_of_decode, fun h => decode_of_fetches h.1 h.2⟩

/-! ## 2.  Cells -/

/-- The words of memory at `count` cells from the cell `start` on, as far as memory goes. -/
def Memory.slice (memory : Memory) (start count : Nat) : List Word :=
  (memory.toList.drop start).take count

theorem Memory.length_slice (memory : Memory) (start count : Nat) :
    (memory.slice start count).length = min count (500 - start) := by
  simp [slice]

theorem Memory.slice_succ (memory : Memory) (a : Address) (count : Nat) :
    memory.slice a (count + 1) = memory.read a :: memory.slice (a + 1) count := by
  have inside : a.val < memory.toList.length := by simp
  rw [slice, List.drop_eq_getElem_cons inside, List.take_succ_cons, Vector.getElem_toList]
  rfl

/-- An offset below `2 ^ 31` does not wrap around into memory. -/
theorem fetch_ofNat_eq_ok_iff {k : Nat} (short : k < 2 ^ 31) {w : Word} :
    fetch memory ip (Int32.ofNat k) = .ok w ↔
      ∃ a : Address, ip.toInt + k = a.val ∧ memory.read a = w := by
  have low := ip.le_toInt
  have high := ip.toInt_lt
  rw [fetch_eq_ok_iff, Int32.toInt_add, Int32.toInt_ofNat_of_lt short]
  refine exists_congr fun a => and_congr_left fun _ => ?_
  rw [Int.bmod_def]
  have := a.isLt
  split <;> omega

/-- Fetching is reading the cells at a place. -/
theorem fetches_iff_slice {a : Nat} (at_ip : ip.toInt = a) {k : Nat} {ws : List Word}
    (short : k + ws.length < 2 ^ 31) :
    Fetches memory ip k ws ↔ memory.slice (a + k) ws.length = ws := by
  induction ws generalizing k with
  | nil => simp [Fetches, Memory.slice]
  | cons w ws ih =>
    rw [List.length_cons] at short
    rw [Fetches, fetch_ofNat_eq_ok_iff (by omega), ih (by omega), List.length_cons,
      ← Nat.add_assoc]
    constructor
    · rintro ⟨⟨b, place, rfl⟩, rest⟩
      have place : a + k = b.val := by omega
      rw [place] at rest ⊢
      rw [Memory.slice_succ, rest]
    · intro whole
      -- a slice that holds a word begins inside memory
      have inside : a + k < 500 := by
        have := congrArg List.length whole
        rw [Memory.length_slice, List.length_cons] at this
        omega
      rw [Memory.slice_succ memory ⟨a + k, inside⟩, List.cons.injEq] at whole
      exact ⟨⟨⟨a + k, inside⟩, by simp [at_ip], whole.1⟩, whole.2⟩

/-- An instruction is decoded where its encoding lies in memory. -/
theorem decode_eq_ok_iff_slice : decode memory ip = .ok i ↔
    i.WellTagged ∧ 0 ≤ ip.toInt ∧ memory.slice ip.toInt.toNat i.length = i.encode := by
  have long : 0 < i.encode.length := i.length_encode ▸ i.one_le_length
  have short : 0 + i.encode.length < 2 ^ 31 := by
    have := i.length_le_three
    rw [Instruction.length_encode]
    omega
  rw [decode_eq_ok_iff]
  refine and_congr_right fun _ => ?_
  by_cases low : 0 ≤ ip.toInt
  · have at_ip : ip.toInt = (ip.toInt.toNat : Int) := by omega
    rw [fetches_iff_slice at_ip short, Nat.add_zero, i.length_encode]
    exact ⟨fun h => ⟨low, h⟩, And.right⟩
  · -- not even the tag is fetched
    refine iff_of_false (fun h => low ?_) fun h => low h.1
    obtain ⟨w, ws, eq⟩ := List.exists_cons_of_length_pos long
    rw [eq] at h
    obtain ⟨a, place, -⟩ := (fetch_ofNat_eq_ok_iff (by decide)).mp h.1
    omega

/-- An instruction that lies in memory ends there. -/
theorem add_length_le_of_slice {a : Nat} (h : memory.slice a i.length = i.encode) :
    a + i.length ≤ 500 := by
  have sizes := congrArg List.length h
  have := i.one_le_length
  rw [Memory.length_slice, i.length_encode] at sizes
  omega

/-- What is decoded ends inside memory, counted in integers. -/
theorem ip_add_length_le_of_decode (h : decode memory ip = .ok i) :
    0 ≤ ip.toInt ∧ ip.toInt + i.length ≤ 500 := by
  obtain ⟨-, low, place⟩ := decode_eq_ok_iff_slice.mp h
  have := add_length_le_of_slice place
  omega

/-- The address behind what is decoded does not wrap around. -/
theorem toInt_ip_add_length_of_decode (h : decode memory ip = .ok i) :
    (ip + Int32.ofNat i.length).toInt = ip.toInt + i.length := by
  obtain ⟨low, high⟩ := ip_add_length_le_of_decode h
  rw [Int32.toInt_add, Int32.toInt_ofNat_of_lt (by omega)]
  exact Int.bmod_eq_of_le (by omega) (by omega)

/-- A word outside the table is carried as it is. -/
theorem decode_eq_invalid_iff {tag : Word} : decode memory ip = .ok (.invalid tag) ↔
    ∃ a : Address, ip.toInt = a.val ∧ memory.read a = tag ∧ tag.IsNoTag := by
  have fetched : Fetches memory ip 0 (Instruction.invalid tag).encode ↔
      ∃ a : Address, ip.toInt = a.val ∧ memory.read a = tag := by
    rw [Instruction.encode, Fetches, fetch_ofNat_eq_ok_iff (by decide)]
    simp [Fetches]
  rw [decode_eq_ok_iff, fetched]
  constructor
  · rintro ⟨tagged, a, place, held⟩
    exact ⟨a, place, held, tagged tag rfl⟩
  · rintro ⟨a, place, held, noTag⟩
    refine ⟨fun word eq => ?_, a, place, held⟩
    obtain rfl := Instruction.invalid.inj eq
    exact noTag

/-! ## 3.  The main statement -/

/-- **Decoding inverts encoding.**  For every memory:

* where the words of an instruction of the table lie, this instruction is decoded;
* an instruction of the table is decoded only where its words lie, all of them inside memory,
  and it is as long as its encoding; its registers are registers by their type;
* a word is carried as an invalid tag exactly where it lies and is no tag of the table;
* so only the words of an instruction decide that it is decoded, and the address behind it is
  the plain sum. -/
theorem decode_inverts_encode (memory : Memory) :
    (∀ (i : Instruction) (a : Nat), (∀ tag, i ≠ .invalid tag) → a + i.length ≤ 500 →
      memory.slice a i.length = i.encode → decode memory (Int32.ofNat a) = .ok i) ∧
    (∀ (ip : Word) (i : Instruction), (∀ tag, i ≠ .invalid tag) → decode memory ip = .ok i →
      0 ≤ ip.toInt ∧ ip.toInt + i.length ≤ 500 ∧ i.length = i.encode.length ∧
        memory.slice ip.toInt.toNat i.length = i.encode) ∧
    (∀ ip tag : Word, decode memory ip = .ok (.invalid tag) ↔
      ∃ a : Address, ip.toInt = a.val ∧ memory.read a = tag ∧
        (tag.toInt < 1 ∨ 18 < tag.toInt)) ∧
    (∀ (other : Memory) (ip : Word) (i : Instruction), decode memory ip = .ok i →
      other.slice ip.toInt.toNat i.length = memory.slice ip.toInt.toNat i.length →
      decode other ip = .ok i) ∧
    ∀ (ip : Word) (i : Instruction), decode memory ip = .ok i →
      (ip + Int32.ofNat i.length).toInt = ip.toInt + i.length := by
  refine ⟨fun i a form room place => ?_, fun ip i form h => ?_,
    fun ip tag => decode_eq_invalid_iff, fun other ip i h same => ?_,
    fun ip i => toInt_ip_add_length_of_decode⟩
  · have := i.one_le_length
    have at_a : (Int32.ofNat a).toInt = a := Int32.toInt_ofNat_of_lt (by omega)
    rw [decode_eq_ok_iff_slice, at_a]
    exact ⟨fun tag eq => absurd eq (form tag), by omega, place⟩
  · obtain ⟨low, high⟩ := ip_add_length_le_of_decode h
    exact ⟨low, high, i.length_encode.symm, (decode_eq_ok_iff_slice.mp h).2.2⟩
  · obtain ⟨tagged, low, place⟩ := decode_eq_ok_iff_slice.mp h
    exact decode_eq_ok_iff_slice.mpr ⟨tagged, low, same.trans place⟩

/-- A store whose last word is the last word of memory. -/
theorem decode_inverts_encode_at_end :
    let memory : Memory :=
      (((Machine.blank.setCell 497 12).setCell 498 5).setCell 499 31).memory
    let ip : Word := Int32.ofNat 497
    memory.slice 497 3 = (Instruction.st 5 31).encode ∧ decode memory ip = .ok (.st 5 31) ∧
      (ip + Int32.ofNat 3).toInt = 500 := by
  intro memory ip
  have place : memory.slice 497 3 = (Instruction.st 5 31).encode := by decide +kernel
  obtain ⟨decoded, -, -, -, behind⟩ := decode_inverts_encode memory
  have here : decode memory ip = .ok (.st 5 31) :=
    decoded (.st 5 31) 497 (by simp) (by decide) place
  exact ⟨place, here, behind ip (.st 5 31) here⟩

end RegisterVM
