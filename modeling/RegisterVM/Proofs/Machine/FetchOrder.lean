import RegisterVM.Proofs.Machine.Faults

/-!
# The order of fetching

Several things can be wrong with an instruction at once: it may begin outside memory, reach beyond
its end, and name registers that there are not.  One of them is reported, and which one is a matter
of the order in which the words are fetched.

## 1.  Operands

`Operand.ofTag` says for each tag what its operands are, and `Operand.Fails` what can be wrong with
one of them: it lies beyond memory, or it lies in memory and should name a register but does not.
The address of an operand is the plain sum.  An offset of one or two words can wrap around only
behind the largest words, where not even the tag is fetched (`toInt_ip_add`).

## 2.  From left to right

`FailsFirst` goes through a list of operands as decoding does, and stops at the first one that
fails.  Decoding is this list of tests, whatever instruction is made of the operands in the end
(`decode_eq_error_iff_of_tag`); so the rows of the table differ in their lists alone.

## 3.  The main statement

`FirstProblem` is the report by position: the tag, or the least operand that fails.
`decode_reports_first_problem` says that decoding reports it, and nothing else.
-/

namespace RegisterVM

/-! ## 1.  Operands -/

/-- A computation in two parts fails when the first part does, or the second one after it. -/
theorem bind_eq_error_iff {ε α β : Type} {x : Except ε α} {g : α → Except ε β} {e : ε} :
    x >>= g = .error e ↔ x = .error e ∨ ∃ a, x = .ok a ∧ g a = .error e := by
  cases x with
  | error e' => simp [bind, Except.bind]
  | ok a => simp [bind, Except.bind]

/-- What an operand is taken as. -/
inductive Operand where
  /-- Any word, as it is. -/
  | immediate
  /-- The number of a register. -/
  | register
  deriving DecidableEq, Repr

namespace Operand

/-- The operands of the instructions with the tags one to eighteen, in the order of the table. -/
def table : List (List Operand) :=
  [[.immediate, .register],
    [.register, .register],
    [.register, .register],
    [.register, .register],
    [.register, .register],
    [.register, .register],
    [.register],
    [.register, .register],
    [.register],
    [],
    [.register, .register],
    [.register, .register],
    [.register],
    [],
    [.register],
    [.register],
    [.immediate, .register],
    [.immediate, .register]]

/-- The operands behind a tag; a word that is no tag has none. -/
def ofTag (tag : Word) : List Operand :=
  if 1 ≤ tag.toInt then table[tag.toInt.toNat - 1]?.getD [] else []

/-- The operand `k` words behind `ip` cannot be taken, and this is the fault. -/
inductive Fails (memory : Memory) (ip : Word) (k : Nat) : Operand → Fault → Prop
  /-- It would lie beyond memory. -/
  | beyond {o : Operand} {address : Word} (plain : address.toInt = ip.toInt + k)
      (past : 499 < address.toInt) : Fails memory ip k o (.addressOutOfRange address ip)
  /-- It lies in memory and should name a register, but is the number of none. -/
  | unnamed {a : Address} (place : ip.toInt + k = a.val)
      (none : (memory.read a).toInt < 0 ∨ 32 ≤ (memory.read a).toInt) :
      Fails memory ip k .register (.badRegister (memory.read a) ip)

/-- Going through the operands from the `k`-th word behind `ip` on, this is the first fault. -/
def FailsFirst (memory : Memory) (ip : Word) : Nat → List Operand → Fault → Prop
  | _, [], _ => False
  | k, o :: os, f =>
      o.Fails memory ip k f ∨
        (∀ g, ¬ o.Fails memory ip k g) ∧ FailsFirst memory ip (k + 1) os f

variable {memory : Memory} {ip : Word} {k : Nat} {f : Fault}

/-- A word that is no tag has no operands. -/
theorem ofTag_of_isNoTag {tag : Word} (noTag : tag.IsNoTag) : ofTag tag = [] := by
  unfold ofTag
  rcases noTag with low | high
  · rw [if_neg (by omega)]
  · have behind : table.length ≤ tag.toInt.toNat - 1 := by
      have : table.length = 18 := rfl
      omega
    rw [if_pos (by omega), List.getElem?_eq_none behind]
    rfl

/-- Near an instruction that begins in memory, addresses are plain sums. -/
theorem toInt_ip_add (begins : ip.toInt ≤ 499) (short : k ≤ 2) :
    (ip + Int32.ofNat k).toInt = ip.toInt + k := by
  have low := ip.le_toInt
  rw [Int32.toInt_add, Int32.toInt_ofNat_of_lt (by omega)]
  exact Int.bmod_eq_of_le (by omega) (by omega)

/-- A word is fetched unless it lies beyond memory. -/
theorem fetch_eq_error_iff (begins : 0 ≤ ip.toInt ∧ ip.toInt ≤ 499) (short : k ≤ 2) :
    fetch memory ip (Int32.ofNat k) = .error f ↔ immediate.Fails memory ip k f := by
  have sum := toInt_ip_add begins.2 short
  have required : fetch memory ip (Int32.ofNat k) = .error f ↔
      Address.require ip (ip + Int32.ofNat k) = .error f := by
    rw [fetch]
    cases Address.require ip (ip + Int32.ofNat k) <;> simp [Except.map]
  rw [required, Address.require_eq_error_iff]
  constructor
  · rintro ⟨outside, rfl⟩
    exact .beyond sum (by omega)
  · rintro (⟨plain, past⟩ | _)
    obtain rfl := Int32.toInt_inj.mp (plain.trans sum.symm)
    exact ⟨.inr (by omega), rfl⟩

/-- A register is fetched unless its word is not, or is the number of none. -/
theorem fetchRegister_eq_error_iff (begins : 0 ≤ ip.toInt ∧ ip.toInt ≤ 499) (short : k ≤ 2) :
    fetchRegister memory ip (Int32.ofNat k) = .error f ↔ register.Fails memory ip k f := by
  have small : k < 2 ^ 31 := by omega
  rw [fetchRegister, bind_eq_error_iff, fetch_eq_error_iff begins short]
  simp only [fetch_ofNat_eq_ok_iff small]
  constructor
  · rintro ((⟨plain, past⟩ | _) | ⟨w, ⟨a, place, rfl⟩, unnamed⟩)
    · exact .beyond plain past
    · split at unnamed
      · cases unnamed
      · next none =>
        obtain rfl := Except.error.inj unnamed
        rw [Register.ofWord?_eq_none_iff] at none
        exact .unnamed place none
  · rintro (⟨plain, past⟩ | ⟨place, none⟩)
    · exact .inl (.beyond plain past)
    · rw [← Register.ofWord?_eq_none_iff] at none
      exact .inr ⟨_, ⟨_, place, rfl⟩, by rw [none]⟩

/-! ## 2.  From left to right -/

/-- An operand is taken and more is done: the first fault is that of the operand or a later one,
where the later ones do not depend on what the operand is. -/
theorem bind_eq_error_iff_failsFirst {α β : Type} {x : Except Fault α} {rest : α → Except Fault β}
    {o : Operand} {os : List Operand} (here : ∀ g, x = .error g ↔ o.Fails memory ip k g)
    (later : ∀ a, rest a = .error f ↔ FailsFirst memory ip (k + 1) os f) :
    x >>= rest = .error f ↔ FailsFirst memory ip k (o :: os) f := by
  rw [bind_eq_error_iff, here, FailsFirst]
  refine or_congr_right ?_
  constructor
  · rintro ⟨a, taken, fails⟩
    refine ⟨fun g fault => ?_, (later a).mp fails⟩
    rw [← here, taken] at fault
    cases fault
  · rintro ⟨sound, fails⟩
    cases taken : x with
    | error g => exact absurd ((here g).mp taken) (sound g)
    | ok a => exact ⟨a, rfl, (later a).mpr fails⟩

/-- What is done without any operands does not fail. -/
theorem pure_eq_error_iff_failsFirst {α : Type} (a : α) :
    (pure a : Except Fault α) = .error f ↔ FailsFirst memory ip k [] f :=
  iff_of_false (pure_ne_error a) id

/-- Behind a tag that has been fetched, decoding goes through the operands of this tag. -/
theorem decode_eq_error_iff_of_tag {tag : Word} (begins : 0 ≤ ip.toInt ∧ ip.toInt ≤ 499)
    (fetched : fetch memory ip 0 = .ok tag) :
    decode memory ip = .error f ↔ FailsFirst memory ip 1 (ofTag tag) f := by
  have word {k : Nat} (short : k ≤ 2) (g : Fault) :
      fetch memory ip (Int32.ofNat k) = .error g ↔ immediate.Fails memory ip k g :=
    fetch_eq_error_iff begins short
  have named {k : Nat} (short : k ≤ 2) (g : Fault) :
      fetchRegister memory ip (Int32.ofNat k) = .error g ↔ register.Fails memory ip k g :=
    fetchRegister_eq_error_iff begins short
  have behind {α : Type} (row : Word → Except Fault α) : (Except.ok tag >>= row) = row tag := rfl
  unfold decode
  dsimp only
  rw [fetched, behind]
  split
  case h_2 | h_3 | h_4 | h_5 | h_6 | h_8 | h_11 | h_12 =>
    exact bind_eq_error_iff_failsFirst (named (k := 1) (by decide)) fun _ =>
      bind_eq_error_iff_failsFirst (named (k := 2) (by decide)) fun _ =>
        pure_eq_error_iff_failsFirst _
  case h_1 | h_17 | h_18 =>
    exact bind_eq_error_iff_failsFirst (word (k := 1) (by decide)) fun _ =>
      bind_eq_error_iff_failsFirst (named (k := 2) (by decide)) fun _ =>
        pure_eq_error_iff_failsFirst _
  case h_7 | h_9 | h_13 | h_15 | h_16 =>
    exact bind_eq_error_iff_failsFirst (named (k := 1) (by decide)) fun _ =>
        pure_eq_error_iff_failsFirst _
  case h_10 | h_14 => exact pure_eq_error_iff_failsFirst _
  case h_19 =>
    have noTag : tag.IsNoTag := by
      by_contra known
      obtain ⟨n, low, high, rfl⟩ := Word.eq_ofNat_of_not_isNoTag known
      interval_cases n <;> contradiction
    rw [ofTag_of_isNoTag noTag]
    exact pure_eq_error_iff_failsFirst _

/-- By position: the first fault is that of the least operand that fails. -/
theorem failsFirst_iff {os : List Operand} : FailsFirst memory ip k os f ↔
    ∃ (j : Nat) (o : Operand), os[j]? = some o ∧ o.Fails memory ip (j + k) f ∧
      ∀ i < j, ∀ p : Operand, os[i]? = some p → ∀ g, ¬ p.Fails memory ip (i + k) g := by
  induction os generalizing k with
  | nil => simp [FailsFirst]
  | cons o os ih =>
    rw [FailsFirst, ih]
    constructor
    · rintro (fails | ⟨sound, j, p, there, fails, before⟩)
      · exact ⟨0, o, rfl, by rwa [Nat.zero_add], by simp⟩
      · refine ⟨j + 1, p, there, by rwa [Nat.succ_add_eq_add_succ], fun i lt q here => ?_⟩
        cases i with
        | zero =>
          obtain rfl := Option.some.inj here
          rwa [Nat.zero_add]
        | succ i =>
          rw [Nat.succ_add_eq_add_succ]
          exact before i (by omega) q here
    · rintro ⟨j, p, there, fails, before⟩
      cases j with
      | zero =>
        obtain rfl := Option.some.inj there
        rw [Nat.zero_add] at fails
        exact .inl fails
      | succ j =>
        have sound := before 0 (Nat.succ_pos j) o rfl
        rw [Nat.zero_add] at sound
        refine .inr ⟨sound, j, p, there, by rwa [← Nat.succ_add_eq_add_succ], fun i lt q here => ?_⟩
        rw [← Nat.succ_add_eq_add_succ]
        exact before (i + 1) (by omega) q here

/-- An operand is judged by its own cell alone. -/
theorem fails_congr {other : Memory} {o : Operand}
    (same : ∀ a : Address, ip.toInt + k = a.val → other.read a = memory.read a) :
    o.Fails other ip k f ↔ o.Fails memory ip k f := by
  constructor
  · rintro (⟨plain, past⟩ | ⟨place, none⟩)
    · exact .beyond plain past
    · rw [same _ place] at none ⊢
      exact .unnamed place none
  · rintro (⟨plain, past⟩ | ⟨place, none⟩)
    · exact .beyond plain past
    · rw [← same _ place] at none ⊢
      exact .unnamed place none

/-- The operands from some place on are judged by the cells from there on. -/
theorem failsFirst_congr {other : Memory} {os : List Operand}
    (same : ∀ a : Address, ip.toInt + k ≤ a.val → other.read a = memory.read a) :
    FailsFirst other ip k os f ↔ FailsFirst memory ip k os f := by
  induction os generalizing k with
  | nil => exact Iff.rfl
  | cons o os ih =>
    have here (g : Fault) : o.Fails other ip k g ↔ o.Fails memory ip k g :=
      fails_congr fun a place => same a (by omega)
    have later : FailsFirst other ip (k + 1) os f ↔ FailsFirst memory ip (k + 1) os f :=
      ih fun a place => same a (by omega)
    rw [FailsFirst, FailsFirst, here, later]
    simp only [here]

/-- An immediate in front is not looked at. -/
theorem failsFirst_immediate_congr {other : Memory} {os : List Operand}
    (same : ∀ a : Address, ip.toInt + k < a.val → other.read a = memory.read a) :
    FailsFirst other ip k (immediate :: os) f ↔ FailsFirst memory ip k (immediate :: os) f := by
  have beyond {m n : Memory} {g : Fault} (fails : immediate.Fails m ip k g) :
      immediate.Fails n ip k g := by
    obtain ⟨plain, past⟩ := fails
    exact .beyond plain past
  have here (g : Fault) : immediate.Fails other ip k g ↔ immediate.Fails memory ip k g :=
    ⟨beyond, beyond⟩
  have later : FailsFirst other ip (k + 1) os f ↔ FailsFirst memory ip (k + 1) os f :=
    failsFirst_congr fun a place => same a (by omega)
  rw [FailsFirst, FailsFirst, later]
  simp only [here]

/-- No instruction has more than two operands. -/
theorem length_ofTag_le (tag : Word) : (ofTag tag).length ≤ 2 := by
  have rows : ∀ os ∈ table, os.length ≤ 2 := by decide
  unfold ofTag
  split
  · cases row : table[tag.toInt.toNat - 1]? with
    | none => exact Nat.zero_le 2
    | some os => exact rows os (List.mem_of_getElem? row)
  · exact Nat.zero_le 2

end Operand

/-- A word is the address of a cell or lies outside memory. -/
theorem Word.isOutside_or_exists_place (w : Word) :
    w.IsOutside ∨ ∃ a : Address, w.toInt = a.val := by
  cases eq : Address.ofWord? w with
  | none => exact .inl (Address.ofWord?_eq_none_iff.mp eq)
  | some a => exact .inr ⟨a, Address.ofWord?_eq_some_iff.mp eq⟩

/-! ## 3.  The main statement -/

/-- What is reported of the instruction at `ip`. -/
inductive FirstProblem (memory : Memory) (ip : Word) : Fault → Prop
  /-- The tag is outside memory. -/
  | tag (outside : ip.IsOutside) : FirstProblem memory ip (.addressOutOfRange ip ip)
  /-- An operand fails, and none of those before it. -/
  | operand {a : Address} {j : Nat} {o : Operand} {f : Fault} (place : ip.toInt = a.val)
      (there : (Operand.ofTag (memory.read a))[j]? = some o) (fails : o.Fails memory ip (j + 1) f)
      (before : ∀ i < j, ∀ p, (Operand.ofTag (memory.read a))[i]? = some p →
        ∀ g, ¬ p.Fails memory ip (i + 1) g) : FirstProblem memory ip f

variable {memory : Memory} {ip : Word} {f : Fault}

/-- Outside memory not even the tag is fetched. -/
theorem decode_of_isOutside (outside : ip.IsOutside) :
    decode memory ip = .error (.addressOutOfRange ip ip) := by
  have refused : Address.require ip ip = .error (.addressOutOfRange ip ip) :=
    Address.require_eq_error_iff.mpr ⟨outside, rfl⟩
  have fetched : fetch memory ip 0 = .error (.addressOutOfRange ip ip) := by
    rw [fetch, Int32.add_zero, refused]
    rfl
  unfold decode
  dsimp only
  rw [fetched]
  rfl

/-- In memory the tag is fetched, and then its operands. -/
theorem decode_eq_error_iff_of_place {a : Address} (place : ip.toInt = a.val) :
    decode memory ip = .error f ↔
      Operand.FailsFirst memory ip 1 (Operand.ofTag (memory.read a)) f := by
  have begins : 0 ≤ ip.toInt ∧ ip.toInt ≤ 499 := by omega
  have fetched : fetch memory ip 0 = .ok (memory.read a) :=
    fetch_eq_ok_iff.mpr ⟨a, by rw [Int32.add_zero, place], rfl⟩
  exact Operand.decode_eq_error_iff_of_tag begins fetched

/-- Decoding reports the first problem, and nothing else. -/
theorem decode_eq_error_iff : decode memory ip = .error f ↔ FirstProblem memory ip f := by
  constructor
  · intro reported
    rcases Word.isOutside_or_exists_place ip with outside | ⟨a, place⟩
    · rw [decode_of_isOutside outside] at reported
      obtain rfl := Except.error.inj reported
      exact .tag outside
    · rw [decode_eq_error_iff_of_place place, Operand.failsFirst_iff] at reported
      obtain ⟨j, o, there, fails, before⟩ := reported
      exact .operand place there fails before
  · rintro (outside | ⟨place, there, fails, before⟩)
    · exact decode_of_isOutside outside
    · rw [decode_eq_error_iff_of_place place, Operand.failsFirst_iff]
      exact ⟨_, _, there, fails, before⟩

/-- **Decoding reports the first problem in the order of fetching.**  For every memory and every
word as the instruction pointer:

* decoding fails exactly with the fault of the first problem --- the tag outside memory, or the
  least operand that lies beyond memory or names no register --- and succeeds when there is none;
* an instruction of one word and a word that is no tag never fail once they are in memory;
* an immediate may be any word;
* a first operand that names no register is reported, whether or not there is room for another;
* an address that is reported is that of the tag or of the first or second word behind it, as a
  plain sum. -/
theorem decode_reports_first_problem (memory : Memory) (ip : Word) :
    (∀ f, decode memory ip = .error f ↔ FirstProblem memory ip f) ∧
    ((∃ i, decode memory ip = .ok i) ↔ ∀ f, ¬ FirstProblem memory ip f) ∧
    (∀ a : Address, ip.toInt = a.val →
      memory.read a = 10 ∨ memory.read a = 14 ∨ (memory.read a).IsNoTag →
      ∃ i, decode memory ip = .ok i) ∧
    (∀ a b : Address, ip.toInt = a.val → ip.toInt + 1 = b.val →
      (Operand.ofTag (memory.read a)).head? = some .immediate →
      ∀ w f, decode (memory.write b w) ip = .error f ↔ decode memory ip = .error f) ∧
    (∀ a b : Address, ip.toInt = a.val → ip.toInt + 1 = b.val →
      (Operand.ofTag (memory.read a)).head? = some .register →
      (memory.read b).toInt < 0 ∨ 32 ≤ (memory.read b).toInt →
      decode memory ip = .error (.badRegister (memory.read b) ip)) ∧
    ∀ address p, decode memory ip = .error (.addressOutOfRange address p) →
      p = ip ∧ ∃ k : Nat, k ≤ 2 ∧ address.toInt = ip.toInt + k := by
  have succeeds : (∃ i, decode memory ip = .ok i) ↔ ∀ f, ¬ FirstProblem memory ip f := by
    simp only [← decode_eq_error_iff]
    cases decode memory ip <;> simp
  refine ⟨fun f => decode_eq_error_iff, succeeds, ?_, ?_, ?_, ?_⟩
  · intro a place short
    have alone : Operand.ofTag (memory.read a) = [] := by
      rcases short with halt | ret | noTag
      · rw [halt]
        rfl
      · rw [ret]
        rfl
      · exact Operand.ofTag_of_isNoTag noTag
    rw [succeeds]
    intro f problem
    rw [← decode_eq_error_iff, decode_eq_error_iff_of_place place, alone] at problem
    exact problem
  · intro a b place behind first w f
    have apart : b ≠ a := by
      rintro rfl
      omega
    have tag : (memory.write b w).read a = memory.read a := by
      rw [Memory.read_write, if_neg apart]
    obtain ⟨os, row⟩ := List.head?_eq_some_iff.mp first
    rw [decode_eq_error_iff_of_place place, decode_eq_error_iff_of_place place, tag, row]
    -- the cell of the immediate is not looked at, and those behind it are as they were
    refine Operand.failsFirst_immediate_congr fun c later => ?_
    rw [Memory.read_write, if_neg]
    rintro rfl
    omega
  · intro a b place behind first none
    obtain ⟨os, row⟩ := List.head?_eq_some_iff.mp first
    rw [decode_eq_error_iff_of_place place, row]
    exact .inl (.unnamed behind none)
  · intro address p reported
    rw [decode_eq_error_iff] at reported
    rcases reported with outside | ⟨place, there, ⟨plain, past⟩ | _, before⟩
    · exact ⟨rfl, 0, by decide, by simp⟩
    · obtain ⟨inRow, -⟩ := List.getElem?_eq_some_iff.mp there
      exact ⟨rfl, _, inRow.trans_le (Operand.length_ofTag_le _), plain⟩

/-- A move in the last two cells: its source names no register, and its destination would lie beyond
memory. -/
theorem decode_reports_first_problem_mov :
    let memory : Memory := ((Machine.blank.setCell 498 2).setCell 499 40).memory
    decode memory 498 = .error (.badRegister 40 498) := by
  intro memory
  obtain ⟨-, -, -, -, source, -⟩ := decode_reports_first_problem memory 498
  have tag : (Operand.ofTag (memory.read 498)).head? = some .register := by decide +kernel
  have none : (memory.read 499).toInt < 0 ∨ 32 ≤ (memory.read 499).toInt := by decide +kernel
  have held : memory.read 499 = 40 := by decide +kernel
  have reported := source 498 499 (by decide) (by decide) tag none
  rwa [held] at reported

end RegisterVM
