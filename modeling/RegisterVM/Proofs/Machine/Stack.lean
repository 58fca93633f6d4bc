import RegisterVM.Proofs.Machine.Sequence

/-!
# The discipline of the stack

Pushing some registers and popping into others in the reverse order carries each pushed word to
its destination and leaves the stack pointer where it was, to any depth.

## 1.  Code in memory

`Memory.Holds` says that the cells from some place on hold some words.  Words one behind the other
can be looked at apart (`holds_append`), and a store elsewhere does not matter (`Holds.congr`).

## 2.  One push and one pop

`pushed_next` and `popped_next` read the footprints of the two instructions off at a stack pointer
that points to a cell, or behind one.

## 3.  Any depth

The code for a list of pairs is a push, the code for the rest of the list, and a pop.  So one
induction on the list goes through both halves at once: the word that was pushed first lies under
everything that the rest does, and is popped last.  It is the last to be popped that stays in a
register that several pairs have as their destination, which is `origin`.
-/

namespace RegisterVM

/-! ## 1.  Code in memory -/

namespace Memory

variable {memory other : Memory}

/-- The cells from `start` on hold these words. -/
def Holds (memory : Memory) (start : Nat) (words : List Word) : Prop :=
  memory.slice start words.length = words

theorem slice_add (memory : Memory) (start a b : Nat) :
    memory.slice start (a + b) = memory.slice start a ++ memory.slice (start + a) b := by
  rw [slice, slice, slice, List.take_add, List.drop_drop]

/-- What lies in memory has room there. -/
theorem Holds.add_length_le {start : Nat} {words : List Word} (held : memory.Holds start words)
    (some : words ≠ []) : start + words.length ≤ 500 := by
  have sizes := congrArg List.length held
  have := List.length_pos_iff.mpr some
  rw [length_slice] at sizes
  omega

/-- Words that lie one behind the other. -/
theorem holds_append {start : Nat} {front back : List Word} :
    memory.Holds start (front ++ back) ↔
      memory.Holds start front ∧ memory.Holds (start + front.length) back := by
  unfold Holds
  rw [List.length_append, slice_add]
  constructor
  · intro whole
    have sizes := congrArg List.length whole
    simp only [List.length_append, length_slice] at sizes
    exact List.append_inj whole (by rw [length_slice]; omega)
  · rintro ⟨first, second⟩
    rw [first, second]

/-- Only the cells in question matter. -/
theorem Holds.congr {start : Nat} {words : List Word} (held : memory.Holds start words)
    (same : ∀ a : Address, start ≤ a.val → a.val < start + words.length →
      other.read a = memory.read a) : other.Holds start words := by
  induction words generalizing start with
  | nil => rfl
  | cons w ws ih =>
    have room := held.add_length_le (List.cons_ne_nil w ws)
    rw [List.length_cons] at room same
    obtain ⟨here, rfl⟩ : ∃ here : Address, start = here.val := ⟨⟨start, by omega⟩, rfl⟩
    have front : other.read here = memory.read here := same here le_rfl (by omega)
    rw [Holds, List.length_cons, slice_succ, List.cons.injEq] at held ⊢
    exact ⟨front.trans held.1, ih held.2 fun a low high => same a (by omega) (by omega)⟩

end Memory

/-- An instruction of the table is decoded where its words lie. -/
theorem Machine.current_of_holds {m : Machine} {i : Instruction} {a : Nat}
    (form : ∀ tag, i ≠ .invalid tag) (begins : m.ip.toInt = a)
    (code : m.memory.Holds a i.encode) : m.current = .ok i := by
  rw [Memory.Holds, i.length_encode] at code
  refine decode_eq_ok_iff_slice.mpr ⟨fun tag eq => absurd eq (form tag), by omega, ?_⟩
  rw [begins, Int.toNat_natCast, code]

/-! ## 2.  One push and one pop -/

namespace Machine

variable {m n : Machine} {top : Address}

/-- A push onto a cell: the cell takes the register, and the stack pointer goes behind it. -/
structure Pushed (s : Register) (top : Address) (m n : Machine) : Prop where
  pointer : n.ip.toInt = m.ip.toInt + 2
  stack : (n.reg .sp).toInt = top.val + 1
  register : ∀ r, r ≠ .ip → r ≠ .sp → n.reg r = m.reg r
  pushed : n.cell top = m.reg s
  cell : ∀ a, a ≠ top → n.cell a = m.cell a

/-- A pop from a cell: the register takes it, and the stack pointer goes back to it. -/
structure Popped (d : Register) (top : Address) (m n : Machine) : Prop where
  pointer : n.ip.toInt = m.ip.toInt + 2
  stack : (n.reg .sp).toInt = top.val
  register : ∀ r, r ≠ .ip → r ≠ .sp → r ≠ d → n.reg r = m.reg r
  popped : n.reg d = m.cell top
  cell : ∀ a, n.cell a = m.cell a

/-- A push goes on when the stack pointer is the address of a cell. -/
theorem pushed_next {s : Register} (decoded : m.current = .ok (.push s))
    (place : (m.reg .sp).toInt = top.val) : ¬ m.Ends ∧ Pushed s top m m.next := by
  have goes : ¬ m.Ends := goes_of_access decoded rfl place
  have footprint := footprint_of_goes decoded goes
  have noDest (r : Register) : (Instruction.push s).destination? ≠ some r :=
    (Option.some_ne_none r).symm
  have stored (a : Address) (h : a = top) : (Instruction.push s).stored? m a = some (m.reg s) :=
    Instruction.stored?_eq_some_iff.mpr ⟨s, _, rfl, rfl, h ▸ place, rfl⟩
  refine ⟨goes, ?_, ?_, fun r noIp noSp => ?_, ?_, fun a apart => ?_⟩
  · rw [footprint.pointer id, toInt_ip_add_length_of_decode decoded, Instruction.length,
      Nat.cast_ofNat]
  · have moved : m.next.reg .sp = m.reg .sp + 1 := footprint.register .sp (by decide) (noDest .sp)
    have one : (1 : Word).toInt = 1 := rfl
    rw [moved, Int32.toInt_add, place, one]
    exact Int.bmod_eq_of_le (by omega) (by omega)
  · rw [footprint.register r noIp (noDest r), Instruction.moved?, if_neg noSp]
    rfl
  · rw [footprint.cell, stored top rfl]
    rfl
  · have nothing : (Instruction.push s).stored? m a = none := by
      refine Option.eq_none_iff_forall_ne_some.mpr fun v stored => apart ?_
      obtain ⟨_, w, -, address, there, -⟩ := Instruction.stored?_eq_some_iff.mp stored
      obtain rfl : m.reg .sp = w := Option.some.inj address
      exact Fin.ext (by omega)
    rw [footprint.cell, nothing]
    rfl

/-- A pop goes on when the stack pointer is behind a cell. -/
theorem popped_next {d : Register} (decoded : m.current = .ok (.pop d)) (noIp : d ≠ .ip)
    (noSp : d ≠ .sp) (place : (m.reg .sp).toInt = top.val + 1) :
    ¬ m.Ends ∧ Popped d top m m.next := by
  have one : (1 : Word).toInt = 1 := rfl
  have back : (m.reg .sp - 1).toInt = top.val := by
    rw [Int32.toInt_sub, place, one, Int.add_sub_cancel]
    exact Int.bmod_eq_of_le (by omega) (by omega)
  have goes : ¬ m.Ends := goes_of_access decoded rfl back
  have footprint := footprint_of_goes decoded goes
  refine ⟨goes, ?_, ?_, fun r noIp' noSp' noDest => ?_, ?_, footprint.cell⟩
  · rw [footprint.pointer id, toInt_ip_add_length_of_decode decoded, Instruction.length,
      Nat.cast_ofNat]
  · have moved : m.next.reg .sp = m.reg .sp - 1 :=
      footprint.register .sp (by decide) fun dest => noSp (Option.some.inj dest)
    rw [moved, back]
  · have kept := footprint.register r noIp' fun dest => noDest (Option.some.inj dest).symm
    rw [kept, Instruction.moved?, if_neg noSp']
    rfl
  · obtain ⟨a, at_top, popped⟩ := footprint.popped d rfl noIp
    obtain rfl : a = top := Fin.ext (by omega)
    exact popped

end Machine

/-! ## 3.  Any depth -/

/-- Pushes the first registers of some pairs in their order, and pops into the second ones in the
reverse order. -/
def exchange (pairs : List (Register × Register)) : List Instruction :=
  pairs.map (fun pair => .push pair.1) ++ pairs.reverse.map fun pair => .pop pair.2

/-- The register whose content a register has after the exchange. -/
def origin : List (Register × Register) → Register → Register
  | [], r => r
  | (s, d) :: pairs, r => if r = d then s else origin pairs r

theorem exchange_cons (s d : Register) (pairs : List (Register × Register)) :
    exchange ((s, d) :: pairs) = .push s :: (exchange pairs ++ [.pop d]) := by
  simp [exchange]

theorem length_encode_exchange (pairs : List (Register × Register)) :
    ((exchange pairs).flatMap Instruction.encode).length = 4 * pairs.length := by
  induction pairs with
  | nil => rfl
  | cons pair pairs ih =>
    rw [exchange_cons, List.flatMap_cons, List.flatMap_append, List.length_append,
      List.length_append, ih]
    simp [Instruction.encode]
    omega

variable {pairs : List (Register × Register)}

/-- A register that is no destination keeps its content. -/
theorem origin_of_no_destination {r : Register} (none : ∀ pair ∈ pairs, pair.2 ≠ r) :
    origin pairs r = r := by
  induction pairs with
  | nil => rfl
  | cons pair pairs ih =>
    obtain ⟨first, rest⟩ := List.forall_mem_cons.mp none
    rw [origin, if_neg first.symm, ih rest]

/-- A destination has the content of its source; of several sources it is the first. -/
theorem origin_of_first {i : Nat} {s d : Register} (there : pairs[i]? = some (s, d))
    (first : ∀ j < i, ∀ t, pairs[j]? ≠ some (t, d)) : origin pairs d = s := by
  induction pairs generalizing i with
  | nil => cases there
  | cons pair pairs ih =>
    cases i with
    | zero =>
      obtain rfl := Option.some.inj there
      exact if_pos rfl
    | succ i =>
      have other : d ≠ pair.2 := by
        rintro rfl
        exact first 0 i.succ_pos pair.1 rfl
      rw [origin, if_neg other]
      exact ih there fun j lt t => first (j + 1) (by omega) t

/-- A register that is no source, and is not itself what is looked for, is not the origin. -/
theorem origin_ne {r x : Register} (noSource : ∀ pair ∈ pairs, pair.1 ≠ x) (ne : r ≠ x) :
    origin pairs r ≠ x := by
  induction pairs with
  | nil => exact ne
  | cons pair pairs ih =>
    obtain ⟨first, rest⟩ := List.forall_mem_cons.mp noSource
    rw [origin]
    split
    · exact first
    · exact ih rest

namespace Machine

/-- What the exchange of some pairs makes of a machine whose stack pointer points to cell `p`. -/
structure Exchanged (pairs : List (Register × Register)) (p : Nat) (m n : Machine) : Prop where
  pointer : n.ip.toInt = m.ip.toInt + 4 * pairs.length
  register : ∀ r, r ≠ .ip → n.reg r = m.reg (origin pairs r)
  stacked : ∀ i s d, pairs[i]? = some (s, d) → ∀ c : Address, c.val = p + i → n.cell c = m.reg s
  cell : ∀ c : Address, (∀ i < pairs.length, c.val ≠ p + i) → n.cell c = m.cell c

/-- An exchange around another one: a push in front of it and a pop behind. -/
theorem Exchanged.around {m₀ m₁ m₂ m₃ : Machine} {s d : Register} {top : Address}
    (plain : ∀ pair ∈ (s, d) :: pairs, pair.1 ≠ .ip ∧ pair.1 ≠ .sp ∧ pair.2 ≠ .ip ∧ pair.2 ≠ .sp)
    (place : (m₀.reg .sp).toInt = top.val) (push : Pushed s top m₀ m₁)
    (within : Exchanged pairs (top.val + 1) m₁ m₂) (pop : Popped d top m₂ m₃) :
    Exchanged ((s, d) :: pairs) top.val m₀ m₃ := by
  obtain ⟨⟨-, -, -, noSp⟩, rest⟩ := List.forall_mem_cons.mp plain
  have under : m₂.cell top = m₁.cell top := within.cell top fun i _ => by omega
  refine ⟨?_, fun r noIp => ?_, fun i t e there c at_c => ?_, fun c apart => ?_⟩
  · have := push.pointer
    have := within.pointer
    have := pop.pointer
    rw [List.length_cons]
    omega
  · rw [origin]
    split
    · next dest => rw [dest, pop.popped, under, push.pushed]
    · next noDest =>
      by_cases sp : r = .sp
      · -- the stack pointer is no destination, and it is back
        rw [sp, origin_of_no_destination fun pair mem => (rest pair mem).2.2.2, ← Int32.toInt_inj,
          pop.stack, place]
      · rw [pop.register r noIp sp noDest, within.register r noIp]
        exact push.register _ (origin_ne (fun pair mem => (rest pair mem).1) noIp)
          (origin_ne (fun pair mem => (rest pair mem).2.1) sp)
  · rw [pop.cell]
    cases i with
    | zero =>
      obtain ⟨rfl, rfl⟩ := Prod.mk.inj (Option.some.inj there)
      obtain rfl : c = top := Fin.ext at_c
      rw [under, push.pushed]
    | succ i =>
      have mem : (t, e) ∈ pairs := List.mem_of_getElem? there
      obtain ⟨noIp, noSp, -, -⟩ := rest _ mem
      rw [within.stacked i t e there c (by omega), push.register t noIp noSp]
  · have notTop : c ≠ top := by
      rintro rfl
      exact apart 0 (by simp) rfl
    rw [pop.cell, within.cell c fun i lt eq => apart (i + 1) (by simpa using lt) (by omega),
      push.cell c notTop]

/-- The exchange is executed to its end, whatever it is for. -/
theorem exists_exchanged {m : Machine} {a p : Nat}
    (plain : ∀ pair ∈ pairs, pair.1 ≠ .ip ∧ pair.1 ≠ .sp ∧ pair.2 ≠ .ip ∧ pair.2 ≠ .sp)
    (begins : m.ip.toInt = a)
    (code : m.memory.Holds a ((exchange pairs).flatMap Instruction.encode))
    (place : (m.reg .sp).toInt = p) (room : p + pairs.length ≤ 500)
    (apart : ∀ i < pairs.length, p + i < a ∨ a + 4 * pairs.length ≤ p + i) :
    ∃ n, m.Executes (exchange pairs) n ∧ Exchanged pairs p m n := by
  induction pairs generalizing m a p with
  | nil => exact ⟨m, .nil, by simp, fun _ _ => rfl, by simp, fun _ _ => rfl⟩
  | cons pair pairs ih =>
    obtain ⟨s, d⟩ := pair
    obtain ⟨⟨-, -, noIp, noSp⟩, rest⟩ := List.forall_mem_cons.mp plain
    rw [List.length_cons] at room apart
    obtain ⟨top, rfl⟩ : ∃ top : Address, p = top.val := ⟨⟨p, by omega⟩, rfl⟩
    have isPush (tag : Word) : Instruction.push s ≠ .invalid tag := by simp
    have isPop (tag : Word) : Instruction.pop d ≠ .invalid tag := by simp
    -- the code in three parts, and no cell of the stack is in any of them
    rw [exchange_cons, List.flatMap_cons, List.flatMap_append, List.flatMap_singleton,
      Memory.holds_append, Memory.holds_append, length_encode_exchange, Instruction.length_encode,
      Instruction.length] at code
    obtain ⟨first, within, last⟩ := code
    have above := apart 0 (by omega)
    obtain ⟨goes, push⟩ := pushed_next (current_of_holds isPush begins first) place
    have within : m.next.memory.Holds (a + 2) ((exchange pairs).flatMap Instruction.encode) := by
      refine within.congr fun c low high => push.cell c ?_
      rintro rfl
      rw [length_encode_exchange] at high
      omega
    have goOn : m.next.ip.toInt = (a + 2 : Nat) := by rw [push.pointer, begins, Nat.cast_add]; rfl
    have grown : (m.next.reg .sp).toInt = (top.val + 1 : Nat) := by rw [push.stack, Nat.cast_succ]
    obtain ⟨n, inner, exchanged⟩ := ih rest goOn within grown (by omega) fun i lt => by
      have := apart (i + 1) (by omega)
      omega
    have last : n.memory.Holds (a + 2 + 4 * pairs.length) (Instruction.pop d).encode := by
      refine last.congr fun c low high => ?_
      rw [Instruction.length_encode, Instruction.length] at high
      refine (exchanged.cell c fun i lt eq => ?_).trans (push.cell c ?_)
      · have := apart (i + 1) (by omega)
        omega
      · rintro rfl
        omega
    have behind : n.ip.toInt = (a + 2 + 4 * pairs.length : Nat) := by
      have := push.pointer
      have := exchanged.pointer
      omega
    have back : (n.reg .sp).toInt = top.val + 1 := by
      rw [exchanged.register .sp (by decide), origin_of_no_destination fun pair mem =>
        (rest pair mem).2.2.2, push.stack]
    have decoded : n.current = .ok (.pop d) := current_of_holds isPop behind last
    obtain ⟨goesOn, pop⟩ := popped_next decoded noIp noSp back
    refine ⟨n.next, ?_, exchanged.around plain place push pop⟩
    rw [exchange_cons]
    exact .cons (current_of_holds isPush begins first) goes (inner.append (.single decoded goesOn))

/-! ## The main statement -/

/-- **The discipline of the stack.**  Some registers are pushed and others are popped in the reverse
order, none of them the instruction pointer or the stack pointer.  Where the code for this begins at
the instruction pointer, and the stack pointer points to as many cells as there are pairs, none of
them a cell of the code:

* every step goes on, and the instruction pointer ends behind the code;
* the stack pointer is where it was;
* each destination holds what its source held, the first of its sources when it has several, and
  every other register but the instruction pointer holds what it held;
* the cells of the stack hold what the sources held, and every other cell holds what it held. -/
theorem stack_discipline (m : Machine) (pairs : List (Register × Register)) (a p : Nat)
    (plain : ∀ pair ∈ pairs, pair.1 ≠ .ip ∧ pair.1 ≠ .sp ∧ pair.2 ≠ .ip ∧ pair.2 ≠ .sp)
    (begins : m.ip.toInt = a)
    (code : m.memory.Holds a ((exchange pairs).flatMap Instruction.encode))
    (place : (m.reg .sp).toInt = p) (room : p + pairs.length ≤ 500)
    (apart : ∀ i < pairs.length, p + i < a ∨ a + 4 * pairs.length ≤ p + i) :
    let n := next^[2 * pairs.length] m
    (∀ k < 2 * pairs.length, ¬ (next^[k] m).Ends) ∧
    n.ip.toInt = a + 4 * pairs.length ∧
    (n.reg .sp).toInt = p ∧
    (∀ (i : Nat) (s d : Register), pairs[i]? = some (s, d) →
      (∀ j < i, ∀ t, pairs[j]? ≠ some (t, d)) → n.reg d = m.reg s) ∧
    (∀ r, r ≠ .ip → (∀ pair ∈ pairs, pair.2 ≠ r) → n.reg r = m.reg r) ∧
    (∀ i s d, pairs[i]? = some (s, d) → ∀ c : Address, c.val = p + i → n.cell c = m.reg s) ∧
    ∀ c : Address, (∀ i < pairs.length, c.val ≠ p + i) → n.cell c = m.cell c := by
  obtain ⟨n, executes, exchanged⟩ := exists_exchanged plain begins code place room apart
  have steps : (exchange pairs).length = 2 * pairs.length := by
    rw [exchange, List.length_append, List.length_map, List.length_map, List.length_reverse,
      Nat.two_mul]
  rw [executes_iff, steps] at executes
  obtain ⟨rfl, each⟩ := executes
  refine ⟨fun k lt => ?_, by rw [exchanged.pointer, begins], ?_, fun i s d there first => ?_,
    fun r noIp none => ?_, exchanged.stacked, exchanged.cell⟩
  · have there := List.getElem?_eq_getElem (steps.symm ▸ lt : k < (exchange pairs).length)
    exact (each k _ there).2
  · rw [exchanged.register .sp (by decide),
      origin_of_no_destination fun pair mem => (plain pair mem).2.2.2, place]
  · have noIp : d ≠ .ip := (plain _ (List.mem_of_getElem? there)).2.2.1
    rw [exchanged.register d noIp, origin_of_first there first]
  · rw [exchanged.register r noIp, origin_of_no_destination none]

/-- Two words on the last two cells of memory, both popped into the return pointer: the one that was
pushed first stays there. -/
theorem stack_discipline_at_end :
    let m := (ofImage ⟨[15, 30, 15, 1, 16, 29, 16, 29], by decide⟩).setReg .sp 498
    let n := next^[4] m
    (∀ k < 4, ¬ (next^[k] m).Ends) ∧ n.ip.toInt = 8 ∧ (n.reg .sp).toInt = 498 ∧
      n.reg .rp = m.reg .fp ∧ n.cell 498 = m.reg .fp ∧ n.cell 499 = m.reg 1 := by
  intro m n
  have plain : ∀ pair ∈ [((.fp : Register), (.rp : Register)), (1, .rp)],
      pair.1 ≠ .ip ∧ pair.1 ≠ .sp ∧ pair.2 ≠ .ip ∧ pair.2 ≠ .sp := by decide +kernel
  have begins : m.ip.toInt = (0 : Nat) := by decide +kernel
  have code : m.memory.Holds 0
      ((exchange [(.fp, .rp), (1, .rp)]).flatMap Instruction.encode) := by
    unfold Memory.Holds
    decide +kernel
  have place : (m.reg .sp).toInt = (498 : Nat) := by decide +kernel
  obtain ⟨goes, pointer, stack, carried, -, stacked, -⟩ :=
    stack_discipline m [(.fp, .rp), (1, .rp)] 0 498 plain begins code place (by decide) (by decide)
  exact ⟨goes, pointer, stack, carried 0 .fp .rp rfl nofun, stacked 0 .fp .rp rfl 498 rfl,
    stacked 1 1 .rp rfl 499 rfl⟩

end Machine

end RegisterVM
