import RegisterVM.Proofs.Machine.Watched

/-!
# The addresses of the accesses

A step fetches the words of its instruction, and some instructions load or store a cell besides.
Each address is computed in wrapping arithmetic, and only then held against the bounds of memory.  A
sum that has wrapped around could be the address of a cell, although the sum on integers is not.

## 1.  Accesses on integers

`Machine.required` is what a step has to access, in its order, at addresses on integers.
`Access.wrap` is what the machine makes of such an address.  An address that has been wrapped around
is far from memory (`wrap_eq_of_inside`), unless it was below zero by almost all the words there are
(`wrap_of_far`).

## 2.  What is recorded

`Makes` says that a computation goes through some accesses in their order, up to the end or to a
fault.  A step makes the accesses that are required of it, wrapped (`makes_step`).

## 3.  The main statement

Only the address of a local is the sum of two words, the frame pointer and an offset, that can both
be so far below zero that the sum wraps around into memory (`Machine.LocalWraps`).  All other
accesses are at their addresses on integers.
-/

namespace RegisterVM

/-! ## 1.  Accesses on integers -/

namespace Access

/-- The address is that of a cell. -/
def IsInside (x : Access) : Prop := 0 ≤ x.address ∧ x.address ≤ 499

/-- The access with its address wrapped around to a word. -/
def wrap (x : Access) : Access := ⟨x.kind, x.address.bmod (2 ^ 32)⟩

/-- The fetches of `n` words, from the `k`-th word behind `ip` on. -/
def fetches (ip : Word) (k n : Nat) : List Access :=
  (List.range' k n).map fun j : Nat => ⟨.fetch, ip.toInt + j⟩

variable {x : Access}

theorem wrap_toInt (kind : Kind) (w : Word) : wrap ⟨kind, w.toInt⟩ = ⟨kind, w.toInt⟩ :=
  congrArg (mk kind) w.toInt_bmod

theorem wrap_add (kind : Kind) (v w : Word) :
    wrap ⟨kind, v.toInt + w.toInt⟩ = ⟨kind, (v + w).toInt⟩ :=
  congrArg (mk kind) (Int32.toInt_add v w).symm

theorem wrap_sub (kind : Kind) (v w : Word) :
    wrap ⟨kind, v.toInt - w.toInt⟩ = ⟨kind, (v - w).toInt⟩ :=
  congrArg (mk kind) (Int32.toInt_sub v w).symm

/-- Within reach of the words, an address that wraps around to that of a cell has not wrapped
around at all. -/
theorem wrap_eq_of_inside (inside : x.wrap.IsInside) (low : 500 - 2 ^ 32 ≤ x.address)
    (high : x.address < 2 ^ 32) : x.wrap = x := by
  have place : 0 ≤ x.address.bmod (2 ^ 32) ∧ x.address.bmod (2 ^ 32) ≤ 499 := inside
  have plain : x.address.bmod (2 ^ 32) = x.address := by
    rw [Int.bmod_def] at place ⊢
    omega
  exact congrArg (mk x.kind) plain

/-- An address that is below zero by almost all the words wraps around into memory. -/
theorem wrap_of_far (low : -2 ^ 32 ≤ x.address) (far : x.address < 500 - 2 ^ 32) :
    x.wrap = ⟨x.kind, x.address + 2 ^ 32⟩ := by
  have around : x.address.bmod (2 ^ 32) = x.address + 2 ^ 32 := by
    rw [Int.bmod_def]
    omega
  exact congrArg (mk x.kind) around

theorem mem_fetches_iff {ip : Word} {k n : Nat} :
    x ∈ fetches ip k n ↔ ∃ j, (k ≤ j ∧ j < k + n) ∧ ⟨.fetch, ip.toInt + j⟩ = x := by
  simp only [fetches, List.mem_map, List.mem_range'_1]

end Access

namespace Instruction

variable {i : Instruction} {m : Machine}

/-- The cell that an instruction loads or stores, its address computed on integers. -/
def dataAccess? (m : Machine) : Instruction → Option Access
  | ld ra _ => some ⟨.load, (m.reg ra).toInt⟩
  | st ra _ => some ⟨.store, (m.reg ra).toInt⟩
  | push _ => some ⟨.store, (m.reg .sp).toInt⟩
  | pop _ => some ⟨.load, (m.reg .sp).toInt - 1⟩
  | ldlo imm _ => some ⟨.load, (m.reg .fp).toInt + imm.toInt⟩
  | stlo imm _ => some ⟨.store, (m.reg .fp).toInt + imm.toInt⟩
  | _ => none

/-- An instruction that stores a register does so at its effective address. -/
theorem exists_dataAccess_of_source {rs : Register} {w : Word} (source : i.source? = some rs)
    (address : i.address? m = some w) :
    ∃ x, i.dataAccess? m = some x ∧ x.wrap = ⟨.store, w.toInt⟩ := by
  cases i with
  | st _ _ | push _ =>
    obtain rfl := Option.some.inj address
    exact ⟨_, rfl, Access.wrap_toInt _ _⟩
  | stlo _ _ =>
    obtain rfl := Option.some.inj address
    exact ⟨_, rfl, Access.wrap_add _ _ _⟩
  | _ => cases source

end Instruction

namespace Machine

/-- The accesses of the next step, up to its end or to a fault. -/
def accesses (m : Machine) : List Access := (Watched.step m).accesses

/-- How many operands there are behind the tag. -/
def operandCount (m : Machine) : Nat :=
  match Address.ofWord? m.ip with
  | some a => (Operand.ofTag (m.cell a)).length
  | none => 0

theorem operandCount_of_place {m : Machine} {a : Address} (place : m.ip.toInt = a.val) :
    m.operandCount = (Operand.ofTag (m.cell a)).length := by
  unfold operandCount
  rw [Address.ofWord?_eq_some_iff.mpr place]

theorem operandCount_le (m : Machine) : m.operandCount ≤ 2 := by
  unfold operandCount
  split
  · exact Operand.length_ofTag_le _
  · exact Nat.zero_le 2

/-- The accesses that the next step needs, at addresses on integers: the tag, its operands, and the
cell that the instruction loads or stores. -/
def required (m : Machine) : List Access :=
  Access.fetches m.ip 0 (m.operandCount + 1) ++
    match m.current with
    | .ok i => (i.dataAccess? m).toList
    | .error _ => []

end Machine

/-! ## 2.  What is recorded -/

namespace Watched

variable {α β : Type}

/-- A computation makes these accesses, in their order, up to its end or to a fault; and those that
it makes are to cells. -/
structure Makes (x : Watched α) (planned : List Access) : Prop where
  begins : x.accesses <+: planned
  complete : ∀ a, x.result = .ok a → x.accesses = planned
  inside : ∀ y ∈ x.accesses, y.IsInside

theorem makes_silent (x : Except Fault α) : (silent x).Makes [] where
  begins := List.nil_prefix
  complete _ _ := rfl
  inside := nofun

theorem makes_pure (a : α) : (pure a : Watched α).Makes [] := makes_silent (.ok a)

theorem makes_access (kind : Access.Kind) (ip w : Word) (f : Address → α) :
    (access kind ip w f).Makes [⟨kind, w.toInt⟩] := by
  unfold access
  cases required : Address.require ip w with
  | error fault => exact ⟨List.nil_prefix, nofun, nofun⟩
  | ok a =>
    rw [Address.require_eq_ok_iff] at required
    rw [required]
    refine ⟨List.prefix_rfl, fun _ _ => rfl, fun y mem => ?_⟩
    obtain rfl := List.mem_singleton.mp mem
    have := a.isLt
    exact ⟨by simp, by dsimp only; omega⟩

/-- One computation and then another: the second one makes its accesses unless the first one
faults. -/
theorem makes_bind {x : Watched α} {f : α → Watched β} {first later : List Access}
    (head : x.Makes first) (tail : ∀ a, x.result = .ok a → (f a).Makes later) :
    (x >>= f).Makes (first ++ later) := by
  cases ends : x.result with
  | ok a =>
    have behind := tail a ends
    have record : (x >>= f).accesses = first ++ (f a).accesses := by
      rw [accesses_bind, ends, head.complete a ends]
    refine ⟨?_, fun b done => ?_, fun y mem => ?_⟩
    · rw [record]
      exact (List.prefix_append_right_inj first).mpr behind.begins
    · rw [result_bind, ends] at done
      rw [record, behind.complete b done]
    · rw [accesses_bind, ends] at mem
      exact (List.mem_append.mp mem).elim (head.inside y) (behind.inside y)
  | error fault =>
    have record : (x >>= f).accesses = x.accesses := by
      rw [accesses_bind, ends]
      exact List.append_nil _
    refine ⟨?_, fun b done => ?_, ?_⟩
    · rw [record]
      exact head.begins.trans (List.prefix_append first later)
    · rw [result_bind, ends] at done
      cases done
    · rw [record]
      exact head.inside

variable {memory : Memory} {ip : Word} {k : Nat}

theorem makes_fetch (short : k < 2 ^ 31) :
    (fetch memory ip (Int32.ofNat k)).Makes [Access.wrap ⟨.fetch, ip.toInt + k⟩] := by
  have made := makes_access .fetch ip (ip + Int32.ofNat k) memory.read
  rwa [← Access.wrap_add, Int32.toInt_ofNat_of_lt short] at made

theorem makes_fetchRegister (short : k < 2 ^ 31) :
    (fetchRegister memory ip (Int32.ofNat k)).Makes [Access.wrap ⟨.fetch, ip.toInt + k⟩] :=
  makes_bind (makes_fetch short) fun _ _ => makes_silent _

/-- Decoding fetches the tag and then its operands. -/
theorem makes_decode (m : Machine) :
    (decodeWith (fetch m.memory m.ip) (fetchRegister m.memory m.ip)).Makes
      ((Access.fetches m.ip 0 (m.operandCount + 1)).map Access.wrap) := by
  have word {k : Nat} (short : k < 2 ^ 31) :
      (fetch m.memory m.ip (Int32.ofNat k)).Makes [Access.wrap ⟨.fetch, m.ip.toInt + k⟩] :=
    makes_fetch short
  have named {k : Nat} (short : k < 2 ^ 31) :
      (fetchRegister m.memory m.ip (Int32.ofNat k)).Makes [Access.wrap ⟨.fetch, m.ip.toInt + k⟩] :=
    makes_fetchRegister short
  refine makes_bind (word (k := 0) (by decide)) fun tag taken => ?_
  have count : m.operandCount = (Operand.ofTag tag).length := by
    rw [fetch, result_access] at taken
    obtain ⟨a, place, rfl⟩ := (fetch_ofNat_eq_ok_iff (by decide)).mp taken
    exact Machine.operandCount_of_place ((add_zero _).symm.trans place)
  rw [count]
  split
  case h_2 | h_3 | h_4 | h_5 | h_6 | h_8 | h_11 | h_12 =>
    exact makes_bind (named (k := 1) (by decide)) fun _ _ =>
      makes_bind (named (k := 2) (by decide)) fun _ _ => makes_pure _
  case h_1 | h_17 | h_18 =>
    exact makes_bind (word (k := 1) (by decide)) fun _ _ =>
      makes_bind (named (k := 2) (by decide)) fun _ _ => makes_pure _
  case h_7 | h_9 | h_13 | h_15 | h_16 =>
    exact makes_bind (named (k := 1) (by decide)) fun _ _ => makes_pure _
  case h_10 | h_14 => exact makes_pure _
  case h_19 =>
    have noTag : tag.IsNoTag := by
      by_contra known
      obtain ⟨n, low, high, rfl⟩ := Word.eq_ofNat_of_not_isNoTag known
      interval_cases n <;> contradiction
    rw [Operand.ofTag_of_isNoTag noTag]
    exact makes_pure _

/-- An access that nothing else is made after. -/
theorem makes_single {kind : Access.Kind} {ip w : Word} {f : Address → α} {g : α → β} {x : Access}
    (same : x.wrap = ⟨kind, w.toInt⟩) :
    (access kind ip w f >>= fun a => pure (g a)).Makes [x.wrap] := by
  rw [same]
  exact makes_bind (makes_access kind ip w f) fun _ _ => makes_pure _

/-- Executing an instruction accesses the cell that it loads or stores. -/
theorem makes_execute (i : Instruction) (m : Machine) :
    (execute i m).Makes ((i.dataAccess? m).toList.map Access.wrap) := by
  cases i with
  | ld ra _ | st ra _ => exact makes_single (Access.wrap_toInt _ (m.reg ra))
  | push _ => exact makes_single (Access.wrap_toInt _ (m.reg .sp))
  | pop _ => exact makes_single (Access.wrap_sub _ (m.reg .sp) 1)
  | ldlo imm _ | stlo imm _ => exact makes_single (Access.wrap_add _ (m.reg .fp) imm)
  | _ => exact makes_silent _

/-- A step makes the accesses that are required of it, with the addresses wrapped around. -/
theorem makes_step (m : Machine) : (step m).Makes (m.required.map Access.wrap) := by
  rw [Machine.required, List.map_append]
  refine makes_bind (makes_decode m) fun i decoded => ?_
  rw [result_decode] at decoded
  rw [show m.current = .ok i from decoded]
  exact makes_execute i m

end Watched

/-! ## 3.  The main statement -/

namespace Machine

variable {m : Machine} {x : Access}

/-- The next step accesses this local, whose address on integers is so far below zero that it wraps
around into memory. -/
inductive LocalWraps (m : Machine) : Access → Prop
  | load {imm : Word} {rd : Register} (decoded : m.current = .ok (.ldlo imm rd))
      (far : (m.reg .fp).toInt + imm.toInt < 500 - 2 ^ 32) :
      m.LocalWraps ⟨.load, (m.reg .fp).toInt + imm.toInt⟩
  | store {imm : Word} {rs : Register} (decoded : m.current = .ok (.stlo imm rs))
      (far : (m.reg .fp).toInt + imm.toInt < 500 - 2 ^ 32) :
      m.LocalWraps ⟨.store, (m.reg .fp).toInt + imm.toInt⟩

/-- What is required is a fetch or the data access of the instruction. -/
theorem mem_required_iff : x ∈ m.required ↔ x ∈ Access.fetches m.ip 0 (m.operandCount + 1) ∨
    ∃ i, m.current = .ok i ∧ i.dataAccess? m = some x := by
  rw [required, List.mem_append]
  refine or_congr_right ?_
  cases m.current with
  | error f => simp
  | ok i => simp [Option.mem_toList]

/-- An address that is required is within reach of the words, unless it is that of a local. -/
theorem address_of_mem_required (mem : x ∈ m.required) :
    -2 ^ 32 ≤ x.address ∧ x.address < 2 ^ 32 ∧ (x.address < 500 - 2 ^ 32 → m.LocalWraps x) := by
  have range (w : Word) : -2 ^ 31 ≤ w.toInt ∧ w.toInt < 2 ^ 31 := ⟨w.le_toInt, w.toInt_lt⟩
  rcases mem_required_iff.mp mem with fetched | ⟨i, decoded, data⟩
  · obtain ⟨j, inRange, rfl⟩ := Access.mem_fetches_iff.mp fetched
    have := m.operandCount_le
    have := range m.ip
    dsimp only
    omega
  · cases i with
    | ld ra _ | st ra _ =>
      obtain rfl := Option.some.inj data
      have := range (m.reg ra)
      dsimp only
      omega
    | push _ | pop _ =>
      obtain rfl := Option.some.inj data
      have := range (m.reg .sp)
      dsimp only
      omega
    | ldlo imm _ =>
      obtain rfl := Option.some.inj data
      have := range (m.reg .fp)
      have := range imm
      exact ⟨by dsimp only; omega, by dsimp only; omega, fun far => .load decoded far⟩
    | stlo imm _ =>
      obtain rfl := Option.some.inj data
      have := range (m.reg .fp)
      have := range imm
      exact ⟨by dsimp only; omega, by dsimp only; omega, fun far => .store decoded far⟩
    | _ => cases data

/-- Unless a local wraps around, an access that reaches memory is at its address on integers. -/
theorem wrap_eq_of_mem_required (mem : x ∈ m.required) (noWrap : ¬ m.LocalWraps x)
    (inside : x.wrap.IsInside) : x.wrap = x := by
  obtain ⟨-, high, far⟩ := address_of_mem_required mem
  refine Access.wrap_eq_of_inside inside ?_ high
  by_contra low
  exact noWrap (far (by omega))

/-- A step that succeeds has made all the accesses that are required, wrapped around. -/
theorem accesses_of_ok {o : Outcome} (done : m.step.outcome = .ok o) :
    m.accesses = m.required.map Access.wrap := by
  rw [Watched.step_eq] at done
  cases result : (Watched.step m).result with
  | error f =>
    rw [result] at done
    cases done
  | ok after => exact (Watched.makes_step m).complete after result

/-- The wrapped accesses of a step that reach memory are at the addresses on integers, if no local
is among them. -/
theorem map_wrap_eq {l : List Access} (required : ∀ x ∈ l, x ∈ m.required)
    (noWrap : ∀ x ∈ l, ¬ m.LocalWraps x) (made : ∀ x ∈ l, x.wrap ∈ m.accesses) :
    l.map Access.wrap = l := by
  have same : ∀ x ∈ l, x.wrap = id x := fun x mem =>
    wrap_eq_of_mem_required (required x mem) (noWrap x mem)
      ((Watched.makes_step m).inside _ (made x mem))
  rw [List.map_congr_left same, List.map_id]

/-- A cell that has changed is one that the step has stored in. -/
theorem mem_accesses_of_cell_ne {a : Address} (changed : m.next.cell a ≠ m.cell a) :
    ⟨.store, a.val⟩ ∈ m.accesses := by
  cases outcome : m.step.outcome with
  | error f => exact absurd (by rw [next_of_ends (.inr ⟨f, outcome⟩)]) changed
  | ok o =>
    have goes : o ≠ .halt := fun halts =>
      changed (by rw [next_of_ends (.inl (halts ▸ outcome))])
    obtain ⟨i, decoded, footprint⟩ := exists_footprint outcome goes
    cases stored : i.stored? m a with
    | none => exact absurd (by rw [footprint.cell, stored]; rfl) changed
    | some v =>
      obtain ⟨rs, w, source, address, place, -⟩ := Instruction.stored?_eq_some_iff.mp stored
      obtain ⟨x, data, wrapped⟩ := Instruction.exists_dataAccess_of_source source address
      rw [accesses_of_ok outcome, ← place, ← wrapped]
      exact List.mem_map_of_mem (mem_required_iff.mpr (.inr ⟨i, decoded, data⟩))

/-- A local that wraps around is found at the address of a cell. -/
theorem LocalWraps.exists_place (wraps : m.LocalWraps x) :
    ∃ i w, ∃ a : Address, m.current = .ok i ∧ i.dataAccess? m = some x ∧
      i.address? m = some w ∧ w.toInt = a.val ∧ x.wrap = ⟨x.kind, x.address + 2 ^ 32⟩ := by
  obtain ⟨i, w, decoded, data, address, wrapped, far⟩ : ∃ i w, m.current = .ok i ∧
      i.dataAccess? m = some x ∧ i.address? m = some w ∧ x.wrap = ⟨x.kind, w.toInt⟩ ∧
      x.address < 500 - 2 ^ 32 := by
    cases wraps with
    | load decoded far | store decoded far =>
      exact ⟨_, _, decoded, rfl, rfl, Access.wrap_add _ _ _, far⟩
  obtain ⟨low, -, -⟩ := address_of_mem_required (mem_required_iff.mpr (.inr ⟨i, decoded, data⟩))
  have around := Access.wrap_of_far low far
  have place : w.toInt = x.address + 2 ^ 32 :=
    (Access.mk.inj (wrapped.symm.trans around)).2
  exact ⟨i, w, ⟨w.toInt.toNat, by omega⟩, decoded, data, address,
    (Int.toNat_of_nonneg (by omega)).symm, around⟩

/-- **Every access is at its address on integers, but for a local that wraps around.**  For every
machine:

* The accesses in question are those of its step.  Recording them does not change the step; any
  memory with the same content in the cells that are read leads to the same outcome and the same
  registers; and a cell that changes is among those that are stored in.
* If no local wraps around, the step makes the accesses that are required of it at the addresses on
  integers, in their order up to a fault, and all of them when it succeeds.  One outside memory is
  not made, and the step is a fault that changes nothing.
* A local can be so far below zero that it wraps around.  Then the step succeeds, and all accesses
  are made at the addresses on integers except for this one, which is `2 ^ 32` cells above. -/
theorem accesses_at_integer_addresses (m : Machine) :
    ((m.step = match (Watched.step m).result with
        | .ok (outcome, after) => ⟨after, .ok outcome⟩
        | .error fault => ⟨m, .error fault⟩) ∧
      (∀ other, (Watched.step m).Agrees m.memory other →
        ({ m with memory := other } : Machine).step.outcome = m.step.outcome ∧
        ({ m with memory := other } : Machine).step.machine.registers = m.step.machine.registers) ∧
      ∀ a, m.next.cell a ≠ m.cell a → ⟨.store, a.val⟩ ∈ m.accesses) ∧
    ((∀ x, ¬ m.LocalWraps x) →
      m.accesses <+: m.required ∧
      (∀ o, m.step.outcome = .ok o → m.accesses = m.required) ∧
      ∀ x ∈ m.required, ¬ x.IsInside →
        x ∉ m.accesses ∧ (∃ f, m.step.outcome = .error f) ∧ m.next = m) ∧
    ∀ x, m.LocalWraps x → (∃ o, m.step.outcome = .ok o) ∧
      ∃ fetches, m.required = fetches ++ [x] ∧
        m.accesses = fetches ++ [⟨x.kind, x.address + 2 ^ 32⟩] := by
  have made := Watched.makes_step m
  refine ⟨⟨Watched.step_eq m, fun other => Watched.step_congr, fun a => mem_accesses_of_cell_ne⟩,
    fun noWrap => ?_, fun x wraps => ?_⟩
  · have complete (o : Outcome) (done : m.step.outcome = .ok o) : m.accesses = m.required := by
      rw [accesses_of_ok done]
      refine map_wrap_eq (fun x => id) (fun x _ => noWrap x) fun x mem => ?_
      rw [accesses_of_ok done]
      exact List.mem_map_of_mem mem
    refine ⟨?_, complete, fun x mem outside => ?_⟩
    · obtain ⟨n, begins⟩ : ∃ n, m.accesses = (m.required.take n).map Access.wrap :=
        ⟨_, List.map_take ▸ List.prefix_iff_eq_take.mp made.begins⟩
      rw [begins, map_wrap_eq (fun x => List.mem_of_mem_take) (fun x _ => noWrap x) fun x mem =>
        begins ▸ List.mem_map_of_mem mem]
      exact List.take_prefix n m.required
    · have missing : x ∉ m.accesses := fun there => outside (made.inside x there)
      cases outcome : m.step.outcome with
      | ok o => exact absurd (complete o outcome ▸ mem) missing
      | error f => exact ⟨missing, ⟨f, rfl⟩, next_of_ends (.inr ⟨f, outcome⟩)⟩
  · obtain ⟨i, w, a, decoded, data, address, place, around⟩ := wraps.exists_place
    have goes := goes_of_access decoded address place
    cases outcome : m.step.outcome with
    | error f => exact absurd (.inr ⟨f, outcome⟩) goes
    | ok o =>
      have split : m.required = Access.fetches m.ip 0 (m.operandCount + 1) ++ [x] := by
        rw [required, decoded]
        exact congrArg (_ ++ ·.toList) data
      have record := accesses_of_ok outcome
      rw [split, List.map_append] at record
      refine ⟨⟨o, rfl⟩, _, split, record.trans ?_⟩
      rw [map_wrap_eq (fun y mem => mem_required_iff.mpr (.inl mem)) (fun y mem => ?_)
        fun y mem => record ▸ List.mem_append_left _ (List.mem_map_of_mem mem)]
      · exact congrArg (_ ++ [·]) around
      · obtain ⟨j, -, rfl⟩ := Access.mem_fetches_iff.mp mem
        exact nofun

/-- A pop with the stack pointer at the least word: the word below it is the greatest, and both are
far from memory. -/
theorem accesses_at_integer_addresses_pop :
    let m := ((blank.setCell 0 16).setCell 1 1).setReg .sp (-2147483648)
    m.accesses = [⟨.fetch, 0⟩, ⟨.fetch, 1⟩] ∧
      m.required = [⟨.fetch, 0⟩, ⟨.fetch, 1⟩, ⟨.load, -2147483649⟩] ∧
      (∃ f, m.step.outcome = .error f) ∧ m.next = m := by
  intro m
  have decoded : m.current = .ok (.pop 1) := by decide +kernel
  have required : m.required = [⟨.fetch, 0⟩, ⟨.fetch, 1⟩, ⟨.load, -2147483649⟩] := by
    decide +kernel
  have accesses : m.accesses = [⟨.fetch, 0⟩, ⟨.fetch, 1⟩] := by decide +kernel
  have noWrap : ∀ x, ¬ m.LocalWraps x := by
    rintro x (⟨decoded', -⟩ | ⟨decoded', -⟩)
    · exact nomatch decoded.symm.trans decoded'
    · exact nomatch decoded.symm.trans decoded'
  obtain ⟨-, -, outsideFaults⟩ := (accesses_at_integer_addresses m).2.1 noWrap
  have mem : ⟨.load, -2147483649⟩ ∈ m.required := by
    rw [required]
    exact List.mem_cons_of_mem _ (List.mem_cons_of_mem _ (List.mem_singleton_self _))
  obtain ⟨-, faults, still⟩ := outsideFaults _ mem fun inside => absurd inside.1 (by decide)
  exact ⟨accesses, required, faults, still⟩

/-- A local with the frame pointer and the offset both at the least word.  Their sum is far below
zero, and yet the step succeeds: it loads the first cell of memory, which is not required of it. -/
theorem local_wraps_into_memory :
    let m := (ofImage ⟨[1, -2147483648, 30, 17, -2147483648, 1, 10], by decide⟩).next
    m.step.outcome = .ok .proceed ∧ m.next.reg 1 = m.cell 0 ∧
      ¬ (∀ x ∈ m.accesses, x ∈ m.required) ∧
      ¬ ∀ x ∈ m.required, ¬ x.IsInside → ∃ f, m.step.outcome = .error f := by
  intro m
  have outcome : m.step.outcome = .ok .proceed := by decide +kernel
  have loaded : m.next.reg 1 = m.cell 0 := by decide +kernel
  have required : ⟨.load, -4294967296⟩ ∈ m.required := by decide +kernel
  have record : ¬ ∀ x ∈ m.accesses, x ∈ m.required := by decide +kernel
  refine ⟨outcome, loaded, record, fun faults => ?_⟩
  obtain ⟨f, fault⟩ := faults _ required fun inside => absurd inside.1 (by decide)
  exact nomatch outcome.symm.trans fault

end Machine

end RegisterVM
