import TracerouteSimulator.Registry.Invariant
import Mathlib.Logic.Relation

/-! # The router table under concurrent children

With `--parallel`, `main` of `hidden_mesh_setup.c` forks one child per batch of ten routers once
Phase A is done, and each child starts `setup_router_with_veth` for its routers, whose first access to
the registry is `get_router_code_shm`. The registry is one `MAP_SHARED` mapping, inherited by every
child, and `shared_registry.h` takes no lock. This module models a call access by access and the
children as an interleaving of their accesses, on sequentially consistent memory; one step reads or
writes one field of the registry (an `int`, or a whole string field).

* **`RouterCodePc`**, **`routerCodeStep`** — one call of `get_router_code_shm`: the loop test that
  reads `router_count`, the reads of `active` and `router_name`, the capacity check, and the writes of
  a claim, with `next_router_code++` and `router_count++` each a read and a later store.
* **`routerCodeStep_solo`** — a call that no other process interrupts computes `getRouterCodeShm`,
  and every such run that returns ends there: the atomic model of `Registry.Ops` is the
  uninterrupted case of this one.
* **`ParStep`** — a child starts the call for its next router, makes one access, or gets the pointer
  back; any process may also write the fields outside the router table (the interface and bridge
  tables and their counters), which is all the rest of a child's work does to the registry.
* **`parReach_keeps_active`** — every entry active when the children start keeps its contents in
  every interleaving; **`parReach_registered_code`** — a router the table already holds gets its own
  slot back in every interleaving.
* **`parReach_fresh_routers_share_slot`** — two children that look up two new routers can both get
  the first free slot: the second claim overwrites the first, both routers then read the same code,
  and the table leaves its invariant. -/

namespace TracerouteSimulator.Registry

/-! ## (1) One call, access by access -/

/-- **Where a call of `get_router_code_shm(reg, router_name)` stands** before its next access to the
shared registry. -/
inductive RouterCodePc
  /-- The test `i < MAX_ROUTERS && i < reg->router_count + 10` of the lookup loop. -/
  | test (i : Nat)
  /-- The read of `reg->routers[i].active` in the lookup loop. -/
  | active (i : Nat)
  /-- The `strcmp` of `reg->routers[i].router_name` with the name. -/
  | name (i : Nat)
  /-- The capacity check `reg->router_count >= MAX_ROUTERS`. -/
  | full
  /-- The read of `reg->routers[i].active` in the free-slot loop. -/
  | free (i : Nat)
  /-- The `strncpy` into `reg->routers[i].router_name`. -/
  | copyName (i : Nat)
  /-- The read of `reg->next_router_code`. -/
  | readNext (i : Nat)
  /-- The store of `n + 1` into `reg->next_router_code`, `n` the value read. -/
  | writeNext (i n : Nat)
  /-- The `snprintf` of `r%03d` with `n` into `reg->routers[i].router_code`. -/
  | writeCode (i n : Nat)
  /-- `reg->routers[i].active = 1`. -/
  | setActive (i : Nat)
  /-- The read of `reg->router_count`. -/
  | readCount (i : Nat)
  /-- The store of `c + 1` into `reg->router_count`, `c` the value read. -/
  | writeCount (i c : Nat)
  /-- Returned: the slot whose `router_code` the returned pointer points into; `none` is `NULL`. -/
  | done (slot : Option Nat)
  deriving DecidableEq, Repr

/-- A write into the fields of router slot `i`. -/
def ShmRegistry.modifyRouter (reg : ShmRegistry) (i : Nat) (f : RouterEntry → RouterEntry) :
    ShmRegistry :=
  { reg with routers := Function.update reg.routers i (f (reg.routers i)) }

/-- **One access of `get_router_code_shm(reg, name)`**: the registry after it and where the call
stands next; `none` once the call has returned. -/
def routerCodeStep (name : List Char) (reg : ShmRegistry) :
    RouterCodePc → Option (ShmRegistry × RouterCodePc)
  | .test i => some (reg, if i < maxRouters ∧ i < reg.routerCount + 10 then .active i else .full)
  | .active i => some (reg, if (reg.routers i).active then .name i else .test (i + 1))
  | .name i => some (reg, if (reg.routers i).routerName = name then .done (some i) else .test (i + 1))
  | .full => some (reg, if maxRouters ≤ reg.routerCount then .done none else .free 0)
  | .free i => some (reg,
      if i < maxRouters then (if (reg.routers i).active then .free (i + 1) else .copyName i)
      else .done none)
  | .copyName i =>
    some (reg.modifyRouter i fun e => { e with routerName := name.take (maxNameLen - 1) }, .readNext i)
  | .readNext i => some (reg, .writeNext i reg.nextRouterCode)
  | .writeNext i n => some ({ reg with nextRouterCode := n + 1 }, .writeCode i n)
  | .writeCode i n =>
    some (reg.modifyRouter i fun e => { e with routerCode := routerCodeText n }, .setActive i)
  | .setActive i => some (reg.modifyRouter i fun e => { e with active := true }, .readCount i)
  | .readCount i => some (reg, .writeCount i reg.routerCount)
  | .writeCount i c => some ({ reg with routerCount := c + 1 }, .done (some i))
  | .done _ => none

/-- The slot a call has chosen and still has to write, from the `strncpy` to `active = 1`. -/
def RouterCodePc.claiming : RouterCodePc → Option Nat
  | .copyName i | .readNext i | .writeNext i _ | .writeCode i _ | .setActive i => some i
  | _ => none

/-- The slot a call has written its name into and not yet made active. -/
def RouterCodePc.copied : RouterCodePc → Option Nat
  | .readNext i | .writeNext i _ | .writeCode i _ | .setActive i => some i
  | _ => none

/-! ## (2) What one access does

Every later proof reads a step through these lemmas and never unfolds `routerCodeStep`. -/

section Access

variable {name : List Char} {reg reg' : ShmRegistry} {pc pc' : RouterCodePc}

@[simp] theorem modifyRouter_routers (i : Nat) (f : RouterEntry → RouterEntry) (k : Nat) :
    (reg.modifyRouter i f).routers k = if k = i then f (reg.routers i) else reg.routers k := by
  simp [ShmRegistry.modifyRouter, Function.update_apply]

@[simp] theorem modifyRouter_routerCount (i : Nat) (f : RouterEntry → RouterEntry) :
    (reg.modifyRouter i f).routerCount = reg.routerCount := rfl

@[simp] theorem modifyRouter_nextRouterCode (i : Nat) (f : RouterEntry → RouterEntry) :
    (reg.modifyRouter i f).nextRouterCode = reg.nextRouterCode := rfl

/-- **What an access writes**: nothing, the name, code or `active` of one slot, or one of the two
counters. -/
theorem routerCodeStep_reg (h : routerCodeStep name reg pc = some (reg', pc')) :
    reg' = reg ∨
    (∃ i, pc = .copyName i ∧
      reg' = reg.modifyRouter i fun e => { e with routerName := name.take (maxNameLen - 1) }) ∨
    (∃ i n, pc = .writeNext i n ∧ reg' = { reg with nextRouterCode := n + 1 }) ∨
    (∃ i n, pc = .writeCode i n ∧
      reg' = reg.modifyRouter i fun e => { e with routerCode := routerCodeText n }) ∨
    (∃ i, pc = .setActive i ∧ reg' = reg.modifyRouter i fun e => { e with active := true }) ∨
    (∃ i c, pc = .writeCount i c ∧ reg' = { reg with routerCount := c + 1 }) := by
  cases pc <;> simp only [routerCodeStep, Option.some.injEq, Prod.mk.injEq] at h <;>
    obtain ⟨rfl, -⟩ := h <;> simp [and_assoc]

/-- **Only the chosen slot changes.** -/
theorem routerCodeStep_routers_of_ne (h : routerCodeStep name reg pc = some (reg', pc')) {k : Nat}
    (hk : pc.claiming ≠ some k) : reg'.routers k = reg.routers k := by
  rcases routerCodeStep_reg h with rfl | ⟨i, rfl, rfl⟩ | ⟨i, n, rfl, rfl⟩ | ⟨i, n, rfl, rfl⟩ |
    ⟨i, rfl, rfl⟩ | ⟨i, c, rfl, rfl⟩ <;>
    first | rfl | simp [show k ≠ i from fun e => hk (by simp [RouterCodePc.claiming, e])]

/-- **`active` is never cleared.** -/
theorem routerCodeStep_active_mono (h : routerCodeStep name reg pc = some (reg', pc')) {k : Nat}
    (hk : (reg.routers k).active = true) : (reg'.routers k).active = true := by
  rcases routerCodeStep_reg h with rfl | ⟨i, rfl, rfl⟩ | ⟨i, n, rfl, rfl⟩ | ⟨i, n, rfl, rfl⟩ |
    ⟨i, rfl, rfl⟩ | ⟨i, c, rfl, rfl⟩ <;>
    first | exact hk | (simp only [modifyRouter_routers]; split_ifs <;> simp_all)

/-- **`active` is only set by `active = 1`.** -/
theorem routerCodeStep_active_new (h : routerCodeStep name reg pc = some (reg', pc')) {k : Nat}
    (hk : (reg'.routers k).active = true) : (reg.routers k).active = true ∨ pc = .setActive k := by
  rcases routerCodeStep_reg h with rfl | ⟨i, rfl, rfl⟩ | ⟨i, n, rfl, rfl⟩ | ⟨i, n, rfl, rfl⟩ |
    ⟨i, rfl, rfl⟩ | ⟨i, c, rfl, rfl⟩ <;>
    first | exact .inl hk | (simp only [modifyRouter_routers] at hk; split_ifs at hk <;> simp_all)

/-- **A name is only written by the `strncpy`**, and it writes the call's name. -/
theorem routerCodeStep_routerName (h : routerCodeStep name reg pc = some (reg', pc')) (k : Nat) :
    (reg'.routers k).routerName = (reg.routers k).routerName ∨
      pc = .copyName k ∧ (reg'.routers k).routerName = name.take (maxNameLen - 1) := by
  rcases routerCodeStep_reg h with rfl | ⟨i, rfl, rfl⟩ | ⟨i, n, rfl, rfl⟩ | ⟨i, n, rfl, rfl⟩ |
    ⟨i, rfl, rfl⟩ | ⟨i, c, rfl, rfl⟩ <;>
    first | exact .inl rfl | (simp only [modifyRouter_routers]; split_ifs <;> simp_all)

/-- **The `strncpy` writes the call's name** into the slot it chose. -/
theorem routerCodeStep_copyName {k : Nat} (h : routerCodeStep name reg (.copyName k) = some (reg', pc')) :
    (reg'.routers k).routerName = name.take (maxNameLen - 1) := by
  simp only [routerCodeStep, Option.some.injEq, Prod.mk.injEq] at h
  obtain ⟨rfl, -⟩ := h
  simp

/-- **`router_count` is only written by the store of `router_count++`.** -/
theorem routerCodeStep_routerCount (h : routerCodeStep name reg pc = some (reg', pc')) :
    reg'.routerCount = reg.routerCount ∨
      ∃ i c, pc = .writeCount i c ∧ reg'.routerCount = c + 1 := by
  rcases routerCodeStep_reg h with rfl | ⟨i, rfl, rfl⟩ | ⟨i, n, rfl, rfl⟩ | ⟨i, n, rfl, rfl⟩ |
    ⟨i, rfl, rfl⟩ | ⟨i, c, rfl, rfl⟩ <;> simp

/-- **A slot is chosen only by the free-slot loop, after it read the slot inactive.** -/
theorem routerCodeStep_claiming (h : routerCodeStep name reg pc = some (reg', pc')) {i : Nat}
    (hi : pc'.claiming = some i) :
    pc.claiming = some i ∨ pc = .free i ∧ (reg.routers i).active = false := by
  cases pc <;> simp only [routerCodeStep, Option.some.injEq, Prod.mk.injEq] at h <;>
    obtain ⟨-, rfl⟩ := h <;> (try split_ifs at hi) <;> simp_all [RouterCodePc.claiming]

/-- **A slot holds the call's name from the `strncpy` on.** -/
theorem routerCodeStep_copied (h : routerCodeStep name reg pc = some (reg', pc')) {i : Nat}
    (hi : pc'.copied = some i) : pc.copied = some i ∨ pc = .copyName i := by
  cases pc <;> simp only [routerCodeStep, Option.some.injEq, Prod.mk.injEq] at h <;>
    obtain ⟨-, rfl⟩ := h <;> (try split_ifs at hi) <;> simp_all [RouterCodePc.copied]

/-- **The name of a slot is compared only after the slot was read active.** -/
theorem routerCodeStep_to_name (h : routerCodeStep name reg pc = some (reg', pc')) {i : Nat}
    (hi : pc' = .name i) : pc = .active i ∧ (reg.routers i).active = true := by
  cases pc <;> simp only [routerCodeStep, Option.some.injEq, Prod.mk.injEq] at h <;>
    obtain ⟨-, rfl⟩ := h <;> (try split_ifs at hi) <;> simp_all

/-- **The stored count is the count read, plus one.** -/
theorem routerCodeStep_to_writeCount (h : routerCodeStep name reg pc = some (reg', pc'))
    {i c : Nat} (hi : pc' = .writeCount i c) : pc = .readCount i ∧ c = reg.routerCount := by
  cases pc <;> simp only [routerCodeStep, Option.some.injEq, Prod.mk.injEq] at h <;>
    obtain ⟨-, rfl⟩ := h <;> (try split_ifs at hi) <;> simp_all [eq_comm]

end Access

/-! ## (3) A call that nothing interrupts -/

section Solo

variable (name : List Char)

/-- One access of the call. -/
def SoloStep (s s' : ShmRegistry × RouterCodePc) : Prop := routerCodeStep name s.1 s.2 = some s'

/-- **The accesses of a call that no other process interrupts.** The step is a function and `done`
has no step, so a `done` state this relation reaches is where the call returns. -/
def SoloReach : ShmRegistry × RouterCodePc → ShmRegistry × RouterCodePc → Prop :=
  Relation.ReflTransGen (SoloStep name)

theorem soloReach_single {s s' : ShmRegistry × RouterCodePc}
    (h : routerCodeStep name s.1 s.2 = some s') : SoloReach name s s' :=
  Relation.ReflTransGen.single h

/-- **The lookup loop**, from slot `i` on: it returns the first active slot holding the name below
`MAX_ROUTERS` and `router_count + 10`, or goes on to the capacity check. -/
theorem soloReach_lookup (reg : ShmRegistry) :
    ∀ (n i : Nat), i + n = min maxRouters (reg.routerCount + 10) →
      SoloReach name (reg, .test i)
        (reg, (scanFrom (fun k => (reg.routers k).active && (reg.routers k).routerName == name) i
          n).elim .full fun k => .done (some k))
  | 0, i, h => soloReach_single name (by
      have hi : ¬ (i < maxRouters ∧ i < reg.routerCount + 10) := by rw [← lt_min_iff]; omega
      simp [routerCodeStep, hi, scanFrom])
  | n + 1, i, h => by
    have hi : i < maxRouters ∧ i < reg.routerCount + 10 := lt_min_iff.mp (by omega)
    refine .head (b := (reg, .active i)) (by simp [SoloStep, routerCodeStep, hi]) ?_
    cases ha : (reg.routers i).active
    · refine .head (b := (reg, .test (i + 1))) (by simp [SoloStep, routerCodeStep, ha]) ?_
      simpa [scanFrom, ha] using soloReach_lookup reg n (i + 1) (by omega)
    · refine .head (b := (reg, .name i)) (by simp [SoloStep, routerCodeStep, ha]) ?_
      by_cases hn : (reg.routers i).routerName = name
      · exact soloReach_single name (by simp [routerCodeStep, hn, scanFrom, ha])
      · refine .head (b := (reg, .test (i + 1))) (by simp [SoloStep, routerCodeStep, hn]) ?_
        simpa [scanFrom, ha, hn] using soloReach_lookup reg n (i + 1) (by omega)

/-- **The free-slot loop**, from slot `i` on: it chooses the first inactive slot, or returns `NULL`. -/
theorem soloReach_free (reg : ShmRegistry) :
    ∀ (n i : Nat), i + n = maxRouters →
      SoloReach name (reg, .free i)
        (reg, (scanFrom (fun k => !(reg.routers k).active) i n).elim (.done none) .copyName)
  | 0, i, h => soloReach_single name (by
      have hi : ¬ i < maxRouters := by omega
      simp [routerCodeStep, scanFrom, hi])
  | n + 1, i, h => by
    cases ha : (reg.routers i).active
    · exact soloReach_single name (by simp [routerCodeStep, ha, scanFrom, (by omega : i < maxRouters)])
    · refine .head (b := (reg, .free (i + 1)))
        (by simp [SoloStep, routerCodeStep, ha, (by omega : i < maxRouters)]) ?_
      simpa [scanFrom, ha] using soloReach_free reg n (i + 1) (by omega)

/-- **The writes of a claim**, run in a row, are `claimRouterSlot`. -/
theorem soloReach_claim (reg : ShmRegistry) (i : Nat) :
    SoloReach name (reg, .copyName i) (reg.claimRouterSlot i name, .done (some i)) := by
  refine .head rfl (.head rfl (.head rfl (.head rfl (.head rfl (.head rfl (soloReach_single name ?_))))))
  simp only [routerCodeStep, ShmRegistry.modifyRouter, ShmRegistry.claimRouterSlot,
    Function.update_idem, Function.update_same]

/-- **An uninterrupted call is `getRouterCodeShm`**: it returns, with the registry `getRouterCodeShm`
leaves and a pointer into the slot whose code `getRouterCodeShm` returns. -/
theorem soloReach_getRouterCodeShm (reg : ShmRegistry) :
    ∃ r, SoloReach name (reg, .test 0) ((getRouterCodeShm reg name).1, .done r) ∧
      (getRouterCodeShm reg name).2 =
        r.map fun i => ((getRouterCodeShm reg name).1.routers i).routerCode := by
  have hl : SoloReach name (reg, .test 0)
      (reg, (findRouterSlot reg name).elim .full fun k => .done (some k)) :=
    soloReach_lookup name reg _ 0 (Nat.zero_add _)
  rcases hf : findRouterSlot reg name with _ | k
  · -- not found: the capacity check, then the free-slot loop
    rw [hf] at hl
    by_cases hfull : maxRouters ≤ reg.routerCount
    · have hg : getRouterCodeShm reg name = (reg, none) := by simp [getRouterCodeShm, hf, hfull]
      rw [hg]
      exact ⟨none, hl.tail (by simp [SoloStep, routerCodeStep, hfull]), rfl⟩
    · have hc : SoloReach name (reg, .test 0) (reg, .free 0) :=
        hl.tail (by simp [SoloStep, routerCodeStep, hfull])
      have hfr : SoloReach name (reg, .free 0)
          (reg, (freeRouterSlot reg).elim (.done none) .copyName) :=
        soloReach_free name reg _ 0 (Nat.zero_add _)
      rcases hs : freeRouterSlot reg with _ | k <;> rw [hs] at hfr
      · have hg : getRouterCodeShm reg name = (reg, none) := by
          simp [getRouterCodeShm, hf, hfull, hs]
        rw [hg]
        exact ⟨none, hc.trans hfr, rfl⟩
      · have hg : getRouterCodeShm reg name =
            (reg.claimRouterSlot k name, some (routerCodeText reg.nextRouterCode)) := by
          simp [getRouterCodeShm, hf, hfull, hs]
        rw [hg]
        exact ⟨some k, hc.trans (hfr.trans (soloReach_claim name reg k)),
          by simp [ShmRegistry.claimRouterSlot]⟩
  · rw [hf] at hl
    have hg : getRouterCodeShm reg name = (reg, some (reg.routers k).routerCode) := by
      simp [getRouterCodeShm, hf]
    rw [hg]
    exact ⟨some k, hl, rfl⟩

/-- **A call runs one way**: two uninterrupted runs from one state to a return end alike. -/
theorem soloReach_done_unique {s : ShmRegistry × RouterCodePc} {t₁ t₂ : ShmRegistry}
    {r₁ r₂ : Option Nat} (h₁ : SoloReach name s (t₁, .done r₁))
    (h₂ : SoloReach name s (t₂, .done r₂)) : t₁ = t₂ ∧ r₁ = r₂ := by
  induction h₁ using Relation.ReflTransGen.head_induction_on with
  | refl =>
    rcases h₂.cases_head with h | ⟨_, hc, -⟩
    · simp_all
    · simp [SoloStep, routerCodeStep] at hc
  | head hab _ ih =>
    rcases h₂.cases_head with rfl | ⟨c, hc, hc'⟩
    · simp [SoloStep, routerCodeStep] at hab
    · rw [SoloStep, hab, Option.some.injEq] at hc
      exact ih (hc ▸ hc')

/-- **An uninterrupted call computes `getRouterCodeShm`, and nothing else**: it returns, with the
registry `getRouterCodeShm` leaves and a pointer into the slot whose code `getRouterCodeShm`
returns; and every uninterrupted run of the call that returns ends in that registry, with a pointer
to that code. -/
theorem routerCodeStep_solo (reg : ShmRegistry) :
    (∃ r, SoloReach name (reg, .test 0) ((getRouterCodeShm reg name).1, .done r) ∧
      (getRouterCodeShm reg name).2 =
        r.map fun i => ((getRouterCodeShm reg name).1.routers i).routerCode) ∧
    ∀ reg' r, SoloReach name (reg, .test 0) (reg', .done r) →
      reg' = (getRouterCodeShm reg name).1 ∧
        (getRouterCodeShm reg name).2 = r.map fun i => (reg'.routers i).routerCode := by
  obtain ⟨r₀, h₀, hcode⟩ := soloReach_getRouterCodeShm name reg
  refine ⟨⟨r₀, h₀, hcode⟩, fun reg' r h => ?_⟩
  obtain ⟨rfl, rfl⟩ := soloReach_done_unique name h h₀
  exact ⟨rfl, hcode⟩

/-- **A name the table does not hold**, looked up in a table of the invariant with room: the call
reads without writing and chooses slot `router_count`. -/
theorem soloReach_fresh {reg : ShmRegistry} (hi : RouterTableInv reg)
    (hroom : reg.routerCount < maxRouters)
    (hfresh : ∀ i < reg.routerCount, (reg.routers i).routerName ≠ name) :
    SoloReach name (reg, .test 0) (reg, .copyName reg.routerCount) := by
  have hf : findRouterSlot reg name = none := scanFrom_eq_none_iff.mpr fun i _ hlt => by
    by_cases ha : (reg.routers i).active
    · simpa [ha] using hfresh i ((hi.active_iff i).mp ha)
    · simp [ha]
  have hfree : freeRouterSlot reg = some reg.routerCount := by
    refine scanFrom_eq_some_iff.mpr ⟨Nat.zero_le _, by omega, ?_, fun j _ hj => ?_⟩
    · simpa using (hi.active_iff _).not.mpr (Nat.lt_irrefl _)
    · simpa using (hi.active_iff j).mpr hj
  have hl : SoloReach name (reg, .test 0)
      (reg, (findRouterSlot reg name).elim .full fun k => .done (some k)) :=
    soloReach_lookup name reg _ 0 (Nat.zero_add _)
  have hfr : SoloReach name (reg, .free 0)
      (reg, (freeRouterSlot reg).elim (.done none) .copyName) :=
    soloReach_free name reg _ 0 (Nat.zero_add _)
  rw [hf] at hl
  rw [hfree] at hfr
  have hc : SoloStep name (reg, .full) (reg, .free 0) := by simp [SoloStep, routerCodeStep, hroom]
  exact (hl.tail hc).trans hfr

end Solo

/-! ## (4) The children -/

/-- **A child of the parallel mode**, as the router table sees it. -/
structure Child where
  /-- The routers whose `get_router_code_shm` it has not started, in order. -/
  pending : List (List Char)
  /-- The call in progress: the name it looks up and where it stands. -/
  call : Option (List Char × RouterCodePc)
  /-- The calls that returned: each name with the slot of the returned pointer. -/
  results : List (List Char × Option Nat)

/-- **The shared registry and the children.** -/
structure Parallel where
  /-- The mapping every child shares. -/
  reg : ShmRegistry
  /-- Child `p`. -/
  children : Nat → Child

/-- **The fork**: child `p` has the routers of `batches p` before it. -/
def Parallel.init (reg : ShmRegistry) (batches : Nat → List (List Char)) : Parallel :=
  ⟨reg, fun p => ⟨batches p, none, []⟩⟩

/-- **The batches of the fork loop** `for (i = 0; i < router_count; i += batch_size)` with
`batch_size = 10`: child `p` sets up routers `10 p .. min (10 p + 10, router_count) - 1`, in order;
past the last batch there is no child, which is a child with nothing to do. -/
def forkBatches (names : List (List Char)) (p : Nat) : List (List Char) :=
  (names.drop (10 * p)).take 10

/-- The registry set to `reg` and child `p` replaced by `c`. -/
def Parallel.update (s : Parallel) (reg : ShmRegistry) (p : Nat) (c : Child) : Parallel :=
  ⟨reg, Function.update s.children p c⟩

/-- **A write that leaves the router table alone**: the interface and bridge tables, their
counters and `next_interface_codes` may change, the router entries and their two counters do not.
Every access of `get_interface_code_shm`, `register_bridge_shm` and `find_bridge_by_subnet` is one. -/
def RouterFrame (reg reg' : ShmRegistry) : Prop :=
  reg'.routers = reg.routers ∧ reg'.routerCount = reg.routerCount ∧
    reg'.nextRouterCode = reg.nextRouterCode

/-- **One step of the parallel mode.** -/
inductive ParStep : Parallel → Parallel → Prop
  /-- Child `p` calls `get_router_code_shm` for its next router. -/
  | start {s : Parallel} {p : Nat} {n : List Char} {rest : List (List Char)}
      (hp : (s.children p).pending = n :: rest) (hc : (s.children p).call = none) :
      ParStep s (s.update s.reg p ⟨rest, some (n, .test 0), (s.children p).results⟩)
  /-- Child `p` makes one access. -/
  | access {s : Parallel} {p : Nat} {n : List Char} {pc pc' : RouterCodePc} {reg' : ShmRegistry}
      (hc : (s.children p).call = some (n, pc)) (h : routerCodeStep n s.reg pc = some (reg', pc')) :
      ParStep s (s.update reg' p { s.children p with call := some (n, pc') })
  /-- The call of child `p` returns. -/
  | finish {s : Parallel} {p : Nat} {n : List Char} {r : Option Nat}
      (hc : (s.children p).call = some (n, .done r)) :
      ParStep s (s.update s.reg p
        { s.children p with call := none, results := (s.children p).results ++ [(n, r)] })
  /-- Some process writes outside the router table. -/
  | other {s : Parallel} {reg' : ShmRegistry} (h : RouterFrame s.reg reg') :
      ParStep s ⟨reg', s.children⟩

/-- **The runs of the parallel mode.** -/
def ParReach (s s' : Parallel) : Prop := Relation.ReflTransGen ParStep s s'

/-- A property of the states that every step keeps holds along every run. -/
theorem ParReach.induct {I : Parallel → Prop} {s₀ s : Parallel} (h₀ : I s₀)
    (hstep : ∀ s s', I s → ParStep s s' → I s') (h : ParReach s₀ s) : I s := by
  induction h with
  | refl => exact h₀
  | tail _ hs ih => exact hstep _ _ ih hs

@[simp] theorem Parallel.update_reg (s : Parallel) (reg : ShmRegistry) (p : Nat) (c : Child) :
    (s.update reg p c).reg = reg := rfl

@[simp] theorem Parallel.update_children (s : Parallel) (reg : ShmRegistry) (p : Nat) (c : Child)
    (q : Nat) : (s.update reg p c).children q = if q = p then c else s.children q := by
  simp [Parallel.update, Function.update_apply]

@[simp] theorem Parallel.update_update (s : Parallel) (reg reg' : ShmRegistry) (p : Nat)
    (c c' : Child) : (s.update reg p c).update reg' p c' = s.update reg' p c' := by
  simp [Parallel.update, Function.update_idem]

theorem Parallel.update_self (s : Parallel) (p : Nat) : s.update s.reg p (s.children p) = s := by
  simp [Parallel.update]

/-- A clause on every child holds after a step that replaced child `p`, if it holds of the new
child and of every other one. -/
theorem Parallel.forall_update {P : Child → Prop} {s : Parallel} {reg : ShmRegistry} {p : Nat}
    {c : Child} (hc : P c) (hs : ∀ q, q ≠ p → P (s.children q)) :
    ∀ q, P ((s.update reg p c).children q) := by
  intro q
  by_cases hq : q = p
  · simpa [hq] using hc
  · simpa [hq] using hs q hq

/-- **A call that runs uninterrupted inside the parallel mode.** -/
theorem parReach_solo {s : Parallel} {p : Nat} {n : List Char} {pc : RouterCodePc}
    (hc : (s.children p).call = some (n, pc)) {b : ShmRegistry × RouterCodePc}
    (h : SoloReach n (s.reg, pc) b) :
    ParReach s (s.update b.1 p { s.children p with call := some (n, b.2) }) := by
  induction h with
  | refl =>
    rw [← hc, Parallel.update_self]
    exact .refl
  | @tail b c _ hbc ih =>
    refine ih.tail ?_
    have := @ParStep.access (s.update b.1 p { s.children p with call := some (n, b.2) }) p n b.2 c.2
      c.1 (by simp) hbc
    simpa using this

/-- **Child `p` calls `get_router_code_shm` for its next router**, which runs uninterrupted. -/
theorem parReach_call {s : Parallel} {p : Nat} {n : List Char} {rest : List (List Char)}
    (hp : (s.children p).pending = n :: rest) (hc : (s.children p).call = none)
    {b : ShmRegistry × RouterCodePc} (h : SoloReach n (s.reg, .test 0) b) :
    ParReach s (s.update b.1 p ⟨rest, some (n, b.2), (s.children p).results⟩) := by
  have h₁ : ParReach s _ := Relation.ReflTransGen.single (ParStep.start hp hc)
  have h₂ := parReach_solo (s := s.update s.reg p ⟨rest, some (n, .test 0), (s.children p).results⟩)
    (p := p) (by simp) h
  simpa using h₁.trans h₂

/-- The call of child `p` returns. -/
theorem parReach_finish {s : Parallel} {p : Nat} {n : List Char} {r : Option Nat}
    (hc : (s.children p).call = some (n, .done r)) :
    ParReach s (s.update s.reg p
      { s.children p with call := none, results := (s.children p).results ++ [(n, r)] }) :=
  Relation.ReflTransGen.single (.finish hc)

/-- **A lookup beside a claim.** From a table of the invariant with room, child `q` reads the whole
table for its new first router `n₂` and chooses slot `router_count`; child `p` then runs its call
for its first router `n₁` to the end and gets the pointer back; last, child `q` makes its claim and
returns. -/
theorem parReach_call_beside_claim {reg₀ : ShmRegistry} (hi : RouterTableInv reg₀)
    (hroom : reg₀.routerCount < maxRouters) {batches : Nat → List (List Char)} {p q : Nat}
    (hpq : p ≠ q) {n₁ n₂ : List Char} {rest₁ rest₂ : List (List Char)}
    (hp : batches p = n₁ :: rest₁) (hq : batches q = n₂ :: rest₂)
    (h₂ : ∀ i < reg₀.routerCount, (reg₀.routers i).routerName ≠ n₂) :
    ∃ s, ParReach (Parallel.init reg₀ batches) s ∧ (∃ r, (s.children p).results = [(n₁, r)]) ∧
      (s.children q).results = [(n₂, some reg₀.routerCount)] := by
  have hqp : q ≠ p := Ne.symm hpq
  let s₁ := (Parallel.init reg₀ batches).update reg₀ q
    ⟨rest₂, some (n₂, .copyName reg₀.routerCount), []⟩
  have r₁ : ParReach (Parallel.init reg₀ batches) s₁ :=
    @parReach_call _ q n₂ rest₂ (by simp [Parallel.init, hq]) rfl _ (soloReach_fresh n₂ hi hroom h₂)
  obtain ⟨r, hr, -⟩ := soloReach_getRouterCodeShm n₁ reg₀
  have r₂ := @parReach_call s₁ p n₁ rest₁ (by simp [s₁, Parallel.init, hp, hpq])
    (by simp [s₁, Parallel.init, hpq]) _ hr
  refine ⟨_, r₁.trans (r₂.trans ((@parReach_finish _ p n₁ r (by simp)).trans
    ((@parReach_solo _ q n₂ (.copyName reg₀.routerCount) (by simp [s₁, hqp]) _
      (soloReach_claim n₂ _ reg₀.routerCount)).trans
    (@parReach_finish _ q n₂ (some reg₀.routerCount) (by simp))))),
    ⟨r, by simp [s₁, Parallel.init, hpq]⟩, by simp [s₁, Parallel.init, hqp]⟩

/-! ## (5) Entries active at the fork -/

/-- **A child writes only into slots inactive at the fork**: the slot its call has chosen, if any. -/
def Child.ClaimsFresh (reg₀ : ShmRegistry) (c : Child) : Prop :=
  ∀ n pc i, c.call = some (n, pc) → pc.claiming = some i → (reg₀.routers i).active = false

/-- **What every run keeps from the registry `reg₀` of the fork.** -/
structure KeepInv (reg₀ : ShmRegistry) (s : Parallel) : Prop where
  /-- An entry active at the fork holds what it held. -/
  keeps : ∀ i, (reg₀.routers i).active = true → s.reg.routers i = reg₀.routers i
  /-- Every call writes into a slot inactive at the fork. -/
  fresh : ∀ p, (s.children p).ClaimsFresh reg₀

theorem keepInv_init (reg₀ : ShmRegistry) (batches : Nat → List (List Char)) :
    KeepInv reg₀ (Parallel.init reg₀ batches) :=
  ⟨fun _ _ => rfl, fun _ _ _ _ h => by simp [Parallel.init] at h⟩

/-- **Every step keeps `KeepInv`**: a call chooses a slot only after reading it inactive, and a slot
active at the fork is read active at every time. -/
theorem KeepInv.step {reg₀ : ShmRegistry} {s s' : Parallel} (hk : KeepInv reg₀ s)
    (h : ParStep s s') : KeepInv reg₀ s' := by
  cases h with
  | start hp hc =>
    refine ⟨hk.keeps, Parallel.forall_update ?_ fun q _ => hk.fresh q⟩
    rintro _ _ _ ⟨⟩ hi
    cases hi
  | @access p n pc pc' reg' hc hs =>
    have hfresh : ∀ i, pc.claiming = some i → (reg₀.routers i).active = false :=
      fun i => hk.fresh p n pc i hc
    refine ⟨fun i hi => ?_, Parallel.forall_update ?_ fun q _ => hk.fresh q⟩
    · rw [Parallel.update_reg, routerCodeStep_routers_of_ne hs fun h => by simp [hfresh i h] at hi]
      exact hk.keeps i hi
    · rintro _ _ i ⟨⟩ hi
      rcases routerCodeStep_claiming hs hi with h | ⟨rfl, hinact⟩
      · exact hfresh i h
      · cases ha : (reg₀.routers i).active
        · rfl
        · rw [hk.keeps i ha, ha] at hinact
          cases hinact
  | finish hc =>
    refine ⟨hk.keeps, Parallel.forall_update ?_ fun q _ => hk.fresh q⟩
    rintro _ _ _ ⟨⟩
  | other hf => exact ⟨fun i hi => (congrFun hf.1 i).trans (hk.keeps i hi), hk.fresh⟩

/-- **An entry active at the fork keeps its name, code and `active` in every interleaving** of the
children, whatever their routers: no call chooses a slot it read active, and `active` is never
cleared. -/
theorem parReach_keeps_active {reg₀ : ShmRegistry} {batches : Nat → List (List Char)}
    {s : Parallel} (h : ParReach (Parallel.init reg₀ batches) s) {i : Nat}
    (hi : (reg₀.routers i).active = true) : s.reg.routers i = reg₀.routers i :=
  (ParReach.induct (keepInv_init reg₀ batches) (fun _ _ hk hs => hk.step hs) h).keeps i hi

/-- **Two children on a table that holds `r0`**: child `1` claims slot `1` for `r10` around the
lookup of `r0` by child `0`, and slot `0` keeps its entry. -/
theorem parReach_keeps_active_r0 :
    ∃ s, ParReach (Parallel.init (getRouterCodeShm cleared "r0".toList).1
        (forkBatches ((List.range 11).map fun i => 'r' :: decimal i))) s ∧
      (∃ r, (s.children 0).results = [("r0".toList, r)]) ∧
      (s.children 1).results = [("r10".toList, some 1)] ∧
      s.reg.routers 0 = (getRouterCodeShm cleared "r0".toList).1.routers 0 := by
  have hi : RouterTableInv (getRouterCodeShm cleared "r0".toList).1 :=
    routerTableInv_cleared.getRouterCodeShm (by decide)
  obtain ⟨s, hs, h₀, h₁⟩ := @parReach_call_beside_claim _ hi (by decide)
    (forkBatches ((List.range 11).map fun i => 'r' :: decimal i)) 0 1 (by decide) _ _ _ _ rfl rfl
    (by decide)
  exact ⟨s, hs, h₀, h₁, parReach_keeps_active hs (by decide)⟩

/-! ## (6) A router the table already holds -/

/-- **Where a lookup of the name of slot `j` can stand**: in the lookup loop at a slot up to `j`, or
returned with `j`. -/
def OnTrack (j : Nat) : RouterCodePc → Prop
  | .test i | .active i | .name i => i ≤ j
  | .done r => r = some j
  | _ => False

/-- **What a child keeps along a run** with the shared registry `reg`, for the name of slot `j` of
the fork registry `reg₀`. -/
structure ChildOk (reg₀ : ShmRegistry) (j : Nat) (reg : ShmRegistry) (c : Child) : Prop where
  /-- Its routers have names shorter than `MAX_NAME_LEN`. -/
  pending_short : ∀ m ∈ c.pending, m.length < maxNameLen
  /-- So has the router of its call. -/
  call_short : ∀ m pc, c.call = some (m, pc) → m.length < maxNameLen
  /-- The count it is about to store comes from a count at least the one of the fork. -/
  read_ge : ∀ m i k, c.call = some (m, .writeCount i k) → reg₀.routerCount ≤ k
  /-- The slot it copied its name into does not hold the name of `j`. -/
  copied : ∀ m pc k, c.call = some (m, pc) → pc.copied = some k →
    (reg.routers k).routerName ≠ (reg₀.routers j).routerName
  /-- It compares a name only in an active slot. -/
  checked : ∀ m i, c.call = some (m, .name i) → (reg.routers i).active = true
  /-- A lookup of the name of `j` is on its track. -/
  lookup : ∀ pc, c.call = some ((reg₀.routers j).routerName, pc) → OnTrack j pc
  /-- A lookup of the name of `j` that returned got `j`. -/
  results : ∀ r, ((reg₀.routers j).routerName, r) ∈ c.results → r = some j

/-- **The invariant of the runs for the router of slot `j`.** -/
structure FoundInv (reg₀ : ShmRegistry) (j : Nat) (s : Parallel) : Prop where
  /-- What every run keeps. -/
  keep : KeepInv reg₀ s
  /-- `router_count` never falls below its value at the fork: a lost update stores a count read
  later than the fork. -/
  count_ge : reg₀.routerCount ≤ s.reg.routerCount
  /-- No other active slot holds the name of `j`. -/
  others : ∀ k, k ≠ j → (s.reg.routers k).active = true →
    (s.reg.routers k).routerName ≠ (reg₀.routers j).routerName
  /-- Each child. -/
  children : ∀ p, ChildOk reg₀ j s.reg (s.children p)

section Found

variable {reg₀ : ShmRegistry} {j : Nat}

/-- A name shorter than `MAX_NAME_LEN` is copied whole, so a different name copies differently. -/
theorem take_ne_of_ne {m n : List Char} (hm : m.length < maxNameLen) (h : m ≠ n) :
    m.take (maxNameLen - 1) ≠ n := by
  rwa [List.take_of_length_le (by omega)]

/-- **One access of a lookup of the name of `j` stays on its track.** -/
theorem onTrack_step {reg reg' : ShmRegistry} {pc pc' : RouterCodePc}
    (hj : j < maxRouters) (hcount : j < reg.routerCount + 10)
    (hkeep : reg.routers j = reg₀.routers j) (hjact : (reg₀.routers j).active = true)
    (hothers : ∀ k, k ≠ j → (reg.routers k).active = true →
      (reg.routers k).routerName ≠ (reg₀.routers j).routerName)
    (hchecked : ∀ i, pc = .name i → (reg.routers i).active = true) (ht : OnTrack j pc)
    (hs : routerCodeStep (reg₀.routers j).routerName reg pc = some (reg', pc')) : OnTrack j pc' := by
  cases pc with
  | test i =>
    have hi : i < maxRouters ∧ i < reg.routerCount + 10 := ⟨by simp only [OnTrack] at ht; omega,
      by simp only [OnTrack] at ht; omega⟩
    simp only [routerCodeStep, hi, and_self, if_true, Option.some.injEq, Prod.mk.injEq] at hs
    rw [← hs.2]
    exact ht
  | active i =>
    simp only [routerCodeStep, Option.some.injEq, Prod.mk.injEq] at hs
    rw [← hs.2]
    by_cases hij : i = j
    · subst hij
      simp [hkeep, hjact, OnTrack]
    · split <;> simp only [OnTrack] at ht ⊢ <;> omega
  | name i =>
    simp only [routerCodeStep, Option.some.injEq, Prod.mk.injEq] at hs
    rw [← hs.2]
    by_cases hij : i = j
    · subst hij
      simp [hkeep, OnTrack]
    · rw [if_neg (hothers i hij (hchecked i rfl))]
      simp only [OnTrack] at ht ⊢
      omega
  | done r => simp [routerCodeStep] at hs
  | _ => exact ht.elim

/-- **An access by another child keeps a child's clauses**: the only name it writes is its own
router's, which is not the name of `j`. -/
theorem ChildOk.of_access {reg reg' : ShmRegistry} {m : List Char} {pc pc' : RouterCodePc}
    {c : Child} (hc : ChildOk reg₀ j reg c) (hs : routerCodeStep m reg pc = some (reg', pc'))
    (hm : ∀ k, pc = .copyName k → m.take (maxNameLen - 1) ≠ (reg₀.routers j).routerName) :
    ChildOk reg₀ j reg' c where
  pending_short := hc.pending_short
  call_short := hc.call_short
  read_ge := hc.read_ge
  copied m' pc'' k hcall hk := by
    rcases routerCodeStep_routerName hs k with h | ⟨rfl, h⟩
    · rw [h]; exact hc.copied m' pc'' k hcall hk
    · rw [h]; exact hm k rfl
  checked m' i hcall := routerCodeStep_active_mono hs (hc.checked m' i hcall)
  lookup := hc.lookup
  results := hc.results

/-- The clauses read the registry only through the router table. -/
theorem ChildOk.of_routers {reg reg' : ShmRegistry} {c : Child} (hc : ChildOk reg₀ j reg c)
    (h : reg'.routers = reg.routers) : ChildOk reg₀ j reg' c :=
  ⟨hc.pending_short, hc.call_short, hc.read_ge, h ▸ hc.copied, h ▸ hc.checked, hc.lookup,
    hc.results⟩

/-- A child between two calls. -/
theorem childOk_idle {reg : ShmRegistry} {pending : List (List Char)}
    {results : List (List Char × Option Nat)} (hp : ∀ m ∈ pending, m.length < maxNameLen)
    (hr : ∀ r, ((reg₀.routers j).routerName, r) ∈ results → r = some j) :
    ChildOk reg₀ j reg ⟨pending, none, results⟩ :=
  ⟨hp, by simp, by simp, by simp, by simp, by simp, hr⟩

theorem foundInv_init (hi : RouterTableInv reg₀) (hj : j < reg₀.routerCount)
    {batches : Nat → List (List Char)} (hshort : ∀ p, ∀ m ∈ batches p, m.length < maxNameLen) :
    FoundInv reg₀ j (Parallel.init reg₀ batches) where
  keep := keepInv_init reg₀ batches
  count_ge := le_rfl
  others k hk ha heq := hk (hi.name_inj k ((hi.active_iff k).mp ha) j hj heq)
  children p := childOk_idle (hshort p) (by simp)

/-- **Every step keeps `FoundInv`.** -/
theorem FoundInv.step (hi : RouterTableInv reg₀) (hj : j < reg₀.routerCount) {s s' : Parallel}
    (hf : FoundInv reg₀ j s) (h : ParStep s s') : FoundInv reg₀ j s' := by
  have hjact : (reg₀.routers j).active = true := (hi.active_iff j).mpr hj
  have hkeepj : s.reg.routers j = reg₀.routers j := hf.keep.keeps j hjact
  cases h with
  | @start p n rest hp hc =>
    have hcp := hf.children p
    refine ⟨hf.keep.step (.start hp hc), hf.count_ge, hf.others,
      Parallel.forall_update ⟨?_, ?_, by simp, ?_, by simp, ?_, hcp.results⟩
        fun q _ => hf.children q⟩
    · exact fun m hm => hcp.pending_short m (by simp [hp, hm])
    · rintro _ _ ⟨⟩
      exact hcp.pending_short n (by simp [hp])
    · rintro _ _ k ⟨⟩ hk
      cases hk
    · rintro _ ⟨⟩
      simp [OnTrack]
  | @access p m pc pc' reg' hc hs =>
    have hcp := hf.children p
    -- the call on the name of `j` never reaches the `strncpy`
    have hm : ∀ k, pc = .copyName k → m.take (maxNameLen - 1) ≠ (reg₀.routers j).routerName := by
      rintro k rfl
      refine take_ne_of_ne (hcp.call_short m _ hc) fun heq => ?_
      subst heq
      exact hcp.lookup _ hc
    refine ⟨hf.keep.step (.access hc hs), ?_, ?_, Parallel.forall_update ?_
      fun q _ => (hf.children q).of_access hs hm⟩
    · rcases routerCodeStep_routerCount hs with h | ⟨i, k, rfl, h⟩
      · rw [Parallel.update_reg, h]; exact hf.count_ge
      · rw [Parallel.update_reg, h]; exact (hcp.read_ge m i k hc).trans (Nat.le_succ k)
    · intro k hk ha
      rcases routerCodeStep_active_new hs ha with ha | rfl
      · rcases routerCodeStep_routerName hs k with h | ⟨rfl, h⟩
        · rw [Parallel.update_reg, h]; exact hf.others k hk ha
        · rw [Parallel.update_reg, h]; exact hm k rfl
      · rcases routerCodeStep_routerName hs k with h | ⟨h', -⟩
        · rw [Parallel.update_reg, h]; exact hcp.copied m _ k hc rfl
        · cases h'
    · refine ⟨hcp.pending_short, ?_, ?_, ?_, ?_, ?_, hcp.results⟩
      · rintro _ _ ⟨⟩
        exact hcp.call_short m pc hc
      · rintro _ i k ⟨⟩
        obtain ⟨rfl, rfl⟩ := routerCodeStep_to_writeCount hs rfl
        exact hf.count_ge
      · rintro _ _ k ⟨⟩ hk
        rcases routerCodeStep_copied hs hk with hk | rfl
        · rcases routerCodeStep_routerName hs k with h | ⟨rfl, -⟩
          · rw [Parallel.update_reg, h]; exact hcp.copied m pc k hc hk
          · cases hk
        · rw [Parallel.update_reg, routerCodeStep_copyName hs]; exact hm k rfl
      · rintro _ i ⟨⟩
        obtain ⟨rfl, ha⟩ := routerCodeStep_to_name hs rfl
        exact routerCodeStep_active_mono hs ha
      · rintro _ ⟨⟩
        exact onTrack_step (by have := hi.count_le; omega) (by have := hf.count_ge; omega) hkeepj
          hjact hf.others (fun i h => hcp.checked _ i (h ▸ hc)) (hcp.lookup pc hc) hs
  | @finish p m r hc =>
    have hcp := hf.children p
    refine ⟨hf.keep.step (.finish hc), hf.count_ge, hf.others,
      Parallel.forall_update ⟨hcp.pending_short, by simp, by simp, by simp, by simp, by simp, ?_⟩
        fun q _ => hf.children q⟩
    intro r' hr'
    rcases List.mem_append.mp hr' with hr' | hr'
    · exact hcp.results r' hr'
    · obtain ⟨rfl, rfl⟩ := Prod.mk.inj (List.mem_singleton.mp hr')
      exact hcp.lookup _ hc
  | @other reg' hfr =>
    refine ⟨hf.keep.step (.other hfr), hfr.2.1 ▸ hf.count_ge, hfr.1 ▸ hf.others,
      fun p => (hf.children p).of_routers hfr.1⟩

/-- **A router the table holds at the fork gets its own slot back, in every interleaving**: for
children whose routers have names shorter than `MAX_NAME_LEN`, every call of
`get_router_code_shm` for the name of an active slot `j` returns a pointer into slot `j`, and slot
`j` still holds its entry, so the code read through the pointer is the code of `j`. -/
theorem parReach_registered_code {reg₀ : ShmRegistry} (hi : RouterTableInv reg₀) {j : Nat}
    (hj : j < reg₀.routerCount) {batches : Nat → List (List Char)}
    (hshort : ∀ p, ∀ m ∈ batches p, m.length < maxNameLen) {s : Parallel}
    (h : ParReach (Parallel.init reg₀ batches) s) :
    s.reg.routers j = reg₀.routers j ∧
      ∀ p r, ((reg₀.routers j).routerName, r) ∈ (s.children p).results → r = some j := by
  have hf := ParReach.induct (foundInv_init hi hj hshort) (fun _ _ hf hs => hf.step hi hj hs) h
  exact ⟨hf.keep.keeps j ((hi.active_iff j).mpr hj), fun p => (hf.children p).results⟩

/-- **The lookup of `r0` beside the claim for `r10`**: child `0` gets slot `0` back for `r0`. -/
theorem parReach_registered_code_r0 :
    ∃ s, ParReach (Parallel.init (getRouterCodeShm cleared "r0".toList).1
        (forkBatches ((List.range 11).map fun i => 'r' :: decimal i))) s ∧
      (∃ r, (s.children 0).results = [("r0".toList, r)]) ∧
      (s.children 1).results = [("r10".toList, some 1)] ∧
      s.reg.routers 0 = (getRouterCodeShm cleared "r0".toList).1.routers 0 ∧
      ∀ p r, (((getRouterCodeShm cleared "r0".toList).1.routers 0).routerName, r) ∈
        (s.children p).results → r = some 0 := by
  have hshort : ∀ m ∈ (List.range 11).map (fun i => 'r' :: decimal i), m.length < maxNameLen := by
    decide
  have hi : RouterTableInv (getRouterCodeShm cleared "r0".toList).1 :=
    routerTableInv_cleared.getRouterCodeShm (by decide)
  obtain ⟨s, hs, h₀, h₁⟩ := @parReach_call_beside_claim _ hi (by decide)
    (forkBatches ((List.range 11).map fun i => 'r' :: decimal i)) 0 1 (by decide) _ _ _ _ rfl rfl
    (by decide)
  exact ⟨s, hs, h₀, h₁, parReach_registered_code hi (by decide)
    (fun _ m hm => hshort m (List.mem_of_mem_drop (List.mem_of_mem_take hm))) hs⟩

end Found

/-! ## (7) Two new routers at once -/

/-- **Two children can get one slot for two new routers.** From any table of the invariant with
room, when child `p` starts with router `n₁` and child `q` with router `n₂`, neither held by the
table: both calls can read the table before either writes, both choose slot `router_count`, and the
second claim overwrites the first. Both calls return a pointer into that slot, which then holds `n₂`
and the code `next_router_code` had after the first claim; `router_count` went up by two; and the
table has left its invariant (the slot past the overwritten one is counted and inactive). -/
theorem parReach_fresh_routers_share_slot {reg₀ : ShmRegistry} (hi : RouterTableInv reg₀)
    (hroom : reg₀.routerCount < maxRouters) {batches : Nat → List (List Char)} {p q : Nat}
    (hpq : p ≠ q) {n₁ n₂ : List Char} {rest₁ rest₂ : List (List Char)}
    (hp : batches p = n₁ :: rest₁) (hq : batches q = n₂ :: rest₂)
    (h₁ : ∀ i < reg₀.routerCount, (reg₀.routers i).routerName ≠ n₁)
    (h₂ : ∀ i < reg₀.routerCount, (reg₀.routers i).routerName ≠ n₂) :
    ∃ s, ParReach (Parallel.init reg₀ batches) s ∧
      (s.children p).results = [(n₁, some reg₀.routerCount)] ∧
      (s.children q).results = [(n₂, some reg₀.routerCount)] ∧
      s.reg.routers reg₀.routerCount =
        ⟨n₂.take (maxNameLen - 1), routerCodeText (reg₀.routerCount + 1), true⟩ ∧
      s.reg.routerCount = reg₀.routerCount + 2 ∧ ¬ RouterTableInv s.reg := by
  have hqp : q ≠ p := Ne.symm hpq
  -- `p`, then `q`, read the whole table and choose slot `router_count`
  let s₁ := (Parallel.init reg₀ batches).update reg₀ p
    ⟨rest₁, some (n₁, .copyName reg₀.routerCount), []⟩
  have r₁ : ParReach (Parallel.init reg₀ batches) s₁ :=
    @parReach_call _ p n₁ rest₁ (by simp [Parallel.init, hp]) rfl _ (soloReach_fresh n₁ hi hroom h₁)
  let s₂ := s₁.update reg₀ q
    ⟨rest₂, some (n₂, .copyName reg₀.routerCount), (s₁.children q).results⟩
  have r₂ : ParReach s₁ s₂ :=
    @parReach_call s₁ q n₂ rest₂ (by simp [s₁, Parallel.init, hq, hqp])
      (by simp [s₁, Parallel.init, hqp]) _ (soloReach_fresh n₂ hi hroom h₂)
  -- `p` makes its claim and returns, then `q` makes its claim over it and returns
  have r₃ := @parReach_solo s₂ p n₁ (.copyName reg₀.routerCount) (by simp [s₂, s₁, hpq]) _
    (soloReach_claim n₁ reg₀ reg₀.routerCount)
  refine ⟨_, r₁.trans (r₂.trans (r₃.trans
    ((@parReach_finish _ p n₁ (some reg₀.routerCount) (by simp)).trans
    ((@parReach_solo _ q n₂ (.copyName reg₀.routerCount) (by simp [s₂, hqp]) _
      (soloReach_claim n₂ _ reg₀.routerCount)).trans
    (@parReach_finish _ q n₂ (some reg₀.routerCount) (by simp)))))),
    by simp [s₂, s₁, Parallel.init, hpq], by simp [s₂, s₁, Parallel.init, hqp], ?_, ?_, ?_⟩
  · simp [ShmRegistry.claimRouterSlot, hi.nextRouterCode_eq]
  · simp [ShmRegistry.claimRouterSlot]
  · intro hinv
    have hact := (hinv.active_iff (reg₀.routerCount + 1)).mpr (by simp [ShmRegistry.claimRouterSlot])
    have hold := (hi.active_iff (reg₀.routerCount + 1)).not.mpr (by omega)
    simp [ShmRegistry.claimRouterSlot, Function.update_apply] at hact
    exact hold hact

/-- **The first parallel run on a fresh registry**: with eleven routers, the children of the first
two batches start with routers `0` and `10`. -/
theorem parReach_fresh_routers_share_slot_eleven :
    ∃ s, ParReach (Parallel.init cleared
        (forkBatches ((List.range 11).map fun i => 'r' :: decimal i))) s ∧
      (s.children 0).results = [("r0".toList, some 0)] ∧
      (s.children 1).results = [("r10".toList, some 0)] ∧
      s.reg.routers 0 = ⟨("r10".toList).take (maxNameLen - 1), routerCodeText 1, true⟩ ∧
      s.reg.routerCount = 2 ∧ ¬ RouterTableInv s.reg :=
  parReach_fresh_routers_share_slot routerTableInv_cleared (by decide) (by decide) rfl rfl
    (fun _ h => absurd h (Nat.not_lt_zero _)) (fun _ h => absurd h (Nat.not_lt_zero _))

end TracerouteSimulator.Registry
