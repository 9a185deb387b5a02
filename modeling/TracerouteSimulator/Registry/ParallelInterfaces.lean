import TracerouteSimulator.Registry.Parallel

/-! # The interface table under concurrent children

Once its router has a code, each child of `--parallel` calls `get_interface_code_shm` for the
interfaces of the router, on the same unlocked `MAP_SHARED` registry as in `Registry.Parallel`. A
call works in the block of 64 entries of the router slot its code names and in
`next_interface_codes` of that slot; its one access outside them is `interface_count++`. This module
models a call access by access, as `Registry.Parallel` does for `get_router_code_shm`. The router
code is the text the call is given; `setup_router_with_veth` passes the pointer
`get_router_code_shm` returned, which keeps its text for a router the table held at the fork
(`parReach_registered_code`).

* **`IfacePc`**, **`interfaceCodeStep`** — one call: the lookup loop that reads `active`,
  `router_code` and `interface_name` of each entry of the block, the free-entry loop, the writes of
  a claim with `next_interface_codes[router_idx]++` and `interface_count++` each a read and a later
  store, and the `strcpy` into `code_buf`.
* **`interfaceCodeStep_solo`** — a call that no other process interrupts computes
  `getInterfaceCodeShm`, and every such run that returns ends there.
* **`IfaceParStep`** — a child starts the call for its next interface, makes one access, or gets
  the result back; any process may also write the fields outside the interface table.
* **`ifaceParReach_own_blocks`** — when no router slot is named by the codes of two children, every
  interleaving gives each child the codes its calls would return run one after another alone from
  the registry at the fork, and leaves its blocks as that run leaves them. Only `interface_count`,
  whose `++` two children can interleave, is outside the statement;
  **`ifaceParReach_lost_count`** — two new interfaces in two blocks can raise it by one only. -/

namespace TracerouteSimulator.Registry

/-! ## (1) One call, access by access -/

/-- **What a returned call of `get_interface_code_shm` points to.** -/
inductive IfaceResult
  /-- `NULL`. -/
  | null
  /-- `reg->interfaces[base + i].interface_code`, the entry the lookup loop found. -/
  | found (i : Nat)
  /-- The static `code_buf`, with the text copied from the claimed entry. -/
  | fresh (code : List Char)
  deriving DecidableEq, Repr

/-- **Where a call of `get_interface_code_shm(reg, router_code, interface_name)` stands** before
its next access to the shared registry; `i` is the position in the block of the router slot. -/
inductive IfacePc
  /-- The test `i < MAX_INTERFACES_PER_ROUTER`, then the read of `interfaces[base + i].active`. -/
  | active (i : Nat)
  /-- The `strcmp` of `interfaces[base + i].router_code` with the router code. -/
  | code (i : Nat)
  /-- The `strcmp` of `interfaces[base + i].interface_name` with the interface name. -/
  | name (i : Nat)
  /-- The test and the read of `active` in the free-entry loop. -/
  | free (i : Nat)
  /-- The `strncpy` into `router_code`. -/
  | copyCode (i : Nat)
  /-- The `strncpy` into `interface_name`. -/
  | copyName (i : Nat)
  /-- The read of `next_interface_codes[router_idx]`. -/
  | readNext (i : Nat)
  /-- The store of `n + 1` into `next_interface_codes[router_idx]`, `n` the value read. -/
  | writeNext (i n : Nat)
  /-- The `snprintf` of `i%03d` with `n` into `interface_code`. -/
  | writeCode (i n : Nat)
  /-- `interfaces[base + i].active = 1`. -/
  | setActive (i : Nat)
  /-- The read of `interface_count`. -/
  | readCount (i : Nat)
  /-- The store of `c + 1` into `interface_count`, `c` the value read. -/
  | writeCount (i c : Nat)
  /-- The `strcpy` of `interface_code` into `code_buf`. -/
  | copyOut (i : Nat)
  /-- Returned. -/
  | done (result : IfaceResult)
  deriving DecidableEq, Repr

/-- A write into the fields of interface entry `k`. -/
def ShmRegistry.modifyInterface (reg : ShmRegistry) (k : Nat)
    (f : InterfaceEntry → InterfaceEntry) : ShmRegistry :=
  { reg with interfaces := Function.update reg.interfaces k (f (reg.interfaces k)) }

/-- **One access of `get_interface_code_shm(reg, code, name)`** in the block of router slot `r`,
the slot `routerIndexOfCode code` gave before the first access: the registry after it and where
the call stands next; `none` once the call has returned. -/
def interfaceCodeStep (code name : List Char) (r : Nat) (reg : ShmRegistry) :
    IfacePc → Option (ShmRegistry × IfacePc)
  | .active i => some (reg,
      if i < maxInterfacesPerRouter then
        (if (reg.interfaces (r * maxInterfacesPerRouter + i)).active then .code i else .active (i + 1))
      else .free 0)
  | .code i => some (reg,
      if (reg.interfaces (r * maxInterfacesPerRouter + i)).routerCode = code then .name i
      else .active (i + 1))
  | .name i => some (reg,
      if (reg.interfaces (r * maxInterfacesPerRouter + i)).interfaceName = name then .done (.found i)
      else .active (i + 1))
  | .free i => some (reg,
      if i < maxInterfacesPerRouter then
        (if (reg.interfaces (r * maxInterfacesPerRouter + i)).active then .free (i + 1)
         else .copyCode i)
      else .done .null)
  | .copyCode i => some (reg.modifyInterface (r * maxInterfacesPerRouter + i) fun e =>
      { e with routerCode := code.take (maxCodeLen - 1) }, .copyName i)
  | .copyName i => some (reg.modifyInterface (r * maxInterfacesPerRouter + i) fun e =>
      { e with interfaceName := name.take (maxNameLen - 1) }, .readNext i)
  | .readNext i => some (reg, .writeNext i (reg.nextInterfaceCodes r))
  | .writeNext i n => some ({ reg with
      nextInterfaceCodes := Function.update reg.nextInterfaceCodes r (n + 1) }, .writeCode i n)
  | .writeCode i n => some (reg.modifyInterface (r * maxInterfacesPerRouter + i) fun e =>
      { e with interfaceCode := interfaceCodeText n }, .setActive i)
  | .setActive i => some (reg.modifyInterface (r * maxInterfacesPerRouter + i) fun e =>
      { e with active := true }, .readCount i)
  | .readCount i => some (reg, .writeCount i reg.interfaceCount)
  | .writeCount i c => some ({ reg with interfaceCount := c + 1 }, .copyOut i)
  | .copyOut i =>
    some (reg, .done (.fresh (reg.interfaces (r * maxInterfacesPerRouter + i)).interfaceCode))
  | .done _ => none

/-- **The text a returned call hands back**, read through the pointer when the caller reads it. -/
def IfaceResult.text (r : Nat) (reg : ShmRegistry) : IfaceResult → Option (List Char)
  | .null => none
  | .found i => some (reg.interfaces (r * maxInterfacesPerRouter + i)).interfaceCode
  | .fresh code => some code

/-- **The position a call reads or writes next lies in the block**; the loop tests guard the
others. -/
def IfacePc.Bounded : IfacePc → Prop
  | .code i | .name i | .copyCode i | .copyName i | .readNext i | .writeNext i _ | .writeCode i _
  | .setActive i | .readCount i | .writeCount i _ | .copyOut i => i < maxInterfacesPerRouter
  | .done (.found i) => i < maxInterfacesPerRouter
  | _ => True

/-- Where a call stands, forgetting the value of `interface_count` it read: the one value a call
reads outside the block of its router. -/
def IfacePc.erase : IfacePc → IfacePc
  | .writeCount i _ => .writeCount i 0
  | pc => pc

/-! ## (2) What one access does -/

section Access

variable {code name : List Char} {r : Nat} {reg reg' : ShmRegistry} {pc pc' : IfacePc}

@[simp] theorem modifyInterface_interfaces (k : Nat) (f : InterfaceEntry → InterfaceEntry)
    (j : Nat) : (reg.modifyInterface k f).interfaces j =
      if j = k then f (reg.interfaces k) else reg.interfaces j := by
  simp [ShmRegistry.modifyInterface, Function.update_apply]

@[simp] theorem modifyInterface_nextInterfaceCodes (k : Nat) (f : InterfaceEntry → InterfaceEntry) :
    (reg.modifyInterface k f).nextInterfaceCodes = reg.nextInterfaceCodes := rfl

@[simp] theorem modifyInterface_interfaceCount (k : Nat) (f : InterfaceEntry → InterfaceEntry) :
    (reg.modifyInterface k f).interfaceCount = reg.interfaceCount := rfl

/-- **What an access writes**: nothing, one entry of the block, the code counter of the block, or
`interface_count`. -/
theorem interfaceCodeStep_reg (h : interfaceCodeStep code name r reg pc = some (reg', pc'))
    (hb : pc.Bounded) :
    reg' = reg ∨
    (∃ i f, i < maxInterfacesPerRouter ∧
      reg' = reg.modifyInterface (r * maxInterfacesPerRouter + i) f) ∨
    (∃ n, reg' = { reg with
      nextInterfaceCodes := Function.update reg.nextInterfaceCodes r (n + 1) }) ∨
    (∃ c, reg' = { reg with interfaceCount := c + 1 }) := by
  cases pc <;> simp only [interfaceCodeStep, Option.some.injEq, Prod.mk.injEq] at h <;>
    obtain ⟨rfl, -⟩ := h <;> simp only [IfacePc.Bounded] at hb <;>
    first | exact .inl rfl | exact .inr (.inl ⟨_, _, hb, rfl⟩) | exact .inr (.inr (.inl ⟨_, rfl⟩)) |
      exact .inr (.inr (.inr ⟨_, rfl⟩))

/-- **The position stays in the block**: the loop tests guard every position a call goes on to. -/
theorem interfaceCodeStep_bounded (h : interfaceCodeStep code name r reg pc = some (reg', pc'))
    (hb : pc.Bounded) : pc'.Bounded := by
  cases pc <;> simp only [interfaceCodeStep, Option.some.injEq, Prod.mk.injEq] at h <;>
    obtain ⟨-, rfl⟩ := h <;> simp only [IfacePc.Bounded] at hb <;> (try split_ifs) <;>
    simp_all [IfacePc.Bounded]

theorem IfacePc.bounded_erase (pc : IfacePc) : pc.erase.Bounded ↔ pc.Bounded := by
  cases pc <;> simp [IfacePc.erase, IfacePc.Bounded]

/-- Two positions that are the same but for the value of `interface_count` read. -/
theorem IfacePc.erase_eq_erase {pcs : IfacePc} (h : pcs.erase = pc.erase) :
    pcs = pc ∨ ∃ i c c', pc = .writeCount i c ∧ pcs = .writeCount i c' := by
  by_cases hw : ∃ i c, pc = .writeCount i c
  · obtain ⟨i, c, rfl⟩ := hw
    cases pcs <;> simp_all [IfacePc.erase]
  · have hp : pc.erase = pc := by cases pc <;> simp_all [IfacePc.erase]
    cases pcs <;> simp_all [IfacePc.erase]
    exact (hw _ _ h.symm).elim

end Access

/-! ## (3) The block a call works in

`BlockAgree r` is what a call in the block of router slot `r` sees of the registry, besides
`interface_count`: its steps act the same on two registries that agree there
(`interfaceCodeStep_agree`), and they leave every other block alone
(`interfaceCodeStep_blockAgree_of_ne`). -/

/-- **Two registries agree on the block of router slot `r`**: its entries and its code counter. -/
def BlockAgree (r : Nat) (reg₁ reg₂ : ShmRegistry) : Prop :=
  (∀ i < maxInterfacesPerRouter, reg₁.interfaces (r * maxInterfacesPerRouter + i) =
    reg₂.interfaces (r * maxInterfacesPerRouter + i)) ∧
  reg₁.nextInterfaceCodes r = reg₂.nextInterfaceCodes r

section Agree

variable {code name : List Char} {r : Nat} {reg reg' sh : ShmRegistry} {pc pc' : IfacePc}

theorem BlockAgree.rfl : BlockAgree r reg reg := ⟨fun _ _ => Eq.refl _, Eq.refl _⟩

theorem BlockAgree.symm (h : BlockAgree r reg sh) : BlockAgree r sh reg :=
  ⟨fun i hi => (h.1 i hi).symm, h.2.symm⟩

theorem BlockAgree.trans {reg₃ : ShmRegistry} (h₁ : BlockAgree r reg sh) (h₂ : BlockAgree r sh reg₃) :
    BlockAgree r reg reg₃ :=
  ⟨fun i hi => (h₁.1 i hi).trans (h₂.1 i hi), h₁.2.trans h₂.2⟩

theorem BlockAgree.of_frame (h₁ : reg'.interfaces = reg.interfaces)
    (h₂ : reg'.nextInterfaceCodes = reg.nextInterfaceCodes) : BlockAgree r reg' reg :=
  ⟨fun i _ => by rw [h₁], by rw [h₂]⟩

theorem BlockAgree.modify (hag : BlockAgree r reg sh) {i : Nat} (hi : i < maxInterfacesPerRouter)
    (f : InterfaceEntry → InterfaceEntry) :
    BlockAgree r (reg.modifyInterface (r * maxInterfacesPerRouter + i) f)
      (sh.modifyInterface (r * maxInterfacesPerRouter + i) f) :=
  ⟨fun j hj => by simp only [modifyInterface_interfaces, hag.1 i hi, hag.1 j hj], hag.2⟩

/-- The text a result hands back is read in the block. -/
theorem IfaceResult.text_agree (hag : BlockAgree r reg sh) {res : IfaceResult}
    (hb : (IfacePc.done res).Bounded) : res.text r reg = res.text r sh := by
  cases res <;> simp only [IfaceResult.text, IfacePc.Bounded] at hb ⊢
  rw [hag.1 _ hb]

/-- **An access leaves the other blocks alone.** -/
theorem interfaceCodeStep_blockAgree_of_ne
    (h : interfaceCodeStep code name r reg pc = some (reg', pc')) (hb : pc.Bounded) {r' : Nat}
    (hr : r' ≠ r) : BlockAgree r' reg' reg := by
  rcases interfaceCodeStep_reg h hb with rfl | ⟨i, f, hi, rfl⟩ | ⟨n, rfl⟩ | ⟨c, rfl⟩
  · exact .rfl
  · refine ⟨fun j hj => ?_, rfl⟩
    simp only [modifyInterface_interfaces, ite_eq_right_iff]
    exact fun he => absurd (block_index_eq hi hj he).1 hr
  · exact ⟨fun _ _ => rfl, Function.update_noteq hr _ _⟩
  · exact .rfl

/-- **An access sees only its block**: on a registry that agrees with `reg` on block `r`, the same
access goes to the same position, but for the value of `interface_count` it reads, and the two
registries still agree there. -/
theorem interfaceCodeStep_agree {pcs : IfacePc} (hag : BlockAgree r reg sh)
    (he : pcs.erase = pc.erase) (hb : pc.Bounded)
    (h : interfaceCodeStep code name r reg pc = some (reg', pc')) :
    ∃ sh' pcs', interfaceCodeStep code name r sh pcs = some (sh', pcs') ∧ pcs'.erase = pc'.erase ∧
      BlockAgree r reg' sh' := by
  rcases IfacePc.erase_eq_erase he with rfl | ⟨i, c, c', rfl, rfl⟩
  · cases pcs <;> simp only [interfaceCodeStep, Option.some.injEq, Prod.mk.injEq] at h <;>
      obtain ⟨rfl, rfl⟩ := h <;> simp only [IfacePc.Bounded] at hb <;> refine ⟨_, _, rfl, ?_, ?_⟩ <;>
      first
        | exact hag | exact hag.modify hb _
        | exact ⟨hag.1, by simp⟩
        | rfl | simp only [hag.1 _ hb] | rw [hag.2]
        | (split_ifs <;> simp_all [hag.1])
  · simp only [interfaceCodeStep, Option.some.injEq, Prod.mk.injEq] at h
    obtain ⟨rfl, rfl⟩ := h
    exact ⟨_, _, rfl, rfl, hag⟩

end Agree

/-! ## (4) A call that nothing interrupts -/

/-- **A loop over a block, read from the start of the table**, is the loop over the positions of
the block. -/
theorem scanFrom_add (p : Nat → Bool) (base : Nat) :
    ∀ (n i : Nat), scanFrom p (base + i) n = (scanFrom (fun j => p (base + j)) i n).map (base + ·)
  | 0, _ => rfl
  | n + 1, i => by
    by_cases hp : p (base + i) <;>
      simp [scanFrom, hp, ← scanFrom_add p base n (i + 1), Nat.add_assoc]

section Solo

variable (code name : List Char) (r : Nat)

/-- One access of the call. -/
def IfaceSoloStep (s s' : ShmRegistry × IfacePc) : Prop :=
  interfaceCodeStep code name r s.1 s.2 = some s'

/-- **The accesses of a call that no other process interrupts.** -/
def IfaceSoloReach : ShmRegistry × IfacePc → ShmRegistry × IfacePc → Prop :=
  Relation.ReflTransGen (IfaceSoloStep code name r)

theorem ifaceSoloReach_single {s s' : ShmRegistry × IfacePc}
    (h : interfaceCodeStep code name r s.1 s.2 = some s') : IfaceSoloReach code name r s s' :=
  Relation.ReflTransGen.single h

/-- **The lookup loop**, from position `i` of the block on: it returns the first active entry
with the router code and the name, or goes on to the free-entry loop. -/
theorem ifaceSoloReach_lookup (reg : ShmRegistry) :
    ∀ (n i : Nat), i + n = maxInterfacesPerRouter →
      IfaceSoloReach code name r (reg, .active i)
        (reg, (scanFrom (fun j => (reg.interfaces (r * maxInterfacesPerRouter + j)).active &&
          (reg.interfaces (r * maxInterfacesPerRouter + j)).routerCode == code &&
          (reg.interfaces (r * maxInterfacesPerRouter + j)).interfaceName == name) i n).elim
          (.free 0) fun j => .done (.found j))
  | 0, i, h => ifaceSoloReach_single code name r (by
      have hi : ¬ i < maxInterfacesPerRouter := by omega
      simp [interfaceCodeStep, hi, scanFrom])
  | n + 1, i, h => by
    have hi : i < maxInterfacesPerRouter := by omega
    have ih := ifaceSoloReach_lookup reg n (i + 1) (by omega)
    cases ha : (reg.interfaces (r * maxInterfacesPerRouter + i)).active
    · refine .head (b := (reg, .active (i + 1)))
        (by simp [IfaceSoloStep, interfaceCodeStep, hi, ha]) ?_
      simpa [scanFrom, ha] using ih
    · refine .head (b := (reg, .code i)) (by simp [IfaceSoloStep, interfaceCodeStep, hi, ha]) ?_
      by_cases hc : (reg.interfaces (r * maxInterfacesPerRouter + i)).routerCode = code
      · refine .head (b := (reg, .name i)) (by simp [IfaceSoloStep, interfaceCodeStep, hc]) ?_
        by_cases hn : (reg.interfaces (r * maxInterfacesPerRouter + i)).interfaceName = name
        · exact ifaceSoloReach_single code name r (by simp [interfaceCodeStep, hn, scanFrom, ha, hc])
        · refine .head (b := (reg, .active (i + 1)))
            (by simp [IfaceSoloStep, interfaceCodeStep, hn]) ?_
          simpa [scanFrom, ha, hc, hn] using ih
      · refine .head (b := (reg, .active (i + 1)))
          (by simp [IfaceSoloStep, interfaceCodeStep, hc]) ?_
        simpa [scanFrom, ha, hc] using ih

/-- **The free-entry loop**, from position `i` of the block on: it chooses the first inactive
entry, or returns `NULL`. -/
theorem ifaceSoloReach_free (reg : ShmRegistry) :
    ∀ (n i : Nat), i + n = maxInterfacesPerRouter →
      IfaceSoloReach code name r (reg, .free i)
        (reg, (scanFrom (fun j => !(reg.interfaces (r * maxInterfacesPerRouter + j)).active) i n).elim
          (.done .null) .copyCode)
  | 0, i, h => ifaceSoloReach_single code name r (by
      have hi : ¬ i < maxInterfacesPerRouter := by omega
      simp [interfaceCodeStep, hi, scanFrom])
  | n + 1, i, h => by
    have hi : i < maxInterfacesPerRouter := by omega
    cases ha : (reg.interfaces (r * maxInterfacesPerRouter + i)).active
    · exact ifaceSoloReach_single code name r (by simp [interfaceCodeStep, hi, ha, scanFrom])
    · refine .head (b := (reg, .free (i + 1)))
        (by simp [IfaceSoloStep, interfaceCodeStep, hi, ha]) ?_
      simpa [scanFrom, ha] using ifaceSoloReach_free reg n (i + 1) (by omega)

/-- **The writes of a claim up to the store of `interface_count`**: the entry and the code counter
are written, and the call holds the count it read. -/
theorem ifaceSoloReach_claim_count (reg : ShmRegistry) (i : Nat) :
    IfaceSoloReach code name r (reg, .copyCode i)
      ({ reg.claimInterfaceSlot r (r * maxInterfacesPerRouter + i) code name with
          interfaceCount := reg.interfaceCount }, .writeCount i reg.interfaceCount) := by
  refine .head rfl (.head rfl (.head rfl (.head rfl (.head rfl (.head rfl
    (ifaceSoloReach_single code name r ?_))))))
  simp only [interfaceCodeStep, ShmRegistry.modifyInterface, ShmRegistry.claimInterfaceSlot,
    Function.update_idem, Function.update_same]

/-- **The store of `interface_count` and the copy into `code_buf`.** -/
theorem ifaceSoloReach_store (reg : ShmRegistry) (i c : Nat) :
    IfaceSoloReach code name r (reg, .writeCount i c) ({ reg with interfaceCount := c + 1 },
      .done (.fresh (reg.interfaces (r * maxInterfacesPerRouter + i)).interfaceCode)) :=
  .head rfl (ifaceSoloReach_single code name r rfl)

/-- **The writes of a claim**, run in a row, are `claimInterfaceSlot`, and the call returns the
code it wrote. -/
theorem ifaceSoloReach_claim (reg : ShmRegistry) (i : Nat) :
    IfaceSoloReach code name r (reg, .copyCode i)
      (reg.claimInterfaceSlot r (r * maxInterfacesPerRouter + i) code name,
        .done (.fresh (interfaceCodeText (reg.nextInterfaceCodes r)))) := by
  have h := (ifaceSoloReach_claim_count code name r reg i).trans
    (ifaceSoloReach_store code name r _ i reg.interfaceCount)
  simpa [ShmRegistry.claimInterfaceSlot] using h

/-- **An uninterrupted call is `getInterfaceCodeShm`**: it returns, with the registry
`getInterfaceCodeShm` leaves and a result whose text is the code `getInterfaceCodeShm` returns. -/
theorem ifaceSoloReach_getInterfaceCodeShm (reg : ShmRegistry)
    (hr : routerIndexOfCode code = some r) :
    ∃ res, IfaceSoloReach code name r (reg, .active 0)
        ((getInterfaceCodeShm reg code name).1, .done res) ∧
      (getInterfaceCodeShm reg code name).2 = res.text r (getInterfaceCodeShm reg code name).1 := by
  have hl := ifaceSoloReach_lookup code name r reg _ 0 (Nat.zero_add _)
  have hfind := scanFrom_add (fun k => (reg.interfaces k).active &&
    (reg.interfaces k).routerCode == code && (reg.interfaces k).interfaceName == name)
    (r * maxInterfacesPerRouter) maxInterfacesPerRouter 0
  rcases hf : scanFrom (fun j => (reg.interfaces (r * maxInterfacesPerRouter + j)).active &&
      (reg.interfaces (r * maxInterfacesPerRouter + j)).routerCode == code &&
      (reg.interfaces (r * maxInterfacesPerRouter + j)).interfaceName == name) 0
      maxInterfacesPerRouter with _ | j <;> rw [hf] at hl hfind
  · -- not found: the free-entry loop
    have hfr := ifaceSoloReach_free code name r reg _ 0 (Nat.zero_add _)
    have hfree := scanFrom_add (fun k => !(reg.interfaces k).active)
      (r * maxInterfacesPerRouter) maxInterfacesPerRouter 0
    rcases hs : scanFrom (fun j => !(reg.interfaces (r * maxInterfacesPerRouter + j)).active) 0
      maxInterfacesPerRouter with _ | k <;> rw [hs] at hfr hfree
    · have hg : getInterfaceCodeShm reg code name = (reg, none) := by
        simp only [Nat.add_zero, Option.map_none'] at hfind hfree
        simp [getInterfaceCodeShm, hr, findInterfaceSlot, freeInterfaceSlot, hfind, hfree]
      rw [hg]
      exact ⟨.null, hl.trans hfr, rfl⟩
    · have hg : getInterfaceCodeShm reg code name =
          (reg.claimInterfaceSlot r (r * maxInterfacesPerRouter + k) code name,
            some (interfaceCodeText (reg.nextInterfaceCodes r))) := by
        simp_all [getInterfaceCodeShm, findInterfaceSlot, freeInterfaceSlot]
      rw [hg]
      exact ⟨_, hl.trans (hfr.trans (ifaceSoloReach_claim code name r reg k)), rfl⟩
  · have hg : getInterfaceCodeShm reg code name =
        (reg, some (reg.interfaces (r * maxInterfacesPerRouter + j)).interfaceCode) := by
      simp_all [getInterfaceCodeShm, findInterfaceSlot]
    rw [hg]
    exact ⟨.found j, hl, rfl⟩

/-- **A call runs one way**: two uninterrupted runs from one state to a return end alike. -/
theorem ifaceSoloReach_done_unique {s : ShmRegistry × IfacePc} {t₁ t₂ : ShmRegistry}
    {res₁ res₂ : IfaceResult} (h₁ : IfaceSoloReach code name r s (t₁, .done res₁))
    (h₂ : IfaceSoloReach code name r s (t₂, .done res₂)) : t₁ = t₂ ∧ res₁ = res₂ := by
  induction h₁ using Relation.ReflTransGen.head_induction_on with
  | refl =>
    rcases h₂.cases_head with h | ⟨_, hc, -⟩
    · simp_all
    · simp [IfaceSoloStep, interfaceCodeStep] at hc
  | head hab _ ih =>
    rcases h₂.cases_head with rfl | ⟨c, hc, hc'⟩
    · simp [IfaceSoloStep, interfaceCodeStep] at hab
    · rw [IfaceSoloStep, hab, Option.some.injEq] at hc
      exact ih (hc ▸ hc')

/-- **An uninterrupted call computes `getInterfaceCodeShm`, and nothing else**: it returns, with
the registry `getInterfaceCodeShm` leaves and a result whose text is the code
`getInterfaceCodeShm` returns; and every uninterrupted run of the call that returns ends in that
registry, with a result of that text. -/
theorem interfaceCodeStep_solo (reg : ShmRegistry) (hr : routerIndexOfCode code = some r) :
    (∃ res, IfaceSoloReach code name r (reg, .active 0)
        ((getInterfaceCodeShm reg code name).1, .done res) ∧
      (getInterfaceCodeShm reg code name).2 = res.text r (getInterfaceCodeShm reg code name).1) ∧
    ∀ reg' res, IfaceSoloReach code name r (reg, .active 0) (reg', .done res) →
      reg' = (getInterfaceCodeShm reg code name).1 ∧
        (getInterfaceCodeShm reg code name).2 = res.text r reg' := by
  obtain ⟨res₀, h₀, htext⟩ := ifaceSoloReach_getInterfaceCodeShm code name r reg hr
  refine ⟨⟨res₀, h₀, htext⟩, fun reg' res h => ?_⟩
  obtain ⟨rfl, rfl⟩ := ifaceSoloReach_done_unique code name r h h₀
  exact ⟨rfl, htext⟩

/-- The first interface of router `r000` on the cleared registry. -/
theorem interfaceCodeStep_solo_first :
    (∃ res, IfaceSoloReach (routerCodeText 0) "eth0".toList 0 (cleared, .active 0)
        ((getInterfaceCodeShm cleared (routerCodeText 0) "eth0".toList).1, .done res) ∧
      (getInterfaceCodeShm cleared (routerCodeText 0) "eth0".toList).2 =
        res.text 0 (getInterfaceCodeShm cleared (routerCodeText 0) "eth0".toList).1) ∧
    ∀ reg' res, IfaceSoloReach (routerCodeText 0) "eth0".toList 0 (cleared, .active 0)
        (reg', .done res) →
      reg' = (getInterfaceCodeShm cleared (routerCodeText 0) "eth0".toList).1 ∧
        (getInterfaceCodeShm cleared (routerCodeText 0) "eth0".toList).2 = res.text 0 reg' :=
  interfaceCodeStep_solo _ _ _ cleared (routerIndexOfCode_routerCodeText (by decide))

end Solo

/-! ## (5) The children -/

/-- **A child of `--parallel` at its interfaces.** -/
structure IfaceChild where
  /-- The calls it has not started, in order: a router code and an interface name each. -/
  pending : List (List Char × List Char)
  /-- The call in progress: the router code, the name, the router slot of the code and where it
  stands. -/
  call : Option (List Char × List Char × Nat × IfacePc)
  /-- The text each returned call handed back, in order. -/
  results : List (Option (List Char))

/-- **The shared registry and the children.** -/
structure IfacePar where
  /-- The mapping every child shares. -/
  reg : ShmRegistry
  /-- Child `p`. -/
  children : Nat → IfaceChild

/-- **The fork**: child `p` has the calls of `calls p` before it. -/
def IfacePar.init (reg : ShmRegistry) (calls : Nat → List (List Char × List Char)) : IfacePar :=
  ⟨reg, fun p => ⟨calls p, none, []⟩⟩

/-- The registry set to `reg` and child `p` replaced by `c`. -/
def IfacePar.update (s : IfacePar) (reg : ShmRegistry) (p : Nat) (c : IfaceChild) : IfacePar :=
  ⟨reg, Function.update s.children p c⟩

/-- **A write that leaves the interface entries and the code counters alone.** Every access of
`get_router_code_shm`, `register_bridge_shm` and `find_bridge_by_subnet` is one; so is a store to
`interface_count`. -/
def InterfaceFrame (reg reg' : ShmRegistry) : Prop :=
  reg'.interfaces = reg.interfaces ∧ reg'.nextInterfaceCodes = reg.nextInterfaceCodes

/-- **One step of the parallel mode at the interfaces.** -/
inductive IfaceParStep : IfacePar → IfacePar → Prop
  /-- Child `p` calls `get_interface_code_shm` for its next interface; `atoi` of the code names
  router slot `r`. -/
  | start {s : IfacePar} {p : Nat} {code name : List Char} {rest : List (List Char × List Char)}
      {r : Nat} (hp : (s.children p).pending = (code, name) :: rest)
      (hc : (s.children p).call = none) (hr : routerIndexOfCode code = some r) :
      IfaceParStep s (s.update s.reg p ⟨rest, some (code, name, r, .active 0), (s.children p).results⟩)
  /-- A code that names no router slot: the call returns `NULL` before any access. -/
  | reject {s : IfacePar} {p : Nat} {code name : List Char} {rest : List (List Char × List Char)}
      (hp : (s.children p).pending = (code, name) :: rest)
      (hc : (s.children p).call = none) (hr : routerIndexOfCode code = none) :
      IfaceParStep s (s.update s.reg p ⟨rest, none, (s.children p).results ++ [none]⟩)
  /-- Child `p` makes one access. -/
  | access {s : IfacePar} {p : Nat} {code name : List Char} {r : Nat} {pc pc' : IfacePc}
      {reg' : ShmRegistry} (hc : (s.children p).call = some (code, name, r, pc))
      (h : interfaceCodeStep code name r s.reg pc = some (reg', pc')) :
      IfaceParStep s (s.update reg' p { s.children p with call := some (code, name, r, pc') })
  /-- The call of child `p` returns, and the child reads the code it points to. -/
  | finish {s : IfacePar} {p : Nat} {code name : List Char} {r : Nat} {res : IfaceResult}
      (hc : (s.children p).call = some (code, name, r, .done res)) :
      IfaceParStep s (s.update s.reg p
        { s.children p with call := none, results := (s.children p).results ++ [res.text r s.reg] })
  /-- Some process writes outside the interface entries and the code counters. -/
  | other {s : IfacePar} {reg' : ShmRegistry} (h : InterfaceFrame s.reg reg') :
      IfaceParStep s ⟨reg', s.children⟩

/-- **The runs of the parallel mode at the interfaces.** -/
def IfaceParReach (s s' : IfacePar) : Prop := Relation.ReflTransGen IfaceParStep s s'

@[simp] theorem IfacePar.update_reg (s : IfacePar) (reg : ShmRegistry) (p : Nat) (c : IfaceChild) :
    (s.update reg p c).reg = reg := rfl

/-- A clause on every child holds after a step that replaced child `p`, if it holds of the new
child and of every other one. -/
theorem IfacePar.forall_update {P : Nat → IfaceChild → Prop} {s : IfacePar} {reg : ShmRegistry}
    {p : Nat} {c : IfaceChild} (hc : P p c) (hs : ∀ q, q ≠ p → P q (s.children q)) :
    ∀ q, P q ((s.update reg p c).children q) := by
  intro q
  by_cases hq : q = p
  · subst hq; simpa [IfacePar.update] using hc
  · simpa [IfacePar.update, Function.update_noteq hq] using hs q hq

@[simp] theorem IfacePar.update_children (s : IfacePar) (reg : ShmRegistry) (p : Nat)
    (c : IfaceChild) (q : Nat) :
    (s.update reg p c).children q = if q = p then c else s.children q := by
  simp [IfacePar.update, Function.update_apply]

@[simp] theorem IfacePar.update_update (s : IfacePar) (reg reg' : ShmRegistry) (p : Nat)
    (c c' : IfaceChild) : (s.update reg p c).update reg' p c' = s.update reg' p c' := by
  simp [IfacePar.update, Function.update_idem]

theorem IfacePar.update_self (s : IfacePar) (p : Nat) : s.update s.reg p (s.children p) = s := by
  simp [IfacePar.update]

/-- **A call that runs uninterrupted inside the parallel mode.** -/
theorem ifaceParReach_solo {s : IfacePar} {p : Nat} {code name : List Char} {r : Nat}
    {pc : IfacePc} (hc : (s.children p).call = some (code, name, r, pc))
    {b : ShmRegistry × IfacePc} (h : IfaceSoloReach code name r (s.reg, pc) b) :
    IfaceParReach s (s.update b.1 p { s.children p with call := some (code, name, r, b.2) }) := by
  induction h with
  | refl =>
    rw [← hc, IfacePar.update_self]
    exact .refl
  | @tail b c _ hbc ih =>
    refine ih.tail ?_
    simpa using @IfaceParStep.access
      (s.update b.1 p { s.children p with call := some (code, name, r, b.2) }) p code name r b.2
      c.2 c.1 (by simp) hbc

/-- **Child `p` calls `get_interface_code_shm` for its next interface**, which runs uninterrupted. -/
theorem ifaceParReach_call {s : IfacePar} {p : Nat} {code name : List Char}
    {rest : List (List Char × List Char)} {r : Nat}
    (hp : (s.children p).pending = (code, name) :: rest) (hc : (s.children p).call = none)
    (hr : routerIndexOfCode code = some r) {b : ShmRegistry × IfacePc}
    (h : IfaceSoloReach code name r (s.reg, .active 0) b) :
    IfaceParReach s (s.update b.1 p ⟨rest, some (code, name, r, b.2), (s.children p).results⟩) := by
  have h₁ : IfaceParReach s _ := Relation.ReflTransGen.single (IfaceParStep.start hp hc hr)
  simpa using h₁.trans (ifaceParReach_solo (p := p) (by simp) h)

/-- **A call that runs uninterrupted to its return**, and the child reads the result. -/
theorem ifaceParReach_solo_finish {s : IfacePar} {p : Nat} {code name : List Char} {r : Nat}
    {pc : IfacePc} (hc : (s.children p).call = some (code, name, r, pc)) {reg' : ShmRegistry}
    {res : IfaceResult} (h : IfaceSoloReach code name r (s.reg, pc) (reg', .done res)) :
    IfaceParReach s (s.update reg' p
      { s.children p with call := none, results := (s.children p).results ++ [res.text r reg'] }) := by
  simpa using (ifaceParReach_solo hc h).tail (@IfaceParStep.finish
    (s.update reg' p { s.children p with call := some (code, name, r, .done res) }) p code name r
    res (by simp))

/-- **A name its block does not hold**, in a table of the invariant with room in the block: the
call reads without writing and chooses position `next_interface_codes[r]`. -/
theorem ifaceSoloReach_fresh {reg : ShmRegistry} (hi : InterfaceTableInv reg) (code : List Char)
    {name : List Char} {r : Nat}
    (hfresh : ∀ j < reg.nextInterfaceCodes r,
      (reg.interfaces (r * maxInterfacesPerRouter + j)).interfaceName ≠ name)
    (hc : reg.nextInterfaceCodes r < maxInterfacesPerRouter) :
    IfaceSoloReach code name r (reg, .active 0) (reg, .copyCode (reg.nextInterfaceCodes r)) := by
  have hl := ifaceSoloReach_lookup code name r reg _ 0 (Nat.zero_add _)
  have hfr := ifaceSoloReach_free code name r reg _ 0 (Nat.zero_add _)
  have hnone : scanFrom (fun j => (reg.interfaces (r * maxInterfacesPerRouter + j)).active &&
      (reg.interfaces (r * maxInterfacesPerRouter + j)).routerCode == code &&
      (reg.interfaces (r * maxInterfacesPerRouter + j)).interfaceName == name) 0
      maxInterfacesPerRouter = none := by
    refine scanFrom_eq_none_iff.mpr fun j _ hj => ?_
    cases ha : (reg.interfaces (r * maxInterfacesPerRouter + j)).active
    · rfl
    · simp [hfresh j ((hi.active_iff r j hj).mp ha)]
  have hsome : scanFrom (fun j => !(reg.interfaces (r * maxInterfacesPerRouter + j)).active) 0
      maxInterfacesPerRouter = some (reg.nextInterfaceCodes r) := by
    refine scanFrom_eq_some_iff.mpr ⟨Nat.zero_le _, hc, ?_, fun j _ hj => ?_⟩
    · simpa using (hi.active_iff r _ hc).not.mpr (Nat.lt_irrefl _)
    · simpa using (hi.active_iff r j (by omega)).mpr hj
  rw [hnone] at hl
  rw [hsome] at hfr
  exact hl.trans hfr

/-- **A call beside a claim.** From a table of the invariant, child `p` reads the block of router
slot `r₁` for its new first interface `n₁` and chooses entry `next_interface_codes[r₁]`; child `q`
then runs its first call to the end and reads the result; last, child `p` makes its claim and reads
its code. -/
theorem ifaceParReach_call_beside_claim {reg₀ : ShmRegistry} (hi : InterfaceTableInv reg₀)
    {calls : Nat → List (List Char × List Char)} {p q : Nat} (hpq : p ≠ q) {r₁ r₂ : Nat}
    {code₂ n₁ n₂ : List Char} {rest₁ rest₂ : List (List Char × List Char)}
    (hr₁ : r₁ < maxRouters) (hr₂ : routerIndexOfCode code₂ = some r₂)
    (hp : calls p = (routerCodeText r₁, n₁) :: rest₁) (hq : calls q = (code₂, n₂) :: rest₂)
    (hf₁ : ∀ j < reg₀.nextInterfaceCodes r₁,
      (reg₀.interfaces (r₁ * maxInterfacesPerRouter + j)).interfaceName ≠ n₁)
    (hc₁ : reg₀.nextInterfaceCodes r₁ < maxInterfacesPerRouter) :
    ∃ s, IfaceParReach (IfacePar.init reg₀ calls) s ∧ (s.children p).results.length = 1 ∧
      (s.children q).results.length = 1 := by
  have hqp : q ≠ p := Ne.symm hpq
  let s₁ := (IfacePar.init reg₀ calls).update reg₀ p
    ⟨rest₁, some (routerCodeText r₁, n₁, r₁, .copyCode (reg₀.nextInterfaceCodes r₁)), []⟩
  have e₁ : IfaceParReach (IfacePar.init reg₀ calls) s₁ :=
    ifaceParReach_call (p := p) (by simp [IfacePar.init, hp]) rfl
      (routerIndexOfCode_routerCodeText hr₁) (ifaceSoloReach_fresh hi _ hf₁ hc₁)
  obtain ⟨res, hres, -⟩ := ifaceSoloReach_getInterfaceCodeShm code₂ n₂ r₂ reg₀ hr₂
  have e₂ := @ifaceParReach_call s₁ q code₂ n₂ rest₂ r₂ (by simp [s₁, IfacePar.init, hq, hqp])
    (by simp [s₁, IfacePar.init, hqp]) hr₂ _ hres
  refine ⟨_, e₁.trans (e₂.trans ((Relation.ReflTransGen.single
    (@IfaceParStep.finish _ q code₂ n₂ r₂ res (by simp))).trans
    (ifaceParReach_solo_finish (p := p) (by simp [s₁, hpq])
      (ifaceSoloReach_claim (routerCodeText r₁) n₁ r₁ _ (reg₀.nextInterfaceCodes r₁))))), ?_, ?_⟩ <;>
    simp [s₁, IfacePar.init, hpq, hqp]

/-! ## (6) Each child sees its calls run alone -/

/-- **A child's calls made one after another by one process**, from `reg`: the registry they
leave and the text each call returns. -/
def seqInterfaceCodes (reg : ShmRegistry) (calls : List (List Char × List Char)) :
    ShmRegistry × List (Option (List Char)) :=
  calls.foldl (fun acc call => ((getInterfaceCodeShm acc.1 call.1 call.2).1,
    acc.2 ++ [(getInterfaceCodeShm acc.1 call.1 call.2).2])) (reg, [])

theorem seqInterfaceCodes_concat (reg : ShmRegistry) (calls : List (List Char × List Char))
    (code name : List Char) :
    seqInterfaceCodes reg (calls ++ [(code, name)]) =
      ((getInterfaceCodeShm (seqInterfaceCodes reg calls).1 code name).1,
        (seqInterfaceCodes reg calls).2 ++
          [(getInterfaceCodeShm (seqInterfaceCodes reg calls).1 code name).2]) := by
  simp [seqInterfaceCodes, List.foldl_append]

/-- **The router slots a list of calls works in.** -/
def OwnBlock (calls : List (List Char × List Char)) (r : Nat) : Prop :=
  ∃ call ∈ calls, routerIndexOfCode call.1 = some r

/-- **Child `c` is where its calls, run alone from `reg₀`, would be**: its results are theirs;
between two calls its blocks are as they left them; a call in progress is on a solo run from
there, but for the `interface_count` it read, and that run agrees with the shared registry on every
block of the child. -/
structure IfaceChildSim (reg₀ : ShmRegistry) (calls : List (List Char × List Char))
    (reg : ShmRegistry) (c : IfaceChild) : Prop where
  /-- The results are those of the first calls run alone. -/
  results : c.results = (seqInterfaceCodes reg₀ (calls.take c.results.length)).2
  /-- Between two calls. -/
  idle : c.call = none → c.pending = calls.drop c.results.length ∧
    ∀ r, OwnBlock calls r →
      BlockAgree r reg (seqInterfaceCodes reg₀ (calls.take c.results.length)).1
  /-- In a call. -/
  busy : ∀ code name r pc, c.call = some (code, name, r, pc) →
    c.pending = calls.drop (c.results.length + 1) ∧
    calls[c.results.length]? = some (code, name) ∧ routerIndexOfCode code = some r ∧ pc.Bounded ∧
    ∃ sh pcs, IfaceSoloReach code name r
        ((seqInterfaceCodes reg₀ (calls.take c.results.length)).1, .active 0) (sh, pcs) ∧
      pcs.erase = pc.erase ∧ ∀ r', OwnBlock calls r' → BlockAgree r' reg sh

section Sim

variable {reg₀ reg reg' : ShmRegistry} {calls : List (List Char × List Char)} {c : IfaceChild}

theorem drop_eq_cons {α : Type} {l rest : List α} {n : Nat} {a : α}
    (h : l.drop n = a :: rest) : l[n]? = some a ∧ l.drop (n + 1) = rest :=
  ⟨by rw [← List.head?_drop, h]; rfl, by rw [← List.tail_drop, h]; rfl⟩

/-- **Writes that keep the child's blocks keep its clauses.** -/
theorem IfaceChildSim.of_agree (hc : IfaceChildSim reg₀ calls reg c)
    (hf : ∀ r, OwnBlock calls r → BlockAgree r reg' reg) : IfaceChildSim reg₀ calls reg' c where
  results := hc.results
  idle h := ⟨(hc.idle h).1, fun r hr => (hf r hr).trans ((hc.idle h).2 r hr)⟩
  busy code name r pc h := by
    obtain ⟨h₁, h₂, h₃, h₄, sh, pcs, h₅, h₆, h₇⟩ := hc.busy code name r pc h
    exact ⟨h₁, h₂, h₃, h₄, sh, pcs, h₅, h₆, fun r' hr' => (hf r' hr').trans (h₇ r' hr')⟩

/-- The child starts its next call. -/
theorem IfaceChildSim.start (hc : IfaceChildSim reg₀ calls reg c) {code name : List Char}
    {rest : List (List Char × List Char)} {r : Nat} (hp : c.pending = (code, name) :: rest)
    (hcall : c.call = none) (hr : routerIndexOfCode code = some r) :
    IfaceChildSim reg₀ calls reg ⟨rest, some (code, name, r, .active 0), c.results⟩ := by
  obtain ⟨hd, hb⟩ := hc.idle hcall
  obtain ⟨hget, hrest⟩ := drop_eq_cons (hd ▸ hp)
  refine ⟨hc.results, by simp, ?_⟩
  rintro _ _ _ _ ⟨⟩
  exact ⟨hrest.symm, hget, hr, trivial, _, _, .refl, rfl, hb⟩

/-- The child's next code names no router slot. -/
theorem IfaceChildSim.reject (hc : IfaceChildSim reg₀ calls reg c) {code name : List Char}
    {rest : List (List Char × List Char)} (hp : c.pending = (code, name) :: rest)
    (hcall : c.call = none) (hr : routerIndexOfCode code = none) :
    IfaceChildSim reg₀ calls reg ⟨rest, none, c.results ++ [none]⟩ := by
  obtain ⟨hd, hb⟩ := hc.idle hcall
  obtain ⟨hget, hrest⟩ := drop_eq_cons (hd ▸ hp)
  have hseq : seqInterfaceCodes reg₀ (calls.take (c.results.length + 1)) =
      ((seqInterfaceCodes reg₀ (calls.take c.results.length)).1, c.results ++ [none]) := by
    rw [List.take_succ, hget, Option.toList_some, seqInterfaceCodes_concat, ← hc.results]
    simp [getInterfaceCodeShm, hr]
  refine ⟨?_, ?_, by simp⟩ <;> simp only [List.length_append, List.length_singleton, hseq]
  exact fun _ => ⟨hrest.symm, hb⟩

/-- The child makes one access of its call. -/
theorem IfaceChildSim.access (hc : IfaceChildSim reg₀ calls reg c) {code name : List Char}
    {r : Nat} {pc pc' : IfacePc} (hcall : c.call = some (code, name, r, pc))
    (hs : interfaceCodeStep code name r reg pc = some (reg', pc')) :
    IfaceChildSim reg₀ calls reg' { c with call := some (code, name, r, pc') } := by
  obtain ⟨h₁, h₂, h₃, hb, sh, pcs, h₅, he, hag⟩ := hc.busy code name r pc hcall
  have hown : OwnBlock calls r := ⟨_, List.getElem?_mem h₂, h₃⟩
  have hbs : pcs.Bounded := (IfacePc.bounded_erase pcs).mp (he ▸ (IfacePc.bounded_erase pc).mpr hb)
  obtain ⟨sh', pcs', hs', he', hag'⟩ := interfaceCodeStep_agree (hag r hown) he hb hs
  refine ⟨hc.results, by simp, ?_⟩
  rintro _ _ _ _ ⟨⟩
  refine ⟨h₁, h₂, h₃, interfaceCodeStep_bounded hs hb, sh', pcs', h₅.tail hs', he', fun r' hr' => ?_⟩
  by_cases hrr : r' = r
  · exact hrr ▸ hag'
  · exact (interfaceCodeStep_blockAgree_of_ne hs hb hrr).trans
      ((hag r' hr').trans (interfaceCodeStep_blockAgree_of_ne hs' hbs hrr).symm)

/-- The child's call returns: the text it reads is the one its call run alone returns. -/
theorem IfaceChildSim.finish (hc : IfaceChildSim reg₀ calls reg c) {code name : List Char}
    {r : Nat} {res : IfaceResult} (hcall : c.call = some (code, name, r, .done res)) :
    IfaceChildSim reg₀ calls reg
      { c with call := none, results := c.results ++ [res.text r reg] } := by
  obtain ⟨h₁, h₂, h₃, hb, sh, pcs, h₅, he, hag⟩ := hc.busy code name r _ hcall
  have hown : OwnBlock calls r := ⟨_, List.getElem?_mem h₂, h₃⟩
  obtain rfl : pcs = .done res := by
    rcases IfacePc.erase_eq_erase he with h | ⟨_, _, _, h, -⟩
    · exact h
    · cases h
  obtain ⟨res', hsolo, htext⟩ :=
    ifaceSoloReach_getInterfaceCodeShm code name r (seqInterfaceCodes reg₀ (calls.take c.results.length)).1 h₃
  obtain ⟨hsh, rfl⟩ := ifaceSoloReach_done_unique code name r h₅ hsolo
  have hseq : seqInterfaceCodes reg₀ (calls.take (c.results.length + 1)) =
      (sh, c.results ++ [res.text r reg]) := by
    rw [List.take_succ, h₂, Option.toList_some, seqInterfaceCodes_concat, ← hc.results, htext,
      ← hsh, IfaceResult.text_agree (hag r hown) hb]
  refine ⟨?_, ?_, by simp⟩ <;> simp only [List.length_append, List.length_singleton, hseq]
  exact fun _ => ⟨h₁, hag⟩

end Sim

/-- **The invariant of the runs**: every child is where its calls run alone would be. -/
def IfaceSim (reg₀ : ShmRegistry) (calls : Nat → List (List Char × List Char)) (s : IfacePar) :
    Prop :=
  ∀ p, IfaceChildSim reg₀ (calls p) s.reg (s.children p)

section Own

variable {reg₀ : ShmRegistry} {calls : Nat → List (List Char × List Char)}

theorem ifaceSim_init : IfaceSim reg₀ calls (IfacePar.init reg₀ calls) := fun p =>
  ⟨by simp [IfacePar.init, seqInterfaceCodes], fun _ => by simp [IfacePar.init, seqInterfaceCodes,
    BlockAgree.rfl], by simp [IfacePar.init]⟩

/-- **Every step keeps `IfaceSim`**, when no router slot is named by the codes of two children: an
access of one child writes in its own block, which no other child reads. -/
theorem IfaceSim.step (hown : ∀ p q, p ≠ q → ∀ r, OwnBlock (calls p) r → ¬ OwnBlock (calls q) r)
    {s s' : IfacePar} (hs : IfaceSim reg₀ calls s) (h : IfaceParStep s s') :
    IfaceSim reg₀ calls s' := by
  cases h with
  | start hp hc hr => exact IfacePar.forall_update ((hs _).start hp hc hr) fun q _ => hs q
  | reject hp hc hr => exact IfacePar.forall_update ((hs _).reject hp hc hr) fun q _ => hs q
  | @access p code name r pc pc' reg' hc hst =>
    obtain ⟨-, h₂, h₃, hb, -⟩ := (hs p).busy _ _ _ _ hc
    refine IfacePar.forall_update ((hs p).access hc hst) fun q hq => (hs q).of_agree fun r' hr' => ?_
    exact interfaceCodeStep_blockAgree_of_ne hst hb fun e =>
      hown p q (Ne.symm hq) r ⟨_, List.getElem?_mem h₂, h₃⟩ (e ▸ hr')
  | finish hc => exact IfacePar.forall_update ((hs _).finish hc) fun q _ => hs q
  | other hf => exact fun q => (hs q).of_agree fun _ _ => .of_frame hf.1 hf.2

/-- **Children in different blocks do not interfere.** When no router slot is named by the codes
of two children, in every interleaving each child has the texts its calls would return run one
after another by one process from the registry at the fork; and between two calls, its blocks and
their code counters are as that run leaves them. -/
theorem ifaceParReach_own_blocks
    (hown : ∀ p q, p ≠ q → ∀ r, OwnBlock (calls p) r → ¬ OwnBlock (calls q) r) {s : IfacePar}
    (h : IfaceParReach (IfacePar.init reg₀ calls) s) (p : Nat) :
    (s.children p).results =
        (seqInterfaceCodes reg₀ ((calls p).take (s.children p).results.length)).2 ∧
      ((s.children p).call = none → (s.children p).pending = (calls p).drop (s.children p).results.length ∧
        ∀ r, OwnBlock (calls p) r → BlockAgree r s.reg
          (seqInterfaceCodes reg₀ ((calls p).take (s.children p).results.length)).1) := by
  have hs : IfaceSim reg₀ calls s := by
    induction h with
    | refl => exact ifaceSim_init
    | tail _ hst ih => exact ih.step hown hst
  exact ⟨(hs p).results, (hs p).idle⟩

/-- **Two children with one interface each, on routers `0` and `1`**: child `0` reads its block
and chooses its first entry, child `1` runs its whole call, then child `0` makes its claim. Each
child has the code its call gets run alone from the cleared registry. -/
theorem ifaceParReach_own_blocks_two_routers :
    let calls : Nat → List (List Char × List Char) := fun p =>
      if p < 2 then [(routerCodeText p, "eth0".toList)] else []
    ∃ s, IfaceParReach (IfacePar.init cleared calls) s ∧
      (s.children 0).results.length = 1 ∧ (s.children 1).results.length = 1 ∧
      ∀ p, (s.children p).results =
          (seqInterfaceCodes cleared ((calls p).take (s.children p).results.length)).2 ∧
        ((s.children p).call = none →
          (s.children p).pending = (calls p).drop (s.children p).results.length ∧
          ∀ r, OwnBlock (calls p) r → BlockAgree r s.reg
            (seqInterfaceCodes cleared ((calls p).take (s.children p).results.length)).1) := by
  intro calls
  have hcode : ∀ {t}, t < 2 → routerIndexOfCode (routerCodeText t) = some t := fun ht =>
    routerIndexOfCode_routerCodeText (lt_of_lt_of_le ht (by decide))
  have hown : ∀ p q, p ≠ q → ∀ r, OwnBlock (calls p) r → ¬ OwnBlock (calls q) r := by
    rintro p q hpq r ⟨x, hx, hxr⟩ ⟨y, hy, hyr⟩
    simp only [calls] at hx hy
    split_ifs at hx hy with hp hq <;> simp only [List.mem_singleton, List.not_mem_nil] at hx hy
    subst hx hy
    rw [hcode hp] at hxr
    rw [hcode hq] at hyr
    exact hpq (Option.some.inj (hxr.trans hyr.symm))
  obtain ⟨s, hs, h₀, h₁⟩ := @ifaceParReach_call_beside_claim _ interfaceTableInv_cleared calls 0 1
    (by decide) _ _ _ _ _ _ _ (by decide) (hcode (by decide)) rfl rfl
    (fun _ h => absurd h (Nat.not_lt_zero _)) (by decide)
  exact ⟨s, hs, h₀, h₁, ifaceParReach_own_blocks hown hs⟩

end Own

/-! ## (7) Two new interfaces at once -/

/-- **A table of the invariant in which two inactive entries turn active while `interface_count`
goes up by one** has left the invariant: the count no longer counts the active entries. -/
theorem InterfaceTableInv.not_of_lost_count {reg₀ reg : ShmRegistry} (hi : InterfaceTableInv reg₀)
    {K₁ K₂ : Nat} (hK₁ : K₁ < maxRouters * maxInterfacesPerRouter)
    (hK₂ : K₂ < maxRouters * maxInterfacesPerRouter) (hK : K₂ ≠ K₁)
    (h₁ : (reg₀.interfaces K₁).active = false) (h₂ : (reg₀.interfaces K₂).active = false)
    (ha : ∀ k, (reg.interfaces k).active =
      if k = K₁ ∨ k = K₂ then true else (reg₀.interfaces k).active)
    (hc : reg.interfaceCount = reg₀.interfaceCount + 1) : ¬ InterfaceTableInv reg := by
  intro hinv
  have hmid := countP_range_flip (p := fun k => (reg₀.interfaces k).active)
    (q := fun k => if k = K₁ then true else (reg₀.interfaces k).active) hK₁ h₁ (by simp)
    fun j hj => by simp [hj]
  have hfin := countP_range_flip hK₂ (p := fun k => if k = K₁ then true else
    (reg₀.interfaces k).active) (by simp [hK, h₂]) (q := fun k => (reg.interfaces k).active)
    (by simp [ha]) fun j hj => by simp [ha, hj]
  have := hinv.count_eq
  rw [hfin, hmid, ← hi.count_eq, hc] at this
  omega

/-- **Two children can lose one of two new interfaces from `interface_count`.** From any table of
the invariant, when child `p` starts with a new interface in the block of router slot `r₁` and
child `q` with one in another block `r₂`, both with room: both claims can read `interface_count`
before either stores it. Each child gets the code of its new entry, both entries are active, and
`interface_count` went up by one only: the table has left its invariant. -/
theorem ifaceParReach_lost_count {reg₀ : ShmRegistry} (hi : InterfaceTableInv reg₀)
    {calls : Nat → List (List Char × List Char)} {p q : Nat} (hpq : p ≠ q) {r₁ r₂ : Nat}
    (hr₁ : r₁ < maxRouters) (hr₂ : r₂ < maxRouters) (hr : r₁ ≠ r₂) {n₁ n₂ : List Char}
    {rest₁ rest₂ : List (List Char × List Char)}
    (hp : calls p = (routerCodeText r₁, n₁) :: rest₁) (hq : calls q = (routerCodeText r₂, n₂) :: rest₂)
    (hf₁ : ∀ j < reg₀.nextInterfaceCodes r₁,
      (reg₀.interfaces (r₁ * maxInterfacesPerRouter + j)).interfaceName ≠ n₁)
    (hf₂ : ∀ j < reg₀.nextInterfaceCodes r₂,
      (reg₀.interfaces (r₂ * maxInterfacesPerRouter + j)).interfaceName ≠ n₂)
    (hc₁ : reg₀.nextInterfaceCodes r₁ < maxInterfacesPerRouter)
    (hc₂ : reg₀.nextInterfaceCodes r₂ < maxInterfacesPerRouter) :
    ∃ s, IfaceParReach (IfacePar.init reg₀ calls) s ∧
      (s.children p).results = [some (interfaceCodeText (reg₀.nextInterfaceCodes r₁))] ∧
      (s.children q).results = [some (interfaceCodeText (reg₀.nextInterfaceCodes r₂))] ∧
      s.reg.interfaceCount = reg₀.interfaceCount + 1 ∧ ¬ InterfaceTableInv s.reg := by
  have hqp : q ≠ p := Ne.symm hpq
  set k₁ := reg₀.nextInterfaceCodes r₁
  set k₂ := reg₀.nextInterfaceCodes r₂
  have hk : r₂ * maxInterfacesPerRouter + k₂ ≠ r₁ * maxInterfacesPerRouter + k₁ :=
    fun e => hr (block_index_eq hc₁ hc₂ e).1.symm
  -- both lookups read the table before either writes
  let s₁ := (IfacePar.init reg₀ calls).update reg₀ p
    ⟨rest₁, some (routerCodeText r₁, n₁, r₁, .copyCode k₁), []⟩
  have e₁ : IfaceParReach (IfacePar.init reg₀ calls) s₁ :=
    ifaceParReach_call (p := p) (by simp [IfacePar.init, hp]) rfl
      (routerIndexOfCode_routerCodeText hr₁) (ifaceSoloReach_fresh hi _ hf₁ hc₁)
  let s₂ := s₁.update reg₀ q
    ⟨rest₂, some (routerCodeText r₂, n₂, r₂, .copyCode k₂), (s₁.children q).results⟩
  have e₂ : IfaceParReach s₁ s₂ :=
    ifaceParReach_call (p := q) (by simp [s₁, IfacePar.init, hq, hqp])
      (by simp [s₁, IfacePar.init, hqp]) (routerIndexOfCode_routerCodeText hr₂)
      (ifaceSoloReach_fresh hi _ hf₂ hc₂)
  -- both claims write their entry and read `interface_count`, then both store it
  have e₃ := ifaceParReach_solo (s := s₂) (p := p) (by simp [s₂, s₁, hpq])
    (ifaceSoloReach_claim_count (routerCodeText r₁) n₁ r₁ reg₀ k₁)
  refine ⟨_, e₁.trans (e₂.trans (e₃.trans
    ((ifaceParReach_solo (p := q) (by simp [s₂, hqp])
      (ifaceSoloReach_claim_count (routerCodeText r₂) n₂ r₂ _ k₂)).trans
    ((ifaceParReach_solo_finish (p := p) (by simp [hpq])
      (ifaceSoloReach_store (routerCodeText r₁) n₁ r₁ _ k₁ reg₀.interfaceCount)).trans
    (ifaceParReach_solo_finish (p := q) (by simp [hqp])
      (ifaceSoloReach_store (routerCodeText r₂) n₂ r₂ _ k₂ reg₀.interfaceCount)))))),
    ?_, ?_, by simp, fun hinv => ?_⟩
  · simp [s₂, s₁, IfacePar.init, hpq, IfaceResult.text, ShmRegistry.claimInterfaceSlot,
      Function.update_noteq hk.symm]
  · simp [s₂, s₁, IfacePar.init, hqp, IfaceResult.text, ShmRegistry.claimInterfaceSlot,
      Function.update_noteq hr.symm]
  · have hK₁ : r₁ * maxInterfacesPerRouter + k₁ < maxRouters * maxInterfacesPerRouter := by
      unfold maxRouters maxInterfacesPerRouter at *; omega
    have hK₂ : r₂ * maxInterfacesPerRouter + k₂ < maxRouters * maxInterfacesPerRouter := by
      unfold maxRouters maxInterfacesPerRouter at *; omega
    refine hi.not_of_lost_count hK₁ hK₂ hk
      (by simpa using (hi.active_iff r₁ k₁ hc₁).not.mpr (Nat.lt_irrefl _))
      (by simpa using (hi.active_iff r₂ k₂ hc₂).not.mpr (Nat.lt_irrefl _)) (fun k => ?_) (by simp)
      hinv
    by_cases e₂ : k = r₂ * maxInterfacesPerRouter + k₂
    · simp [e₂, ShmRegistry.claimInterfaceSlot]
    · by_cases e₁ : k = r₁ * maxInterfacesPerRouter + k₁ <;>
        simp [e₁, e₂, ShmRegistry.claimInterfaceSlot, Function.update_noteq, hk.symm]

/-- Routers `0` and `1` each get a first interface on the cleared registry. -/
theorem ifaceParReach_lost_count_first :
    ∃ s, IfaceParReach (IfacePar.init cleared fun p =>
        if p < 2 then [(routerCodeText p, "eth0".toList)] else []) s ∧
      (s.children 0).results = [some (interfaceCodeText 0)] ∧
      (s.children 1).results = [some (interfaceCodeText 0)] ∧
      s.reg.interfaceCount = 1 ∧ ¬ InterfaceTableInv s.reg :=
  ifaceParReach_lost_count interfaceTableInv_cleared (p := 0) (q := 1) (by decide) (by decide)
    (by decide) (by decide) rfl rfl (fun _ h => absurd h (Nat.not_lt_zero _))
    (fun _ h => absurd h (Nat.not_lt_zero _)) (by decide) (by decide)

end TracerouteSimulator.Registry
