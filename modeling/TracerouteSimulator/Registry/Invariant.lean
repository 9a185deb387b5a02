import TracerouteSimulator.Registry.Ops

/-! # The shared registry: the table invariant

Every state reachable from the cleared registry keeps each table packed and consistent with its
counters. The registry code depends on this silently: the lookups of `get_router_code_shm` and
`register_bridge_shm` only look at the first `count + 10` slots, and `get_interface_code_shm`
finds the interface block of a router from the digits of its code.

* **`RouterTableInv`**, **`InterfaceTableInv`**, **`BridgeTableInv`** — one invariant per table.
* **`getRouterCodeShm_cases`**, **`getInterfaceCodeShm_cases`**, **`registerBridgeShm_cases`** —
  everything one call can do from a state of the invariant; every later proof uses these and
  never unfolds the operations.
* **`registryInv_of_reachable`** — the invariant of every reachable state. -/

namespace TracerouteSimulator.Registry

variable {reg : ShmRegistry}

/-! ## (1) Codes and names as the callers pass them -/

theorem routerCodeText_eq {r : Nat} (hr : r < maxRouters) :
    routerCodeText r = 'r' :: zeroPad 3 (decimal r) :=
  codeText_eq (by unfold maxRouters at hr; omega)

/-- **The slot recovered from a router code** is the slot the code was made from. -/
theorem routerIndexOfCode_routerCodeText {r : Nat} (hr : r < maxRouters) :
    routerIndexOfCode (routerCodeText r) = some r := by
  have hr' : ¬ ((maxRouters : Int) ≤ r) := by omega
  have ha := atoi_zeroPad_decimal (n := r) (by unfold maxRouters at hr; omega)
  simp [routerCodeText_eq hr, routerIndexOfCode, ha, hr']

theorem routerCodeText_injective {r s : Nat} (hr : r < maxRouters) (hs : s < maxRouters)
    (h : routerCodeText r = routerCodeText s) : r = s :=
  codeText_injective (by unfold maxRouters at hr; omega) (by unfold maxRouters at hs; omega) h

theorem take_of_length_lt {l : List Char} {n : Nat} (h : l.length < n + 1) : l.take n = l :=
  List.take_of_length_le (by omega)

/-- A count of slots changes by one when exactly one slot turns active. -/
theorem countP_range_flip {p q : Nat → Bool} {N k : Nat} (hk : k < N) (hp : p k = false)
    (hq : q k = true) (h : ∀ j, j ≠ k → q j = p j) :
    (List.range N).countP q = (List.range N).countP p + 1 := by
  induction N with
  | zero => omega
  | succ N ih =>
    rw [List.range_succ, List.countP_append, List.countP_append, List.countP_singleton,
      List.countP_singleton]
    rcases Nat.lt_succ_iff_lt_or_eq.mp hk with hk | rfl
    · rw [ih hk, h N (by omega)]; omega
    · rw [List.countP_congr fun j hj => by rw [h j (by simp at hj; omega)]]
      simp [hp, hq]

/-! ## (2) The router table -/

/-- **The router table invariant**: the active entries are exactly the slots below
`router_count`, slot `i` holds the code `r%03d` of `i`, `next_router_code = router_count`, and the
active names are pairwise distinct. -/
structure RouterTableInv (reg : ShmRegistry) : Prop where
  /-- `router_count ≤ MAX_ROUTERS`. -/
  count_le : reg.routerCount ≤ maxRouters
  /-- The active slots are `0 .. router_count - 1`. -/
  active_iff : ∀ i, (reg.routers i).active = true ↔ i < reg.routerCount
  /-- Slot `i` carries the code of `i`. -/
  code_eq : ∀ i < reg.routerCount, (reg.routers i).routerCode = routerCodeText i
  /-- The code counter is the count. -/
  nextRouterCode_eq : reg.nextRouterCode = reg.routerCount
  /-- Active names are pairwise distinct. -/
  name_inj : ∀ i < reg.routerCount, ∀ j < reg.routerCount,
    (reg.routers i).routerName = (reg.routers j).routerName → i = j

theorem RouterTableInv.of_eq {reg' : ShmRegistry} (hi : RouterTableInv reg)
    (h₁ : reg'.routers = reg.routers) (h₂ : reg'.routerCount = reg.routerCount)
    (h₃ : reg'.nextRouterCode = reg.nextRouterCode) : RouterTableInv reg' := by
  obtain ⟨a, b, c, d, e⟩ := hi
  exact ⟨h₂ ▸ a, by rw [h₁, h₂]; exact b, by rw [h₁, h₂]; exact c, by rw [h₂, h₃]; exact d,
    by rw [h₁, h₂]; exact e⟩

theorem routerTableInv_cleared : RouterTableInv cleared where
  count_le := by simp [cleared]
  active_iff := by simp [cleared, default]
  code_eq := by simp [cleared]
  nextRouterCode_eq := rfl
  name_inj := by simp [cleared]

/-- **Everything `get_router_code_shm` can do** for a name shorter than `MAX_NAME_LEN`: return the
code of the slot holding the name, return `NULL` with all `MAX_ROUTERS` slots taken by other
names, or claim slot `router_count` with the code of `router_count`. -/
theorem getRouterCodeShm_cases (hi : RouterTableInv reg) (name : List Char) :
    (∃ i < reg.routerCount, (reg.routers i).routerName = name ∧
        getRouterCodeShm reg name = (reg, some (routerCodeText i))) ∨
    ((∀ i < reg.routerCount, (reg.routers i).routerName ≠ name) ∧
        reg.routerCount = maxRouters ∧ getRouterCodeShm reg name = (reg, none)) ∨
    ((∀ i < reg.routerCount, (reg.routers i).routerName ≠ name) ∧
        reg.routerCount < maxRouters ∧
        getRouterCodeShm reg name =
          (reg.claimRouterSlot reg.routerCount name, some (routerCodeText reg.routerCount))) := by
  unfold getRouterCodeShm
  cases hf : findRouterSlot reg name with
  | some i =>
    obtain ⟨-, hlt, hp, -⟩ := scanFrom_eq_some_iff.mp hf
    simp only [Bool.and_eq_true, beq_iff_eq] at hp
    have hi' := (hi.active_iff i).mp hp.1
    exact .inl ⟨i, hi', hp.2, by simp [hi.code_eq i hi']⟩
  | none =>
    have hfresh : ∀ i < reg.routerCount, (reg.routers i).routerName ≠ name := by
      intro i hlt heq
      have := scanFrom_eq_none_iff.mp hf i (Nat.zero_le _)
        (by have := hi.count_le; simp only [Nat.zero_add, lt_min_iff]; omega)
      simp [(hi.active_iff i).mpr hlt, heq] at this
    by_cases hfull : maxRouters ≤ reg.routerCount
    · exact .inr (.inl ⟨hfresh, le_antisymm hi.count_le hfull, by simp [hfull]⟩)
    · have hfree : freeRouterSlot reg = some reg.routerCount := by
        refine scanFrom_eq_some_iff.mpr ⟨Nat.zero_le _, by omega, ?_, fun j _ hj => ?_⟩
        · simpa using (hi.active_iff _).not.mpr (Nat.lt_irrefl _)
        · simpa using (hi.active_iff j).mpr hj
      refine .inr (.inr ⟨hfresh, by omega, ?_⟩)
      simp [hfull, hfree, hi.nextRouterCode_eq]

/-- **Claiming slot `router_count` for a fresh name keeps the invariant.** -/
theorem RouterTableInv.claim (hi : RouterTableInv reg) {name : List Char}
    (hn : name.length < maxNameLen) (hfresh : ∀ i < reg.routerCount, (reg.routers i).routerName ≠ name)
    (hc : reg.routerCount < maxRouters) :
    RouterTableInv (reg.claimRouterSlot reg.routerCount name) := by
  have htake : name.take (maxNameLen - 1) = name := take_of_length_lt (by unfold maxNameLen at *; omega)
  constructor
  · simp [ShmRegistry.claimRouterSlot]; omega
  · intro i
    by_cases h : i = reg.routerCount
    · subst h; simp [ShmRegistry.claimRouterSlot]
    · simp [ShmRegistry.claimRouterSlot, Function.update_noteq h, hi.active_iff i]; omega
  · intro i hlt
    by_cases h : i = reg.routerCount
    · subst h; simp [ShmRegistry.claimRouterSlot, hi.nextRouterCode_eq]
    · simp only [ShmRegistry.claimRouterSlot, Function.update_noteq h]
      exact hi.code_eq i (by simp [ShmRegistry.claimRouterSlot] at hlt; omega)
  · simp [ShmRegistry.claimRouterSlot, hi.nextRouterCode_eq]
  · intro i hi' j hj heq
    simp only [ShmRegistry.claimRouterSlot] at hi' hj heq
    by_cases h₁ : i = reg.routerCount <;> by_cases h₂ : j = reg.routerCount
    · omega
    · subst h₁
      rw [Function.update_same, Function.update_noteq h₂, htake] at heq
      exact absurd heq.symm (hfresh j (by omega))
    · subst h₂
      rw [Function.update_same, Function.update_noteq h₁, htake] at heq
      exact absurd heq (hfresh i (by omega))
    · rw [Function.update_noteq h₁, Function.update_noteq h₂] at heq
      exact hi.name_inj i (by omega) j (by omega) heq

theorem RouterTableInv.getRouterCodeShm (hi : RouterTableInv reg) {name : List Char}
    (hn : name.length < maxNameLen) : RouterTableInv (getRouterCodeShm reg name).1 := by
  obtain ⟨i, -, -, h⟩ | ⟨-, -, h⟩ | ⟨hfresh, hc, h⟩ := getRouterCodeShm_cases hi name
  · rw [h]; exact hi
  · rw [h]; exact hi
  · rw [h]; exact hi.claim hn hfresh hc

/-! ## (3) The interface table -/

/-- **The interface table invariant**: for every router slot `r` (the ones past `MAX_ROUTERS`
keep counter `0`), the active entries of block `r` are exactly its first
`next_interface_codes[r]` positions; position `j` holds the code `i%03d` of `j` and the code of
router slot `r`; the names in a block are pairwise distinct; and `interface_count` is the number
of active entries of the whole table. -/
structure InterfaceTableInv (reg : ShmRegistry) : Prop where
  /-- Each block counter is at most `MAX_INTERFACES_PER_ROUTER`. -/
  next_le : ∀ r, reg.nextInterfaceCodes r ≤ maxInterfacesPerRouter
  /-- Router slots past the table have no interfaces. -/
  next_out : ∀ r, maxRouters ≤ r → reg.nextInterfaceCodes r = 0
  /-- The active entries of block `r` are its first `next_interface_codes[r]` positions. -/
  active_iff : ∀ r, ∀ j < maxInterfacesPerRouter,
    (reg.interfaces (r * maxInterfacesPerRouter + j)).active = true ↔
      j < reg.nextInterfaceCodes r
  /-- Position `j` of block `r` carries the code of `j` and the router code of slot `r`. -/
  code_eq : ∀ r, ∀ j < reg.nextInterfaceCodes r,
    (reg.interfaces (r * maxInterfacesPerRouter + j)).interfaceCode = interfaceCodeText j ∧
      (reg.interfaces (r * maxInterfacesPerRouter + j)).routerCode = routerCodeText r
  /-- The names of a block are pairwise distinct. -/
  name_inj : ∀ r, ∀ j < reg.nextInterfaceCodes r, ∀ j' < reg.nextInterfaceCodes r,
    (reg.interfaces (r * maxInterfacesPerRouter + j)).interfaceName =
      (reg.interfaces (r * maxInterfacesPerRouter + j')).interfaceName → j = j'
  /-- `interface_count` counts the active entries of the table. -/
  count_eq : reg.interfaceCount =
    (List.range (maxRouters * maxInterfacesPerRouter)).countP fun k => (reg.interfaces k).active

theorem InterfaceTableInv.of_eq {reg' : ShmRegistry} (hi : InterfaceTableInv reg)
    (h₁ : reg'.interfaces = reg.interfaces) (h₂ : reg'.nextInterfaceCodes = reg.nextInterfaceCodes)
    (h₃ : reg'.interfaceCount = reg.interfaceCount) : InterfaceTableInv reg' := by
  obtain ⟨a, b, c, d, e, f⟩ := hi
  exact ⟨by rw [h₂]; exact a, by rw [h₂]; exact b, by rw [h₁, h₂]; exact c,
    by rw [h₁, h₂]; exact d, by rw [h₁, h₂]; exact e, by rw [h₁, h₃]; exact f⟩

theorem interfaceTableInv_cleared : InterfaceTableInv cleared where
  next_le := by simp [cleared]
  next_out := by simp [cleared]
  active_iff := by simp [cleared, default]
  code_eq := by simp [cleared]
  name_inj := by simp [cleared]
  count_eq := by simp [cleared, default]

/-- **Everything `get_interface_code_shm` can do** for the code of router slot `r`: return the code
of the position holding the name, return `NULL` with the block full of other names, or claim the
next position of the block. -/
theorem getInterfaceCodeShm_cases (hi : InterfaceTableInv reg) {r : Nat} (hr : r < maxRouters)
    (name : List Char) :
    (∃ j < reg.nextInterfaceCodes r,
        (reg.interfaces (r * maxInterfacesPerRouter + j)).interfaceName = name ∧
        getInterfaceCodeShm reg (routerCodeText r) name = (reg, some (interfaceCodeText j))) ∨
    ((∀ j < reg.nextInterfaceCodes r,
        (reg.interfaces (r * maxInterfacesPerRouter + j)).interfaceName ≠ name) ∧
        reg.nextInterfaceCodes r = maxInterfacesPerRouter ∧
        getInterfaceCodeShm reg (routerCodeText r) name = (reg, none)) ∨
    ((∀ j < reg.nextInterfaceCodes r,
        (reg.interfaces (r * maxInterfacesPerRouter + j)).interfaceName ≠ name) ∧
        reg.nextInterfaceCodes r < maxInterfacesPerRouter ∧
        getInterfaceCodeShm reg (routerCodeText r) name =
          (reg.claimInterfaceSlot r (r * maxInterfacesPerRouter + reg.nextInterfaceCodes r)
            (routerCodeText r) name, some (interfaceCodeText (reg.nextInterfaceCodes r)))) := by
  have hmatch : ∀ j < maxInterfacesPerRouter,
      ((reg.interfaces (r * maxInterfacesPerRouter + j)).active &&
        (reg.interfaces (r * maxInterfacesPerRouter + j)).routerCode == routerCodeText r &&
        (reg.interfaces (r * maxInterfacesPerRouter + j)).interfaceName == name) = true ↔
      j < reg.nextInterfaceCodes r ∧
        (reg.interfaces (r * maxInterfacesPerRouter + j)).interfaceName = name := by
    intro j hj
    simp only [Bool.and_eq_true, beq_iff_eq, hi.active_iff r j hj]
    constructor
    · exact fun h => ⟨h.1.1, h.2⟩
    · exact fun h => ⟨⟨h.1, (hi.code_eq r j h.1).2⟩, h.2⟩
  unfold getInterfaceCodeShm
  rw [routerIndexOfCode_routerCodeText hr]
  dsimp only
  cases hf : findInterfaceSlot reg (r * maxInterfacesPerRouter) (routerCodeText r) name with
  | some k =>
    obtain ⟨h₁, h₂, hp, -⟩ := scanFrom_eq_some_iff.mp hf
    obtain ⟨j, rfl⟩ : ∃ j, k = r * maxInterfacesPerRouter + j := ⟨k - r * maxInterfacesPerRouter, by omega⟩
    obtain ⟨hj, hname⟩ := (hmatch j (by omega)).mp hp
    exact .inl ⟨j, hj, hname, by simp [(hi.code_eq r j hj).1]⟩
  | none =>
    have hfresh : ∀ j < reg.nextInterfaceCodes r,
        (reg.interfaces (r * maxInterfacesPerRouter + j)).interfaceName ≠ name := by
      intro j hj heq
      have hj' := hi.next_le r
      have := scanFrom_eq_none_iff.mp hf (r * maxInterfacesPerRouter + j) (by omega) (by omega)
      exact absurd ((hmatch j (by omega)).mpr ⟨hj, heq⟩) (by simp [this])
    by_cases hfull : reg.nextInterfaceCodes r = maxInterfacesPerRouter
    · have hfree : freeInterfaceSlot reg (r * maxInterfacesPerRouter) = none := by
        refine scanFrom_eq_none_iff.mpr fun k h₁ h₂ => ?_
        obtain ⟨j, rfl⟩ : ∃ j, k = r * maxInterfacesPerRouter + j :=
          ⟨k - r * maxInterfacesPerRouter, by omega⟩
        simpa using (hi.active_iff r j (by omega)).mpr (by omega)
      exact .inr (.inl ⟨hfresh, hfull, by simp [hfree]⟩)
    · have hlt : reg.nextInterfaceCodes r < maxInterfacesPerRouter :=
        lt_of_le_of_ne (hi.next_le r) hfull
      have hfree : freeInterfaceSlot reg (r * maxInterfacesPerRouter) =
          some (r * maxInterfacesPerRouter + reg.nextInterfaceCodes r) := by
        refine scanFrom_eq_some_iff.mpr ⟨by omega, by omega, ?_, fun k h₁ h₂ => ?_⟩
        · simpa using (hi.active_iff r _ hlt).not.mpr (Nat.lt_irrefl _)
        · obtain ⟨j, rfl⟩ : ∃ j, k = r * maxInterfacesPerRouter + j :=
            ⟨k - r * maxInterfacesPerRouter, by omega⟩
          simpa using (hi.active_iff r j (by omega)).mpr (by omega)
      exact .inr (.inr ⟨hfresh, hlt, by simp [hfree]⟩)

/-- Two positions of the interface table coincide only within the same block and position. -/
theorem block_index_eq {r r' j j' : Nat} (hj : j < maxInterfacesPerRouter)
    (hj' : j' < maxInterfacesPerRouter)
    (h : r' * maxInterfacesPerRouter + j' = r * maxInterfacesPerRouter + j) : r' = r ∧ j' = j := by
  unfold maxInterfacesPerRouter at *
  omega

/-- **Claiming the next position of block `r` for a fresh name keeps the invariant.** -/
theorem InterfaceTableInv.claim (hi : InterfaceTableInv reg) {r : Nat} (hr : r < maxRouters)
    {name : List Char} (hn : name.length < maxNameLen)
    (hfresh : ∀ j < reg.nextInterfaceCodes r,
      (reg.interfaces (r * maxInterfacesPerRouter + j)).interfaceName ≠ name)
    (hc : reg.nextInterfaceCodes r < maxInterfacesPerRouter) :
    InterfaceTableInv (reg.claimInterfaceSlot r (r * maxInterfacesPerRouter +
      reg.nextInterfaceCodes r) (routerCodeText r) name) := by
  set n := reg.nextInterfaceCodes r with hn_def
  have htake : name.take (maxNameLen - 1) = name :=
    take_of_length_lt (by unfold maxNameLen at *; omega)
  have hcode : (routerCodeText r).take (maxCodeLen - 1) = routerCodeText r :=
    take_of_length_lt (by have := codeText_length_le 'r' r
                          unfold routerCodeText; omega)
  -- the updated position, read at position `j'` of block `r'`
  have hat : ∀ r' j', j' < maxInterfacesPerRouter →
      ((reg.claimInterfaceSlot r (r * maxInterfacesPerRouter + n) (routerCodeText r)
        name).interfaces (r' * maxInterfacesPerRouter + j') =
        if r' = r ∧ j' = n then ⟨routerCodeText r, name, interfaceCodeText n, true⟩
        else reg.interfaces (r' * maxInterfacesPerRouter + j')) := by
    intro r' j' hj'
    simp only [ShmRegistry.claimInterfaceSlot, Function.update_apply, htake, hcode, ← hn_def]
    by_cases h : r' = r ∧ j' = n
    · rw [if_pos (by rw [h.1, h.2]), if_pos h]
    · rw [if_neg (fun he => h (block_index_eq hc hj' he)), if_neg h]
  have hnext : ∀ r', (reg.claimInterfaceSlot r (r * maxInterfacesPerRouter + n)
      (routerCodeText r) name).nextInterfaceCodes r' = if r' = r then n + 1
        else reg.nextInterfaceCodes r' := by
    intro r'; simp [ShmRegistry.claimInterfaceSlot, Function.update_apply, ← hn_def]
  have hb : ∀ r' j, j < (if r' = r then n + 1 else reg.nextInterfaceCodes r') →
      j < maxInterfacesPerRouter := fun r' j hj => by
    split at hj
    · omega
    · exact lt_of_lt_of_le hj (hi.next_le r')
  constructor
  · intro r'; rw [hnext]; split
    · omega
    · exact hi.next_le r'
  · intro r' hr'; rw [hnext, if_neg (by omega)]; exact hi.next_out r' hr'
  · intro r' j' hj'
    rw [hat r' j' hj', hnext]
    by_cases h₁ : r' = r
    · subst h₁; by_cases h₂ : j' = n
      · simp [h₂]
      · simp [h₂, hi.active_iff r' j' hj']; omega
    · simp [h₁, hi.active_iff r' j' hj']
  · intro r' j' hj'
    rw [hnext] at hj'
    rw [hat r' j' (hb r' j' hj')]
    by_cases h₁ : r' = r
    · subst h₁; by_cases h₂ : j' = n
      · simp [h₂]
      · simp only [true_and, h₂, ↓reduceIte]
        exact hi.code_eq r' j' (by simp at hj'; omega)
    · simp only [h₁, false_and, ↓reduceIte]
      exact hi.code_eq r' j' (by simpa [h₁] using hj')
  · intro r' j₁ hj₁ j₂ hj₂ heq
    rw [hnext] at hj₁ hj₂
    rw [hat r' j₁ (hb r' j₁ hj₁), hat r' j₂ (hb r' j₂ hj₂)] at heq
    by_cases h₁ : r' = r
    · subst h₁
      rw [if_pos rfl] at hj₁ hj₂
      by_cases e₁ : j₁ = n <;> by_cases e₂ : j₂ = n <;> simp only [e₁, e₂, ↓reduceIte] at heq
      · omega
      · exact absurd heq.symm (hfresh j₂ (by omega))
      · exact absurd heq (hfresh j₁ (by omega))
      · exact hi.name_inj r' j₁ (by omega) j₂ (by omega) heq
    · simp only [h₁, false_and, ↓reduceIte] at heq hj₁ hj₂
      exact hi.name_inj r' j₁ hj₁ j₂ hj₂ heq
  · simp only [ShmRegistry.claimInterfaceSlot, hi.count_eq]
    refine (countP_range_flip (k := r * maxInterfacesPerRouter + n) ?_ ?_ ?_ ?_).symm
    · unfold maxRouters maxInterfacesPerRouter at *; omega
    · simpa using (hi.active_iff r n hc).not.mpr (Nat.lt_irrefl _)
    · simp
    · intro j hj; simp [Function.update_noteq hj]

theorem InterfaceTableInv.getInterfaceCodeShm (hi : InterfaceTableInv reg) {r : Nat}
    (hr : r < maxRouters) {name : List Char} (hn : name.length < maxNameLen) :
    InterfaceTableInv (getInterfaceCodeShm reg (routerCodeText r) name).1 := by
  obtain ⟨j, -, -, h⟩ | ⟨-, -, h⟩ | ⟨hfresh, hc, h⟩ :=
    getInterfaceCodeShm_cases hi hr name
  · rw [h]; exact hi
  · rw [h]; exact hi
  · rw [h]; exact hi.claim hr hn hfresh hc

/-! ## (4) The bridge table -/

/-- **The bridge table invariant**: the active entries are exactly the slots below
`bridge_count`, and their names are pairwise distinct. -/
structure BridgeTableInv (reg : ShmRegistry) : Prop where
  /-- `bridge_count ≤ MAX_BRIDGES`. -/
  count_le : reg.bridgeCount ≤ maxBridges
  /-- The active slots are `0 .. bridge_count - 1`. -/
  active_iff : ∀ i, (reg.bridges i).active = true ↔ i < reg.bridgeCount
  /-- Active bridge names are pairwise distinct. -/
  name_inj : ∀ i < reg.bridgeCount, ∀ j < reg.bridgeCount,
    (reg.bridges i).bridgeName = (reg.bridges j).bridgeName → i = j

theorem BridgeTableInv.of_eq {reg' : ShmRegistry} (hi : BridgeTableInv reg)
    (h₁ : reg'.bridges = reg.bridges) (h₂ : reg'.bridgeCount = reg.bridgeCount) :
    BridgeTableInv reg' := by
  obtain ⟨a, b, c⟩ := hi
  exact ⟨h₂ ▸ a, by rw [h₁, h₂]; exact b, by rw [h₁, h₂]; exact c⟩

theorem bridgeTableInv_cleared : BridgeTableInv cleared where
  count_le := by simp [cleared]
  active_iff := by simp [cleared, default]
  name_inj := by simp [cleared]

/-- **Everything `register_bridge_shm` can do**: return the slot holding the name, return `-1` with
all `MAX_BRIDGES` slots taken, or claim slot `bridge_count`. -/
theorem registerBridgeShm_cases (hi : BridgeTableInv reg) (bridgeName subnet : List Char) :
    (∃ i < reg.bridgeCount, (reg.bridges i).bridgeName = bridgeName ∧
        registerBridgeShm reg bridgeName subnet = (reg, some i)) ∨
    ((∀ i < reg.bridgeCount, (reg.bridges i).bridgeName ≠ bridgeName) ∧
        reg.bridgeCount = maxBridges ∧ registerBridgeShm reg bridgeName subnet = (reg, none)) ∨
    ((∀ i < reg.bridgeCount, (reg.bridges i).bridgeName ≠ bridgeName) ∧
        reg.bridgeCount < maxBridges ∧
        registerBridgeShm reg bridgeName subnet =
          (reg.claimBridgeSlot reg.bridgeCount bridgeName subnet, some reg.bridgeCount)) := by
  unfold registerBridgeShm
  cases hf : findBridgeSlot reg bridgeName with
  | some i =>
    obtain ⟨-, -, hp, -⟩ := scanFrom_eq_some_iff.mp hf
    simp only [Bool.and_eq_true, beq_iff_eq] at hp
    exact .inl ⟨i, (hi.active_iff i).mp hp.1, hp.2, rfl⟩
  | none =>
    have hfresh : ∀ i < reg.bridgeCount, (reg.bridges i).bridgeName ≠ bridgeName := by
      intro i hlt heq
      have := scanFrom_eq_none_iff.mp hf i (Nat.zero_le _)
        (by have := hi.count_le; simp only [Nat.zero_add, lt_min_iff]; omega)
      simp [(hi.active_iff i).mpr hlt, heq] at this
    by_cases hfull : reg.bridgeCount = maxBridges
    · have hfree : freeBridgeSlot reg = none :=
        scanFrom_eq_none_iff.mpr fun j _ hj => by
          simpa using (hi.active_iff j).mpr (by omega)
      exact .inr (.inl ⟨hfresh, hfull, by simp [hfree]⟩)
    · have hlt : reg.bridgeCount < maxBridges := lt_of_le_of_ne hi.count_le hfull
      have hfree : freeBridgeSlot reg = some reg.bridgeCount := by
        refine scanFrom_eq_some_iff.mpr ⟨Nat.zero_le _, by omega, ?_, fun j _ hj => ?_⟩
        · simpa using (hi.active_iff _).not.mpr (Nat.lt_irrefl _)
        · simpa using (hi.active_iff j).mpr hj
      exact .inr (.inr ⟨hfresh, hlt, by simp [hfree]⟩)

/-- **Claiming slot `bridge_count` for a fresh name of at most 31 characters keeps the
invariant.** -/
theorem BridgeTableInv.claim (hi : BridgeTableInv reg) {bridgeName subnet : List Char}
    (hn : bridgeName.length < bridgeFieldLen)
    (hfresh : ∀ i < reg.bridgeCount, (reg.bridges i).bridgeName ≠ bridgeName)
    (hc : reg.bridgeCount < maxBridges) :
    BridgeTableInv (reg.claimBridgeSlot reg.bridgeCount bridgeName subnet) := by
  have htake : bridgeName.take (bridgeFieldLen - 1) = bridgeName :=
    take_of_length_lt (by unfold bridgeFieldLen at *; omega)
  constructor
  · simp [ShmRegistry.claimBridgeSlot]; omega
  · intro i
    by_cases h : i = reg.bridgeCount
    · subst h; simp [ShmRegistry.claimBridgeSlot]
    · simp [ShmRegistry.claimBridgeSlot, Function.update_noteq h, hi.active_iff i]; omega
  · intro i hi' j hj heq
    simp only [ShmRegistry.claimBridgeSlot] at hi' hj heq
    by_cases h₁ : i = reg.bridgeCount <;> by_cases h₂ : j = reg.bridgeCount
    · omega
    · subst h₁
      rw [Function.update_same, Function.update_noteq h₂, htake] at heq
      exact absurd heq.symm (hfresh j (by omega))
    · subst h₂
      rw [Function.update_same, Function.update_noteq h₁, htake] at heq
      exact absurd heq (hfresh i (by omega))
    · rw [Function.update_noteq h₁, Function.update_noteq h₂] at heq
      exact hi.name_inj i (by omega) j (by omega) heq

theorem BridgeTableInv.registerBridgeShm (hi : BridgeTableInv reg) {bridgeName subnet : List Char}
    (hn : bridgeName.length < bridgeFieldLen) :
    BridgeTableInv (registerBridgeShm reg bridgeName subnet).1 := by
  obtain ⟨i, -, -, h⟩ | ⟨-, -, h⟩ | ⟨hfresh, hc, h⟩ :=
    registerBridgeShm_cases hi bridgeName subnet
  · rw [h]; exact hi
  · rw [h]; exact hi
  · rw [h]; exact hi.claim hn hfresh hc

theorem BridgeTableInv.setBridgeCreated (hi : BridgeTableInv reg) (i : Nat) :
    BridgeTableInv (setBridgeCreated reg i) := by
  refine ⟨hi.count_le, fun j => ?_, fun j hj k hk heq => hi.name_inj j hj k hk ?_⟩
  · by_cases h : j = i
    · subst h; simpa [Registry.setBridgeCreated] using hi.active_iff j
    · simpa [Registry.setBridgeCreated, Function.update_noteq h] using hi.active_iff j
  · simp only [Registry.setBridgeCreated, Function.update_apply] at heq
    split_ifs at heq <;> simp_all

/-! ## (5) Every reachable state -/

/-- **The router and interface tables of every state reached with names shorter than
`MAX_NAME_LEN`** (bridge operations with any texts). -/
theorem namesInv_of_reachable (h : Reachable RegistryOp.NamesFit reg) :
    RouterTableInv reg ∧ InterfaceTableInv reg := by
  refine Reachable.induct (P := fun reg => RouterTableInv reg ∧ InterfaceTableInv reg)
    ⟨routerTableInv_cleared, interfaceTableInv_cleared⟩ ?_ h
  rintro reg op ⟨hr, hf⟩ hok
  cases op with
  | getRouterCode name =>
    exact ⟨hr.getRouterCodeShm hok, hf.of_eq (by simp [RegistryOp.apply])
      (by simp [RegistryOp.apply]) (by simp [RegistryOp.apply])⟩
  | getInterfaceCode code name =>
    obtain ⟨⟨r, hr', rfl⟩, hn⟩ := hok
    exact ⟨hr.of_eq (by simp [RegistryOp.apply]) (by simp [RegistryOp.apply])
      (by simp [RegistryOp.apply]), hf.getInterfaceCodeShm hr' hn⟩
  | registerBridge bridgeName subnet =>
    obtain ⟨bridges, count, he⟩ := registerBridgeShm_eq reg bridgeName subnet
    simp only [RegistryOp.apply, he]
    exact ⟨hr.of_eq rfl rfl rfl, hf.of_eq rfl rfl rfl⟩
  | setCreated slot => exact ⟨hr.of_eq rfl rfl rfl, hf.of_eq rfl rfl rfl⟩
  | clear => exact ⟨routerTableInv_cleared, interfaceTableInv_cleared⟩

/-- **The registry invariant**: the three table invariants together. -/
structure RegistryInv (reg : ShmRegistry) : Prop where
  /-- Routers: slots `0 .. router_count - 1`, codes `r%03d` of the slot, distinct names. -/
  routers : RouterTableInv reg
  /-- Interfaces: per block, a prefix of `next_interface_codes[r]` positions, codes `i%03d` of the
  position and `r%03d` of the block, distinct names; `interface_count` counts the active ones. -/
  interfaces : InterfaceTableInv reg
  /-- Bridges: slots `0 .. bridge_count - 1`, distinct names. -/
  bridges : BridgeTableInv reg

/-- **The bridge table invariant of every reachable registry state.** -/
theorem bridgeTableInv_of_reachable (h : Reachable RegistryOp.Fits reg) : BridgeTableInv reg := by
  refine Reachable.induct (P := BridgeTableInv) bridgeTableInv_cleared (fun reg op hb hok => ?_) h
  cases op with
  | registerBridge bridgeName subnet => exact hb.registerBridgeShm hok
  | setCreated slot => exact hb.setBridgeCreated slot
  | clear => exact bridgeTableInv_cleared
  | _ => exact hb.of_eq (by simp [RegistryOp.apply]) (by simp [RegistryOp.apply])

/-- **The table invariant of every reachable registry state.** -/
theorem registryInv_of_reachable (h : Reachable RegistryOp.Fits reg) : RegistryInv reg := by
  have hn := namesInv_of_reachable (h.mono fun _ hop => hop.namesFit)
  refine ⟨hn.1, hn.2, Reachable.induct (P := BridgeTableInv) bridgeTableInv_cleared ?_ h⟩
  intro reg op hb hok
  cases op with
  | getRouterCode name => exact hb.of_eq (by simp [RegistryOp.apply]) (by simp [RegistryOp.apply])
  | getInterfaceCode code name =>
    exact hb.of_eq (by simp [RegistryOp.apply]) (by simp [RegistryOp.apply])
  | registerBridge bridgeName subnet => exact hb.registerBridgeShm hok
  | setCreated slot => exact hb.setBridgeCreated slot
  | clear => exact bridgeTableInv_cleared

/-- **The state after a first router `r1` and its interface `eth0`** keeps the invariant. -/
theorem registryInv_first_interface :
    RegistryInv ((RegistryOp.getInterfaceCode (routerCodeText 0) "eth0".toList).apply
      ((RegistryOp.getRouterCode "r1".toList).apply cleared)) :=
  registryInv_of_reachable (.step _ (.step _ .cleared (by decide : "r1".length < maxNameLen)) (by
    simp only [RegistryOp.Fits]; exact ⟨⟨0, by decide, rfl⟩, by decide⟩))

/-! ## (6) Filling an interface block -/

/-- **The names block `r` holds**, in position order. -/
def blockNames (reg : ShmRegistry) (r : Nat) : List (List Char) :=
  (List.range (reg.nextInterfaceCodes r)).map fun j =>
    (reg.interfaces (r * maxInterfacesPerRouter + j)).interfaceName

theorem length_blockNames : (blockNames reg r).length = reg.nextInterfaceCodes r := by
  simp [blockNames]

theorem mem_blockNames {name : List Char} : name ∈ blockNames reg r ↔
    ∃ j < reg.nextInterfaceCodes r, (reg.interfaces (r * maxInterfacesPerRouter + j)).interfaceName = name := by
  simp [blockNames]

/-- **A lookup in a full block** leaves the registry as it is, and returns `NULL` for a name the
block does not hold. -/
theorem getInterfaceCodeShm_of_full (hi : InterfaceTableInv reg) (hr : r < maxRouters)
    (hfull : reg.nextInterfaceCodes r = maxInterfacesPerRouter) (name : List Char) :
    (getInterfaceCodeShm reg (routerCodeText r) name).1 = reg ∧
      (name ∉ blockNames reg r → (getInterfaceCodeShm reg (routerCodeText r) name).2 = none) := by
  rcases getInterfaceCodeShm_cases hi hr name with ⟨j, hj, hname, h⟩ | ⟨-, -, h⟩ | ⟨-, hlt, -⟩
  · rw [h]; exact ⟨rfl, fun hn => absurd (mem_blockNames.mpr ⟨j, hj, hname⟩) hn⟩
  · rw [h]; exact ⟨rfl, fun _ => rfl⟩
  · omega

/-- **A fresh name takes the next position** of a block with room. -/
theorem blockNames_getInterfaceCodeShm (hi : InterfaceTableInv reg) (hr : r < maxRouters)
    {name : List Char} (hn : name.length < maxNameLen) (hfresh : name ∉ blockNames reg r)
    (hlt : reg.nextInterfaceCodes r < maxInterfacesPerRouter) :
    blockNames (getInterfaceCodeShm reg (routerCodeText r) name).1 r = blockNames reg r ++ [name] := by
  rcases getInterfaceCodeShm_cases hi hr name with ⟨j, hj, hname, -⟩ | ⟨-, hfull, -⟩ | ⟨-, -, h⟩
  · exact absurd (mem_blockNames.mpr ⟨j, hj, hname⟩) hfresh
  · omega
  · have htake : name.take (maxNameLen - 1) = name := take_of_length_lt (by unfold maxNameLen at *; omega)
    rw [h, blockNames, blockNames]
    simp only [ShmRegistry.claimInterfaceSlot, Function.update_same, List.range_succ,
      List.map_append, List.map_cons, List.map_nil, htake]
    congr 1
    refine List.map_congr_left fun j hj => ?_
    rw [Function.update_noteq (by simp at hj; omega)]

/-- **Fresh names fill a block in order**: looking up names that the block does not hold, pairwise
distinct and no more than the room left, keeps the invariant and appends them to the block. -/
theorem interfaceTableInv_fill (hr : r < maxRouters) :
    ∀ (names : List (List Char)) {reg : ShmRegistry}, InterfaceTableInv reg →
      (∀ n ∈ names, n.length < maxNameLen) → (blockNames reg r ++ names).Nodup →
      reg.nextInterfaceCodes r + names.length ≤ maxInterfacesPerRouter →
      InterfaceTableInv (names.foldl (fun reg n => (getInterfaceCodeShm reg (routerCodeText r) n).1) reg) ∧
      blockNames (names.foldl (fun reg n => (getInterfaceCodeShm reg (routerCodeText r) n).1) reg) r =
        blockNames reg r ++ names
  | [], _, hi, _, _, _ => ⟨hi, (List.append_nil _).symm⟩
  | n :: ns, reg, hi, hn, hnodup, hroom => by
    have hfresh : n ∉ blockNames reg r := fun h =>
      (List.nodup_middle.mp hnodup).not_mem (List.mem_append_left _ h)
    have hblock := blockNames_getInterfaceCodeShm hi hr (hn n (List.mem_cons_self _ _)) hfresh
      (by simp at hroom; omega)
    have ih := interfaceTableInv_fill hr ns (hi.getInterfaceCodeShm hr (hn n (List.mem_cons_self _ _)))
      (fun m hm => hn m (List.mem_cons_of_mem _ hm)) (by rw [hblock, List.append_assoc]; exact hnodup)
      (by rw [← length_blockNames, hblock]; simp [length_blockNames] at hroom ⊢; omega)
    rw [List.foldl_cons, ih.2, hblock, List.append_assoc]
    exact ⟨ih.1, rfl⟩

/-- **A registered router gets its slot's code** and leaves the registry as it is. -/
theorem getRouterCodeShm_of_registered (hi : RouterTableInv reg) {i : Nat} {name : List Char}
    (hlt : i < reg.routerCount) (hname : (reg.routers i).routerName = name) :
    getRouterCodeShm reg name = (reg, some (routerCodeText i)) := by
  rcases getRouterCodeShm_cases hi name with ⟨j, hj, hname', h⟩ | ⟨hfresh, -⟩ | ⟨hfresh, -⟩
  · rw [h, hi.name_inj j hj i hlt (hname'.trans hname.symm)]
  · exact absurd hname (hfresh i hlt)
  · exact absurd hname (hfresh i hlt)

/-- Interface lookups leave the router table alone. -/
theorem foldl_getInterfaceCodeShm_routers (code : List Char) :
    ∀ (names : List (List Char)) (reg : ShmRegistry),
      let reg' := names.foldl (fun reg n => (getInterfaceCodeShm reg code n).1) reg
      reg'.routers = reg.routers ∧ reg'.routerCount = reg.routerCount ∧
        reg'.nextRouterCode = reg.nextRouterCode
  | [], _ => ⟨rfl, rfl, rfl⟩
  | n :: ns, reg => by
    obtain ⟨h₁, h₂, h₃⟩ := foldl_getInterfaceCodeShm_routers code ns (getInterfaceCodeShm reg code n).1
    simp only [List.foldl_cons] at h₁ h₂ h₃ ⊢
    simp only [h₁, h₂, h₃, getInterfaceCodeShm_routers, getInterfaceCodeShm_routerCount,
      getInterfaceCodeShm_nextRouterCode, and_self]

end TracerouteSimulator.Registry
