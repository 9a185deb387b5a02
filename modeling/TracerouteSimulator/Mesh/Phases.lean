import TracerouteSimulator.Mesh.Setup
import Mathlib.Data.List.Dedup

/-! # What the two phases write to the registry

* **Phase A allocates bridges only** (`createHiddenInfrastructure_sameCodes`), and
  **`setup_router_with_veth` never touches the bridge table** (`setupRouterWithVeth_sameBridges`).
* `setup_router_with_veth` leaves the registry as it is when the router and its interfaces already
  hold codes (`setupRouterWithVeth_of_holds`), and claims a router slot for a router that holds none
  (`setupRouterWithVeth_routerCount`): the workers of Phase B write the shared registry.
* **Phase A's bridges are found by Phase B's lookups** (section 3): in every registry state reached
  by the program's own operations, each active bridge is named by `generate_bridge_name` of its
  subnet (`MeshBridgeInv`), so after Phase A every subnet it collected is registered, and
  `find_bridge_by_subnet` finds it in every state the workers reach with code lookups. -/

namespace TracerouteSimulator.Mesh

open Registry Facts

/-! ## (1) Frames -/

/-- **`reg'` has the router and interface tables and code counters of `reg`.** -/
structure SameCodes (reg reg' : ShmRegistry) : Prop where
  routers : reg'.routers = reg.routers
  routerCount : reg'.routerCount = reg.routerCount
  interfaces : reg'.interfaces = reg.interfaces
  interfaceCount : reg'.interfaceCount = reg.interfaceCount
  nextRouterCode : reg'.nextRouterCode = reg.nextRouterCode
  nextInterfaceCodes : reg'.nextInterfaceCodes = reg.nextInterfaceCodes

/-- **`reg'` has the bridge table of `reg`.** -/
structure SameBridges (reg reg' : ShmRegistry) : Prop where
  bridges : reg'.bridges = reg.bridges
  bridgeCount : reg'.bridgeCount = reg.bridgeCount

theorem SameCodes.trans {r₁ r₂ r₃ : ShmRegistry} (h₁ : SameCodes r₁ r₂) (h₂ : SameCodes r₂ r₃) :
    SameCodes r₁ r₃ :=
  ⟨h₂.1.trans h₁.1, h₂.2.trans h₁.2, h₂.3.trans h₁.3, h₂.4.trans h₁.4, h₂.5.trans h₁.5,
    h₂.6.trans h₁.6⟩

theorem SameBridges.trans {r₁ r₂ r₃ : ShmRegistry} (h₁ : SameBridges r₁ r₂)
    (h₂ : SameBridges r₂ r₃) : SameBridges r₁ r₃ :=
  ⟨h₂.1.trans h₁.1, h₂.2.trans h₁.2⟩

theorem sameCodes_refl (reg : ShmRegistry) : SameCodes reg reg := ⟨rfl, rfl, rfl, rfl, rfl, rfl⟩

theorem sameBridges_refl (reg : ShmRegistry) : SameBridges reg reg := ⟨rfl, rfl⟩

theorem registerBridgeShm_sameCodes (reg : ShmRegistry) (name subnet : List Char) :
    SameCodes reg (registerBridgeShm reg name subnet).1 := by
  obtain ⟨b, c, h⟩ := registerBridgeShm_eq reg name subnet
  rw [h]; exact ⟨rfl, rfl, rfl, rfl, rfl, rfl⟩

theorem setBridgeCreated_sameCodes (reg : ShmRegistry) (i : Nat) :
    SameCodes reg (setBridgeCreated reg i) := ⟨rfl, rfl, rfl, rfl, rfl, rfl⟩

theorem registerSubnetBridge_sameCodes (w : World) (s : List Char)
    (st : ShmRegistry × List (List Char) × Nat) :
    SameCodes st.1 (registerSubnetBridge w s st).1 := by
  have h := registerBridgeShm_sameCodes st.1 (generateBridgeName s w.now) s
  rcases hr : registerBridgeShm st.1 (generateBridgeName s w.now) s with ⟨reg, _ | i⟩
  all_goals simp only [registerSubnetBridge, hr] at h ⊢
  · exact h
  · split
    · exact h
    · split
      · exact h.trans (setBridgeCreated_sameCodes _ _)
      · exact h

/-- **Phase A leaves the router and interface tables and their counters alone.** -/
theorem createHiddenInfrastructure_sameCodes (w : World) (ctx : FactsContext) (reg : ShmRegistry)
    (t : Nat) : SameCodes reg (createHiddenInfrastructure w ctx reg t).registry := by
  unfold createHiddenInfrastructure
  split
  · exact sameCodes_refl reg
  · dsimp only
    apply forUntil_induction (fun st : ShmRegistry × List (List Char) × Nat => SameCodes reg st.1)
    · exact fun x _ st _ h => h.trans (registerSubnetBridge_sameCodes w x st)
    · exact sameCodes_refl reg

@[simp] theorem SetupState.queue_registry (st : SetupState) (ns cmd : List Char) :
    (st.queue ns cmd).registry = st.registry := rfl

@[simp] theorem foldl_queue_registry (st : SetupState) (ns : List Char) (cmds : List (List Char)) :
    (cmds.foldl (fun s c => s.queue ns c) st).registry = st.registry := by
  induction cmds generalizing st with
  | nil => rfl
  | cons c cmds ih => simp [ih]

/-- **The registry after one interface**: the one `get_interface_code_shm` leaves. -/
theorem setupInterface_registry (w : World) (ns code : List Char) (iface : Interface)
    (st : SetupState) : (setupInterface w ns code iface st).registry =
      if iface.name = "lo".toList then st.registry
      else (getInterfaceCodeShm st.registry code iface.name).1 := by
  unfold setupInterface
  split
  · rfl
  · rcases h : getInterfaceCodeShm st.registry code iface.name with ⟨reg, c⟩
    simp only [h]
    split <;> simp

/-- **What `setup_router_with_veth` does to the registry**: the `get_router_code_shm` of the router,
then `get_interface_code_shm` with the code it returned, once for some of the interfaces that are
not `lo`. A property of registries that these calls keep holds after the call. -/
theorem setupRouterWithVeth_registry_induction {P : ShmRegistry → Prop} (w : World)
    (router : Router) (reg : ShmRegistry) (t : Nat) (h₀ : w.interrupted t = true → P reg)
    (hrouter : w.interrupted t = false → P (getRouterCodeShm reg router.name).1)
    (hiface : ∀ code, w.interrupted t = false → (getRouterCodeShm reg router.name).2 = some code →
      ∀ s, P s → ∀ iface ∈ router.interfaces, iface.name ≠ "lo".toList →
        P (getInterfaceCodeShm s code iface.name).1) :
    P (setupRouterWithVeth w router reg t).1.registry := by
  unfold setupRouterWithVeth
  split
  · exact h₀ (by assumption)
  · rename_i ht
    have ht : w.interrupted t = false := by simpa using ht
    split
    · rename_i reg' heq
      simpa [heq] using hrouter ht
    · rename_i reg' code heq
      have hr : P reg' := by simpa [heq] using hrouter ht
      split
      · exact hr
      · split
        · exact hr
        · simp only [queueRules_registry, queueRoutes_registry]
          refine forUntil_induction (fun st : SetupState => P st.registry) (fun iface hi st _ h => ?_) hr
          simp only [setupInterface_registry]
          split
          · exact h
          · exact hiface code ht (by simp [heq]) _ h iface hi (by assumption)

/-- **`setup_router_with_veth` never touches the bridge table.** -/
theorem setupRouterWithVeth_sameBridges (w : World) (router : Router) (reg : ShmRegistry)
    (t : Nat) : SameBridges reg (setupRouterWithVeth w router reg t).1.registry :=
  setupRouterWithVeth_registry_induction w router reg t (fun _ => sameBridges_refl reg)
    (fun _ => ⟨by simp, by simp⟩) (fun _ _ _ _ h _ _ _ => h.trans ⟨by simp, by simp⟩)

/-- **A router and interfaces that already hold codes leave the registry as it is**: every
`get_router_code_shm` and `get_interface_code_shm` of the call finds its entry. -/
theorem setupRouterWithVeth_of_holds {w : World} {router : Router} {reg : ShmRegistry} {t i : Nat}
    (hr : RouterTableInv reg) (hf : InterfaceTableInv reg) (hi : HoldsRouter reg i router.name)
    (hifs : ∀ iface ∈ router.interfaces, iface.name ≠ "lo".toList →
      ∃ j, HoldsInterface reg i j iface.name) :
    (setupRouterWithVeth w router reg t).1.registry = reg := by
  have hget : getRouterCodeShm reg router.name = (reg, some (routerCodeText i)) := by
    obtain ⟨i', hi', hname, he⟩ | ⟨hfresh, -⟩ | ⟨hfresh, -⟩ := getRouterCodeShm_cases hr router.name
    · rw [he, hr.name_inj i' hi' i hi.1 (hname.trans hi.2.symm)]
    · exact absurd hi.2 (hfresh i hi.1)
    · exact absurd hi.2 (hfresh i hi.1)
  refine setupRouterWithVeth_registry_induction (P := (· = reg)) w router reg t (fun _ => rfl)
    (fun _ => by rw [hget]) fun code _ hc s hs iface hmem hlo => ?_
  rw [hget, Option.some.injEq] at hc
  subst hc hs
  obtain ⟨j, hj⟩ := hifs iface hmem hlo
  obtain ⟨_, -, -, he⟩ | ⟨hfresh, -⟩ | ⟨hfresh, -⟩ :=
    getInterfaceCodeShm_cases hf (lt_of_lt_of_le hi.1 hr.count_le) iface.name
  · rw [he]
  · exact absurd hj.2 (hfresh j hj.1)
  · exact absurd hj.2 (hfresh j hj.1)

/-- **A router that holds no code gets a slot** from its own `setup_router_with_veth`. -/
theorem setupRouterWithVeth_routerCount {w : World} {router : Router} {reg : ShmRegistry}
    {t : Nat} (hr : RouterTableInv reg) (hn : ∀ i, ¬ HoldsRouter reg i router.name)
    (hc : reg.routerCount < maxRouters) (ht : w.interrupted t = false) :
    (setupRouterWithVeth w router reg t).1.registry.routerCount = reg.routerCount + 1 := by
  have hcount : (getRouterCodeShm reg router.name).1.routerCount = reg.routerCount + 1 := by
    obtain ⟨i, hi, hname, -⟩ | ⟨-, hfull, -⟩ | ⟨-, -, he⟩ := getRouterCodeShm_cases hr router.name
    · exact absurd ⟨hi, hname⟩ (hn i)
    · omega
    · rw [he]; rfl
  exact setupRouterWithVeth_registry_induction (P := fun s => s.routerCount = reg.routerCount + 1)
    w router reg t (fun h => by simp [ht] at h) (fun _ => hcount)
    fun _ _ _ s hs _ _ _ => by simpa using hs

/-- **What the phases write to the registry.** Phase A changes no router or interface entry and no
code counter; `setup_router_with_veth` changes no bridge entry; it leaves a reachable registry as it
is when the router and each of its interfaces other than `lo` already hold codes; and it claims a
router slot, when one is free, for a router that holds none. -/
theorem phases_registry_writes :
    (∀ w ctx reg t, SameCodes reg (createHiddenInfrastructure w ctx reg t).registry) ∧
    (∀ w router reg t, SameBridges reg (setupRouterWithVeth w router reg t).1.registry) ∧
    (∀ w router reg t i, Reachable RegistryOp.NamesFit reg → HoldsRouter reg i router.name →
      (∀ iface ∈ router.interfaces, iface.name ≠ "lo".toList →
        ∃ j, HoldsInterface reg i j iface.name) →
      (setupRouterWithVeth w router reg t).1.registry = reg) ∧
    (∀ w router reg t, Reachable RegistryOp.NamesFit reg → (∀ i, ¬ HoldsRouter reg i router.name) →
      reg.routerCount < maxRouters → w.interrupted t = false →
      (setupRouterWithVeth w router reg t).1.registry.routerCount = reg.routerCount + 1) :=
  ⟨createHiddenInfrastructure_sameCodes, setupRouterWithVeth_sameBridges,
    fun _ _ _ _ _ hreg hi hifs => setupRouterWithVeth_of_holds (namesInv_of_reachable hreg).1
      (namesInv_of_reachable hreg).2 hi hifs,
    fun _ _ _ _ hreg hn hc ht => setupRouterWithVeth_routerCount (namesInv_of_reachable hreg).1
      hn hc ht⟩

/-- **The two setups of router `r1`** with interface `eth0`: on the registry where `r1` and `eth0`
already hold codes (as after a first setup), the setup leaves it as it is; on the cleared registry
it claims slot `0`. -/
theorem phases_registry_writes_r1 :
    let w : World := ⟨fun _ => true, fun _ => false, true, 0⟩
    let r1 : Router := ⟨"r1".toList,
      [⟨"eth0".toList, none, 1500, true, [⟨"10.1.1.1/24".toList, none⟩]⟩], [], [], [], none, none⟩
    let reg₁ := (getInterfaceCodeShm (getRouterCodeShm cleared "r1".toList).1 (routerCodeText 0)
      "eth0".toList).1
    (HoldsRouter reg₁ 0 r1.name ∧ HoldsInterface reg₁ 0 0 "eth0".toList ∧
      (setupRouterWithVeth w r1 reg₁ 0).1.registry = reg₁) ∧
    ((∀ i, ¬ HoldsRouter cleared i r1.name) ∧
      (setupRouterWithVeth w r1 cleared 0).1.registry.routerCount = cleared.routerCount + 1) := by
  intro w r1 reg₁
  have hreg : Reachable RegistryOp.NamesFit reg₁ :=
    .step (.getInterfaceCode _ _)
      (.step (.getRouterCode _) .cleared (show "r1".toList.length < maxNameLen by decide))
      ⟨⟨0, by decide, rfl⟩, by decide⟩
  have hr : HoldsRouter reg₁ 0 r1.name := by unfold HoldsRouter; decide
  have hi : HoldsInterface reg₁ 0 0 "eth0".toList := by unfold HoldsInterface; decide
  have hn : ∀ i, ¬ HoldsRouter cleared i r1.name := fun _ h => Nat.not_lt_zero _ h.1
  obtain ⟨-, -, h₃, h₄⟩ := phases_registry_writes
  exact ⟨⟨hr, hi, h₃ w r1 reg₁ 0 0 hreg hr fun _ hm _ => ⟨0, List.mem_singleton.mp hm ▸ hi⟩⟩,
    hn, h₄ w r1 cleared 0 .cleared hn (by decide) rfl⟩

/-- **Phase B writes the registry after Phase A**: from the cleared registry, a router `r1` with
one interface gets through Phase A without interruption, and its own setup then claims a router
slot. -/
theorem setup_after_phaseA_claims_router_slot :
    let w : World := ⟨fun _ => true, fun _ => false, true, 0⟩
    let r1 : Router := ⟨"r1".toList,
      [⟨"eth0".toList, none, 1500, true, [⟨"10.1.1.1/24".toList, none⟩]⟩], [], [], [], none, none⟩
    let phaseA := createHiddenInfrastructure w ⟨[r1]⟩ cleared 0
    phaseA.status = 0 ∧ (∀ t, w.interrupted t = false) ∧
      (setupRouterWithVeth w r1 phaseA.registry phaseA.next).1.registry.routerCount ≠
        phaseA.registry.routerCount :=
  ⟨by decide, fun _ => rfl, by decide⟩

/-! ## (2) Bridges named after their subnets -/

/-- **A subnet text whose prefix is below `100`**, so that `generate_bridge_name` does not cut it. -/
def ShortSubnet (s : List Char) : Prop := ∃ m p, m < 2 ^ 32 ∧ p < 100 ∧ s = subnetText m p

/-- **The registry operations of the program's own runs**: code lookups with names that fit, and
bridges that `create_hidden_infrastructure` registers, named by `generate_bridge_name` of a subnet
text with a prefix below `100`. -/
def meshFits : RegistryOp → Prop
  | .registerBridge name subnet => ShortSubnet subnet ∧ ∃ now, name = generateBridgeName subnet now
  | op => op.NamesFit

theorem ShortSubnet.length_le {s : List Char} (hs : ShortSubnet s) : s.length ≤ 31 := by
  obtain ⟨m, p, -, hp, rfl⟩ := hs; exact subnetText_length_le (by omega)

/-- The bridge name of a short subnet is its 15 characters, whatever the time. -/
theorem ShortSubnet.generateBridgeName_eq {s : List Char} (hs : ShortSubnet s) (now : Nat) :
    generateBridgeName s now = generateBridgeName s 0 := by
  obtain ⟨m, p, -, hp, rfl⟩ := hs
  rw [generateBridgeName_subnetText_of_lt m hp, generateBridgeName_subnetText_of_lt m hp]

theorem ShortSubnet.generateBridgeName_length {s : List Char} (hs : ShortSubnet s) (now : Nat) :
    (generateBridgeName s now).length = 15 := by
  obtain ⟨m, p, -, hp, rfl⟩ := hs
  rw [generateBridgeName_subnetText_of_lt m hp]
  exact bridgeText_length (octet_lt_thousand m 0) (octet_lt_thousand m 1) (octet_lt_thousand m 2)
    (octet_lt_thousand m 3) hp

/-- **Short subnets with one bridge name are one subnet.** -/
theorem ShortSubnet.inj {s s' : List Char} (hs : ShortSubnet s) (hs' : ShortSubnet s') {now now' : Nat}
    (h : generateBridgeName s now = generateBridgeName s' now') : s = s' := by
  obtain ⟨m, p, hm, hp, rfl⟩ := hs
  obtain ⟨m', p', hm', hp', rfl⟩ := hs'
  exact generateBridgeName_injective hm hm' hp hp' h

/-- **Every active bridge is named after its subnet**, a short subnet text. -/
structure MeshBridgeInv (reg : ShmRegistry) : Prop where
  /-- The bridge table invariant. -/
  table : BridgeTableInv reg
  /-- The subnet of an active entry is short and the entry carries its bridge name. -/
  named : ∀ i < reg.bridgeCount, ShortSubnet (reg.bridges i).subnet ∧
    (reg.bridges i).bridgeName = generateBridgeName (reg.bridges i).subnet 0

theorem meshBridgeInv_cleared : MeshBridgeInv cleared :=
  ⟨bridgeTableInv_cleared, by simp [cleared]⟩

theorem MeshBridgeInv.of_same {reg reg' : ShmRegistry} (hi : MeshBridgeInv reg)
    (h : SameBridges reg reg') : MeshBridgeInv reg' :=
  ⟨hi.table.of_eq h.bridges h.bridgeCount, by rw [h.bridges, h.bridgeCount]; exact hi.named⟩

theorem MeshBridgeInv.setBridgeCreated {reg : ShmRegistry} (hi : MeshBridgeInv reg) (i : Nat) :
    MeshBridgeInv (setBridgeCreated reg i) := by
  refine ⟨hi.table.setBridgeCreated i, fun j hj => ?_⟩
  have := hi.named j hj
  simp only [Registry.setBridgeCreated, Function.update_apply] at hj ⊢
  split <;> simp_all

/-- **Registering a short subnet under its bridge name keeps the invariant.** -/
theorem MeshBridgeInv.register {reg : ShmRegistry} (hi : MeshBridgeInv reg) {s : List Char}
    (hs : ShortSubnet s) (now : Nat) :
    MeshBridgeInv (registerBridgeShm reg (generateBridgeName s now) s).1 := by
  have hn := hs.generateBridgeName_length now
  obtain ⟨i, -, -, h⟩ | ⟨-, -, h⟩ | ⟨hfresh, hc, h⟩ :=
    registerBridgeShm_cases hi.table (generateBridgeName s now) s
  · rw [h]; exact hi
  · rw [h]; exact hi
  · rw [h]
    refine ⟨hi.table.claim (by unfold bridgeFieldLen; omega) hfresh hc, fun j hj => ?_⟩
    simp only [ShmRegistry.claimBridgeSlot] at hj ⊢
    by_cases hjc : j = reg.bridgeCount
    · subst hjc
      simp only [Function.update_same, List.take_of_length_le (hs.length_le.trans (le_of_eq rfl) :
        s.length ≤ bridgeFieldLen - 1), List.take_of_length_le (by unfold bridgeFieldLen; omega :
        (generateBridgeName s now).length ≤ bridgeFieldLen - 1)]
      exact ⟨hs, hs.generateBridgeName_eq now⟩
    · rw [Function.update_noteq hjc]; exact hi.named j (by omega)

/-- **Every registry state the program's operations reach keeps the invariant.** -/
theorem meshBridgeInv_of_reachable {reg : ShmRegistry} (h : Reachable meshFits reg) :
    MeshBridgeInv reg := by
  refine Reachable.induct (P := MeshBridgeInv) meshBridgeInv_cleared (fun reg op hi hok => ?_) h
  cases op with
  | getRouterCode name => exact hi.of_same ⟨by simp [RegistryOp.apply], by simp [RegistryOp.apply]⟩
  | getInterfaceCode code name =>
    exact hi.of_same ⟨by simp [RegistryOp.apply], by simp [RegistryOp.apply]⟩
  | registerBridge name subnet =>
    obtain ⟨hs, now, rfl⟩ := hok
    exact hi.register hs now
  | setCreated slot => exact hi.setBridgeCreated slot
  | clear => exact meshBridgeInv_cleared

/-! ## (3) Phase A registers every subnet -/

/-- **Some active bridge entry has the subnet `s`.** -/
def Registered (reg : ShmRegistry) (s : List Char) : Prop :=
  ∃ k < reg.bridgeCount, (reg.bridges k).subnet = s

theorem Registered.of_same {reg reg' : ShmRegistry} {s : List Char} (h : Registered reg s)
    (hs : SameBridges reg reg') : Registered reg' s := by
  rw [Registered, hs.bridges, hs.bridgeCount]; exact h

theorem Registered.setBridgeCreated {reg : ShmRegistry} {s : List Char} (h : Registered reg s)
    (i : Nat) : Registered (setBridgeCreated reg i) s := by
  obtain ⟨k, hk, hks⟩ := h
  refine ⟨k, hk, ?_⟩
  simp only [Registry.setBridgeCreated, Function.update_apply]
  split <;> simp_all

/-- **Registration keeps every registered subnet**: a claim writes the slot past the active ones. -/
theorem Registered.register {reg : ShmRegistry} (hi : BridgeTableInv reg) {s : List Char}
    (h : Registered reg s) (name subnet : List Char) :
    Registered (registerBridgeShm reg name subnet).1 s := by
  obtain ⟨k, hk, hks⟩ := h
  obtain ⟨i, -, -, he⟩ | ⟨-, -, he⟩ | ⟨-, -, he⟩ := registerBridgeShm_cases hi name subnet
  · rw [he]; exact ⟨k, hk, hks⟩
  · rw [he]; exact ⟨k, hk, hks⟩
  · rw [he]
    exact ⟨k, by simp [ShmRegistry.claimBridgeSlot]; omega, by
      simp [ShmRegistry.claimBridgeSlot, Function.update_noteq (Nat.ne_of_lt hk), hks]⟩

/-- **Registering a short subnet under its bridge name registers it**, unless the table is full of
other bridges: an entry found under the name has this subnet, since bridge names are injective. -/
theorem registered_register {reg : ShmRegistry} (hi : MeshBridgeInv reg) {s : List Char}
    (hs : ShortSubnet s) (now : Nat) (hc : reg.bridgeCount < maxBridges) :
    Registered (registerBridgeShm reg (generateBridgeName s now) s).1 s := by
  obtain ⟨i, hi', hname, he⟩ | ⟨-, hfull, -⟩ | ⟨-, -, he⟩ :=
    registerBridgeShm_cases hi.table (generateBridgeName s now) s
  · rw [he]
    obtain ⟨hsi, hni⟩ := hi.named i hi'
    exact ⟨i, hi', hsi.inj hs (hni.symm.trans hname)⟩
  · omega
  · rw [he]
    refine ⟨reg.bridgeCount, by simp [ShmRegistry.claimBridgeSlot], ?_⟩
    simp only [ShmRegistry.claimBridgeSlot, Function.update_same]
    exact List.take_of_length_le (hs.length_le.trans (le_of_eq rfl))

theorem registerBridgeShm_bridgeCount_le {reg : ShmRegistry} (hi : BridgeTableInv reg)
    (name subnet : List Char) :
    (registerBridgeShm reg name subnet).1.bridgeCount ≤ reg.bridgeCount + 1 := by
  obtain ⟨i, -, -, he⟩ | ⟨-, -, he⟩ | ⟨-, -, he⟩ := registerBridgeShm_cases hi name subnet <;>
    rw [he] <;> simp [ShmRegistry.claimBridgeSlot]

/-- **One iteration of the bridge loop** registers the subnet and keeps what was registered. -/
theorem registerSubnetBridge_spec (w : World) {s : List Char} (hs : ShortSubnet s)
    {st : ShmRegistry × List (List Char) × Nat} (hi : MeshBridgeInv st.1)
    (hc : st.1.bridgeCount < maxBridges) :
    MeshBridgeInv (registerSubnetBridge w s st).1 ∧ Registered (registerSubnetBridge w s st).1 s ∧
      (∀ s', Registered st.1 s' → Registered (registerSubnetBridge w s st).1 s') ∧
      (registerSubnetBridge w s st).1.bridgeCount ≤ st.1.bridgeCount + 1 := by
  have key : MeshBridgeInv (registerBridgeShm st.1 (generateBridgeName s w.now) s).1 ∧
      Registered (registerBridgeShm st.1 (generateBridgeName s w.now) s).1 s ∧
      (∀ s', Registered st.1 s' → Registered (registerBridgeShm st.1
        (generateBridgeName s w.now) s).1 s') ∧
      (registerBridgeShm st.1 (generateBridgeName s w.now) s).1.bridgeCount ≤
        st.1.bridgeCount + 1 :=
    ⟨hi.register hs w.now, registered_register hi hs w.now hc,
      fun s' h => h.register hi.table _ _, registerBridgeShm_bridgeCount_le hi.table _ _⟩
  rcases hr : registerBridgeShm st.1 (generateBridgeName s w.now) s with ⟨reg, _ | i⟩
  all_goals simp only [registerSubnetBridge, hr] at key ⊢
  · exact key
  · obtain ⟨k₁, k₂, k₃, k₄⟩ := key
    split
    · exact ⟨k₁, k₂, k₃, k₄⟩
    · split
      · exact ⟨k₁.setBridgeCreated i, k₂.setBridgeCreated i,
          fun s' h => (k₃ s' h).setBridgeCreated i, k₄⟩
      · exact ⟨k₁, k₂, k₃, k₄⟩

/-- **The bridge loop of Phase A**, run without interruption on short subnets that fit the table,
registers every one of them and keeps what was registered. -/
theorem registerBridges_spec {w : World} (hw : ∀ t, w.interrupted t = false) :
    ∀ (subnets : List (List Char)) (st : ShmRegistry × List (List Char) × Nat) (t : Nat),
      MeshBridgeInv st.1 → (∀ s ∈ subnets, ShortSubnet s) →
      st.1.bridgeCount + subnets.length ≤ maxBridges →
      let reg := (forUntil w (fun s st => (registerSubnetBridge w s st.1, st.2)) subnets (st, t)).1.1
      MeshBridgeInv reg ∧ (∀ s ∈ subnets, Registered reg s) ∧
        ∀ s, Registered st.1 s → Registered reg s
  | [], st, _, hi, _, _ => ⟨hi, fun _ h => absurd h (List.not_mem_nil _), fun _ h => h⟩
  | s :: rest, st, t, hi, hs, hc => by
    simp only [List.length_cons] at hc
    obtain ⟨h₁, h₂, h₃, h₄⟩ :=
      registerSubnetBridge_spec w (hs s (List.mem_cons_self _ _)) hi (by omega)
    obtain ⟨ih₁, ih₂, ih₃⟩ := registerBridges_spec hw rest (registerSubnetBridge w s st) (t + 1)
      h₁ (fun s' h => hs s' (List.mem_cons_of_mem _ h)) (by omega)
    rw [forUntil_of_never hw]
    refine ⟨ih₁, fun s' hs' => ?_, fun s' h => ih₃ s' (h₃ s' h)⟩
    rcases List.mem_cons.mp hs' with rfl | hs'
    · exact ih₃ _ h₂
    · exact ih₂ s' hs'

/-- The subnets of an interface's addresses, in order. -/
def interfaceSubnets (iface : Interface) : List (List Char) :=
  iface.addresses.filterMap fun a => subnetOf a.ip

/-- **Every subnet of a facts context**: of every address of every interface of every router. -/
def contextSubnets (ctx : FactsContext) : List (List Char) :=
  ctx.routers.flatMap fun r => r.interfaces.flatMap interfaceSubnets

section Collect

variable {U : List (List Char)} (hU : U.dedup.length ≤ maxBridges)
include hU

/-- **One address keeps its subnet**: with all subnets drawn from `U`, which holds at most
`MAX_BRIDGES` distinct ones, a new subnet always finds room. -/
theorem collectStep_spec {acc : List (List Char)} (hnd : acc.Nodup) (hsub : acc ⊆ U)
    {a : Address} (ha : ∀ s, subnetOf a.ip = some s → s ∈ U) :
    (collectStep acc a).Nodup ∧ collectStep acc a ⊆ U ∧ acc ⊆ collectStep acc a ∧
      ∀ s, subnetOf a.ip = some s → s ∈ collectStep acc a := by
  unfold collectStep
  cases h : subnetOf a.ip with
  | none => exact ⟨hnd, hsub, List.Subset.refl _, by simp⟩
  | some s =>
    by_cases hs : s ∈ acc
    · simp only [hs, not_true_eq_false, false_and, ↓reduceIte, Option.some.injEq]
      exact ⟨hnd, hsub, List.Subset.refl _, fun _ h => h ▸ hs⟩
    · have hnd' : (s :: acc).Nodup := List.nodup_cons.mpr ⟨hs, hnd⟩
      have hlen := (hnd'.subperm fun x hx => List.mem_dedup.mpr
        (by rcases List.mem_cons.mp hx with rfl | hx; exacts [ha x h, hsub hx])).length_le
      simp only [List.length_cons] at hlen
      simp only [hs, not_false_eq_true, true_and, show acc.length < maxBridges by omega,
        ↓reduceIte, Option.some.injEq]
      refine ⟨List.nodup_append.mpr ⟨hnd, List.nodup_singleton s, fun x hx hx' => ?_⟩,
        fun x hx => ?_, List.subset_append_left _ _, fun _ h => h ▸ by simp⟩
      · rw [List.mem_singleton] at hx'; subst hx'; exact hs hx
      · rcases List.mem_append.mp hx with hx | hx
        · exact hsub hx
        · rw [List.mem_singleton.mp hx]; exact ha s h

/-- **The address loop keeps every subnet of its addresses.** -/
theorem collectAddresses_spec (addrs : List Address) :
    ∀ (acc : List (List Char)), acc.Nodup → acc ⊆ U →
      (∀ a ∈ addrs, ∀ s, subnetOf a.ip = some s → s ∈ U) →
      (collectAddresses addrs acc).Nodup ∧ collectAddresses addrs acc ⊆ U ∧
        acc ⊆ collectAddresses addrs acc ∧
        ∀ a ∈ addrs, ∀ s, subnetOf a.ip = some s → s ∈ collectAddresses addrs acc := by
  induction addrs with
  | nil => exact fun acc hnd hsub _ => ⟨hnd, hsub, List.Subset.refl _, by simp⟩
  | cons a rest ih =>
    intro acc hnd hsub hU'
    obtain ⟨h₁, h₂, h₃, h₄⟩ := collectStep_spec hU hnd hsub (hU' a (List.mem_cons_self _ _))
    obtain ⟨i₁, i₂, i₃, i₄⟩ := ih _ h₁ h₂ fun b hb => hU' b (List.mem_cons_of_mem _ hb)
    refine ⟨i₁, i₂, fun x hx => i₃ (h₃ hx), fun b hb s hs => ?_⟩
    rcases List.mem_cons.mp hb with rfl | hb
    · exact i₃ (h₄ s hs)
    · exact i₄ b hb s hs

end Collect

/-- **A collecting loop run without interruption**: when each iteration keeps an invariant, keeps
what was collected and adds what its element contributes, the loop collects what every element
contributes. -/
theorem forUntil_collects {α : Type} {w : World} (hw : ∀ t, w.interrupted t = false)
    {I : List (List Char) → Prop} {Q : α → List Char → Prop}
    {body : α → List (List Char) × Nat → List (List Char) × Nat} (xs : List α)
    (hstep : ∀ x ∈ xs, ∀ acc t, I acc → I (body x (acc, t)).1 ∧ acc ⊆ (body x (acc, t)).1 ∧
      ∀ s, Q x s → s ∈ (body x (acc, t)).1) :
    ∀ acc t, I acc → I (forUntil w body xs (acc, t)).1 ∧ acc ⊆ (forUntil w body xs (acc, t)).1 ∧
      ∀ x ∈ xs, ∀ s, Q x s → s ∈ (forUntil w body xs (acc, t)).1 := by
  induction xs with
  | nil => exact fun acc _ h => ⟨h, List.Subset.refl _, by simp⟩
  | cons x xs ih =>
    intro acc t h
    rw [forUntil_of_never hw]
    obtain ⟨h₁, h₂, h₃⟩ := hstep x (List.mem_cons_self _ _) acc (t + 1) h
    obtain ⟨i₁, i₂, i₃⟩ := ih (fun y hy => hstep y (List.mem_cons_of_mem _ hy)) _ _ h₁
    refine ⟨i₁, fun s hs => i₂ (h₂ hs), fun y hy s hs => ?_⟩
    rcases List.mem_cons.mp hy with rfl | hy
    · exact i₂ (h₃ s hs)
    · exact i₃ y hy s hs

theorem mem_contextSubnets {ctx : FactsContext} {s : List Char} :
    s ∈ contextSubnets ctx ↔ ∃ r ∈ ctx.routers, ∃ i ∈ r.interfaces, ∃ a ∈ i.addresses,
      subnetOf a.ip = some s := by
  simp [contextSubnets, interfaceSubnets]

/-- **Without interruption the collection keeps every subnet of the context**, once each, when the
context has at most `MAX_BRIDGES` distinct subnets. -/
theorem collectSubnets_spec {w : World} (hw : ∀ t, w.interrupted t = false) (ctx : FactsContext)
    (hU : (contextSubnets ctx).dedup.length ≤ maxBridges) (t : Nat) :
    (collectSubnets w ctx.routers ([], t)).1.Nodup ∧
      (collectSubnets w ctx.routers ([], t)).1 ⊆ contextSubnets ctx ∧
      ∀ s ∈ contextSubnets ctx, s ∈ (collectSubnets w ctx.routers ([], t)).1 := by
  have hiface : ∀ r ∈ ctx.routers, ∀ acc t', acc.Nodup ∧ acc ⊆ contextSubnets ctx →
      let res := (forUntil w (fun i st => (collectAddresses i.addresses st.1, st.2)) r.interfaces
        (acc, t')).1
      (res.Nodup ∧ res ⊆ contextSubnets ctx) ∧ acc ⊆ res ∧
        ∀ i ∈ r.interfaces, ∀ s, (∃ a ∈ i.addresses, subnetOf a.ip = some s) → s ∈ res := by
    intro r hr
    refine forUntil_collects hw r.interfaces fun i hi acc _ h => ?_
    obtain ⟨h₁, h₂, h₃, h₄⟩ := collectAddresses_spec hU i.addresses acc h.1 h.2
      fun a ha s hs => mem_contextSubnets.mpr ⟨r, hr, i, hi, a, ha, hs⟩
    exact ⟨⟨h₁, h₂⟩, h₃, fun s ⟨a, ha, hs⟩ => h₄ a ha s hs⟩
  obtain ⟨⟨h₁, h₂⟩, -, h₃⟩ := forUntil_collects hw (I := fun acc => acc.Nodup ∧
      acc ⊆ contextSubnets ctx)
    (Q := fun r s => ∃ i ∈ r.interfaces, ∃ a ∈ i.addresses, subnetOf a.ip = some s) ctx.routers
    (fun r hr acc t' h => by
      obtain ⟨i₁, i₂, i₃⟩ := hiface r hr acc t' h
      exact ⟨i₁, i₂, fun s ⟨i, hi, hs⟩ => i₃ i hi s hs⟩) [] t ⟨List.nodup_nil, List.nil_subset _⟩
  refine ⟨h₁, h₂, fun s hs => ?_⟩
  obtain ⟨r, hr, i, hi, a, ha, has⟩ := mem_contextSubnets.mp hs
  exact h₃ r hr s ⟨i, hi, a, ha, has⟩

/-- **Phase A, run without interruption, registers every subnet of the context** when the table
has room for all of them, and keeps the bridges named after their subnets. -/
theorem createHiddenInfrastructure_registers {w : World} (hw : ∀ t, w.interrupted t = false)
    {ctx : FactsContext} {reg : ShmRegistry} (hi : MeshBridgeInv reg)
    (hshort : ∀ s ∈ contextSubnets ctx, ShortSubnet s)
    (hcap : reg.bridgeCount + (contextSubnets ctx).dedup.length ≤ maxBridges) {t : Nat}
    (hA : (createHiddenInfrastructure w ctx reg t).status = 0) :
    MeshBridgeInv (createHiddenInfrastructure w ctx reg t).registry ∧
      ∀ s ∈ contextSubnets ctx, Registered (createHiddenInfrastructure w ctx reg t).registry s := by
  obtain ⟨hnd, hsub, hall⟩ := collectSubnets_spec hw ctx (by omega) t
  have hlen := (hnd.subperm fun x hx => List.mem_dedup.mpr (hsub hx)).length_le
  rcases hns : createNamespaceSafe w hiddenNs with ⟨_ | _, sys⟩
  · simp [createHiddenInfrastructure, hns] at hA
  · simp only [createHiddenInfrastructure, hns]
    obtain ⟨h₁, h₂, -⟩ := registerBridges_spec hw _ (reg, sys, 0) _ hi
      (fun s hs => hshort s (hsub hs)) (by simp only; omega)
    exact ⟨h₁, fun s hs => h₂ s (hall s hs)⟩

/-- **`find_bridge_by_subnet` finds a registered subnet**, in an active entry named after it. -/
theorem findBridgeBySubnet_of_registered {reg : ShmRegistry} (hi : MeshBridgeInv reg)
    {s : List Char} (h : Registered reg s) (now : Nat) :
    ∃ k, findBridgeBySubnet reg s = some k ∧ (reg.bridges k).active ∧
      (reg.bridges k).bridgeName = generateBridgeName s now := by
  obtain ⟨k₀, hk₀, hs⟩ := h
  cases hf : findBridgeBySubnet reg s with
  | none =>
    have := scanFrom_eq_none_iff.mp hf k₀ (Nat.zero_le _)
      (by have := hi.table.count_le; simp only [maxBridges] at this ⊢; omega)
    simp [(hi.table.active_iff k₀).mpr hk₀, hs] at this
  | some k =>
    obtain ⟨-, -, hp, -⟩ := scanFrom_eq_some_iff.mp hf
    simp only [Bool.and_eq_true, beq_iff_eq] at hp
    obtain ⟨hshort, hname⟩ := hi.named k ((hi.table.active_iff k).mp hp.1)
    rw [hp.2] at hshort hname
    exact ⟨k, rfl, hp.1, hname.trans (hshort.generateBridgeName_eq now).symm⟩

/-- **One registry operation of a Phase B worker**: a router or interface code lookup, which
`setup_router_with_veth` issues in any interleaving of the workers. -/
def CodeStep (reg reg' : ShmRegistry) : Prop :=
  (∃ name, reg' = (getRouterCodeShm reg name).1) ∨
    ∃ code name, reg' = (getInterfaceCodeShm reg code name).1

theorem codeSteps_sameBridges {reg reg' : ShmRegistry} (h : Relation.ReflTransGen CodeStep reg reg') :
    SameBridges reg reg' := by
  induction h with
  | refl => exact sameBridges_refl reg
  | tail _ hs ih =>
    rcases hs with ⟨name, rfl⟩ | ⟨code, name, rfl⟩
    · exact ih.trans ⟨by simp, by simp⟩
    · exact ih.trans ⟨by simp, by simp⟩

/-- **Phase A's bridges are what Phase B's lookups find.** For a registry reached by the program's
own operations, a context whose IPv4 prefixes are below `100` and whose distinct subnets fit the
bridge table beside the registered bridges, and a Phase A that returns `0` without interruption:
in every registry state the workers reach from it by code lookups, in any interleaving, the lookup
`find_bridge_by_subnet` on the subnet of an interface's first IPv4 address returns an active entry
named `generate_bridge_name` of that subnet, and the lookup of a subnet returns the same entry in
all these states. -/
theorem phaseA_bridges_found {w : World} (hw : ∀ t, w.interrupted t = false)
    {ctx : FactsContext} {reg : ShmRegistry} (hreg : Reachable meshFits reg)
    (hpfx : ∀ r ∈ ctx.routers, ∀ i ∈ r.interfaces, ∀ a ∈ i.addresses,
      (subnetOf a.ip).isSome → (splitCidr a.ip).2 < 100)
    (hcap : reg.bridgeCount + (contextSubnets ctx).dedup.length ≤ maxBridges) {t : Nat}
    (hA : (createHiddenInfrastructure w ctx reg t).status = 0) :
    ∀ reg', Relation.ReflTransGen CodeStep (createHiddenInfrastructure w ctx reg t).registry reg' →
      (∀ r ∈ ctx.routers, ∀ i ∈ r.interfaces, ∀ s, firstSubnet i = some s →
        ∃ k, findBridgeBySubnet reg' s = some k ∧ (reg'.bridges k).active ∧
          (reg'.bridges k).bridgeName = generateBridgeName s w.now) ∧
      ∀ s, findBridgeBySubnet reg' s =
        findBridgeBySubnet (createHiddenInfrastructure w ctx reg t).registry s := by
  have hshort : ∀ s ∈ contextSubnets ctx, ShortSubnet s := by
    intro s hs
    obtain ⟨r, hr, i, hi, a, ha, has⟩ := mem_contextSubnets.mp hs
    obtain ⟨m, -, rfl⟩ := subnetOf_eq_some has
    exact ⟨_, _, land_subnetMask_lt m _, hpfx r hr i hi a ha (by simp [has]), rfl⟩
  obtain ⟨hinv, hreg'⟩ := createHiddenInfrastructure_registers hw (meshBridgeInv_of_reachable hreg)
    hshort hcap hA
  intro reg' hsteps
  have hsame := codeSteps_sameBridges hsteps
  refine ⟨fun r hr i hi s hs => ?_, fun s => by simp only [findBridgeBySubnet, hsame.bridges]⟩
  obtain ⟨a, ha, has⟩ := List.exists_of_findSome?_eq_some hs
  exact findBridgeBySubnet_of_registered (hinv.of_same hsame)
    ((hreg' s (mem_contextSubnets.mpr ⟨r, hr, i, hi, a, ha, has⟩)).of_same hsame) w.now

/-- **One router with one interface**: its subnet `10.1.1.0/24` is found after Phase A. -/
theorem phaseA_bridges_found_one_router :
    let w : World := ⟨fun _ => true, fun _ => false, true, 0⟩
    let eth0 : Interface := ⟨"eth0".toList, none, 1500, true, [⟨"10.1.1.1/24".toList, none⟩]⟩
    let r1 : Router := ⟨"r1".toList, [eth0], [], [], [], none, none⟩
    ∃ k, findBridgeBySubnet (createHiddenInfrastructure w ⟨[r1]⟩ cleared 0).registry
        "10.1.1.0/24".toList = some k ∧
      ((createHiddenInfrastructure w ⟨[r1]⟩ cleared 0).registry.bridges k).active ∧
      ((createHiddenInfrastructure w ⟨[r1]⟩ cleared 0).registry.bridges k).bridgeName =
        generateBridgeName "10.1.1.0/24".toList 0 :=
  (phaseA_bridges_found (fun _ => rfl) .cleared (by decide) (by decide) (by decide) _ .refl).1 _
    (List.mem_singleton_self _) _ (List.mem_singleton_self _) _ (by decide)

set_option maxRecDepth 10000 in
/-- **Prefixes `100` and `101` of one address share a bridge name**: `b000000000000100` and
`b000000000000101` are cut to the same 15 characters, so Phase A registers `0.0.0.0/101` under the
entry of `0.0.0.0/100`, and the lookup for the second interface finds nothing. -/
theorem phaseA_prefix_collision :
    let w : World := ⟨fun _ => true, fun _ => false, true, 0⟩
    let eth1 : Interface := ⟨"eth1".toList, none, 1500, true, [⟨"1.1.1.1/101".toList, none⟩]⟩
    let r1 : Router := ⟨"r1".toList, [⟨"eth0".toList, none, 1500, true,
      [⟨"1.1.1.1/100".toList, none⟩]⟩, eth1], [], [], [], none, none⟩
    let phaseA := createHiddenInfrastructure w ⟨[r1]⟩ cleared 0
    phaseA.status = 0 ∧ cleared.bridgeCount + (contextSubnets ⟨[r1]⟩).dedup.length ≤ maxBridges ∧
      firstSubnet eth1 = some "0.0.0.0/101".toList ∧
      findBridgeBySubnet phaseA.registry "0.0.0.0/101".toList = none := by
  decide

end TracerouteSimulator.Mesh
