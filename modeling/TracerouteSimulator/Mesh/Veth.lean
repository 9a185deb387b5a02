import TracerouteSimulator.Mesh.Setup

/-! # Phase B on an exhausted interface block

`get_interface_code_shm` returns `NULL` once the 64 positions of a router's block hold other
names. `setup_router_with_veth` does not test for it: the code goes to `snprintf("%s%sr")`, which
prints `(null)`, and the router's status stays `0`.

* **`vethAddCommand rc ic`** — the `ip link add` command of the interface loop.
* **`setupInterface_of_code`** — one iteration on a non-loopback interface: the registry is what
  the lookup leaves, and the veth creation is the first command it issues.
* **`forUntil_setupInterface_full`** — the whole interface loop on a full block: the registry stays,
  and every interface the block does not hold issues `ip link add <rc>(null)r ...`.
* **`setupRouterWithVeth_exhausted_block`** — the router is still reported as set up. -/

namespace TracerouteSimulator.Mesh

open Registry Facts

/-! ## (1) One iteration of the interface loop -/

/-- **The veth creation command**: `ip link add <rc><ic>r type veth peer name <rc><ic>h
2>/dev/null`, built into `cmd[512]`. -/
def vethAddCommand (routerCode ifaceCode : List Char) : List Char :=
  cmd512 ("ip link add ".toList ++ vethName routerCode ifaceCode 'r' ++
    " type veth peer name ".toList ++ vethName routerCode ifaceCode 'h' ++ " 2>/dev/null".toList)

/-- Queueing batch commands touches neither the registry nor the `system` commands. -/
theorem foldl_queue_frame (ns : List Char) :
    ∀ (cmds : List (List Char)) (st : SetupState),
      (cmds.foldl (fun s c => s.queue ns c) st).registry = st.registry ∧
        (cmds.foldl (fun s c => s.queue ns c) st).system = st.system
  | [], _ => ⟨rfl, rfl⟩
  | c :: cmds, st => foldl_queue_frame ns cmds (st.queue ns c)

/-- **One iteration on a non-loopback interface** leaves the registry the lookup leaves, and
issues the veth creation first, named with the code returned or `(null)`. -/
theorem setupInterface_of_code (w : World) (ns : List Char) {routerCode : List Char} {iface : Interface}
    {st : SetupState} {reg : ShmRegistry} {code : Option (List Char)}
    (hlo : iface.name ≠ "lo".toList)
    (hcode : getInterfaceCodeShm st.registry routerCode iface.name = (reg, code)) :
    (setupInterface w ns routerCode iface st).registry = reg ∧
      ∃ extra, (setupInterface w ns routerCode iface st).system =
        st.system ++ vethAddCommand routerCode (code.getD "(null)".toList) :: extra := by
  simp only [setupInterface, if_neg hlo, hcode]
  split
  · exact ⟨rfl, [], rfl⟩
  · refine ⟨(foldl_queue_frame ns _ _).1, ?_⟩
    rw [(foldl_queue_frame ns _ _).2]
    exact ⟨_, List.append_assoc _ _ _⟩

/-! ## (2) The interface loop on a full block -/

section Full

variable {w : World} {ns : List Char} {reg : ShmRegistry} {r : Nat}

/-- **The interface loop on a full block**: the registry stays, the `system` commands only grow,
and each non-loopback interface the block does not hold issues `ip link add <rc>(null)r ...`. -/
theorem forUntil_setupInterface_full (hw : ∀ t, w.interrupted t = false)
    (hi : InterfaceTableInv reg) (hr : r < maxRouters)
    (hfull : reg.nextInterfaceCodes r = maxInterfacesPerRouter) :
    ∀ (ifaces : List Interface) (st : SetupState) (t : Nat), st.registry = reg →
      let st' := (forUntil w (fun i st => (setupInterface w ns (routerCodeText r) i st.1, st.2))
        ifaces (st, t)).1
      st'.registry = reg ∧ st.system <+: st'.system ∧
        ∀ iface ∈ ifaces, iface.name ≠ "lo".toList → iface.name ∉ blockNames reg r →
          vethAddCommand (routerCodeText r) "(null)".toList ∈ st'.system
  | [], _, _, hreg => ⟨hreg, List.prefix_refl _, by simp⟩
  | i :: is, st, t, hreg => by
    rw [forUntil_of_never hw]
    -- the iteration on `i`
    have hstep : (setupInterface w ns (routerCodeText r) i st).registry = reg ∧
        ∃ extra, (setupInterface w ns (routerCodeText r) i st).system = st.system ++ extra ∧
          (i.name ≠ "lo".toList → i.name ∉ blockNames reg r →
            vethAddCommand (routerCodeText r) "(null)".toList ∈ extra) := by
      by_cases hlo : i.name = "lo".toList
      · simp only [setupInterface, if_pos hlo]
        exact ⟨hreg, [], by simp, fun h => absurd hlo h⟩
      · obtain ⟨hreg', hnull⟩ := getInterfaceCodeShm_of_full hi hr hfull i.name
        have hcode : getInterfaceCodeShm st.registry (routerCodeText r) i.name =
            (reg, (getInterfaceCodeShm reg (routerCodeText r) i.name).2) := by
          rw [hreg]; exact Prod.ext hreg' rfl
        obtain ⟨hr₁, extra, hs⟩ := setupInterface_of_code w ns hlo hcode
        refine ⟨hr₁, _, hs, fun _ hfresh => ?_⟩
        rw [hnull hfresh]
        exact List.mem_cons_self _ _
    obtain ⟨hreg₁, extra, hsys, hnew⟩ := hstep
    obtain ⟨hreg', hpre, hmem⟩ := forUntil_setupInterface_full hw hi hr hfull is _ (t + 1) hreg₁
    refine ⟨hreg', (List.prefix_append _ _).trans (hsys ▸ hpre), ?_⟩
    intro iface hin hlo hfresh
    rcases List.mem_cons.mp hin with rfl | hin
    · exact hpre.subset (by rw [hsys]; exact List.mem_append_right _ (hnew hlo hfresh))
    · exact hmem iface hin hlo hfresh

end Full

/-! ## (3) The router is still set up -/

/-- **An exhausted interface block does not fail the router.** Past the checks that can fail it
(no interruption, a router code, the namespace, the batch), `setup_router_with_veth` returns `0`.
When the router's block is full, each non-loopback interface the block does not hold gets `NULL`
from `get_interface_code`, and the veth pair it creates is named with `(null)`, which is no code
of the registry. -/
theorem setupRouterWithVeth_exhausted_block {w : World} {router : Router} {reg reg' : ShmRegistry}
    {t r : Nat} (hw : ∀ t, w.interrupted t = false) (hns : (createNamespaceSafe w router.name).1 = true)
    (hb : w.batchCreated = true)
    (hcode : getRouterCodeShm reg router.name = (reg', some (routerCodeText r)))
    (hi : InterfaceTableInv reg') (hr : r < maxRouters)
    (hfull : reg'.nextInterfaceCodes r = maxInterfacesPerRouter) :
    (setupRouterWithVeth w router reg t).1.status = 0 ∧
    (∀ j, interfaceCodeText j ≠ "(null)".toList) ∧
    ∀ iface ∈ router.interfaces, iface.name ≠ "lo".toList → iface.name ∉ blockNames reg' r →
      (getInterfaceCodeShm reg' (routerCodeText r) iface.name).2 = none ∧
      vethAddCommand (routerCodeText r) "(null)".toList ∈ (setupRouterWithVeth w router reg t).1.system := by
  rcases hcs : createNamespaceSafe w router.name with ⟨ok, sys⟩
  obtain rfl : ok = true := by rw [hcs] at hns; exact hns
  have hnot : ∀ j, interfaceCodeText j ≠ "(null)".toList := fun j h => by
    simpa [interfaceCodeText, codeText, maxCodeLen] using congrArg List.head? h
  simp only [setupRouterWithVeth, hw, hcode, hcs, hb, Bool.not_true, Bool.false_eq_true, if_false]
  refine ⟨trivial, hnot, fun iface hin hlo hfresh =>
    ⟨(getInterfaceCodeShm_of_full hi hr hfull _).2 hfresh, ?_⟩⟩
  rw [queueRules_system, queueRoutes_system]
  exact (forUntil_setupInterface_full hw hi hr hfull router.interfaces _ _
    (foldl_queue_frame _ [_, _] _).1).2.2 iface hin hlo hfresh

/-! ## (4) A reachable full block -/

/-- The names `e0 .. e63`. -/
def sixtyFourNames : List (List Char) := (List.range 64).map fun i => 'e' :: decimal i

theorem sixtyFourNames_nodup : sixtyFourNames.Nodup :=
  (List.nodup_range 64).map fun i j h => by
    simpa [digitsValue_decimal] using congrArg (fun l => digitsValue l.tail) h

/-- **A session that registered router `R`, then looked up `e0 .. e63` for it.** -/
def fullBlockRegistry : ShmRegistry :=
  sixtyFourNames.foldl (fun reg n => (getInterfaceCodeShm reg (routerCodeText 0) n).1)
    (getRouterCodeShm cleared "R".toList).1

/-- Its block `0` holds the 64 names, under the invariant. -/
theorem fullBlockRegistry_block :
    InterfaceTableInv fullBlockRegistry ∧ blockNames fullBlockRegistry 0 = sixtyFourNames := by
  have hi : InterfaceTableInv (getRouterCodeShm cleared "R".toList).1 :=
    interfaceTableInv_cleared.of_eq (by simp) (by simp) (by simp)
  have hb : blockNames (getRouterCodeShm cleared "R".toList).1 0 = [] := by simp [blockNames, cleared]
  have h := interfaceTableInv_fill (r := 0) (by decide) sixtyFourNames hi (by decide)
    (by rw [hb]; exact sixtyFourNames_nodup) (by simp [cleared, sixtyFourNames, maxInterfacesPerRouter])
  rw [hb, List.nil_append] at h
  exact h

theorem getRouterCodeShm_fullBlockRegistry :
    getRouterCodeShm fullBlockRegistry "R".toList = (fullBlockRegistry, some (routerCodeText 0)) := by
  obtain ⟨h₁, h₂, h₃⟩ := foldl_getInterfaceCodeShm_routers (routerCodeText 0) sixtyFourNames
    (getRouterCodeShm cleared "R".toList).1
  exact getRouterCodeShm_of_registered
    ((routerTableInv_cleared.getRouterCodeShm (by decide)).of_eq h₁ h₂ h₃)
    (by rw [h₂]; decide) (by rw [h₁]; decide)

theorem setupRouterWithVeth_exhausted_block_e64 :
    (∀ t, (⟨fun _ => true, fun _ => false, true, 0⟩ : World).interrupted t = false) ∧
    (createNamespaceSafe ⟨fun _ => true, fun _ => false, true, 0⟩ "R".toList).1 = true ∧
    getRouterCodeShm fullBlockRegistry "R".toList = (fullBlockRegistry, some (routerCodeText 0)) ∧
    InterfaceTableInv fullBlockRegistry ∧ 0 < maxRouters ∧
    fullBlockRegistry.nextInterfaceCodes 0 = maxInterfacesPerRouter ∧
    "e64".toList ∉ blockNames fullBlockRegistry 0 ∧
    ((setupRouterWithVeth ⟨fun _ => true, fun _ => false, true, 0⟩
        ⟨"R".toList, [⟨"e64".toList, none, 1500, true, []⟩], [], [], [], none, none⟩
        fullBlockRegistry 0).1.status = 0 ∧
      (∀ j, interfaceCodeText j ≠ "(null)".toList) ∧
      ∀ iface ∈ [(⟨"e64".toList, none, 1500, true, []⟩ : Interface)],
        iface.name ≠ "lo".toList → iface.name ∉ blockNames fullBlockRegistry 0 →
        (getInterfaceCodeShm fullBlockRegistry (routerCodeText 0) iface.name).2 = none ∧
        vethAddCommand (routerCodeText 0) "(null)".toList ∈
          (setupRouterWithVeth ⟨fun _ => true, fun _ => false, true, 0⟩
            ⟨"R".toList, [⟨"e64".toList, none, 1500, true, []⟩], [], [], [], none, none⟩
            fullBlockRegistry 0).1.system) := by
  have hfull : fullBlockRegistry.nextInterfaceCodes 0 = maxInterfacesPerRouter := by
    rw [← length_blockNames, fullBlockRegistry_block.2]; rfl
  refine ⟨fun _ => rfl, rfl, getRouterCodeShm_fullBlockRegistry, fullBlockRegistry_block.1,
    by decide, hfull, by rw [fullBlockRegistry_block.2]; decide, ?_⟩
  exact setupRouterWithVeth_exhausted_block (fun _ => rfl) rfl rfl getRouterCodeShm_fullBlockRegistry
    fullBlockRegistry_block.1 (by decide) hfull

end TracerouteSimulator.Mesh
