import TracerouteSimulator.Mesh.Main
import TracerouteSimulator.Registry.ParallelInterfaces

/-! # The children of `--parallel` on a registry a first run settled

With `--parallel`, `main` of `hidden_mesh_setup.c` forks one child per batch of ten routers, and
each child runs `setup_router_with_veth` for the routers of its batch. A child touches the shared
registry through two calls per router: `get_router_code_shm` for the router's name, and then, for
each interface other than `lo`, `get_interface_code_shm` with the returned pointer into the
router's slot. `Registry.Parallel` and `Registry.ParallelInterfaces` follow each call access by
access; this module puts the two together into the children of one run, and shows that a second
run with `--parallel` after a clean sequential one is safe in every interleaving.

* **`SetupCall`**, **`SetupChild`**, **`SetupStep`** — a child starts the lookup of its next
  router, makes one access of it, gets the pointer back, then looks up the interfaces in the
  block the code names, reading the code through the pointer at every access. A child may stop
  a router's interfaces, or skip a router, at any point: the flag, the namespace and the batch
  buffer decide, and the steps allow every answer they can give.
* **`setupReach_routerSolo`**, **`setupReach_ifaceSolo`** — a call that no other child interrupts
  is its solo run, lifted into the children; an interface call reads the router code through the
  pointer at each access, and no access of it writes the router table.
  **`setupReach_routerCall`**, **`setupReach_ifaceCall`** — a whole lookup of a child: its start,
  its solo run and its return.
* **`routerCodeStep_settled`**, **`interfaceCodeStep_settled`** — one access of a lookup of a
  *settled* name (held by a slot, or absent from a full table or block) reads and never writes,
  and stays on the path to the slot that holds the name, or to `NULL`.
* **`setupReach_settled`** — from a registry where every router of every child is settled, every
  interleaving of the children leaves the registry as it is, and every lookup returns the slot
  that holds its name, or `NULL` when no slot does.
* **`meshMain_parallel_rerun`** — after a run without `--parallel` that saw no interruption and
  no failing command, the same run with `-p` added forks children on the registry the first run
  left, and in every interleaving they leave it unchanged and find what it registered, whichever
  `fork`s failed. -/

namespace TracerouteSimulator.Mesh

open Registry Facts

/-! ## (1) The children's accesses -/

/-- **The call a child of `--parallel` has in progress.** -/
inductive SetupCall
  /-- `get_router_code_shm(reg, router->name)` for `router`. -/
  | router (router : Router) (pc : RouterCodePc)
  /-- `get_interface_code_shm(reg, router_code, iface->name)`: `router_code` points into the
  `router_code` of router slot `slot`, and `atoi(router_code + 1)` gave the block `r`. -/
  | iface (slot r : Nat) (name : List Char) (pc : IfacePc)

/-- **A child of `--parallel`**, as the registry sees it. -/
structure SetupChild where
  /-- The routers of its batch whose setup has not started, in order. -/
  pending : List Router
  /-- The router whose interfaces it is setting up: the slot its code points into, and the
  interfaces left. -/
  current : Option (Nat × List Interface)
  /-- The call in progress. -/
  call : Option SetupCall
  /-- What its router lookups returned: each name with the slot of the returned pointer. -/
  routerResults : List (List Char × Option Nat)
  /-- What its interface lookups returned: the router slot, the interface name and the result. -/
  ifaceResults : List (Nat × List Char × IfaceResult)

/-- **The shared registry and the children.** -/
structure SetupPar where
  /-- The mapping every child shares. -/
  reg : ShmRegistry
  /-- Child `p`. -/
  children : Nat → SetupChild

/-- **The routers child `p` sets up**: `routers[10 p .. min (10 p + 10, router_count))` when the
`fork` of batch `p` returned a child (`p ∈ children`), and nothing otherwise. -/
def childBatch (routers : List Router) (children : List Nat) (p : Nat) : List Router :=
  if p ∈ children then (routers.drop (10 * p)).take 10 else []

/-- Every router of a child's batch is a loaded router. -/
theorem mem_of_mem_childBatch {routers : List Router} {children : List Nat} {p : Nat}
    {router : Router}
    (h : router ∈ childBatch routers children p) : router ∈ routers := by
  unfold childBatch at h
  split at h
  · exact List.mem_of_mem_drop (List.mem_of_mem_take h)
  · cases h

/-- **The fork**: child `p` has the routers of `batches p` before it. -/
def SetupPar.init (reg : ShmRegistry) (batches : Nat → List Router) : SetupPar :=
  ⟨reg, fun p => ⟨batches p, none, none, [], []⟩⟩

/-- The registry set to `reg` and child `p` replaced by `c`. -/
def SetupPar.update (s : SetupPar) (reg : ShmRegistry) (p : Nat) (c : SetupChild) : SetupPar :=
  ⟨reg, Function.update s.children p c⟩

/-- **One step of the children.** -/
inductive SetupStep : SetupPar → SetupPar → Prop
  /-- Child `p` finds the flag clear and calls `get_router_code_shm` for its next router. -/
  | startRouter {s : SetupPar} {p : Nat} {router : Router} {rest : List Router}
      (hp : (s.children p).pending = router :: rest) (hcur : (s.children p).current = none)
      (hc : (s.children p).call = none) :
      SetupStep s (s.update s.reg p
        { s.children p with pending := rest, call := some (.router router (.test 0)) })
  /-- Child `p` passes over its next router: `interrupted` is set. -/
  | skipRouter {s : SetupPar} {p : Nat} {router : Router} {rest : List Router}
      (hp : (s.children p).pending = router :: rest) (hcur : (s.children p).current = none)
      (hc : (s.children p).call = none) :
      SetupStep s (s.update s.reg p { s.children p with pending := rest })
  /-- The router lookup of child `p` makes one access. -/
  | routerAccess {s : SetupPar} {p : Nat} {router : Router} {pc pc' : RouterCodePc}
      {reg' : ShmRegistry} (hc : (s.children p).call = some (.router router pc))
      (h : routerCodeStep router.name s.reg pc = some (reg', pc')) :
      SetupStep s (s.update reg' p { s.children p with call := some (.router router pc') })
  /-- The router lookup of child `p` returns; with a pointer, the interface loop follows. -/
  | routerDone {s : SetupPar} {p : Nat} {router : Router} {r : Option Nat}
      (hc : (s.children p).call = some (.router router (.done r))) :
      SetupStep s (s.update s.reg p { s.children p with
        current := r.map fun i => (i, router.interfaces), call := none,
        routerResults := (s.children p).routerResults ++ [(router.name, r)] })
  /-- Child `p` leaves the interfaces of its router: the namespace or the batch buffer could not
  be created, or `interrupted` is set. -/
  | dropRouter {s : SetupPar} {p : Nat} {i : Nat} {ifaces : List Interface}
      (hcur : (s.children p).current = some (i, ifaces)) (hc : (s.children p).call = none) :
      SetupStep s (s.update s.reg p { s.children p with current := none })
  /-- The interface loop of child `p` reaches `lo`, which it skips. -/
  | skipLoopback {s : SetupPar} {p i : Nat} {iface : Interface} {rest : List Interface}
      (hcur : (s.children p).current = some (i, iface :: rest)) (hc : (s.children p).call = none)
      (hlo : iface.name = "lo".toList) :
      SetupStep s (s.update s.reg p { s.children p with current := some (i, rest) })
  /-- Child `p` calls `get_interface_code_shm` for its next interface; the code its pointer
  reads names block `r`. -/
  | startIface {s : SetupPar} {p i r : Nat} {iface : Interface} {rest : List Interface}
      (hcur : (s.children p).current = some (i, iface :: rest)) (hc : (s.children p).call = none)
      (hlo : iface.name ≠ "lo".toList)
      (hr : routerIndexOfCode (s.reg.routers i).routerCode = some r) :
      SetupStep s (s.update s.reg p { s.children p with
        current := some (i, rest), call := some (.iface i r iface.name (.active 0)) })
  /-- The code its pointer reads names no block, and the call returns `NULL` at once. -/
  | nullIface {s : SetupPar} {p i : Nat} {iface : Interface} {rest : List Interface}
      (hcur : (s.children p).current = some (i, iface :: rest)) (hc : (s.children p).call = none)
      (hlo : iface.name ≠ "lo".toList)
      (hr : routerIndexOfCode (s.reg.routers i).routerCode = none) :
      SetupStep s (s.update s.reg p { s.children p with
        current := some (i, rest),
        ifaceResults := (s.children p).ifaceResults ++ [(i, iface.name, .null)] })
  /-- The interface lookup of child `p` makes one access; each reads the router code through
  the pointer, as it stands then. -/
  | ifaceAccess {s : SetupPar} {p i r : Nat} {name : List Char} {pc pc' : IfacePc}
      {reg' : ShmRegistry} (hc : (s.children p).call = some (.iface i r name pc))
      (h : interfaceCodeStep (s.reg.routers i).routerCode name r s.reg pc = some (reg', pc')) :
      SetupStep s (s.update reg' p { s.children p with call := some (.iface i r name pc') })
  /-- The interface lookup of child `p` returns. -/
  | ifaceDone {s : SetupPar} {p i r : Nat} {name : List Char} {res : IfaceResult}
      (hc : (s.children p).call = some (.iface i r name (.done res))) :
      SetupStep s (s.update s.reg p { s.children p with
        call := none,
        ifaceResults := (s.children p).ifaceResults ++ [(i, name, res)] })

/-- **The runs of the children.** -/
def SetupReach (s s' : SetupPar) : Prop := Relation.ReflTransGen SetupStep s s'

/-- A property of the states that every step keeps holds along every run. -/
theorem SetupReach.induct {I : SetupPar → Prop} {s₀ s : SetupPar} (h₀ : I s₀)
    (hstep : ∀ s s', I s → SetupStep s s' → I s') (h : SetupReach s₀ s) : I s := by
  induction h with
  | refl => exact h₀
  | tail _ hs ih => exact hstep _ _ ih hs

@[simp] theorem SetupPar.update_reg (s : SetupPar) (reg : ShmRegistry) (p : Nat)
    (c : SetupChild) : (s.update reg p c).reg = reg := rfl

@[simp] theorem SetupPar.update_children (s : SetupPar) (reg : ShmRegistry) (p : Nat)
    (c : SetupChild) (q : Nat) :
    (s.update reg p c).children q = if q = p then c else s.children q := by
  simp [SetupPar.update, Function.update_apply]

@[simp] theorem SetupPar.update_update (s : SetupPar) (reg reg' : ShmRegistry) (p : Nat)
    (c c' : SetupChild) : (s.update reg p c).update reg' p c' = s.update reg' p c' := by
  simp [SetupPar.update, Function.update_idem]

theorem SetupPar.update_self (s : SetupPar) (p : Nat) : s.update s.reg p (s.children p) = s := by
  simp [SetupPar.update]

/-- A clause on every child holds after a step that replaced child `p`, if it holds of the new
child and of every other one. -/
theorem SetupPar.forall_update {P : SetupChild → Prop} {s : SetupPar} {reg : ShmRegistry}
    {p : Nat} {c : SetupChild} (hc : P c) (hs : ∀ q, P (s.children q)) :
    ∀ q, P ((s.update reg p c).children q) := by
  intro q
  rw [SetupPar.update_children]
  split
  · exact hc
  · exact hs q

/-! ## (2) Calls that no other child interrupts -/

/-- **A router lookup that runs uninterrupted inside the children** is its solo run. -/
theorem setupReach_routerSolo {s : SetupPar} {p : Nat} {router : Router} {pc : RouterCodePc}
    (hc : (s.children p).call = some (.router router pc)) {b : ShmRegistry × RouterCodePc}
    (h : SoloReach router.name (s.reg, pc) b) :
    SetupReach s (s.update b.1 p { s.children p with call := some (.router router b.2) }) := by
  induction h with
  | refl =>
    rw [← hc, SetupPar.update_self]
    exact .refl
  | @tail b c _ hbc ih =>
    refine ih.tail ?_
    have := @SetupStep.routerAccess
      (s.update b.1 p { s.children p with call := some (.router router b.2) }) p router b.2 c.2
      c.1 (by simp) hbc
    simpa using this

/-- **A child looks up its next router**: it starts the call, which runs uninterrupted to its
return; with a pointer, the child turns to the router's interfaces. -/
theorem setupReach_routerCall {s : SetupPar} {p : Nat} {router : Router} {rest : List Router}
    {rs : List (List Char × Option Nat)} {is : List (Nat × List Char × IfaceResult)}
    (hc : s.children p = ⟨router :: rest, none, none, rs, is⟩) {reg' : ShmRegistry}
    {r : Option Nat} (h : SoloReach router.name (s.reg, .test 0) (reg', .done r)) :
    SetupReach s (s.update reg' p
      ⟨rest, r.map fun i => (i, router.interfaces), none, rs ++ [(router.name, r)], is⟩) := by
  have h₁ := @SetupStep.startRouter s p router rest (by simp [hc]) (by simp [hc]) (by simp [hc])
  have h₂ := setupReach_routerSolo (s := s.update s.reg p { s.children p with
    pending := rest, call := some (.router router (.test 0)) }) (p := p) (by simp) h
  simpa [hc] using (Relation.ReflTransGen.single h₁).trans
    (h₂.tail (@SetupStep.routerDone _ p router r (by simp)))

/-- **A lookup beside a lookup.** Child `p` starts the lookup of its next router; child `q` looks
its own next router up from start to return; then the lookup of `p` runs to its return. -/
theorem setupReach_routerCall_beside {s : SetupPar} {p q : Nat} (hpq : p ≠ q)
    {router₁ router₂ : Router} {rest₁ rest₂ : List Router}
    {rs₁ rs₂ : List (List Char × Option Nat)} {is₁ is₂ : List (Nat × List Char × IfaceResult)}
    (hp : s.children p = ⟨router₁ :: rest₁, none, none, rs₁, is₁⟩)
    (hq : s.children q = ⟨router₂ :: rest₂, none, none, rs₂, is₂⟩) :
    ∃ s', SetupReach s s' ∧ (∃ r, (s'.children p).routerResults = rs₁ ++ [(router₁.name, r)]) ∧
      ∃ r, (s'.children q).routerResults = rs₂ ++ [(router₂.name, r)] := by
  have hqp : q ≠ p := Ne.symm hpq
  let s₁ := s.update s.reg p
    { s.children p with pending := rest₁, call := some (.router router₁ (.test 0)) }
  have h₁ : SetupReach s s₁ := .single (.startRouter (by simp [hp]) (by simp [hp]) (by simp [hp]))
  obtain ⟨r₂, hr₂, -⟩ := soloReach_getRouterCodeShm router₂.name s.reg
  let s₂ := s₁.update (getRouterCodeShm s.reg router₂.name).1 q
    ⟨rest₂, r₂.map fun i => (i, router₂.interfaces), none, rs₂ ++ [(router₂.name, r₂)], is₂⟩
  have h₂ : SetupReach s₁ s₂ := setupReach_routerCall (by simp [s₁, hq, hqp]) hr₂
  obtain ⟨r₁, hr₁, -⟩ := soloReach_getRouterCodeShm router₁.name s₂.reg
  have h₃ := setupReach_routerSolo (s := s₂) (p := p) (by simp [s₂, s₁, hpq]) hr₁
  exact ⟨_, h₁.trans (h₂.trans (h₃.tail (@SetupStep.routerDone _ p router₁ r₁ (by simp)))),
    ⟨r₁, by simp [s₂, s₁, hp, hpq]⟩, r₂, by simp [s₂, s₁, hq, hqp]⟩

/-! ## (3) A lookup of a settled name

A lookup of a name the table holds goes through the slots below the one that holds it, finds it
and returns; a lookup of a name a full table does not hold goes through the loop and the capacity
check and returns `NULL`. Neither writes. -/

/-- **What a returned router lookup must give**: the slot that holds the name, `NULL` when none
does. -/
def RouterAnswer (reg : ShmRegistry) (name : List Char) (r : Option Nat) : Prop :=
  ∀ k, r = some k ↔ HoldsRouter reg k name

/-- **Where a lookup of a settled router name can stand**: in the lookup loop past slots that do
not hold it, at the capacity check once no slot holds it, or returned with the answer. -/
def RouterLookupTrack (reg : ShmRegistry) (name : List Char) : RouterCodePc → Prop
  | .test i | .active i => ∀ k < i, ¬ HoldsRouter reg k name
  | .name i => i < reg.routerCount ∧ ∀ k < i, ¬ HoldsRouter reg k name
  | .full => ∀ k, ¬ HoldsRouter reg k name
  | .done r => RouterAnswer reg name r
  | _ => False

/-- **What a returned interface lookup in block `r` must give**: the position that holds the name,
`NULL` when none does; never a fresh code. -/
def IfaceAnswer (reg : ShmRegistry) (r : Nat) (name : List Char) : IfaceResult → Prop
  | .found j => HoldsInterface reg r j name
  | .null => ∀ k, ¬ HoldsInterface reg r k name
  | .fresh _ => False

/-- **Where a lookup of a settled interface name in block `r` can stand.** -/
def IfaceLookupTrack (reg : ShmRegistry) (r : Nat) (name : List Char) : IfacePc → Prop
  | .active i => ∀ k < i, ¬ HoldsInterface reg r k name
  | .code i | .name i => i < reg.nextInterfaceCodes r ∧ ∀ k < i, ¬ HoldsInterface reg r k name
  | .free _ => ∀ k, ¬ HoldsInterface reg r k name
  | .done res => IfaceAnswer reg r name res
  | _ => False

section Settled

variable {reg reg' : ShmRegistry} {name : List Char}

/-- Slot `i` does not hold the name, and neither does any slot below it. -/
theorem not_holds_lt_succ {P : Nat → Prop} {i : Nat} (h : ∀ k < i, ¬ P k) (hi : ¬ P i) :
    ∀ k < i + 1, ¬ P k := fun k hk => by
  rcases Nat.lt_succ_iff_lt_or_eq.mp hk with hk | rfl
  · exact h k hk
  · exact hi

/-- **One access of a lookup of a settled router name reads, and stays on its track.** -/
theorem routerCodeStep_settled (hi : RouterTableInv reg) (hs : RouterNameSettled reg name)
    {pc pc' : RouterCodePc} (ht : RouterLookupTrack reg name pc)
    (h : routerCodeStep name reg pc = some (reg', pc')) :
    reg' = reg ∧ RouterLookupTrack reg name pc' := by
  cases pc with
  | test i =>
    simp only [routerCodeStep, Option.some.injEq, Prod.mk.injEq] at h
    obtain ⟨rfl, rfl⟩ := h
    refine ⟨rfl, ?_⟩
    split
    · exact ht
    · -- the loop ran past the table: no slot holds the name
      intro k hk
      have : i ≤ k := Nat.le_of_not_lt fun hlt => ht k hlt hk
      have := hi.count_le
      have := hk.1
      omega
  | active i =>
    simp only [routerCodeStep, Option.some.injEq, Prod.mk.injEq] at h
    obtain ⟨rfl, rfl⟩ := h
    refine ⟨rfl, ?_⟩
    split
    · exact ⟨(hi.active_iff i).mp ‹_›, ht⟩
    · exact not_holds_lt_succ ht fun hk => ‹¬ _› ((hi.active_iff i).mpr hk.1)
  | name i =>
    simp only [routerCodeStep, Option.some.injEq, Prod.mk.injEq] at h
    obtain ⟨rfl, rfl⟩ := h
    refine ⟨rfl, ?_⟩
    split
    · exact fun k => ⟨by rintro ⟨⟩; exact ⟨ht.1, ‹_›⟩,
        fun hk => congrArg some (holdsRouter_unique hi ⟨ht.1, ‹_›⟩ hk)⟩
    · exact not_holds_lt_succ ht.2 fun hk => ‹¬ _› hk.2
  | full =>
    simp only [routerCodeStep, Option.some.injEq, Prod.mk.injEq] at h
    obtain ⟨rfl, rfl⟩ := h
    refine ⟨rfl, ?_⟩
    split
    · exact fun k => ⟨nofun, fun hk => absurd hk (ht k)⟩
    · -- a settled name the table does not hold leaves the table full
      rcases hs with ⟨k, hk⟩ | ⟨hfull, -⟩
      · exact ht k hk
      · exact ‹¬ _› hfull.ge
  | done r => simp [routerCodeStep] at h
  | _ => exact ht.elim

/-- **One access of a lookup of a settled interface name reads, and stays on its track**, with
the code of router slot `r`, which every position of its block carries. -/
theorem interfaceCodeStep_settled (hi : InterfaceTableInv reg) {r : Nat}
    (hs : InterfaceNameSettled reg r name) {pc pc' : IfacePc} (ht : IfaceLookupTrack reg r name pc)
    (h : interfaceCodeStep (routerCodeText r) name r reg pc = some (reg', pc')) :
    reg' = reg ∧ IfaceLookupTrack reg r name pc' := by
  cases pc with
  | active i =>
    simp only [interfaceCodeStep, Option.some.injEq, Prod.mk.injEq] at h
    obtain ⟨rfl, rfl⟩ := h
    refine ⟨rfl, ?_⟩
    split
    · split
      · exact ⟨(hi.active_iff r i ‹_›).mp ‹_›, ht⟩
      · exact not_holds_lt_succ ht fun hk => ‹¬ _› ((hi.active_iff r i ‹_›).mpr hk.1)
    · -- the loop ran past the block: no position holds the name
      intro k hk
      have : i ≤ k := Nat.le_of_not_lt fun hlt => ht k hlt hk
      have := hi.next_le r
      have := hk.1
      omega
  | code i =>
    simp only [interfaceCodeStep, Option.some.injEq, Prod.mk.injEq] at h
    obtain ⟨rfl, rfl⟩ := h
    refine ⟨rfl, ?_⟩
    rw [if_pos (hi.code_eq r i ht.1).2]
    exact ht
  | name i =>
    simp only [interfaceCodeStep, Option.some.injEq, Prod.mk.injEq] at h
    obtain ⟨rfl, rfl⟩ := h
    refine ⟨rfl, ?_⟩
    split
    · exact ⟨ht.1, ‹_›⟩
    · exact not_holds_lt_succ ht.2 fun hk => ‹¬ _› hk.2
  | free i =>
    simp only [interfaceCodeStep, Option.some.injEq, Prod.mk.injEq] at h
    obtain ⟨rfl, rfl⟩ := h
    refine ⟨rfl, ?_⟩
    split
    · split
      · exact ht
      · -- a settled name the block does not hold leaves the block full
        rcases hs with ⟨k, hk⟩ | ⟨hfull, -⟩
        · exact ht k hk
        · exact ‹¬ _› ((hi.active_iff r i ‹_›).mpr (hfull ▸ ‹_›))
    · exact ht
  | done res => simp [interfaceCodeStep] at h
  | _ => exact ht.elim

end Settled

/-! ## (4) Every interleaving on a settled registry -/

/-- **What a child keeps on the registry `reg`**: its routers are settled, so is every interface
its current router has left, every call is on its track, and every answer is the right one. -/
structure ChildSettled (reg : ShmRegistry) (c : SetupChild) : Prop where
  /-- The routers it has not started are settled. -/
  pending : ∀ router ∈ c.pending, RouterSettled reg router
  /-- The slot its code points into holds a router, whose interfaces left are settled. -/
  current : ∀ i ifaces, c.current = some (i, ifaces) → i < reg.routerCount ∧
    ∀ iface ∈ ifaces, iface.name ≠ "lo".toList → InterfaceNameSettled reg i iface.name
  /-- A router lookup in progress is on its track. -/
  routerCall : ∀ router pc, c.call = some (.router router pc) →
    RouterSettled reg router ∧ RouterLookupTrack reg router.name pc
  /-- An interface lookup in progress reads the block of its own slot and is on its track. -/
  ifaceCall : ∀ i r name pc, c.call = some (.iface i r name pc) →
    i < reg.routerCount ∧ r = i ∧ InterfaceNameSettled reg i name ∧ IfaceLookupTrack reg i name pc
  /-- Every router lookup returned its answer. -/
  routerResults : ∀ x ∈ c.routerResults, RouterAnswer reg x.1 x.2
  /-- Every interface lookup returned its answer. -/
  ifaceResults : ∀ x ∈ c.ifaceResults, IfaceAnswer reg x.1 x.2.1 x.2.2

/-- **The invariant of the runs on a settled registry**: the registry is the one at the fork. -/
structure SettledInv (reg₀ : ShmRegistry) (s : SetupPar) : Prop where
  /-- Nothing has written the registry. -/
  reg : s.reg = reg₀
  /-- Each child. -/
  children : ∀ p, ChildSettled reg₀ (s.children p)

section Run

variable {reg₀ : ShmRegistry}

theorem settledInv_init {batches : Nat → List Router}
    (hs : ∀ p, ∀ router ∈ batches p, RouterSettled reg₀ router) :
    SettledInv reg₀ (SetupPar.init reg₀ batches) :=
  ⟨rfl, fun p => ⟨hs p, nofun, nofun, nofun, nofun, nofun⟩⟩

/-- A clause on the results holds after one more answer that satisfies it. -/
theorem forall_mem_append_singleton {α : Type} {P : α → Prop} {l : List α} {a : α}
    (hl : ∀ x ∈ l, P x) (ha : P a) : ∀ x ∈ l ++ [a], P x := by
  simpa [or_imp, forall_and] using And.intro hl ha

/-- **Every step keeps `SettledInv`**: a start or an end of a call writes nothing, and an access
of a settled lookup reads. -/
theorem SettledInv.step (hr : RouterTableInv reg₀) (hf : InterfaceTableInv reg₀) {s s' : SetupPar}
    (hs : SettledInv reg₀ s) (h : SetupStep s s') : SettledInv reg₀ s' := by
  obtain ⟨hreg, hch⟩ := hs
  subst hreg
  cases h with
  | @startRouter p router rest hp hcur hc =>
    have hc' := hch p
    refine ⟨rfl, SetupPar.forall_update ⟨fun r hm => hc'.pending r (by simp [hp, hm]), ?_, ?_,
      by simp, hc'.routerResults, hc'.ifaceResults⟩ hch⟩
    · simp [hcur]
    · rintro _ _ ⟨⟩
      exact ⟨hc'.pending router (by simp [hp]), nofun⟩
  | @skipRouter p router rest hp hcur hc =>
    have hc' := hch p
    exact ⟨rfl, SetupPar.forall_update ⟨fun r hm => hc'.pending r (by simp [hp, hm]), hc'.current,
      hc'.routerCall, hc'.ifaceCall, hc'.routerResults, hc'.ifaceResults⟩ hch⟩
  | @routerAccess p router pc pc' reg' hc h =>
    have hc' := hch p
    obtain ⟨hset, ht⟩ := hc'.routerCall router pc hc
    obtain ⟨rfl, ht'⟩ := routerCodeStep_settled hr hset.1 ht h
    refine ⟨rfl, SetupPar.forall_update ⟨hc'.pending, hc'.current, ?_, by simp,
      hc'.routerResults, hc'.ifaceResults⟩ hch⟩
    rintro _ _ ⟨⟩
    exact ⟨hset, ht'⟩
  | @routerDone p router r hc =>
    have hc' := hch p
    obtain ⟨hset, ht⟩ := hc'.routerCall router _ hc
    refine ⟨rfl, SetupPar.forall_update ⟨hc'.pending, ?_, by simp, by simp,
      forall_mem_append_singleton hc'.routerResults ht,
      hc'.ifaceResults⟩ hch⟩
    -- the pointer is into the slot that holds the router
    rintro i ifaces hi
    obtain ⟨i, rfl, rfl, rfl⟩ : ∃ k, r = some k ∧ k = i ∧ router.interfaces = ifaces := by
      cases r <;> simp_all
    have hh := (ht i).mp rfl
    exact ⟨hh.1, hset.2 i hh⟩
  | @dropRouter p i ifaces hcur hc =>
    have hc' := hch p
    exact ⟨rfl, SetupPar.forall_update ⟨hc'.pending, by simp, hc'.routerCall, hc'.ifaceCall,
      hc'.routerResults, hc'.ifaceResults⟩ hch⟩
  | @skipLoopback p i iface rest hcur hc hlo =>
    have hc' := hch p
    obtain ⟨hi, hifs⟩ := hc'.current i _ hcur
    refine ⟨rfl, SetupPar.forall_update ⟨hc'.pending, ?_, hc'.routerCall, hc'.ifaceCall,
      hc'.routerResults, hc'.ifaceResults⟩ hch⟩
    rintro _ _ ⟨⟩
    exact ⟨hi, fun f hm => hifs f (List.mem_cons_of_mem _ hm)⟩
  | @startIface p i r iface rest hcur hc hlo hcode =>
    have hc' := hch p
    obtain ⟨hi, hifs⟩ := hc'.current i _ hcur
    -- the pointer reads the code of slot `i`, which names block `i`
    have hri : r = i := by
      rw [(hr.code_eq i hi), routerIndexOfCode_routerCodeText (lt_of_lt_of_le hi hr.count_le)]
        at hcode
      exact (Option.some.inj hcode).symm
    refine ⟨rfl, SetupPar.forall_update ⟨hc'.pending, ?_, by simp, ?_,
      hc'.routerResults, hc'.ifaceResults⟩ hch⟩
    · rintro _ _ ⟨⟩
      exact ⟨hi, fun f hm => hifs f (List.mem_cons_of_mem _ hm)⟩
    · rintro _ _ _ _ ⟨⟩
      exact ⟨hi, hri, hifs iface (List.mem_cons_self _ _) hlo, nofun⟩
  | @nullIface p i iface rest hcur hc hlo hcode =>
    have hi := ((hch p).current i _ hcur).1
    rw [hr.code_eq i hi, routerIndexOfCode_routerCodeText (lt_of_lt_of_le hi hr.count_le)]
      at hcode
    cases hcode
  | @ifaceAccess p i r name pc pc' reg' hc h =>
    have hc' := hch p
    obtain ⟨hi, hri, hset, ht⟩ := hc'.ifaceCall i r name pc hc
    subst r
    rw [hr.code_eq i hi] at h
    obtain ⟨rfl, ht'⟩ := interfaceCodeStep_settled hf hset ht h
    refine ⟨rfl, SetupPar.forall_update ⟨hc'.pending, hc'.current, by simp, ?_,
      hc'.routerResults, hc'.ifaceResults⟩ hch⟩
    rintro _ _ _ _ ⟨⟩
    exact ⟨hi, rfl, hset, ht'⟩
  | @ifaceDone p i r name res hc =>
    have hc' := hch p
    obtain ⟨-, hri, -, ht⟩ := hc'.ifaceCall i r name _ hc
    subst r
    exact ⟨rfl, SetupPar.forall_update ⟨hc'.pending, hc'.current, by simp, by simp,
      hc'.routerResults, forall_mem_append_singleton hc'.ifaceResults ht⟩ hch⟩

/-- **The run lemma**: every run of the children from the fork keeps `SettledInv`. -/
theorem settledInv_of_reach (hr : RouterTableInv reg₀) (hf : InterfaceTableInv reg₀)
    {batches : Nat → List Router} (hs : ∀ p, ∀ router ∈ batches p, RouterSettled reg₀ router)
    {s : SetupPar} (h : SetupReach (SetupPar.init reg₀ batches) s) : SettledInv reg₀ s :=
  SetupReach.induct (settledInv_init hs) (fun _ _ hi hs => hi.step hr hf hs) h

/-- **Every interleaving of the children on a settled registry is read-only, and every lookup
finds its name**: when the registry keeps its router and interface invariants and every router of
every batch is settled, every run of the children leaves the registry as it was at the fork, every
router lookup returned the slot that holds the name, `NULL` when none does, and every interface
lookup the position of its block that holds the name, `NULL` when none does. -/
theorem setupReach_settled (hr : RouterTableInv reg₀) (hf : InterfaceTableInv reg₀)
    {batches : Nat → List Router} (hs : ∀ p, ∀ router ∈ batches p, RouterSettled reg₀ router)
    {s : SetupPar} (h : SetupReach (SetupPar.init reg₀ batches) s) :
    s.reg = reg₀ ∧ ∀ p,
      (∀ n r, (n, r) ∈ (s.children p).routerResults → RouterAnswer reg₀ n r) ∧
      ∀ i n res, (i, n, res) ∈ (s.children p).ifaceResults → IfaceAnswer reg₀ i n res := by
  have hinv := settledInv_of_reach hr hf hs h
  exact ⟨hinv.reg, fun p => ⟨fun n r h => (hinv.children p).routerResults _ h,
    fun i n res h => (hinv.children p).ifaceResults _ h⟩⟩

/-- **Two children on a registry that holds `r0` and `r1`**: child `0` starts its lookup of `r0`,
child `1` looks `r1` up, then the lookup of child `0` returns. The registry is as it was, and both
answers are the slots that hold the names. -/
theorem setupReach_settled_two_routers :
    let reg₀ := (getRouterCodeShm (getRouterCodeShm cleared "r0".toList).1 "r1".toList).1
    let batches : Nat → List Router := fun p =>
      if p = 0 then [createRouter "r0".toList] else if p = 1 then [createRouter "r1".toList] else []
    ∃ s, SetupReach (SetupPar.init reg₀ batches) s ∧
      (∃ r, (s.children 0).routerResults = [("r0".toList, r)]) ∧
      (∃ r, (s.children 1).routerResults = [("r1".toList, r)]) ∧
      s.reg = reg₀ ∧ ∀ p,
        (∀ n r, (n, r) ∈ (s.children p).routerResults → RouterAnswer reg₀ n r) ∧
        ∀ i n res, (i, n, res) ∈ (s.children p).ifaceResults → IfaceAnswer reg₀ i n res := by
  intro reg₀ batches
  have hreach : Reachable RegistryOp.NamesFit reg₀ := .step (.getRouterCode _)
    (.step (.getRouterCode _) .cleared (show "r0".toList.length < maxNameLen by decide))
    (show "r1".toList.length < maxNameLen by decide)
  obtain ⟨hr, hf⟩ := namesInv_of_reachable hreach
  have hs : ∀ p, ∀ router ∈ batches p, RouterSettled reg₀ router := by
    intro p router hm
    simp only [batches] at hm
    split_ifs at hm <;> simp only [List.mem_singleton, List.not_mem_nil] at hm <;> subst hm
    · exact ⟨.inl ⟨0, by unfold HoldsRouter; decide⟩, fun _ _ _ h => absurd h (List.not_mem_nil _)⟩
    · exact ⟨.inl ⟨1, by unfold HoldsRouter; decide⟩, fun _ _ _ h => absurd h (List.not_mem_nil _)⟩
  obtain ⟨s, h, h₀, h₁⟩ := @setupReach_routerCall_beside (SetupPar.init reg₀ batches) 0 1
    (by decide) _ _ _ _ _ _ _ _ rfl rfl
  exact ⟨s, h, h₀, h₁, setupReach_settled hr hf hs h⟩

end Run

/-! ## (5) A second run with `--parallel` -/

/-- **What a run that forks has passed**: `calloc` and the registry, the arguments with
`parallel` set, root, the facts, and a Phase A that returned `0` with the flag clear after it;
the children start on the registry Phase A left, with the loaded routers. -/
theorem meshMain_forked_cases {parseInterfaces : List Char → List Interface} {env : MainEnv}
    {w : World} {args : List (List Char)} {store : Option ShmRegistry} {reg : ShmRegistry}
    {system : List (List Char)} {routers : List Router} {children : List Nat} {next : Nat}
    (h : meshMain parseInterfaces env w args store = .forked reg system routers children next) :
    env.allocated = true ∧ env.shmOpens = true ∧ env.euid = 0 ∧ ∃ opts ctx,
      parseMeshArgs MeshOptions.init args = .setup opts ∧ opts.parallel = true ∧
      loadFactsFromEnvFiltered parseInterfaces env.factsDir opts.limitPattern = some ctx ∧
      reg = (createHiddenInfrastructure w ctx (store.getD cleared) 0).registry ∧
      routers = ctx.routers := by
  obtain ⟨allocated, opens, euid, factsDir, forkOk⟩ := env
  cases allocated
  · cases h
  cases opens
  · obtain ⟨_, _, h'⟩ := meshMain_of_not_opens parseInterfaces
      ⟨true, false, euid, factsDir, forkOk⟩ rfl w args store
    cases h.symm.trans h'
  simp only [meshMain, openSharedRegistry, if_true, Bool.not_true, Bool.false_eq_true, if_false]
    at h
  rcases hargs : parseMeshArgs MeshOptions.init args with opts | opts | _ <;>
    simp only [hargs] at h
  · by_cases heuid : euid = 0
    swap
    · simp only [heuid, ne_eq, not_false_eq_true, if_true] at h
      cases h
    rcases hload : loadFactsFromEnvFiltered parseInterfaces factsDir opts.limitPattern with _ | ctx <;>
      simp only [heuid, hload, ne_eq, not_true_eq_false, if_false] at h
    · cases h
    split_ifs at h
    cases h
    exact ⟨rfl, rfl, heuid, opts, ctx, rfl, ‹opts.parallel = true›, hload, rfl, rfl⟩
  · split at h <;> cases h
  · cases h

/-- **A second run with `-p` after a clean one is safe in every interleaving.** After any runs
without `--parallel` from a host without the object, take a run that ends with no interruption,
every command succeeding and the batch buffer allocated. The same run with `-p` in front of its
arguments, in a world whose flag stays set once set, forks its children on the very registry the
first run left in the object; and every interleaving of the children's accesses leaves that
registry as it is, every router lookup returning the slot that holds the name (`NULL` when none
does), and every interface lookup the position of the block that holds the name. -/
theorem meshMain_parallel_rerun {parseInterfaces : List Char → List Interface}
    (hparse : ∀ content, ∀ i ∈ parseInterfaces content, i.name.length < maxNameLen)
    {store : Option ShmRegistry} (h : StoreReach parseInterfaces store) {env : MainEnv}
    {w₁ : World} (hw : ∀ t, w₁.interrupted t = false) (hsys : ∀ c, w₁.system c = true)
    (hb : w₁.batchCreated = true) {args : List (List Char)} {code : Int}
    {store₁ : Option ShmRegistry} {system : List (List Char)}
    (h₁ : meshMain parseInterfaces env w₁ args store = .exit code store₁ system) {w₂ : World}
    (hm : w₂.FlagMonotone) {reg : ShmRegistry} {system₂ : List (List Char)}
    {routers : List Router} {children : List Nat} {next : Nat}
    (h₂ : meshMain parseInterfaces env w₂ ("-p".toList :: args) store₁ =
      .forked reg system₂ routers children next)
    {s : SetupPar} (hs : SetupReach (SetupPar.init reg (childBatch routers children)) s) :
    store₁ = some reg ∧ s.reg = reg ∧ ∀ p,
      (∀ n r, (n, r) ∈ (s.children p).routerResults → RouterAnswer reg n r) ∧
      ∀ i n res, (i, n, res) ∈ (s.children p).ifaceResults → IfaceAnswer reg i n res := by
  obtain ⟨hal, hop, heuid, opts₂, ctx, hargs₂, -, hload, rfl, rfl⟩ := meshMain_forked_cases h₂
  -- without `-p` the arguments give the same options, `parallel` apart
  rw [parseMeshArgs_cons_parallel, parseMeshArgs_parallel] at hargs₂
  rcases hargs : parseMeshArgs MeshOptions.init args with opts | opts | _ <;>
    simp only [hargs] at hargs₂ <;> cases hargs₂
  -- the first run was a sequential setup from a reachable registry
  have hX := (storeReach_storeFits hparse h).getD
  have hfits := loadFactsFromEnvFiltered_fits hparse hload
  obtain ⟨allocated, opens, euid, factsDir, forkOk⟩ := env
  simp only at hal hop heuid hload
  subst hal hop heuid
  simp only [meshMain, openSharedRegistry, hargs, hload, if_true, Bool.not_true, Bool.false_eq_true,
    if_false, ne_eq, not_true_eq_false, createHiddenInfrastructure_status_of_system hsys, hw] at h₁
  cases hpar : opts.parallel
  swap
  · simp only [hpar, if_true] at h₁
    cases h₁
  simp only [hpar, Bool.false_eq_true, if_false] at h₁
  obtain ⟨-, rfl, -⟩ := MainOutcome.exit.inj h₁
  -- its loop settled every loaded router; Phase A of the second run changes nothing
  have hA := createHiddenInfrastructure_reachable w₁ ctx 0 hX
  obtain ⟨hloop, hset⟩ := setupRoutersSequential_settles hw hsys hb ctx.routers _ _ _ hA hfits
  have hinv := namesInv_of_reachable (reachable_namesFit (hA.of_sessionReach hloop))
  rw [Option.getD_some, (phases_rerun hw hsys hb hfits hX).1 w₂ hm 0] at hs ⊢
  have hinv' := settledInv_of_reach hinv.1 hinv.2
    (fun p router hm => hset router (mem_of_mem_childBatch hm)) hs
  exact ⟨rfl, hinv'.reg, fun p => ⟨fun n r h => (hinv'.children p).routerResults _ h,
    fun i n res h => (hinv'.children p).ifaceResults _ h⟩⟩

/-- A first run on a facts directory with one router, `r1`, and a second run with `-p`: its one
child looks `r1` up on the registry that holds it, which stays as it is, and gets slot `0` back. -/
theorem meshMain_parallel_rerun_one_router :
    let reg₁ := (getRouterCodeShm cleared "r1".toList).1
    let router := loadRouterFacts loadInterfaces (createRouter "r1".toList) []
    ∃ s, SetupReach (SetupPar.init reg₁ (childBatch [router] [0])) s ∧
      (∃ r, (s.children 0).routerResults = [("r1".toList, r)]) ∧
      some reg₁ = some reg₁ ∧ s.reg = reg₁ ∧ ∀ p,
        (∀ n r, (n, r) ∈ (s.children p).routerResults → RouterAnswer reg₁ n r) ∧
        ∀ i n res, (i, n, res) ∈ (s.children p).ifaceResults → IfaceAnswer reg₁ i n res := by
  intro reg₁ router
  obtain ⟨r, hr, -⟩ := soloReach_getRouterCodeShm router.name reg₁
  have h := setupReach_routerCall (s := SetupPar.init reg₁ (childBatch [router] [0])) (p := 0)
    rfl hr
  exact ⟨_, h, ⟨r, rfl⟩, meshMain_parallel_rerun loadInterfaces_name_length_lt .fresh
    (by intro; rfl) (by intro; rfl) (by rfl)
    (rfl : meshMain loadInterfaces
      ⟨true, true, 0, some [⟨"r1_facts.txt".toList, some []⟩], fun _ => true⟩
      ⟨fun _ => true, fun _ => false, true, 0⟩ [] none = .exit 0 (some reg₁) _)
    (fun _ h => h)
    (rfl : meshMain loadInterfaces
      ⟨true, true, 0, some [⟨"r1_facts.txt".toList, some []⟩], fun _ => true⟩
      ⟨fun _ => true, fun _ => false, true, 0⟩ ["-p".toList] (some reg₁) =
        .forked reg₁ _ [router] [0] _) h⟩

end TracerouteSimulator.Mesh
