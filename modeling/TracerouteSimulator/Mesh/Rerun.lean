import TracerouteSimulator.Mesh.Setup

/-! # Running Phase A a second time

`create_hidden_infrastructure` looks every bridge up by name with `register_bridge_shm` before it
creates it, and creates it only when the entry it gets says it is not created. Run again on the
registry a first run left, it finds every bridge of the first run, issues no creation and writes
nothing.

* **`World.FlagMonotone`** — `interrupted` stays set once set. A collection loop then computes the
  uninterrupted collection `collectAll`, or stops for good at a prefix of it
  (`collectSubnets_cases`).
* **`BridgeSettled reg name`** — the bridge of `name` needs no creation: a created entry holds the
  name, or the table is full of other names.
* **`registerSubnetBridge_cases`** — everything one iteration of the bridge loop can do. An
  iteration on a settled bridge changes nothing (`registerSubnetBridge_of_settled`); one whose
  creation succeeds settles its bridge (`registerSubnetBridge_settles`).
* **`createHiddenInfrastructure_rerun`** — after a first run that returns `0` without interruption
  and whose creations all succeed, a second run issues only the commands of
  `create_namespace_safe`, adds `0` to `bridges_created` and leaves the registry as it is. -/

namespace TracerouteSimulator.Mesh

open Registry Facts

/-! ## (1) Loops whose flag stays set -/

/-- **`interrupted` stays set once set**: only `sigint_handler` writes it, and it writes `1`. -/
def World.FlagMonotone (w : World) : Prop :=
  ∀ t, w.interrupted t = true → w.interrupted (t + 1) = true

/-- Every test from the `t`-th on finds the flag set. -/
def World.StopsFrom (w : World) (t : Nat) : Prop :=
  ∀ t', t ≤ t' → w.interrupted t' = true

theorem World.FlagMonotone.stopsFrom {w : World} (hm : w.FlagMonotone) {t : Nat}
    (h : w.interrupted t = true) : w.StopsFrom t := by
  intro t' ht
  induction t', ht using Nat.le_induction with
  | base => exact h
  | succ n _ ih => exact hm n ih

theorem World.StopsFrom.succ {w : World} {t : Nat} (h : w.StopsFrom t) : w.StopsFrom (t + 1) :=
  fun t' ht => h t' (by omega)

/-- **A loop that starts with the flag set for good** leaves its state alone. -/
theorem forUntil_of_stopsFrom {α σ : Type} {w : World} {body : α → σ × Nat → σ × Nat} {t : Nat}
    (h : w.StopsFrom t) (xs : List α) (s : σ) :
    (forUntil w body xs (s, t)).1 = s ∧ w.StopsFrom (forUntil w body xs (s, t)).2 := by
  cases xs with
  | nil => exact ⟨rfl, h⟩
  | cons x xs =>
    simp only [forUntil, h t (le_refl t), if_true, true_and]
    exact h.succ

/-- A fold whose steps only append keeps its start as a prefix. -/
theorem prefix_foldl {α β : Type} {g : α → List β → List β} (hg : ∀ x acc, acc <+: g x acc) :
    ∀ (xs : List α) (acc : List β), acc <+: xs.foldl (fun acc x => g x acc) acc
  | [], _ => List.prefix_refl _
  | x :: xs, acc => (hg x acc).trans (prefix_foldl hg xs (g x acc))

/-- **A collecting loop whose flag stays set**, against the fold `g` its iterations compute when
nothing interrupts them, with steps that only append: the loop computes the fold, or it stops with
the flag set for good at a prefix of the fold. -/
theorem forUntil_foldl_or_stops {α β : Type} {w : World} (hm : w.FlagMonotone)
    {g : α → List β → List β} (hg : ∀ x acc, acc <+: g x acc)
    {body : α → List β × Nat → List β × Nat}
    (hb : ∀ x acc t, (body x (acc, t)).1 = g x acc ∨
      w.StopsFrom (body x (acc, t)).2 ∧ (body x (acc, t)).1 <+: g x acc) :
    ∀ (xs : List α) (acc : List β) (t : Nat),
      (forUntil w body xs (acc, t)).1 = xs.foldl (fun acc x => g x acc) acc ∨
        w.StopsFrom (forUntil w body xs (acc, t)).2 ∧
          (forUntil w body xs (acc, t)).1 <+: xs.foldl (fun acc x => g x acc) acc
  | [], _, _ => .inl rfl
  | x :: xs, acc, t => by
    cases hx : w.interrupted t with
    | true =>
      simp only [forUntil, hx, if_true, List.foldl_cons]
      exact .inr ⟨(hm.stopsFrom hx).succ, (hg x acc).trans (prefix_foldl hg xs _)⟩
    | false =>
      simp only [forUntil, hx, Bool.false_eq_true, if_false, List.foldl_cons]
      rcases hbx : body x (acc, t + 1) with ⟨acc₁, t₁⟩
      rcases hbx ▸ hb x acc (t + 1) with (rfl : acc₁ = g x acc) | ⟨hs, hp⟩
      · exact forUntil_foldl_or_stops hm hg hb xs _ t₁
      · obtain ⟨h₁, h₂⟩ := @forUntil_of_stopsFrom α (List β) w body t₁ hs xs acc₁
        rw [h₁]
        exact .inr ⟨h₂, hp.trans (prefix_foldl hg xs _)⟩

/-! ## (2) The subnet collection -/

/-- **The subnet collection of a run that nothing interrupts**: routers, interfaces, addresses. -/
def collectAll (routers : List Router) (subnets : List (List Char)) : List (List Char) :=
  routers.foldl (fun acc r => r.interfaces.foldl (fun acc i => collectAddresses i.addresses acc) acc)
    subnets

theorem prefix_collectStep (acc : List (List Char)) (a : Address) : acc <+: collectStep acc a := by
  unfold collectStep
  split
  · split
    · exact List.prefix_append _ _
    · exact List.prefix_refl _
  · exact List.prefix_refl _

theorem prefix_collectAddresses (addrs : List Address) (acc : List (List Char)) :
    acc <+: collectAddresses addrs acc :=
  prefix_foldl (fun a acc => prefix_collectStep acc a) addrs acc

/-- **The collection with a flag that stays set** computes the uninterrupted collection, or stops
for good at a prefix of it. -/
theorem collectSubnets_cases {w : World} (hm : w.FlagMonotone) (routers : List Router)
    (acc : List (List Char)) (t : Nat) :
    (collectSubnets w routers (acc, t)).1 = collectAll routers acc ∨
      w.StopsFrom (collectSubnets w routers (acc, t)).2 ∧
        (collectSubnets w routers (acc, t)).1 <+: collectAll routers acc := by
  -- the interface loop, whose body does not test the flag
  have hinner : ∀ (ifaces : List Interface) (acc : List (List Char)) (t : Nat),
      let r := forUntil w (fun i st => (collectAddresses i.addresses st.1, st.2)) ifaces (acc, t)
      r.1 = ifaces.foldl (fun acc i => collectAddresses i.addresses acc) acc ∨
        w.StopsFrom r.2 ∧ r.1 <+: ifaces.foldl (fun acc i => collectAddresses i.addresses acc) acc :=
    forUntil_foldl_or_stops hm (fun (i : Interface) acc => prefix_collectAddresses i.addresses acc)
      (fun _ _ _ => .inl rfl)
  unfold collectSubnets collectAll
  exact forUntil_foldl_or_stops hm
    (fun (r : Router) acc =>
      prefix_foldl (fun (i : Interface) acc => prefix_collectAddresses i.addresses acc) r.interfaces acc)
    (fun r acc t => hinner r.interfaces acc t) routers acc t

theorem collectSubnets_prefix_collectAll {w : World} (hm : w.FlagMonotone) (routers : List Router)
    (acc : List (List Char)) (t : Nat) :
    (collectSubnets w routers (acc, t)).1 <+: collectAll routers acc := by
  rcases collectSubnets_cases hm routers acc t with h | ⟨-, h⟩
  · exact h ▸ List.prefix_refl _
  · exact h

theorem collectSubnets_of_never {w : World} (hw : ∀ t, w.interrupted t = false)
    (routers : List Router) (acc : List (List Char)) (t : Nat) :
    (collectSubnets w routers (acc, t)).1 = collectAll routers acc := by
  have hm : w.FlagMonotone := fun t h => by rw [hw t] at h; cases h
  rcases collectSubnets_cases hm routers acc t with h | ⟨hs, -⟩
  · exact h
  · exact absurd (hs _ (le_refl _)) (by rw [hw]; decide)

theorem mem_collectStep {acc : List (List Char)} {a : Address} {s : List Char}
    (h : s ∈ collectStep acc a) : s ∈ acc ∨ subnetOf a.ip = some s := by
  cases hs : subnetOf a.ip with
  | none => simp only [collectStep, hs] at h; exact .inl h
  | some s' =>
    simp only [collectStep, hs] at h
    split at h
    · rcases List.mem_append.mp h with h | h
      · exact .inl h
      · exact .inr (by rw [List.mem_singleton.mp h])
    · exact .inl h

/-- **The bridge name of a subnet text does not depend on the time**: `sscanf` reads back every
subnet `inet_ntoa` and `%u` printed, so the `time(NULL)` fallback is never taken. -/
theorem generateBridgeName_of_subnetOf {ip s : List Char} (h : subnetOf ip = some s)
    (now now' : Nat) : generateBridgeName s now = generateBridgeName s now' := by
  obtain ⟨a, -, rfl⟩ := subnetOf_eq_some h
  rw [generateBridgeName_subnetText _ (splitCidr_prefix_lt ip),
    generateBridgeName_subnetText _ (splitCidr_prefix_lt ip)]

/-- **Every collected subnet has one bridge name at every time**, whatever interrupts the
collection. -/
theorem collectSubnets_bridgeName (w : World) (routers : List Router) (t : Nat) :
    ∀ s ∈ (collectSubnets w routers ([], t)).1, ∀ now now',
      generateBridgeName s now = generateBridgeName s now' := by
  let P : List (List Char) → Prop := fun acc =>
    ∀ s ∈ acc, ∀ now now', generateBridgeName s now = generateBridgeName s now'
  have haddr : ∀ (addrs : List Address) acc, P acc → P (collectAddresses addrs acc) := by
    intro addrs
    induction addrs with
    | nil => exact fun _ h => h
    | cons a addrs ih =>
      refine fun acc h => ih _ fun s hs => ?_
      rcases mem_collectStep hs with hs | hs
      · exact h s hs
      · exact generateBridgeName_of_subnetOf hs
  exact forUntil_induction P (fun r _ acc _ h => forUntil_induction P
    (fun i _ acc _ h => haddr i.addresses acc h) h) (fun _ h => absurd h (List.not_mem_nil _))

/-! ## (3) Settled bridges -/

/-- **The bridge of `name` needs no creation**: an active entry holds the name and is created, or
all `MAX_BRIDGES` entries hold other names, so that `register_bridge_shm` returns `-1`. -/
def BridgeSettled (reg : ShmRegistry) (name : List Char) : Prop :=
  (∃ i < reg.bridgeCount, (reg.bridges i).bridgeName = name ∧ (reg.bridges i).created = true) ∨
    reg.bridgeCount = maxBridges ∧ ∀ i < reg.bridgeCount, (reg.bridges i).bridgeName ≠ name

section Settled

variable {reg : ShmRegistry} {name : List Char}

theorem BridgeSettled.setBridgeCreated (h : BridgeSettled reg name) (i : Nat) :
    BridgeSettled (setBridgeCreated reg i) name := by
  simp only [BridgeSettled, Registry.setBridgeCreated, Function.update_apply] at h ⊢
  rcases h with ⟨j, hj, hn, hc⟩ | ⟨hfull, habs⟩
  · exact .inl ⟨j, hj, by by_cases hji : j = i <;> simp_all⟩
  · exact .inr ⟨hfull, fun j hj => by by_cases hji : j = i <;> simp_all⟩

theorem bridgeSettled_setBridgeCreated {i : Nat} (hlt : i < reg.bridgeCount)
    (hname : (reg.bridges i).bridgeName = name) : BridgeSettled (setBridgeCreated reg i) name :=
  .inl ⟨i, hlt, by simpa [Registry.setBridgeCreated] using hname, by simp [Registry.setBridgeCreated]⟩

/-- Claiming the slot past the active ones keeps every settled bridge. -/
theorem BridgeSettled.claim (h : BridgeSettled reg name) (hc : reg.bridgeCount < maxBridges)
    (bridgeName subnet : List Char) :
    BridgeSettled (reg.claimBridgeSlot reg.bridgeCount bridgeName subnet) name := by
  rcases h with ⟨j, hj, hn, hcr⟩ | ⟨hfull, -⟩
  · refine .inl ⟨j, by simp [ShmRegistry.claimBridgeSlot]; omega, ?_⟩
    simp [ShmRegistry.claimBridgeSlot, Function.update_noteq (Nat.ne_of_lt hj), hn, hcr]
  · omega

end Settled

/-! ## (4) One iteration of the bridge loop -/

section Step

variable {w : World} {s : List Char} {st : ShmRegistry × List (List Char) × Nat}

theorem claimBridgeSlot_created (reg : ShmRegistry) (i : Nat) (bridgeName subnet : List Char) :
    ((reg.claimBridgeSlot i bridgeName subnet).bridges i).created = false := by
  simp [ShmRegistry.claimBridgeSlot]

/-- **Everything one iteration of the bridge loop can do** on a table that keeps its invariant:
nothing, when the bridge is settled; or issue the creation for an entry `i` of the name (found not
created, or claimed) in a table that keeps its invariant and every settled bridge, setting the
entry created when the command succeeds. -/
theorem registerSubnetBridge_cases (hi : BridgeTableInv st.1) :
    (BridgeSettled st.1 (generateBridgeName s w.now) ∧ registerSubnetBridge w s st = st) ∨
    ∃ reg i, BridgeTableInv reg ∧ i < reg.bridgeCount ∧
      (reg.bridges i).bridgeName = generateBridgeName s w.now ∧
      (∀ n, BridgeSettled st.1 n → BridgeSettled reg n) ∧
      ¬ BridgeSettled st.1 (generateBridgeName s w.now) ∧
      registerSubnetBridge w s st =
        if w.system (bridgeAddCommand (generateBridgeName s w.now)) then
          (setBridgeCreated reg i, st.2.1 ++ [bridgeAddCommand (generateBridgeName s w.now),
            inHidden ("ip link set ".toList ++ generateBridgeName s w.now ++ " up".toList)],
            st.2.2 + 1)
        else (reg, st.2.1 ++ [bridgeAddCommand (generateBridgeName s w.now)], st.2.2) := by
  have hn : (generateBridgeName s w.now).length < bridgeFieldLen :=
    (List.length_take_le _ _).trans_lt (by decide)
  obtain ⟨i, hlt, hname, he⟩ | ⟨habs, hfull, he⟩ | ⟨habs, hlt, he⟩ :=
    registerBridgeShm_cases hi (generateBridgeName s w.now) s
  · cases hc : (st.1.bridges i).created
    · -- found, not yet created
      refine .inr ⟨st.1, i, hi, hlt, hname, fun _ h => h, ?_, ?_⟩
      · rintro (⟨j, hj, hjn, hjc⟩ | ⟨-, habs⟩)
        · rw [hi.name_inj j hj i hlt (hjn.trans hname.symm), hc] at hjc
          cases hjc
        · exact habs i hlt hname
      · simp only [registerSubnetBridge, he, hc, Bool.false_eq_true, if_false]
    · exact .inl ⟨.inl ⟨i, hlt, hname, hc⟩, by simp only [registerSubnetBridge, he, hc, if_true]⟩
  · exact .inl ⟨.inr ⟨hfull, habs⟩, by simp only [registerSubnetBridge, he]⟩
  · -- a fresh slot is claimed
    have hn' : (generateBridgeName s w.now).length ≤ bridgeFieldLen - 1 := by omega
    refine .inr ⟨st.1.claimBridgeSlot st.1.bridgeCount (generateBridgeName s w.now) s,
      st.1.bridgeCount, hi.claim hn habs hlt, by simp [ShmRegistry.claimBridgeSlot],
      by simp [ShmRegistry.claimBridgeSlot, List.take_of_length_le hn'],
      fun _ h => h.claim hlt _ _, ?_, ?_⟩
    · rintro (⟨j, hj, hjn, -⟩ | ⟨hfull, -⟩)
      · exact habs j hj hjn
      · omega
    · simp only [registerSubnetBridge, he, claimBridgeSlot_created, Bool.false_eq_true, if_false]

/-- **An iteration on a settled bridge changes nothing**: no command, no count, no write. -/
theorem registerSubnetBridge_of_settled (hi : BridgeTableInv st.1)
    (hs : BridgeSettled st.1 (generateBridgeName s w.now)) : registerSubnetBridge w s st = st := by
  rcases registerSubnetBridge_cases hi with ⟨-, he⟩ | ⟨_, _, -, -, -, -, hns, -⟩
  · exact he
  · exact absurd hs hns

/-- **An iteration whose creation succeeds settles its bridge**, and keeps the table invariant and
every bridge already settled. -/
theorem registerSubnetBridge_settles (hi : BridgeTableInv st.1)
    (hok : bridgeAddCommand (generateBridgeName s w.now) ∈ (registerSubnetBridge w s st).2.1 →
      w.system (bridgeAddCommand (generateBridgeName s w.now)) = true) :
    BridgeTableInv (registerSubnetBridge w s st).1 ∧
      BridgeSettled (registerSubnetBridge w s st).1 (generateBridgeName s w.now) ∧
      ∀ n, BridgeSettled st.1 n → BridgeSettled (registerSubnetBridge w s st).1 n := by
  rcases registerSubnetBridge_cases hi with ⟨hs, he⟩ | ⟨reg, i, hreg, hlt, hname, hkeep, -, he⟩
  · rw [he]
    exact ⟨hi, hs, fun _ h => h⟩
  · rw [he] at hok ⊢
    cases hsys : w.system (bridgeAddCommand (generateBridgeName s w.now))
    · simp only [hsys, Bool.false_eq_true, if_false] at hok
      exact absurd (hok (List.mem_append_right _ (List.mem_singleton_self _))) (by decide)
    · simp only [if_true]
      exact ⟨hreg.setBridgeCreated i, bridgeSettled_setBridgeCreated hlt hname,
        fun n h => (hkeep n h).setBridgeCreated i⟩

theorem registerSubnetBridge_system_grows (w : World) (s : List Char)
    (st : ShmRegistry × List (List Char) × Nat) : st.2.1 <+: (registerSubnetBridge w s st).2.1 := by
  rcases h : registerBridgeShm st.1 (generateBridgeName s w.now) s with ⟨reg, _ | i⟩
  · simp only [registerSubnetBridge, h]
    exact List.prefix_refl _
  · simp only [registerSubnetBridge, h]
    split_ifs
    · exact List.prefix_refl _
    all_goals exact List.prefix_append _ _

end Step

/-! ## (5) The two runs -/

theorem registerBridges_system_grows (w : World) (subnets : List (List Char))
    (st : ShmRegistry × List (List Char) × Nat) (t : Nat) :
    st.2.1 <+: (forUntil w (fun s st => (registerSubnetBridge w s st.1, st.2)) subnets (st, t)).1.2.1 :=
  forUntil_induction (fun st' : ShmRegistry × List (List Char) × Nat => st.2.1 <+: st'.2.1)
    (fun x _ s _ h => h.trans (registerSubnetBridge_system_grows w x s)) (List.prefix_refl _)

/-- **The first run's bridge loop**, not interrupted and with every creation it issues succeeding,
settles the bridge of every subnet it visits and keeps what was settled. -/
theorem registerBridges_settles {w : World} (hw : ∀ t, w.interrupted t = false) :
    ∀ (subnets : List (List Char)) (st : ShmRegistry × List (List Char) × Nat) (t : Nat),
      BridgeTableInv st.1 →
      (∀ n, bridgeAddCommand n ∈
          (forUntil w (fun s st => (registerSubnetBridge w s st.1, st.2)) subnets (st, t)).1.2.1 →
        w.system (bridgeAddCommand n) = true) →
      let reg := (forUntil w (fun s st => (registerSubnetBridge w s st.1, st.2)) subnets (st, t)).1.1
      BridgeTableInv reg ∧ (∀ n, BridgeSettled st.1 n → BridgeSettled reg n) ∧
        ∀ s ∈ subnets, BridgeSettled reg (generateBridgeName s w.now)
  | [], _, _, hi, _ => ⟨hi, fun _ h => h, fun _ h => absurd h (List.not_mem_nil _)⟩
  | s :: rest, st, t, hi, hok => by
    rw [forUntil_of_never hw] at hok ⊢
    obtain ⟨h₁, h₂, h₃⟩ := registerSubnetBridge_settles hi fun h =>
      hok _ ((registerBridges_system_grows w rest _ (t + 1)).subset h)
    obtain ⟨i₁, i₂, i₃⟩ := registerBridges_settles hw rest _ (t + 1) h₁ hok
    refine ⟨i₁, fun n h => i₂ n (h₃ n h), fun s' hs' => ?_⟩
    rcases List.mem_cons.mp hs' with rfl | hs'
    · exact i₂ _ h₂
    · exact i₃ s' hs'

/-- **A bridge loop over settled bridges changes nothing.** -/
theorem registerBridges_of_settled {w : World} {subnets : List (List Char)}
    (st : ShmRegistry × List (List Char) × Nat) (hi : BridgeTableInv st.1)
    (hs : ∀ s ∈ subnets, BridgeSettled st.1 (generateBridgeName s w.now)) (t : Nat) :
    (forUntil w (fun s st => (registerSubnetBridge w s st.1, st.2)) subnets (st, t)).1 = st :=
  forUntil_induction (fun st' => st' = st)
    (fun x hx _ _ h => by subst h; exact registerSubnetBridge_of_settled hi (hs x hx)) rfl

/-- **The first run settles the bridge of every subnet of the context** it collects, under every
name the time may give it. -/
theorem createHiddenInfrastructure_settles {w : World} (hw : ∀ t, w.interrupted t = false)
    {ctx : FactsContext} {reg : ShmRegistry} (hi : BridgeTableInv reg) {t : Nat}
    (hA : (createHiddenInfrastructure w ctx reg t).status = 0)
    (hok : ∀ n, bridgeAddCommand n ∈ (createHiddenInfrastructure w ctx reg t).system →
      w.system (bridgeAddCommand n) = true) :
    BridgeTableInv (createHiddenInfrastructure w ctx reg t).registry ∧
      ∀ s ∈ collectAll ctx.routers [], ∀ now,
        BridgeSettled (createHiddenInfrastructure w ctx reg t).registry (generateBridgeName s now) := by
  rcases hns : createNamespaceSafe w hiddenNs with ⟨_ | _, sys⟩
  · simp [createHiddenInfrastructure, hns] at hA
  · simp only [createHiddenInfrastructure, hns] at hok ⊢
    obtain ⟨h₁, -, h₃⟩ := registerBridges_settles hw _ (reg, sys, 0) _ hi hok
    refine ⟨h₁, fun s hs now => ?_⟩
    rw [← collectSubnets_of_never hw ctx.routers [] t] at hs
    rw [collectSubnets_bridgeName w ctx.routers t s hs now w.now]
    exact h₃ s hs

/-- **A run on settled bridges** issues only the commands of `create_namespace_safe`, counts no
bridge and writes nothing. -/
theorem createHiddenInfrastructure_of_settled {w : World} (hm : w.FlagMonotone)
    {ctx : FactsContext} {reg : ShmRegistry} (hi : BridgeTableInv reg)
    (hs : ∀ s ∈ collectAll ctx.routers [], ∀ now, BridgeSettled reg (generateBridgeName s now))
    (t : Nat) :
    (createHiddenInfrastructure w ctx reg t).registry = reg ∧
      (createHiddenInfrastructure w ctx reg t).system = (createNamespaceSafe w hiddenNs).2 ∧
      (createHiddenInfrastructure w ctx reg t).bridgesCreated = 0 := by
  rcases hns : createNamespaceSafe w hiddenNs with ⟨_ | _, sys⟩
  · simp [createHiddenInfrastructure, hns]
  · simp only [createHiddenInfrastructure, hns]
    rw [registerBridges_of_settled (reg, sys, 0) hi
      (fun s h => hs s ((collectSubnets_prefix_collectAll hm _ _ _).subset h) w.now)]
    exact ⟨rfl, rfl, rfl⟩

/-- The first characters of a bridge creation. -/
theorem bridgeAddCommand_take (n : List Char) :
    (bridgeAddCommand n).take 38 = "ip netns exec hidden-mesh ip link add ".toList :=
  rfl

/-- **`create_namespace_safe` creates no bridge.** -/
theorem bridgeAddCommand_not_mem_createNamespaceSafe (w : World) (n : List Char) :
    bridgeAddCommand n ∉ (createNamespaceSafe w hiddenNs).2 := by
  have key : ∀ c ∈ (createNamespaceSafe w hiddenNs).2,
      c.take 38 ≠ "ip netns exec hidden-mesh ip link add ".toList := by
    simp only [createNamespaceSafe]
    split_ifs <;> decide
  exact fun h => key _ h (bridgeAddCommand_take n)

/-- **Phase A run a second time.** From a registry whose bridge table keeps its invariant, let a
first `create_hidden_infrastructure` return `0` without interruption, with every bridge creation it
issues succeeding. A second run on the registry it leaves, at any flag test, with a flag that stays
set once set and any answers of the system and any time, issues only the commands of
`create_namespace_safe` and so no bridge creation, adds `0` to `bridges_created`, and leaves the
registry as it is. -/
theorem createHiddenInfrastructure_rerun {w₁ w₂ : World} {ctx : FactsContext} {reg : ShmRegistry}
    {t₁ t₂ : Nat} (hi : BridgeTableInv reg) (hw₁ : ∀ t, w₁.interrupted t = false)
    (hA : (createHiddenInfrastructure w₁ ctx reg t₁).status = 0)
    (hok : ∀ n, bridgeAddCommand n ∈ (createHiddenInfrastructure w₁ ctx reg t₁).system →
      w₁.system (bridgeAddCommand n) = true)
    (hm : w₂.FlagMonotone) :
    let run₁ := createHiddenInfrastructure w₁ ctx reg t₁
    let run₂ := createHiddenInfrastructure w₂ ctx run₁.registry t₂
    run₂.registry = run₁.registry ∧ run₂.system = (createNamespaceSafe w₂ hiddenNs).2 ∧
      (∀ n, bridgeAddCommand n ∉ run₂.system) ∧ run₂.bridgesCreated = 0 := by
  obtain ⟨hinv, hset⟩ := createHiddenInfrastructure_settles hw₁ hi hA hok
  obtain ⟨h₁, h₂, h₃⟩ := createHiddenInfrastructure_of_settled hm hinv hset t₂
  exact ⟨h₁, h₂, fun n h => bridgeAddCommand_not_mem_createNamespaceSafe w₂ n (h₂ ▸ h), h₃⟩

/-- **One router with one subnet, set up twice**: the second run creates nothing. -/
theorem createHiddenInfrastructure_rerun_one_subnet :
    let w : World := ⟨fun _ => true, fun _ => false, true, 0⟩
    let ctx : FactsContext := ⟨[⟨"r1".toList, [⟨"eth0".toList, none, 1500, true,
      [⟨"10.1.1.1/24".toList, none⟩]⟩], [], [], [], none, none⟩]⟩
    let run₁ := createHiddenInfrastructure w ctx cleared 0
    let run₂ := createHiddenInfrastructure w ctx run₁.registry run₁.next
    (run₁.status = 0 ∧ ∀ n, bridgeAddCommand n ∈ run₁.system → w.system (bridgeAddCommand n) = true) ∧
      run₂.registry = run₁.registry ∧ run₂.system = (createNamespaceSafe w hiddenNs).2 ∧
      (∀ n, bridgeAddCommand n ∉ run₂.system) ∧ run₂.bridgesCreated = 0 :=
  ⟨⟨by decide, fun _ _ => rfl⟩, createHiddenInfrastructure_rerun bridgeTableInv_cleared (fun _ => rfl)
    (by decide) (fun _ _ => rfl) (fun _ h => h)⟩

set_option maxRecDepth 8000 in
/-- **A first run cut short by `SIGINT`.** The flag is set before the collection: the first run
returns `0`, and every bridge creation it issued succeeded (it issued none), yet the second run
creates the bridge of `10.1.1.0/24`, counts it, and claims a registry slot for it. -/
theorem createHiddenInfrastructure_rerun_after_interrupt :
    let w₁ : World := ⟨fun _ => true, fun _ => true, true, 0⟩
    let w₂ : World := ⟨fun _ => true, fun _ => false, true, 0⟩
    let ctx : FactsContext := ⟨[⟨"r1".toList, [⟨"eth0".toList, none, 1500, true,
      [⟨"10.1.1.1/24".toList, none⟩]⟩], [], [], [], none, none⟩]⟩
    let run₁ := createHiddenInfrastructure w₁ ctx cleared 0
    let run₂ := createHiddenInfrastructure w₂ ctx run₁.registry run₁.next
    run₁.status = 0 ∧
      (∀ n, bridgeAddCommand n ∈ run₁.system → w₁.system (bridgeAddCommand n) = true) ∧
      bridgeAddCommand (generateBridgeName "10.1.1.0/24".toList 0) ∈ run₂.system ∧
      run₂.bridgesCreated = 1 ∧ run₂.registry.bridgeCount = run₁.registry.bridgeCount + 1 :=
  ⟨by decide, fun _ _ => rfl, by decide, by decide, by decide⟩

end TracerouteSimulator.Mesh
