import TracerouteSimulator.Mesh.Phases
import TracerouteSimulator.Mesh.Rerun
import TracerouteSimulator.Facts.Loader
import TracerouteSimulator.Facts.Interfaces

/-! # `main` of `hidden_mesh_setup`: runs of the program and the registry they leave

The shared registry lives in the POSIX shared-memory object `/tsim_registry`, which outlives each
run of `hidden_mesh_setup`: a run attaches to it (or creates it), Phase A and the router setups
write into it, and only `--cleanup` removes it. This module models `main` from the argument loop to
its return, and the object across any sequence of runs.

* **`parseMeshArgs`** — the argument loop: `-v`, `-p`, `--limit PATTERN` (only with an argument
  after it), and the two options that end the loop, `--cleanup` and `-h`.
* **`openSharedRegistry`** — `open_shared_registry(0)`: attach to the object or create it zeroed
  with `version = 1`; **`cleanupCommands`** — the commands of `cleanup_namespaces`.
* **`meshMain`** — one run: the exit status, the object after it and the `system` commands; with
  `--parallel` the run is followed up to the fork (`MainOutcome.forked`, with the batches whose
  `fork` returned a child: `main` passes over a failed one), and the children are the business of
  `Registry.Parallel` and `Mesh.ParallelSetup`.
* **`StoreReach`** — the objects any sequence of runs without `--parallel` leaves;
  **`storeReach_registryInv`** — every one of them keeps the registry invariant of
  `Registry.Invariant`, whatever the arguments, facts, answers of `system` and interrupts. -/

namespace TracerouteSimulator.Mesh

open Registry Facts

/-! ## (1) The argument loop -/

/-- **The options of `mesh_context_t`**, zeroed by `calloc` in `create_mesh_context`. The model
counts `-v` in a `Nat`: `argc` cannot reach the `int` limit. -/
structure MeshOptions where
  /-- `verbose`. -/
  verbose : Nat
  /-- `parallel`. -/
  parallel : Bool
  /-- `limit_pattern`, `NULL` until a `--limit`. -/
  limitPattern : Option (List Char)
  deriving DecidableEq, Repr

/-- The options before the loop. -/
def MeshOptions.init : MeshOptions := ⟨0, false, none⟩

/-- **How the argument loop ends.** -/
inductive MeshArgs
  /-- It ran over every argument. -/
  | setup (opts : MeshOptions)
  /-- It reached `--cleanup`, with the options read before it. -/
  | cleanup (opts : MeshOptions)
  /-- It reached `-h` or `--help`. -/
  | help
  deriving DecidableEq, Repr

/-- **The branches after `--limit`**: `--cleanup` and `-h` end the loop; any other argument is
skipped, and the loop goes on to `next`. -/
def meshArgTail (opts : MeshOptions) (arg : List Char) (next : MeshArgs) : MeshArgs :=
  if arg = "--cleanup".toList then .cleanup opts
  else if arg = "-h".toList ∨ arg = "--help".toList then .help
  else next

/-- **`for (int i = 1; i < argc; i++)`** over `argv[1 .. argc)`. `--limit` takes the next argument,
whatever it is, when there is one; as the last argument it matches no branch and the loop ends. -/
def parseMeshArgs (opts : MeshOptions) : List (List Char) → MeshArgs
  | [] => .setup opts
  | arg :: rest =>
    if arg = "-v".toList ∨ arg = "--verbose".toList then
      parseMeshArgs { opts with verbose := opts.verbose + 1 } rest
    else if arg = "-p".toList ∨ arg = "--parallel".toList then
      parseMeshArgs { opts with parallel := true } rest
    else if arg = "--limit".toList then
      match rest with
      | pattern :: more => parseMeshArgs { opts with limitPattern := some pattern } more
      | [] => .setup opts
    else meshArgTail opts arg (parseMeshArgs opts rest)

/-- **`-p` sets `parallel` and nothing else**: the loop ends as it does without it. -/
theorem parseMeshArgs_parallel (opts : MeshOptions) (args : List (List Char)) :
    parseMeshArgs { opts with parallel := true } args =
      match parseMeshArgs opts args with
      | .setup o => .setup { o with parallel := true }
      | .cleanup o => .cleanup { o with parallel := true }
      | .help => .help := by
  induction opts, args using parseMeshArgs.induct with
  | case1 => rfl
  | case2 _ _ _ h ih =>
    rw [parseMeshArgs.eq_def _ (_ :: _), parseMeshArgs.eq_def _ (_ :: _)]
    simp only [if_pos h]
    exact ih
  | case3 _ _ _ h₁ h₂ ih =>
    rw [parseMeshArgs.eq_def _ (_ :: _), parseMeshArgs.eq_def _ (_ :: _)]
    simp only [if_neg h₁, if_pos h₂]
    exact ih
  | case4 _ _ _ h₁ h₂ ih =>
    rw [parseMeshArgs.eq_def _ (_ :: _), parseMeshArgs.eq_def _ (_ :: _)]
    simp only [if_neg h₁, if_neg h₂, if_true]
    exact ih
  | case5 _ h₁ h₂ =>
    rw [parseMeshArgs.eq_def _ (_ :: _), parseMeshArgs.eq_def _ (_ :: _)]
    simp only [if_neg h₁, if_neg h₂, if_true]
  | case6 _ _ _ h₁ h₂ h₃ ih =>
    rw [parseMeshArgs.eq_def _ (_ :: _), parseMeshArgs.eq_def _ (_ :: _)]
    simp only [if_neg h₁, if_neg h₂, if_neg h₃, meshArgTail, ih]
    split_ifs <;> rfl

/-- **`-p` in front of the arguments** sets `parallel` before the loop reads the rest. -/
theorem parseMeshArgs_cons_parallel (opts : MeshOptions) (args : List (List Char)) :
    parseMeshArgs opts ("-p".toList :: args) = parseMeshArgs { opts with parallel := true } args := by
  rw [parseMeshArgs.eq_def _ (_ :: _)]
  simp only [if_neg (by decide : ¬("-p".toList = "-v".toList ∨ "-p".toList = "--verbose".toList)),
    true_or, if_true]

/-! ## (2) The shared-memory object -/

/-- **`open_shared_registry(0)`** on the object `/tsim_registry`, `none` when it does not exist:
the object after the call and the mapping, `none` for `NULL`. It attaches to the object, or creates
it and zeroes it with `version = 1`; `ok` is whether `shm_open`, `ftruncate` and `mmap` succeed. A
failed call leaves the object as it was: it unlinks one it has just created. -/
def openSharedRegistry (ok : Bool) (store : Option ShmRegistry) :
    Option ShmRegistry × Option ShmRegistry :=
  if ok then (some (store.getD cleared), some (store.getD cleared)) else (store, none)

/-- **The commands of `cleanup_namespaces`**: for each router, flush and destroy its ipsets and
delete its namespace; then delete the hidden namespace. -/
def cleanupCommands (routers : List Router) : List (List Char) :=
  routers.flatMap (fun r =>
    [cmd512 ("ip netns exec ".toList ++ r.name ++ " ipset flush 2>/dev/null || true".toList),
     cmd512 ("ip netns exec ".toList ++ r.name ++ " ipset destroy 2>/dev/null || true".toList),
     cmd512 ("ip netns del ".toList ++ r.name ++ " 2>/dev/null".toList)]) ++
    [cmd512 ("ip netns del ".toList ++ hiddenNs ++ " 2>/dev/null".toList)]

/-! ## (3) One run -/

/-- **What `main` reads besides the world of the phases.** -/
structure MainEnv where
  /-- Whether `calloc` in `create_mesh_context` succeeds. -/
  allocated : Bool
  /-- Whether `open_shared_registry` succeeds; every attempt of a run answers alike. -/
  shmOpens : Bool
  /-- `geteuid()`. -/
  euid : Nat
  /-- The facts directory, as `load_facts_from_env_filtered` reads it. -/
  factsDir : Option (List DirEntry)
  /-- Whether the `p`-th `fork` of the fork loop of `--parallel` returns a child. -/
  forkOk : Nat → Bool

/-- **How a run of `main` ends.** -/
inductive MainOutcome
  /-- `main` returns `code`, with the shared-memory object and the `system` commands of the run. -/
  | exit (code : Int) (store : Option ShmRegistry) (system : List (List Char))
  /-- With `--parallel`, the parent has forked its children on the registry `reg` Phase A left:
  `children` are the batches of ten of the loaded `routers` whose `fork` returned a child, in
  order; `next` is the next test of the flag. -/
  | forked (reg : ShmRegistry) (system : List (List Char)) (routers : List Router)
      (children : List Nat) (next : Nat)

/-- **The sequential router loop** of `main`: `setup_router_with_veth` for each router, the flag
tested before each; the registry, the `system` commands and the next test of the flag. -/
def setupRoutersSequential (w : World) (routers : List Router) (reg : ShmRegistry)
    (system : List (List Char)) (t : Nat) : (ShmRegistry × List (List Char)) × Nat :=
  forUntil w (fun router st =>
    let r := (setupRouterWithVeth w router st.1.1 st.2).1
    ((r.registry, st.1.2 ++ r.system), r.next)) routers ((reg, system), t)

/-- **The fork loop** of `main`: one `fork` per batch of ten routers, the flag tested before each;
the batches whose `fork` returned a child and the next test of the flag. A `fork` that fails
returns a negative pid, which the loop passes over: that batch is not set up. -/
def forkRouterBatches (w : World) (forkOk : Nat → Bool) (routers : List Router) (t : Nat) :
    List Nat × Nat :=
  forUntil w (fun p st => (if forkOk p then st.1 ++ [p] else st.1, st.2))
    (List.range ((routers.length + 9) / 10)) ([], t)

/-- **The forks of the loop**: from the batches `acc`, the loop adds those of the first `k` turns
whose `fork` returned a child, in order, where `k` is the turn at which the flag stopped it; every
turn when the flag stays clear. -/
theorem forUntil_forks (w : World) (forkOk : Nat → Bool) :
    ∀ (xs acc : List Nat) (t : Nat), ∃ k,
      (forUntil w (fun p st => (if forkOk p then st.1 ++ [p] else st.1, st.2)) xs (acc, t)).1 =
        acc ++ (xs.take k).filter forkOk ∧ ((∀ t, w.interrupted t = false) → k = xs.length)
  | [], acc, _ => ⟨0, by simp [forUntil], fun _ => rfl⟩
  | p :: xs, acc, t => by
    cases ht : w.interrupted t with
    | true => exact ⟨0, by simp [forUntil, ht], fun hw => absurd (hw t) (by simp [ht])⟩
    | false =>
      obtain ⟨k, hk, hlen⟩ := forUntil_forks w forkOk xs
        (if forkOk p then acc ++ [p] else acc) (t + 1)
      refine ⟨k + 1, ?_, fun hw => by simp [hlen hw]⟩
      simp only [forUntil, ht, Bool.false_eq_true, if_false, hk, List.take_succ_cons,
        List.filter_cons]
      split <;> simp

/-- **The children of the fork loop** are the batches whose `fork` succeeded among those the loop
reached before the flag stopped it: all of them, in order, when no `fork` fails and the flag stays
clear. -/
theorem forkRouterBatches_eq (w : World) (forkOk : Nat → Bool) (routers : List Router) (t : Nat) :
    ∃ k, (forkRouterBatches w forkOk routers t).1 =
        ((List.range ((routers.length + 9) / 10)).take k).filter forkOk ∧
      ((∀ t, w.interrupted t = false) → k = (routers.length + 9) / 10) := by
  obtain ⟨k, hk, hlen⟩ := forUntil_forks w forkOk (List.range ((routers.length + 9) / 10)) [] t
  exact ⟨k, hk, fun hw => (hlen hw).trans (List.length_range _)⟩

/-- **`main(argc, argv)` of `hidden_mesh_setup`** on the object `store`, with the interface parser
of the loader. `create_mesh_context` opens the registry before the arguments are read;
`--cleanup` clears it and unlinks the object when it is open; when it could not be opened,
`create_hidden_infrastructure` fails at its own attempt after creating the hidden namespace. -/
def meshMain (parseInterfaces : List Char → List Interface) (env : MainEnv) (w : World)
    (args : List (List Char)) (store : Option ShmRegistry) : MainOutcome :=
  if !env.allocated then .exit 1 store []
  else
    let (store, mapped) := openSharedRegistry env.shmOpens store
    match parseMeshArgs MeshOptions.init args with
    | .help => .exit 0 store []
    | .cleanup opts =>
      match loadFactsFromEnvFiltered parseInterfaces env.factsDir opts.limitPattern with
      | none => .exit 0 store []
      | some ctx => .exit 0 (if mapped.isSome then none else store) (cleanupCommands ctx.routers)
    | .setup opts =>
      if env.euid ≠ 0 then .exit 1 store []
      else match loadFactsFromEnvFiltered parseInterfaces env.factsDir opts.limitPattern with
        | none => .exit 1 store []
        | some ctx =>
          match mapped with
          | none => .exit 1 store (createNamespaceSafe w hiddenNs).2
          | some reg =>
            let A := createHiddenInfrastructure w ctx reg 0
            if A.status ≠ 0 then .exit 1 (some A.registry) A.system
            else if w.interrupted A.next then .exit 130 (some A.registry) A.system
            else if opts.parallel then
              let forks := forkRouterBatches w env.forkOk ctx.routers (A.next + 1)
              .forked A.registry A.system ctx.routers forks.1 forks.2
            else
              let B := setupRoutersSequential w ctx.routers A.registry A.system (A.next + 1)
              .exit (if w.interrupted B.2 then 130 else 0) (some B.1.1) B.1.2

/-! ## (4) The registry across runs

Each run writes the registry only through the operations of `Registry.Ops`, with names that fit:
router names are cut below `MAX_NAME_LEN` by the loader, interface names by the parser, bridge
names by `generate_bridge_name`, and every interface lookup is keyed by a code
`get_router_code_shm` handed out. So every object a run leaves is reachable from the cleared
registry, and keeps its invariant. -/

section Fits

variable {reg : ShmRegistry}

/-- `generate_bridge_name` writes at most `MAX_BRIDGE_NAME - 1` characters. -/
theorem generateBridgeName_length_lt (s : List Char) (now : Nat) :
    (generateBridgeName s now).length < bridgeFieldLen :=
  lt_of_le_of_lt (List.length_take_le _ _) (by decide)

/-- **Phase A keeps the registry reachable**: it registers bridges and sets their flag. -/
theorem createHiddenInfrastructure_reachable (w : World) (ctx : FactsContext) (t : Nat)
    (h : Reachable RegistryOp.Fits reg) :
    Reachable RegistryOp.Fits (createHiddenInfrastructure w ctx reg t).registry := by
  unfold createHiddenInfrastructure
  split
  · exact h
  · refine forUntil_induction (fun st : ShmRegistry × List (List Char) × Nat =>
      Reachable RegistryOp.Fits st.1) (fun s _ st _ hs => ?_) h
    have hreg : Reachable RegistryOp.Fits (registerBridgeShm st.1 (generateBridgeName s w.now) s).1 :=
      .step (.registerBridge _ s) hs (generateBridgeName_length_lt s w.now)
    rcases hr : registerBridgeShm st.1 (generateBridgeName s w.now) s with ⟨reg', _ | i⟩ <;>
      rw [hr] at hreg <;> simp only [registerSubnetBridge, hr]
    · exact hreg
    · split
      · exact hreg
      · split
        · exact .step (.setCreated i) hreg trivial
        · exact hreg

/-- A router whose name and interface names fit the registry's fields. -/
def RouterFits (router : Router) : Prop :=
  router.name.length < maxNameLen ∧ ∀ i ∈ router.interfaces, i.name.length < maxNameLen

/-- **A router setup is a stretch of the session**, for a router that fits: its lookups are the
router's own and then the interfaces', keyed by the code the router's lookup returned. -/
theorem setupRouterWithVeth_sessionReach (w : World) {router : Router} (t : Nat)
    (h : Reachable RegistryOp.Fits reg) (hf : RouterFits router) :
    SessionReach RegistryOp.Fits reg (setupRouterWithVeth w router reg t).1.registry :=
  setupRouterWithVeth_registry_induction w router reg t (fun _ => .refl)
    (fun _ => .single ⟨.getRouterCode _, hf.1, nofun, rfl⟩) fun code _ hc s hs iface hmem _ => by
      obtain ⟨r, hr, rfl, -⟩ := getRouterCodeShm_returns
        (namesInv_of_reachable (h.mono fun _ => RegistryOp.Fits.namesFit)).1 hf.1 hc
      exact hs.tail ⟨.getInterfaceCode _ _, ⟨⟨r, hr, rfl⟩, hf.2 iface hmem⟩, nofun, rfl⟩

theorem setupRouterWithVeth_reachable (w : World) {router : Router} (t : Nat)
    (h : Reachable RegistryOp.Fits reg) (hf : RouterFits router) :
    Reachable RegistryOp.Fits (setupRouterWithVeth w router reg t).1.registry :=
  h.of_sessionReach (setupRouterWithVeth_sessionReach w t h hf)

/-- **The sequential router loop keeps the registry reachable.** -/
theorem setupRoutersSequential_reachable (w : World) {routers : List Router}
    (hr : ∀ router ∈ routers, RouterFits router) (system : List (List Char)) (t : Nat)
    (h : Reachable RegistryOp.Fits reg) :
    Reachable RegistryOp.Fits (setupRoutersSequential w routers reg system t).1.1 :=
  forUntil_induction (fun st : ShmRegistry × List (List Char) => Reachable RegistryOp.Fits st.1)
    (fun router hmem _ _ hs => setupRouterWithVeth_reachable w _ hs (hr router hmem)) h

/-- The router name of a facts file is shorter than `MAX_NAME_LEN`. -/
theorem factsRouterName_length_lt (dName : List Char) :
    (factsRouterName dName).length < maxNameLen := by
  unfold factsRouterName
  split
  · split
    · exact lt_of_le_of_lt (List.length_take_le _ _) (by unfold maxNameLen; omega)
    · exact Nat.zero_lt_succ _
  · exact Nat.zero_lt_succ _

/-- **Every loaded router fits**, when the interface parser gives names that fit. -/
theorem loadFactsFromEnvFiltered_fits {parseInterfaces : List Char → List Interface}
    (hparse : ∀ content, ∀ i ∈ parseInterfaces content, i.name.length < maxNameLen)
    {factsDir : Option (List DirEntry)} {pattern : Option (List Char)} {ctx : FactsContext}
    (h : loadFactsFromEnvFiltered parseInterfaces factsDir pattern = some ctx) :
    ∀ router ∈ ctx.routers, RouterFits router := by
  obtain ⟨entries, -, rfl⟩ := Option.map_eq_some'.mp h
  suffices ∀ (entries : List DirEntry) (acc : FactsContext),
      (∀ router ∈ acc.routers, RouterFits router) →
      ∀ router ∈ (entries.foldl (loadFactsEntry parseInterfaces pattern) acc).routers,
        RouterFits router from this entries ⟨[]⟩ (by simp)
  intro entries
  induction entries with
  | nil => exact fun _ h => h
  | cons e entries ih =>
    refine fun acc hacc => ih _ ?_
    unfold loadFactsEntry
    split_ifs
    · exact hacc
    · exact hacc
    · exact hacc
    · split
      · exact hacc
      · intro router hmem
        rcases List.mem_append.mp hmem with hmem | hmem
        · exact hacc router hmem
        · rw [List.mem_singleton] at hmem
          subst hmem
          exact ⟨factsRouterName_length_lt _, fun i hi => hparse _ i (by simpa [loadRouterFacts,
            createRouter] using hi)⟩

end Fits

/-- **The shared-memory objects that runs without `--parallel` leave**, from a host where the
object does not exist: any sequence of runs, each with its own arguments, facts directory, answers
of `system`, interrupts and outcome of `calloc`, `shm_open` and `geteuid`. -/
inductive StoreReach (parseInterfaces : List Char → List Interface) : Option ShmRegistry → Prop
  | fresh : StoreReach parseInterfaces none
  | run {store store' : Option ShmRegistry} {code : Int} {system : List (List Char)}
      (env : MainEnv) (w : World) (args : List (List Char)) :
      StoreReach parseInterfaces store →
      meshMain parseInterfaces env w args store = .exit code store' system →
      StoreReach parseInterfaces store'

/-- The registry an object holds is reachable. -/
def StoreFits (store : Option ShmRegistry) : Prop :=
  ∀ reg, store = some reg → Reachable RegistryOp.Fits reg

theorem StoreFits.getD {store : Option ShmRegistry} (h : StoreFits store) :
    Reachable RegistryOp.Fits (store.getD cleared) := by
  cases store with
  | none => exact .cleared
  | some reg => exact h reg rfl

/-- **One run keeps the object reachable.** -/
theorem meshMain_storeFits {parseInterfaces : List Char → List Interface}
    (hparse : ∀ content, ∀ i ∈ parseInterfaces content, i.name.length < maxNameLen)
    {env : MainEnv} {w : World} {args : List (List Char)} {store store' : Option ShmRegistry}
    {code : Int} {system : List (List Char)} (hs : StoreFits store)
    (h : meshMain parseInterfaces env w args store = .exit code store' system) : StoreFits store' := by
  have hopen : StoreFits (openSharedRegistry env.shmOpens store).1 := by
    unfold openSharedRegistry
    split
    · rintro reg ⟨⟩; exact hs.getD
    · exact hs
  have hmap : ∀ reg, (openSharedRegistry env.shmOpens store).2 = some reg →
      Reachable RegistryOp.Fits reg := by
    unfold openSharedRegistry
    split
    · rintro reg ⟨⟩; exact hs.getD
    · rintro _ ⟨⟩
  unfold meshMain at h
  split at h
  · cases h; exact hs
  rcases hop : openSharedRegistry env.shmOpens store with ⟨st, mp⟩
  rw [hop] at hopen hmap h
  dsimp only at h
  split at h
  · cases h; exact hopen
  · split at h
    · cases h; exact hopen
    · cases h
      intro reg hreg
      split at hreg
      · cases hreg
      · exact hopen reg hreg
  · split at h
    · cases h; exact hopen
    split at h
    · cases h; exact hopen
    rename_i ctx hctx
    split at h
    · cases h; exact hopen
    rename_i reg₀
    have hA := createHiddenInfrastructure_reachable w ctx 0 (hmap reg₀ rfl)
    split at h
    · cases h; rintro _ ⟨⟩; exact hA
    split at h
    · cases h; rintro _ ⟨⟩; exact hA
    split at h
    · cases h
    · cases h; rintro _ ⟨⟩
      exact setupRoutersSequential_reachable w (loadFactsFromEnvFiltered_fits hparse hctx) _ _ hA

/-- **Every object that runs leave holds a reachable registry.** -/
theorem storeReach_storeFits {parseInterfaces : List Char → List Interface}
    (hparse : ∀ content, ∀ i ∈ parseInterfaces content, i.name.length < maxNameLen)
    {store : Option ShmRegistry} (h : StoreReach parseInterfaces store) : StoreFits store := by
  induction h with
  | fresh => rintro _ ⟨⟩
  | run _ _ _ _ hrun ih => exact meshMain_storeFits hparse ih hrun

/-- **Every registry that runs without `--parallel` leave in shared memory keeps the registry
invariant**, over any sequence of runs from a host without the object, when the interface parser
gives names shorter than `MAX_NAME_LEN`: the router entries are the slots below `router_count` with
their codes and distinct names, each interface block a prefix with its codes and distinct names,
`interface_count` counts the active entries, and the bridges are the slots below `bridge_count`
with distinct names. -/
theorem storeReach_registryInv {parseInterfaces : List Char → List Interface}
    (hparse : ∀ content, ∀ i ∈ parseInterfaces content, i.name.length < maxNameLen)
    {store : Option ShmRegistry} (h : StoreReach parseInterfaces store) {reg : ShmRegistry}
    (hs : store = some reg) : RegistryInv reg := by
  have hreach := storeReach_storeFits hparse h reg hs
  have hn := namesInv_of_reachable (hreach.mono fun _ hop => hop.namesFit)
  exact ⟨hn.1, hn.2, bridgeTableInv_of_reachable hreach⟩

/-- **A first run sets up router `r1`** from a facts directory with one file, on a host without
the object: the object it leaves holds the registry with `r1` in slot `0`, which keeps the
invariant. -/
theorem storeReach_registryInv_one_router :
    StoreReach loadInterfaces (some (getRouterCodeShm cleared "r1".toList).1) ∧
      RegistryInv (getRouterCodeShm cleared "r1".toList).1 := by
  have h : StoreReach loadInterfaces (some (getRouterCodeShm cleared "r1".toList).1) :=
    .run ⟨true, true, 0, some [⟨"r1_facts.txt".toList, some []⟩], fun _ => true⟩
      ⟨fun _ => true, fun _ => false, true, 0⟩ [] .fresh rfl
  exact ⟨h, storeReach_registryInv loadInterfaces_name_length_lt h rfl⟩

/-! ## (5) A second run

A run that sets up every router without interruption and with every command succeeding leaves
each name it looked up *settled*: the table holds it, or has no room and will never hold it. A
second run of the same setup then only finds what it looks up, so it leaves the registry as the
first run left it. -/

/-- **A router name the table has answered for good**: a slot holds it, or the table is full
without it. -/
def RouterNameSettled (reg : ShmRegistry) (name : List Char) : Prop :=
  (∃ i, HoldsRouter reg i name) ∨
    reg.routerCount = maxRouters ∧ ∀ i < reg.routerCount, (reg.routers i).routerName ≠ name

/-- **An interface name block `r` has answered for good.** -/
def InterfaceNameSettled (reg : ShmRegistry) (r : Nat) (name : List Char) : Prop :=
  (∃ j, HoldsInterface reg r j name) ∨
    reg.nextInterfaceCodes r = maxInterfacesPerRouter ∧
      ∀ j < reg.nextInterfaceCodes r,
        (reg.interfaces (r * maxInterfacesPerRouter + j)).interfaceName ≠ name

/-- **A router a setup has answered for good**: its name, and, in the block of the slot that holds
it, the name of each interface other than `lo`. -/
def RouterSettled (reg : ShmRegistry) (router : Router) : Prop :=
  RouterNameSettled reg router.name ∧ ∀ i, HoldsRouter reg i router.name →
    ∀ iface ∈ router.interfaces, iface.name ≠ "lo".toList → InterfaceNameSettled reg i iface.name

section Settled

variable {reg reg' : ShmRegistry} {name : List Char}

theorem RouterNameSettled.of_extends (h : RouterNameSettled reg name) (he : Extends reg reg')
    (hi : RouterTableInv reg') : RouterNameSettled reg' name := by
  rcases h with ⟨i, hh⟩ | ⟨hfull, habs⟩
  · exact .inl ⟨i, he.holdsRouter hh⟩
  · have hc : reg'.routerCount = maxRouters := le_antisymm hi.count_le (hfull ▸ he.routerCount_le)
    exact .inr ⟨hc, fun i hi' => by rw [he.routers_eq i (by omega)]; exact habs i (by omega)⟩

theorem InterfaceNameSettled.of_extends {r : Nat} (h : InterfaceNameSettled reg r name)
    (he : Extends reg reg') (hi : InterfaceTableInv reg') : InterfaceNameSettled reg' r name := by
  rcases h with ⟨j, hh⟩ | ⟨hfull, habs⟩
  · exact .inl ⟨j, he.holdsInterface hh⟩
  · have hc : reg'.nextInterfaceCodes r = maxInterfacesPerRouter :=
      le_antisymm (hi.next_le r) (hfull ▸ he.next_le r)
    exact .inr ⟨hc, fun j hj => by rw [he.interfaces_eq r j (by omega)]; exact habs j (by omega)⟩

/-- The slot that holds a name is the one slot that does. -/
theorem holdsRouter_unique (hi : RouterTableInv reg) {i i' : Nat} (h : HoldsRouter reg i name)
    (h' : HoldsRouter reg i' name) : i = i' :=
  hi.name_inj i h.1 i' h'.1 (h.2.trans h'.2.symm)

theorem RouterSettled.of_extends {router : Router} (h : RouterSettled reg router)
    (he : Extends reg reg') (hr : RouterTableInv reg') (hf : InterfaceTableInv reg') :
    RouterSettled reg' router := by
  refine ⟨h.1.of_extends he hr, fun i hi iface hmem hlo => ?_⟩
  rcases h.1 with ⟨i', hh⟩ | ⟨hfull, habs⟩
  · obtain rfl := holdsRouter_unique hr (he.holdsRouter hh) hi
    exact (h.2 i' hh iface hmem hlo).of_extends he hf
  · have hc : reg'.routerCount = maxRouters := le_antisymm hr.count_le (hfull ▸ he.routerCount_le)
    have hi₁ := hi.1
    exact absurd (by rw [← he.routers_eq i (by omega)]; exact hi.2) (habs i (by omega))

/-- **Looking up a name settles it.** -/
theorem getRouterCodeShm_settles (hi : RouterTableInv reg) (hn : name.length < maxNameLen) :
    RouterNameSettled (getRouterCodeShm reg name).1 name := by
  rcases hc : (getRouterCodeShm reg name).2 with _ | code
  · obtain ⟨i, -, -, he⟩ | ⟨habs, hfull, he⟩ | ⟨-, -, he⟩ := getRouterCodeShm_cases hi name <;>
      rw [he] at hc ⊢
    · cases hc
    · exact .inr ⟨hfull, habs⟩
    · cases hc
  · obtain ⟨i, -, -, hh⟩ := getRouterCodeShm_returns hi hn hc
    exact .inl ⟨i, hh⟩

theorem getInterfaceCodeShm_settles (hi : InterfaceTableInv reg) {r : Nat} (hr : r < maxRouters)
    (hn : name.length < maxNameLen) :
    InterfaceNameSettled (getInterfaceCodeShm reg (routerCodeText r) name).1 r name := by
  rcases hc : (getInterfaceCodeShm reg (routerCodeText r) name).2 with _ | code
  · obtain ⟨j, -, -, he⟩ | ⟨habs, hfull, he⟩ | ⟨-, -, he⟩ := getInterfaceCodeShm_cases hi hr name <;>
      rw [he] at hc ⊢
    · cases hc
    · exact .inr ⟨hfull, habs⟩
    · cases hc
  · obtain ⟨j, -, -, hh⟩ := getInterfaceCodeShm_returns hi hr hn hc
    exact .inl ⟨j, hh⟩

/-- **A settled name is only found**: the lookup leaves the registry as it is. -/
theorem getRouterCodeShm_of_settled (hi : RouterTableInv reg) (h : RouterNameSettled reg name) :
    (getRouterCodeShm reg name).1 = reg := by
  obtain ⟨i, -, -, he⟩ | ⟨-, -, he⟩ | ⟨habs, hc, -⟩ := getRouterCodeShm_cases hi name
  · rw [he]
  · rw [he]
  · rcases h with ⟨i, hh⟩ | ⟨hfull, -⟩
    · exact absurd hh.2 (habs i hh.1)
    · omega

theorem getInterfaceCodeShm_of_settled (hi : InterfaceTableInv reg) {r : Nat} (hr : r < maxRouters)
    (h : InterfaceNameSettled reg r name) :
    (getInterfaceCodeShm reg (routerCodeText r) name).1 = reg := by
  obtain ⟨j, -, -, he⟩ | ⟨-, -, he⟩ | ⟨habs, hc, -⟩ := getInterfaceCodeShm_cases hi hr name
  · rw [he]
  · rw [he]
  · rcases h with ⟨j, hh⟩ | ⟨hfull, -⟩
    · exact absurd hh.2 (habs j hh.1)
    · omega

end Settled

section Rerun

variable {reg : ShmRegistry}

theorem reachable_namesFit (h : Reachable RegistryOp.Fits reg) : Reachable RegistryOp.NamesFit reg :=
  h.mono fun _ => RegistryOp.Fits.namesFit

/-- **A stretch of a session keeps every entry**, for the program's own operations. -/
theorem extends_of_sessionReach {reg' : ShmRegistry} (hr : Reachable RegistryOp.Fits reg)
    (h : SessionReach RegistryOp.Fits reg reg') : Extends reg reg' :=
  sessionReach_extends (reachable_namesFit hr)
    (Relation.ReflTransGen.mono (fun _ _ ⟨op, hok, hne, he⟩ => ⟨op, hok.namesFit, hne, he⟩) h)

/-- **A settled router is only found**: its setup, in any world, leaves the registry as it is. -/
theorem setupRouterWithVeth_of_settled (w : World) {router : Router} (t : Nat)
    (hr : RouterTableInv reg) (hf : InterfaceTableInv reg) (hfits : RouterFits router)
    (hs : RouterSettled reg router) : (setupRouterWithVeth w router reg t).1.registry = reg := by
  have hget := getRouterCodeShm_of_settled hr hs.1
  refine setupRouterWithVeth_registry_induction (P := (· = reg)) w router reg t (fun _ => rfl)
    (fun _ => hget) fun code _ hc s hs' iface hmem hlo => ?_
  subst hs'
  obtain ⟨i, hi, rfl, hh⟩ := getRouterCodeShm_returns hr hfits.1 hc
  rw [hget] at hh
  exact getInterfaceCodeShm_of_settled hf hi (hs.2 i hh iface hmem hlo)

/-- **The interface loop of a first setup settles every interface name** in the block of the
router's slot, without interruption. -/
theorem forUntil_setupInterface_settles {w : World} (hw : ∀ t, w.interrupted t = false)
    (ns : List Char) {r : Nat} (hr : r < maxRouters) :
    ∀ (ifaces : List Interface) (st : SetupState) (t : Nat),
      Reachable RegistryOp.Fits st.registry → (∀ i ∈ ifaces, i.name.length < maxNameLen) →
      let st' := (forUntil w (fun i st => (setupInterface w ns (routerCodeText r) i st.1, st.2))
        ifaces (st, t)).1
      SessionReach RegistryOp.Fits st.registry st'.registry ∧
        ∀ iface ∈ ifaces, iface.name ≠ "lo".toList → InterfaceNameSettled st'.registry r iface.name
  | [], _, _, _, _ => ⟨.refl, by simp⟩
  | i :: is, st, t, hreach, hn => by
    rw [forUntil_of_never hw]
    have hni := hn i (List.mem_cons_self _ _)
    -- the iteration on `i`
    have hstep : SessionReach RegistryOp.Fits st.registry
          (setupInterface w ns (routerCodeText r) i st).registry ∧
        (i.name ≠ "lo".toList → InterfaceNameSettled
          (setupInterface w ns (routerCodeText r) i st).registry r i.name) := by
      rw [setupInterface_registry]
      split
      · exact ⟨.refl, fun h => absurd ‹_› h⟩
      · exact ⟨.single ⟨.getInterfaceCode _ _, ⟨⟨r, hr, rfl⟩, hni⟩, nofun, rfl⟩,
          fun _ => getInterfaceCodeShm_settles (namesInv_of_reachable (reachable_namesFit hreach)).2 hr hni⟩
    have hreach₁ := hreach.of_sessionReach hstep.1
    obtain ⟨ih₁, ih₂⟩ := forUntil_setupInterface_settles hw ns hr is _ (t + 1) hreach₁
      (fun j hj => hn j (List.mem_cons_of_mem _ hj))
    refine ⟨hstep.1.trans ih₁, fun iface hmem hlo => ?_⟩
    rcases List.mem_cons.mp hmem with rfl | hmem
    · exact (hstep.2 hlo).of_extends (extends_of_sessionReach hreach₁ ih₁)
        (namesInv_of_reachable (reachable_namesFit (hreach₁.of_sessionReach ih₁))).2
    · exact ih₂ iface hmem hlo

/-- Every command succeeding, the namespace is there. -/
theorem createNamespaceSafe_of_system {w : World} (hsys : ∀ c, w.system c = true) (ns : List Char) :
    (createNamespaceSafe w ns).1 = true := by
  simp [createNamespaceSafe, hsys]

/-- **A first setup settles its router**, without interruption and with every command
succeeding. -/
theorem setupRouterWithVeth_settles {w : World} (hw : ∀ t, w.interrupted t = false)
    (hsys : ∀ c, w.system c = true) (hb : w.batchCreated = true) {router : Router} (t : Nat)
    (h : Reachable RegistryOp.Fits reg) (hf : RouterFits router) :
    RouterSettled (setupRouterWithVeth w router reg t).1.registry router := by
  have hinv := namesInv_of_reachable (reachable_namesFit h)
  have hns := createNamespaceSafe_of_system hsys router.name
  have hset := getRouterCodeShm_settles hinv.1 hf.1
  rcases hget : getRouterCodeShm reg router.name with ⟨reg₁, _ | code⟩
  · -- no room: the table is full without the name
    simp only [setupRouterWithVeth, hw, hget, Bool.false_eq_true, if_false]
    rw [hget] at hset
    refine ⟨hset, fun i hi => ?_⟩
    obtain ⟨_, _, _, he⟩ | ⟨habs, -, he⟩ | ⟨_, _, he⟩ := getRouterCodeShm_cases hinv.1 router.name <;>
      rw [he] at hget
    · cases hget
    · obtain ⟨rfl, -⟩ := Prod.mk.inj hget
      exact absurd hi.2 (habs i hi.1)
    · cases hget
  · obtain ⟨i, hi, rfl, hh⟩ := getRouterCodeShm_returns hinv.1 hf.1 (by rw [hget])
    rw [hget] at hh hset
    have hreach₁ : Reachable RegistryOp.Fits reg₁ := by
      have := Reachable.step (.getRouterCode router.name) h hf.1
      simpa [RegistryOp.apply, hget] using this
    rcases hcs : createNamespaceSafe w router.name with ⟨ok, sys⟩
    obtain rfl : ok = true := by rw [hcs] at hns; exact hns
    simp only [setupRouterWithVeth, hw, hget, hcs, hb, Bool.not_true, Bool.false_eq_true, if_false,
      queueRules_registry, queueRoutes_registry]
    obtain ⟨hloop, hifs⟩ := forUntil_setupInterface_settles hw router.name hi router.interfaces
      (SetupState.queue (SetupState.queue ⟨reg₁, createBatchContext (1024 * 1024), sys⟩ router.name
        "ipset flush 2>/dev/null || true".toList) router.name "ipset destroy 2>/dev/null || true".toList)
      (t + 1) hreach₁ hf.2
    have hext := extends_of_sessionReach hreach₁ hloop
    have hinv' := namesInv_of_reachable (reachable_namesFit (hreach₁.of_sessionReach hloop))
    refine ⟨hset.of_extends hext hinv'.1, fun i' hi' => ?_⟩
    obtain rfl := holdsRouter_unique hinv'.1 (hext.holdsRouter hh) hi'
    exact hifs

theorem setupRoutersSequential_cons {w : World} (hw : ∀ t, w.interrupted t = false)
    (router : Router) (routers : List Router) (reg : ShmRegistry) (sys : List (List Char))
    (t : Nat) :
    setupRoutersSequential w (router :: routers) reg sys t =
      setupRoutersSequential w routers (setupRouterWithVeth w router reg (t + 1)).1.registry
        (sys ++ (setupRouterWithVeth w router reg (t + 1)).1.system)
        (setupRouterWithVeth w router reg (t + 1)).1.next := by
  rw [setupRoutersSequential, forUntil_of_never hw]
  rfl

/-- **A first sequential loop settles every router**, without interruption and with every
command succeeding; its registry follows the start by a stretch of the session. -/
theorem setupRoutersSequential_settles {w : World} (hw : ∀ t, w.interrupted t = false)
    (hsys : ∀ c, w.system c = true) (hb : w.batchCreated = true) :
    ∀ (routers : List Router) (reg : ShmRegistry) (sys : List (List Char)) (t : Nat),
      Reachable RegistryOp.Fits reg → (∀ router ∈ routers, RouterFits router) →
      SessionReach RegistryOp.Fits reg (setupRoutersSequential w routers reg sys t).1.1 ∧
        ∀ router ∈ routers, RouterSettled (setupRoutersSequential w routers reg sys t).1.1 router
  | [], _, _, _, _, _ => ⟨.refl, by simp⟩
  | router :: routers, reg, sys, t, h, hf => by
    rw [setupRoutersSequential_cons hw]
    have hr := hf router (List.mem_cons_self _ _)
    have hs₁ := setupRouterWithVeth_sessionReach w (t + 1) h hr
    have h₁ := h.of_sessionReach hs₁
    obtain ⟨ih₁, ih₂⟩ := setupRoutersSequential_settles hw hsys hb routers _ _ _ h₁
      fun r hm => hf r (List.mem_cons_of_mem _ hm)
    refine ⟨hs₁.trans ih₁, fun r hm => ?_⟩
    rcases List.mem_cons.mp hm with rfl | hm
    · have hinv := namesInv_of_reachable (reachable_namesFit (h₁.of_sessionReach ih₁))
      exact (setupRouterWithVeth_settles hw hsys hb (t + 1) h hr).of_extends
        (extends_of_sessionReach h₁ ih₁) hinv.1 hinv.2
    · exact ih₂ r hm

/-- **A loop over settled routers is only lookups**: in any world it leaves the registry as it
is. -/
theorem setupRoutersSequential_of_settled (w : World) {routers : List Router}
    (hr : RouterTableInv reg) (hf : InterfaceTableInv reg)
    (hs : ∀ router ∈ routers, RouterFits router ∧ RouterSettled reg router)
    (sys : List (List Char)) (t : Nat) : (setupRoutersSequential w routers reg sys t).1.1 = reg :=
  forUntil_induction (fun st : ShmRegistry × List (List Char) => st.1 = reg)
    (fun router hm st _ h => by
      dsimp only at h ⊢
      rw [h]
      exact setupRouterWithVeth_of_settled w _ hr hf (hs router hm).1 (hs router hm).2) rfl

/-- **The sequential loop leaves the bridge table alone.** -/
theorem setupRoutersSequential_sameBridges (w : World) (routers : List Router)
    (sys : List (List Char)) (t : Nat) :
    SameBridges reg (setupRoutersSequential w routers reg sys t).1.1 :=
  forUntil_induction (fun st : ShmRegistry × List (List Char) => SameBridges reg st.1)
    (fun router _ st _ h => h.trans (setupRouterWithVeth_sameBridges w router st.1 _))
    (sameBridges_refl reg)

/-- Without interruption and with every command succeeding, Phase A returns `0`. -/
theorem createHiddenInfrastructure_status_of_system {w : World} (hsys : ∀ c, w.system c = true)
    (ctx : FactsContext) (t : Nat) : (createHiddenInfrastructure w ctx reg t).status = 0 := by
  have hns := createNamespaceSafe_of_system hsys hiddenNs
  rcases hcs : createNamespaceSafe w hiddenNs with ⟨ok, sys⟩
  obtain rfl : ok = true := by rw [hcs] at hns; exact hns
  simp [createHiddenInfrastructure, hcs]

/-- **The phases of a second run change nothing.** After a first Phase A and sequential loop with
no interruption and every command succeeding, from a reachable registry and a context whose routers
fit, a second Phase A in any world whose flag stays set once set, and a second loop in any world,
leave the registry as the first run left it. -/
theorem phases_rerun {w₁ : World} (hw : ∀ t, w₁.interrupted t = false)
    (hsys : ∀ c, w₁.system c = true) (hb : w₁.batchCreated = true) {ctx : FactsContext}
    (hfits : ∀ router ∈ ctx.routers, RouterFits router) (h : Reachable RegistryOp.Fits reg) :
    let A := createHiddenInfrastructure w₁ ctx reg 0
    let B := (setupRoutersSequential w₁ ctx.routers A.registry A.system (A.next + 1)).1.1
    (∀ (w₂ : World), w₂.FlagMonotone → ∀ t, (createHiddenInfrastructure w₂ ctx B t).registry = B) ∧
      ∀ (w₂ : World) sys t, (setupRoutersSequential w₂ ctx.routers B sys t).1.1 = B := by
  intro A B
  have hA := createHiddenInfrastructure_reachable w₁ ctx 0 h
  obtain ⟨hloop, hset⟩ := setupRoutersSequential_settles hw hsys hb ctx.routers A.registry A.system
    (A.next + 1) hA hfits
  have hB := hA.of_sessionReach hloop
  have hinv := namesInv_of_reachable (reachable_namesFit hB)
  have hsame : SameBridges A.registry B :=
    setupRoutersSequential_sameBridges w₁ ctx.routers A.system (A.next + 1)
  obtain ⟨hbi, hbs⟩ := createHiddenInfrastructure_settles hw (bridgeTableInv_of_reachable h)
    (createHiddenInfrastructure_status_of_system hsys ctx 0) fun _ _ => hsys _
  refine ⟨fun w₂ hm t => (createHiddenInfrastructure_of_settled hm
    (hbi.of_eq hsame.bridges hsame.bridgeCount) (fun s hs now => ?_) t).1,
    fun w₂ sys t => setupRoutersSequential_of_settled w₂ hinv.1 hinv.2
      (fun r hr => ⟨hfits r hr, hset r hr⟩) sys t⟩
  have := hbs s hs now
  simp only [BridgeSettled, hsame.bridges, hsame.bridgeCount] at this ⊢
  exact this

end Rerun

/-- **A run that cannot map the object leaves it as it was**, whatever its arguments. -/
theorem meshMain_of_not_opens (parseInterfaces : List Char → List Interface) (env : MainEnv)
    (hopens : env.shmOpens = false) (w : World) (args : List (List Char))
    (store : Option ShmRegistry) :
    ∃ code system, meshMain parseInterfaces env w args store = .exit code store system := by
  unfold meshMain
  simp only [openSharedRegistry, hopens, Bool.false_eq_true, if_false, Option.isSome_none]
  split
  · exact ⟨_, _, rfl⟩
  · split <;> (try split) <;> (try split) <;> exact ⟨_, _, rfl⟩

/-- **Running `hidden_mesh_setup` again with the same arguments and facts leaves the registry as
it is.** After any runs without `--parallel` from a host without the object, a run that ends
with no interruption, every command succeeding and the batch buffer allocated leaves an object
that a second run with the same arguments, facts, `calloc`, `shm_open` and `geteuid` leaves
unchanged, in any world whose flag stays set once set: its lookups only find what the first run
registered, or what the full tables will never hold; after `--cleanup`, both runs remove the
object. -/
theorem meshMain_rerun {parseInterfaces : List Char → List Interface}
    (hparse : ∀ content, ∀ i ∈ parseInterfaces content, i.name.length < maxNameLen)
    {store : Option ShmRegistry} (h : StoreReach parseInterfaces store) {env : MainEnv}
    {w₁ : World} (hw : ∀ t, w₁.interrupted t = false) (hsys : ∀ c, w₁.system c = true)
    (hb : w₁.batchCreated = true) {args : List (List Char)} {code : Int}
    {store₁ : Option ShmRegistry} {system : List (List Char)}
    (h₁ : meshMain parseInterfaces env w₁ args store = .exit code store₁ system) (w₂ : World)
    (hm : w₂.FlagMonotone) :
    ∃ code₂ system₂, meshMain parseInterfaces env w₂ args store₁ = .exit code₂ store₁ system₂ := by
  obtain ⟨allocated, opens, euid, factsDir, forkOk⟩ := env
  cases allocated
  · -- `calloc` fails: the object is not touched
    obtain ⟨-, rfl, -⟩ := MainOutcome.exit.inj h₁
    exact ⟨1, [], rfl⟩
  cases opens
  · -- `open_shared_registry` fails: neither run maps the object
    obtain ⟨_, _, h₂⟩ := meshMain_of_not_opens parseInterfaces
      ⟨true, false, euid, factsDir, forkOk⟩ rfl w₁ args store
    obtain ⟨-, rfl, -⟩ := MainOutcome.exit.inj (h₁.symm.trans h₂)
    exact meshMain_of_not_opens parseInterfaces ⟨true, false, euid, factsDir, forkOk⟩ rfl w₂ args _
  have hX := (storeReach_storeFits hparse h).getD
  simp only [meshMain, openSharedRegistry, if_true, Bool.not_true, Bool.false_eq_true, if_false,
    Option.isSome_some] at h₁ ⊢
  rcases hargs : parseMeshArgs MeshOptions.init args with opts | opts | _ <;>
    simp only [hargs] at h₁ ⊢
  · -- setup: the first run settles every name it looks up
    by_cases heuid : euid = 0
    swap
    · simp only [heuid, ne_eq, not_false_eq_true, if_true] at h₁ ⊢
      obtain ⟨-, rfl, -⟩ := MainOutcome.exit.inj h₁
      exact ⟨1, [], rfl⟩
    rcases hload : loadFactsFromEnvFiltered parseInterfaces factsDir opts.limitPattern with _ | ctx <;>
      simp only [heuid, hload, ne_eq, not_true_eq_false, if_false] at h₁ ⊢
    · obtain ⟨-, rfl, -⟩ := MainOutcome.exit.inj h₁
      exact ⟨1, [], rfl⟩
    obtain ⟨hr₁, hr₂⟩ := phases_rerun hw hsys hb (loadFactsFromEnvFiltered_fits hparse hload) hX
    simp only [createHiddenInfrastructure_status_of_system hsys, hw, Bool.false_eq_true, if_false,
      not_true_eq_false] at h₁
    cases hpar : opts.parallel
    · simp only [hpar, Bool.false_eq_true, if_false] at h₁
      obtain ⟨-, rfl, -⟩ := MainOutcome.exit.inj h₁
      simp only [hpar, Option.getD_some, hr₁ w₂ hm 0, hr₂, Bool.false_eq_true, if_false]
      split_ifs <;> exact ⟨_, _, rfl⟩
    · -- with `--parallel` the first run forks
      simp only [hpar, if_true] at h₁
      cases h₁
  · -- cleanup: the object is removed, or left when there are no facts
    rcases hload : loadFactsFromEnvFiltered parseInterfaces factsDir opts.limitPattern with _ | ctx <;>
      simp only [hload] at h₁ ⊢ <;>
      obtain ⟨-, rfl, -⟩ := MainOutcome.exit.inj h₁ <;>
      exact ⟨0, _, rfl⟩
  · -- help
    obtain ⟨-, rfl, -⟩ := MainOutcome.exit.inj h₁
    exact ⟨0, [], rfl⟩

/-- A first run on a facts directory with one router, `r1`, registers its name; a second run in
which every command fails leaves the object as it is. -/
theorem meshMain_rerun_one_router :
    ∃ code₂ system₂, meshMain loadInterfaces
      ⟨true, true, 0, some [⟨"r1_facts.txt".toList, some []⟩], fun _ => true⟩
      ⟨fun _ => false, fun _ => false, false, 0⟩ []
        (some (getRouterCodeShm cleared "r1".toList).1) =
      .exit code₂ (some (getRouterCodeShm cleared "r1".toList).1) system₂ :=
  meshMain_rerun loadInterfaces_name_length_lt .fresh (by intro; rfl) (by intro; rfl) (by rfl)
    (rfl : meshMain loadInterfaces
      ⟨true, true, 0, some [⟨"r1_facts.txt".toList, some []⟩], fun _ => true⟩
      ⟨fun _ => true, fun _ => false, true, 0⟩ [] none =
        .exit 0 (some (getRouterCodeShm cleared "r1".toList).1) _) _ (fun _ h => h)

end TracerouteSimulator.Mesh
