import Mathlib.Data.List.ReduceOption
import TracerouteSimulator.Network.Setup

/-! # `main` of `network_setup`: which routers its two modes set up

`network_setup` loads every router of the facts directory and calls `setup_router` on each one
that passes `--limit`: in the parent, one after another, or with `-p` in one child per batch of
ten routers. A call of `setup_router` creates its own batch buffer and runs its own commands, and
`Network.Setup` models it as a function of the world and its router, so the two modes differ only
in which routers they hand to it and in what order.

* **`parseNetworkArgs`** — the argument loop: `-v`, `-p`, `--limit PATTERN` (only with an argument
  after it), and `-h`, which ends `main` with status `0`.
* **`limitMatches`**, **`sequentialCalls`** — the `--limit` test and the sequential loop.
* **`forkBatches`** — the fork loop: for each batch of ten routers, the routers its child calls
  `setup_router` on, `none` where `fork` failed.
* **`networkMain`** — one run: the exit status, or the calls of the sequential loop or of each
  child, with the `system` commands of the summary.
* **`networkMain_modes`** — the children of the run with `-p` call `setup_router` on a sublist of
  the routers the run without it calls it on, child after child, and on all of them when every
  fork succeeds.
* **`networkMain_limit`** — the routers the sequential loop takes are exactly those the loader
  keeps when it is given the `--limit` pattern as its filter, as `hidden_mesh_setup` gives it. -/

namespace TracerouteSimulator.NetworkSetup

open Mesh Facts

/-! ## (1) The argument loop -/

/-- **The options `main` reads**: `parallel` and `limit_pattern`. The loop also sets `verbose`,
which nothing reads. -/
structure NetworkOptions where
  /-- `parallel`. -/
  parallel : Bool
  /-- `limit_pattern`, `NULL` until a `--limit`. -/
  limitPattern : Option (List Char)
  deriving DecidableEq, Repr

/-- The options before the loop. -/
def NetworkOptions.init : NetworkOptions := ⟨false, none⟩

/-- **`for (int i = 1; i < argc; i++)`** over `argv[1 .. argc)`; `none` when it reaches `-h` or
`--help`, where `main` prints its usage and returns `0`. `--limit` takes the next argument,
whatever it is, when there is one; as the last argument it matches no branch and the loop ends. -/
def parseNetworkArgs (opts : NetworkOptions) : List (List Char) → Option NetworkOptions
  | [] => some opts
  | arg :: rest =>
    if arg = "-v".toList ∨ arg = "--verbose".toList then parseNetworkArgs opts rest
    else if arg = "-p".toList ∨ arg = "--parallel".toList then
      parseNetworkArgs { opts with parallel := true } rest
    else if arg = "--limit".toList then
      match rest with
      | pattern :: more => parseNetworkArgs { opts with limitPattern := some pattern } more
      | [] => some opts
    else if arg = "-h".toList ∨ arg = "--help".toList then none
    else parseNetworkArgs opts rest

/-- **`-p` in front of the arguments** sets `parallel` before the loop reads the rest. -/
theorem parseNetworkArgs_cons_parallel (opts : NetworkOptions) (args : List (List Char)) :
    parseNetworkArgs opts ("-p".toList :: args) =
      parseNetworkArgs { opts with parallel := true } args := by
  rw [parseNetworkArgs.eq_def _ (_ :: _)]
  simp only [if_neg (by decide : ¬("-p".toList = "-v".toList ∨ "-p".toList = "--verbose".toList)),
    true_or, if_true]

/-- **`-p` sets `parallel` and nothing else**: the loop ends as it does without it. -/
theorem parseNetworkArgs_parallel (opts : NetworkOptions) (args : List (List Char)) :
    parseNetworkArgs { opts with parallel := true } args =
      (parseNetworkArgs opts args).map ({ · with parallel := true }) := by
  induction opts, args using parseNetworkArgs.induct with
  | case1 => rfl
  | case2 _ _ _ h ih =>
    rw [parseNetworkArgs.eq_def _ (_ :: _), parseNetworkArgs.eq_def _ (_ :: _)]
    simp only [if_pos h]
    exact ih
  | case3 _ _ _ h₁ h₂ ih =>
    rw [parseNetworkArgs.eq_def _ (_ :: _), parseNetworkArgs.eq_def _ (_ :: _)]
    simp only [if_neg h₁, if_pos h₂]
    exact ih
  | case4 _ _ _ h₁ h₂ ih =>
    rw [parseNetworkArgs.eq_def _ (_ :: _), parseNetworkArgs.eq_def _ (_ :: _)]
    simp only [if_neg h₁, if_neg h₂, if_true]
    exact ih
  | case5 _ h₁ h₂ =>
    rw [parseNetworkArgs.eq_def _ (_ :: _), parseNetworkArgs.eq_def _ (_ :: _)]
    simp only [if_neg h₁, if_neg h₂, if_true, Option.map_some']
  | case6 _ _ _ h₁ h₂ h₃ h₄ =>
    rw [parseNetworkArgs.eq_def _ (_ :: _), parseNetworkArgs.eq_def _ (_ :: _)]
    simp only [if_neg h₁, if_neg h₂, if_neg h₃, if_pos h₄, Option.map_none']
  | case7 _ _ _ h₁ h₂ h₃ h₄ ih =>
    rw [parseNetworkArgs.eq_def _ (_ :: _), parseNetworkArgs.eq_def _ (_ :: _)]
    simp only [if_neg h₁, if_neg h₂, if_neg h₃, if_neg h₄]
    exact ih

/-! ## (2) The router loops -/

/-- **The `--limit` test** of both loops: every router without a pattern; with one, the routers
whose name contains it. -/
def limitMatches (limitPattern : Option (List Char)) (router : Router) : Bool :=
  match limitPattern with
  | none => true
  | some pattern => (strstr router.name pattern).isSome

/-- **The sequential loop** `for (i = 0; i < router_count; i++)`: the routers `setup_router` is
called on, in order; a router the limit does not match is skipped by `continue`. -/
def sequentialCalls (limitPattern : Option (List Char)) (routers : List Router) : List Router :=
  routers.filter (limitMatches limitPattern)

/-- **The batch that starts at `routers[10 p]`**: `routers[10 p .. min (10 p + 10, router_count))`. -/
def routerBatch (routers : List Router) (p : Nat) : List Router := (routers.drop (10 * p)).take 10

/-- **The fork loop** `for (i = 0; i < router_count; i += 10)`, one turn per batch: the routers the
child of the batch calls `setup_router` on, the limit applied as in the sequential loop; `none`
when `fork` failed, where the parent prints `Fork failed` and goes on. `forkOk p` is whether the
`p`-th `fork` succeeds. -/
def forkBatches (forkOk : Nat → Bool) (limitPattern : Option (List Char)) (routers : List Router) :
    List (Option (List Router)) :=
  (List.range ((routers.length + 9) / 10)).map fun p =>
    if forkOk p then some ((routerBatch routers p).filter (limitMatches limitPattern)) else none

/-- The batches of the first `k` turns, one after another, are the first `10 k` routers. -/
theorem flatMap_routerBatch (routers : List Router) (k : Nat) :
    (List.range k).flatMap (routerBatch routers) = routers.take (10 * k) := by
  induction k with
  | zero => simp
  | succ k ih =>
    rw [List.range_succ, List.flatMap_append, ih, Nat.mul_succ, List.take_add]
    simp [routerBatch]

/-- The batches of all the turns are the routers, one after another. -/
theorem flatMap_routerBatch_all (routers : List Router) :
    (List.range ((routers.length + 9) / 10)).flatMap (routerBatch routers) = routers := by
  rw [flatMap_routerBatch, List.take_of_length_le (by omega)]

/-- Dropping some of the lists of a `flatMap` leaves a sublist. -/
theorem reduceOption_map_flatten_sublist {α β : Type} (ok : α → Bool) (g : α → List β) :
    ∀ l : List α, (l.map fun a => if ok a then some (g a) else none).reduceOption.flatten.Sublist
      (l.flatMap g)
  | [] => .slnil
  | a :: l => by
    have ih := reduceOption_map_flatten_sublist ok g l
    by_cases h : ok a
    · simpa [h, List.reduceOption_cons_of_some] using ih.append_left (g a)
    · simpa [h, List.reduceOption_cons_of_none] using ih.trans (List.sublist_append_right _ _)

/-- **The children's calls, child after child**: a sublist of the sequential loop's calls; all of
them, in order, when every fork succeeds. -/
theorem forkBatches_calls (forkOk : Nat → Bool) (limitPattern : Option (List Char))
    (routers : List Router) :
    (forkBatches forkOk limitPattern routers).reduceOption.flatten.Sublist
        (sequentialCalls limitPattern routers) ∧
      ((∀ p, forkOk p = true) →
        (forkBatches forkOk limitPattern routers).reduceOption.flatten =
          sequentialCalls limitPattern routers) := by
  have hseq : sequentialCalls limitPattern routers =
      (List.range ((routers.length + 9) / 10)).flatMap fun p =>
        (routerBatch routers p).filter (limitMatches limitPattern) := by
    rw [← List.filter_flatMap, flatMap_routerBatch_all, sequentialCalls]
  refine ⟨hseq ▸ reduceOption_map_flatten_sublist forkOk _ _, fun hok => ?_⟩
  rw [hseq, forkBatches]
  simp only [hok, if_true]
  generalize List.range ((routers.length + 9) / 10) = l
  induction l with
  | nil => rfl
  | cons p l ih => simp [List.reduceOption_cons_of_some, ih]

/-! ## (3) One run -/

/-- **What `main` reads besides the world.** -/
structure NetworkEnv where
  /-- `geteuid()`. -/
  euid : Nat
  /-- The facts directory, as `load_facts_from_env` reads it. -/
  factsDir : Option (List DirEntry)
  /-- Whether the `p`-th `fork` of the fork loop succeeds. -/
  forkOk : Nat → Bool

/-- **How a run of `main` ends.** -/
inductive NetworkOutcome
  /-- `main` returns `code` before the router loops. -/
  | exit (code : Int)
  /-- Without `-p`: the routers the parent calls `setup_router` on, then the `system` commands of
  the summary; `main` returns `0`. -/
  | sequential (calls : List Router) (system : List (List Char))
  /-- With `-p`: for each batch, the routers its child calls `setup_router` on (`none` where `fork`
  failed), then the summary; `main` returns `0`. -/
  | parallel (children : List (Option (List Router))) (system : List (List Char))

/-- **The summary**: `ip netns list | wc -l`, then `ip netns list | head -20` when it succeeds. -/
def summaryCommands (w : World) : List (List Char) :=
  if w.system "ip netns list | wc -l".toList then
    ["ip netns list | wc -l".toList, "ip netns list | head -20".toList]
  else ["ip netns list | wc -l".toList]

/-- **`main(argc, argv)` of `network_setup`**, with the interface parser of the loader.
`load_facts_from_env` is `load_facts_from_env_filtered` with no filter. -/
def networkMain (parseInterfaces : List Char → List Interface) (env : NetworkEnv) (w : World)
    (args : List (List Char)) : NetworkOutcome :=
  match parseNetworkArgs NetworkOptions.init args with
  | none => .exit 0
  | some opts =>
    if env.euid ≠ 0 then .exit 1
    else match loadFactsFromEnvFiltered parseInterfaces env.factsDir none with
      | none => .exit 1
      | some ctx =>
        if opts.parallel then
          .parallel (forkBatches env.forkOk opts.limitPattern ctx.routers) (summaryCommands w)
        else .sequential (sequentialCalls opts.limitPattern ctx.routers) (summaryCommands w)

/-- **What a sequential run did**: the options it read, and the routers it loaded. -/
theorem networkMain_sequential_cases {parseInterfaces : List Char → List Interface}
    {env : NetworkEnv} {w : World} {args : List (List Char)} {calls : List Router}
    {system : List (List Char)}
    (h : networkMain parseInterfaces env w args = .sequential calls system) :
    env.euid = 0 ∧ system = summaryCommands w ∧ ∃ opts ctx,
      parseNetworkArgs NetworkOptions.init args = some opts ∧ opts.parallel = false ∧
      loadFactsFromEnvFiltered parseInterfaces env.factsDir none = some ctx ∧
      calls = sequentialCalls opts.limitPattern ctx.routers := by
  unfold networkMain at h
  rcases hargs : parseNetworkArgs NetworkOptions.init args with _ | opts <;>
    simp only [hargs] at h
  · cases h
  rcases hload : loadFactsFromEnvFiltered parseInterfaces env.factsDir none with _ | ctx <;>
    simp only [hload] at h
  · split_ifs at h
  split_ifs at h with heuid hpar
  obtain ⟨rfl, rfl⟩ := NetworkOutcome.sequential.inj h
  exact ⟨not_not.mp heuid, rfl, opts, ctx, rfl, by simpa using hpar, rfl, rfl⟩

/-- **The two modes set up the same routers.** Whenever the run without `-p` calls `setup_router`
on `calls`, the same run with `-p` in front of its arguments forks children that, read child after
child, call it on a sublist of `calls`, and on all of `calls` in order when every fork succeeds;
both runs end with the same summary. -/
theorem networkMain_modes {parseInterfaces : List Char → List Interface} {env : NetworkEnv}
    {w : World} {args : List (List Char)} {calls : List Router} {system : List (List Char)}
    (h : networkMain parseInterfaces env w args = .sequential calls system) :
    ∃ children, networkMain parseInterfaces env w ("-p".toList :: args) = .parallel children system ∧
      children.reduceOption.flatten.Sublist calls ∧
      ((∀ p, env.forkOk p = true) → children.reduceOption.flatten = calls) := by
  obtain ⟨heuid, rfl, opts, ctx, hargs, -, hload, rfl⟩ := networkMain_sequential_cases h
  refine ⟨_, ?_, forkBatches_calls env.forkOk opts.limitPattern ctx.routers⟩
  simp only [networkMain, parseNetworkArgs_cons_parallel, parseNetworkArgs_parallel, hargs,
    Option.map_some', heuid, hload, ne_eq, not_true_eq_false, if_false, if_true]

/-- A facts directory with `r1` and `r2`, every fork succeeding: the child of the one batch sets
up both, as the sequential loop does. -/
theorem networkMain_modes_two_routers :
    ∃ children, networkMain loadInterfaces ⟨0, some [⟨"r1_facts.txt".toList, some []⟩,
        ⟨"r2_facts.txt".toList, some []⟩], fun _ => true⟩ ⟨fun _ => true, fun _ => false, true, 0⟩
        ["-p".toList] = .parallel children ["ip netns list | wc -l".toList,
          "ip netns list | head -20".toList] ∧
      children.reduceOption.flatten.Sublist
        [loadRouterFacts loadInterfaces (createRouter "r1".toList) [],
          loadRouterFacts loadInterfaces (createRouter "r2".toList) []] ∧
      ((∀ p, (fun _ => true : Nat → Bool) p = true) → children.reduceOption.flatten =
        [loadRouterFacts loadInterfaces (createRouter "r1".toList) [],
          loadRouterFacts loadInterfaces (createRouter "r2".toList) []]) :=
  networkMain_modes (rfl : networkMain loadInterfaces ⟨0, some [⟨"r1_facts.txt".toList, some []⟩,
    ⟨"r2_facts.txt".toList, some []⟩], fun _ => true⟩ ⟨fun _ => true, fun _ => false, true, 0⟩ [] =
      .sequential _ _)

/-! ## (4) `--limit` in the two programs

`hidden_mesh_setup` hands its `--limit` pattern to the loader as a filter on the router name taken
from the file name; `network_setup` loads every router and tests the pattern in its loop. The loaded
router keeps that name, so the two select the same routers. -/

/-- The `--limit` test of a router the loader has just created from a file name is the loader's
filter on that name. -/
theorem limitMatches_loadRouterFacts (parseInterfaces : List Char → List Interface)
    (limitPattern : Option (List Char)) (name content : List Char) :
    limitMatches limitPattern (loadRouterFacts parseInterfaces (createRouter name) content) =
      !(limitPattern.any fun p => (strstr name p).isNone) := by
  cases limitPattern <;> simp [limitMatches, createRouter]

/-- **The loader's filter is the loop's `--limit` test**: loading with the pattern as the filter
keeps exactly the routers that loading without a filter gives and the test passes. -/
theorem loadFactsFromEnvFiltered_limit (parseInterfaces : List Char → List Interface)
    (factsDir : Option (List DirEntry)) (limitPattern : Option (List Char)) :
    (loadFactsFromEnvFiltered parseInterfaces factsDir none).map
        (fun ctx => sequentialCalls limitPattern ctx.routers) =
      (loadFactsFromEnvFiltered parseInterfaces factsDir limitPattern).map FactsContext.routers := by
  cases factsDir with
  | none => rfl
  | some entries =>
    simp only [loadFactsFromEnvFiltered, Option.map_some']
    suffices ∀ (acc acc' : FactsContext), sequentialCalls limitPattern acc.routers = acc'.routers →
        sequentialCalls limitPattern
          (entries.foldl (loadFactsEntry parseInterfaces none) acc).routers =
        (entries.foldl (loadFactsEntry parseInterfaces limitPattern) acc').routers from
      congrArg some (this ⟨[]⟩ ⟨[]⟩ rfl)
    induction entries with
    | nil => exact fun _ _ h => h
    | cons e entries ih =>
      intro acc acc' h
      refine ih _ _ ?_
      simp only [loadFactsEntry, Option.any_none, Bool.false_eq_true, if_false]
      split_ifs with h₁ h₂ h₃
      · exact h
      · exact h
      · -- the filter drops the file, and the test skips its router
        rcases hc : e.content with _ | content <;>
          simp [sequentialCalls, limitMatches_loadRouterFacts, h₃, ← h]
      · rcases hc : e.content with _ | content <;>
          simp [sequentialCalls, limitMatches_loadRouterFacts, h₃, ← h]

/-- **A sequential run sets up what the loader of `hidden_mesh_setup` loads**: the routers it calls
`setup_router` on are exactly those `load_facts_from_env_filtered` keeps with the `--limit` pattern
the run read as its filter, in the same order. -/
theorem networkMain_limit {parseInterfaces : List Char → List Interface} {env : NetworkEnv}
    {w : World} {args : List (List Char)} {calls : List Router} {system : List (List Char)}
    (h : networkMain parseInterfaces env w args = .sequential calls system) :
    ∃ opts, parseNetworkArgs NetworkOptions.init args = some opts ∧
      loadFactsFromEnvFiltered parseInterfaces env.factsDir opts.limitPattern = some ⟨calls⟩ := by
  obtain ⟨-, -, opts, ctx, hargs, -, hload, rfl⟩ := networkMain_sequential_cases h
  have := loadFactsFromEnvFiltered_limit parseInterfaces env.factsDir opts.limitPattern
  rw [hload, Option.map_some', eq_comm, Option.map_eq_some'] at this
  obtain ⟨ctx', hload', hrouters⟩ := this
  exact ⟨opts, hargs, by rw [hload', ← hrouters]⟩

/-- A facts directory with `r1` and `r2`, and `--limit 2`: the loop sets up `r2`, the one router
the loader keeps with the filter `2`. -/
theorem networkMain_limit_r2 :
    ∃ opts, parseNetworkArgs NetworkOptions.init ["--limit".toList, "2".toList] = some opts ∧
      loadFactsFromEnvFiltered loadInterfaces (some [⟨"r1_facts.txt".toList, some []⟩,
        ⟨"r2_facts.txt".toList, some []⟩]) opts.limitPattern =
        some ⟨[loadRouterFacts loadInterfaces (createRouter "r2".toList) []]⟩ :=
  networkMain_limit (rfl : networkMain loadInterfaces ⟨0, some [⟨"r1_facts.txt".toList, some []⟩,
    ⟨"r2_facts.txt".toList, some []⟩], fun _ => true⟩ ⟨fun _ => true, fun _ => false, true, 0⟩
      ["--limit".toList, "2".toList] = .sequential _ _)

end TracerouteSimulator.NetworkSetup
