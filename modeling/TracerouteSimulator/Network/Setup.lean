import TracerouteSimulator.Mesh.Setup
import TracerouteSimulator.Facts.Loader
import TracerouteSimulator.Facts.Interfaces

/-! # `network_setup`: the setup from parsed facts

`network_setup.c` is the simpler of the two setup programs. Its `setup_router` creates the router's
namespace, queues in one batch the loopback, a dummy link and the addresses of each interface, then
one `ip route add` per parsed route and one `ip rule add` per parsed rule. The parsed routes are
`router->routes`, which only `parse_routing_section` would fill, and nothing calls it:
`load_router_facts` keeps the `routing_table` sections as raw commands for
`setup_router_with_veth` instead.

* **`setupRouterInterfaces`** — `setup_router` up to the end of its interface loop: the `system`
  commands run and the batch built, `none` when it returned `-1` first.
* **`addRoutes`**, **`setupRouterRoutes`** — the route loop, and `setup_router` to its end. Each
  route that is not `proto kernel` adds its `ip route add` line (`addRoutes_of_room`).
* **`loadFactsFromEnvFiltered_routes`** — every router the loader produces has no route, so the
  route loop adds nothing (`setupRouterRoutes_loadFactsFromEnvFiltered`).

* **`skipRule`**, **`ruleAddCommand`**, **`addRules`**, **`setupRouterBatch`** — the rule loop, which
  passes over the kernel's default rules and the tables with a custom name, and the two `sysctl`
  lines after it: the batch `batch_execute` runs. A rule both setups replay is printed alike, but
  for its ports and the guard of `setup_router_with_veth` (`ruleAddCommand_eq_ruleCommand`).

`batch_execute` and the ipset and iptables blocks that follow are left out. -/

namespace TracerouteSimulator.NetworkSetup

open Mesh Facts

/-! ## (1) The namespace and the interface loop -/

/-- A command built with `snprintf(cmd, 256, ...)`. -/
def cmd256 (text : List Char) : List Char := text.take 255

/-- **`create_namespace(namespace)`**: success when `ip netns list | grep -w` finds it, else the
exit status of `ip netns add`; and the `system` commands run. -/
def createNamespace (w : World) (ns : List Char) : Bool × List (List Char) :=
  let exists_ := cmd512 ("ip netns list | grep -w ".toList ++ ns ++ " > /dev/null 2>&1".toList)
  let add := cmd512 ("ip netns add ".toList ++ ns)
  if w.system exists_ then (true, [exists_]) else (w.system add, [exists_, add])

/-- The two `sysctl` commands `setup_router` runs once the namespace exists. -/
def forwardingCommands (ns : List Char) : List (List Char) :=
  [cmd256 ("ip netns exec ".toList ++ ns ++
      " sysctl -w net.ipv4.ip_forward=1 > /dev/null 2>&1".toList),
    cmd256 ("ip netns exec ".toList ++ ns ++
      " sysctl -w net.ipv6.conf.all.forwarding=1 > /dev/null 2>&1".toList)]

/-- **One iteration of the interface loop**: nothing for `lo`; otherwise the `ip link show` check
that `system` runs, and the commands queued: a dummy link and its MAC when the check fails, then the
addresses (both branches of `secondary` print the same command), link up and MTU. -/
def interfaceStep (w : World) (ns : List Char) (iface : Interface) :
    List (List Char) × List (List Char) :=
  if iface.name = "lo".toList then ([], [])
  else
    let check := cmd256 ("ip netns exec ".toList ++ ns ++ " ip link show ".toList ++ iface.name ++
      " > /dev/null 2>&1".toList)
    ([check],
      (if w.system check then []
       else cmd256 ("ip link add ".toList ++ iface.name ++ " type dummy".toList) ::
         match iface.mac with
         | some mac => [cmd256 ("ip link set ".toList ++ iface.name ++ " address ".toList ++ mac)]
         | none => []) ++
      iface.addresses.map (fun a => cmd512 ("ip addr add ".toList ++ a.ip ++ " brd ".toList ++
        a.broadcast.getD "+".toList ++ " dev ".toList ++ iface.name)) ++
      (if iface.up then [cmd256 ("ip link set ".toList ++ iface.name ++ " up".toList)] else []) ++
      (if iface.mtu ≠ 0 ∧ iface.mtu ≠ 1500 then
        [cmd256 ("ip link set ".toList ++ iface.name ++ " mtu ".toList ++ intDecimal iface.mtu)]
       else []))

/-- **`batch_add_command` for each command**, in order. -/
def queueAll (ns : List Char) (cmds : List (List Char)) (b : Batch) : Batch :=
  cmds.foldl (fun b c => (batchAddCommand b ns c).1) b

/-- **`setup_router(router)` to the end of its interface loop**: the `system` commands it has run
and the batch it has built, `none` when the namespace or the batch could not be created. -/
def setupRouterInterfaces (w : World) (router : Router) : List (List Char) × Option Batch :=
  match createNamespace w router.name with
  | (false, sys) => (sys, none)
  | (true, sys) =>
    if !w.batchCreated then (sys ++ forwardingCommands router.name, none)
    else
      let steps := router.interfaces.map (interfaceStep w router.name)
      (sys ++ forwardingCommands router.name ++ steps.flatMap Prod.fst,
        some (queueAll router.name (steps.flatMap Prod.snd)
          (batchAddCommand (createBatchContext (1024 * 1024)) router.name
            "ip link set lo up".toList).1))

/-! ## (2) The route loop -/

/-- **The command of one route**, built by `strcpy` and `strcat` into `cmd[512]`:
`ip route add <dst> [via G] [dev D] [src S] [metric M] [table T]`, with the table left out for
`main`; `none` for a `proto kernel` route, which the loop skips. `strcat` of a `NULL` destination,
and a command past 511 characters, are undefined; the model writes no destination and does not cut
the text. -/
def routeAddCommand (route : Route) : Option (List Char) :=
  if route.protocol = some "kernel".toList then none
  else some ("ip route add ".toList ++ route.destination.getD [] ++
    optionalField "via".toList route.gateway ++ optionalField "dev".toList route.device ++
    optionalField "src".toList route.source ++
    (if 0 < route.metric then " metric ".toList ++ intDecimal route.metric else []) ++
    match route.table with
    | some table => if table = "main".toList then [] else optionalField "table".toList (some table)
    | none => [])

/-- **The route loop** `for (i = 0; i < route_count; i++)` of `setup_router`. -/
def addRoutes (ns : List Char) (routes : List Route) (b : Batch) : Batch :=
  queueAll ns (routes.filterMap routeAddCommand) b

/-- **`setup_router(router)` to the end of its route loop.** -/
def setupRouterRoutes (w : World) (router : Router) : List (List Char) × Option Batch :=
  ((setupRouterInterfaces w router).1,
    (setupRouterInterfaces w router).2.map (addRoutes router.name router.routes))

/-- **A run of `batch_add_command` with room for every line** appends the lines in order. -/
theorem queueAll_of_room (ns : List Char) :
    ∀ (cmds : List (List Char)) (b : Batch),
      b.script.length + (cmds.flatMap (batchLine ns)).length < b.capacity →
      queueAll ns cmds b = ⟨b.script ++ cmds.flatMap (batchLine ns), b.capacity⟩
  | [], b, _ => by simp [queueAll]
  | c :: cmds, b, h => by
    rw [List.flatMap_cons, List.length_append] at h
    have h₁ : batchAddCommand b ns c = _ := batchAddCommand_of_room (by omega)
    have ih := queueAll_of_room ns cmds ⟨b.script ++ batchLine ns c, b.capacity⟩
      (by simp only [List.length_append]; omega)
    simp only [queueAll, List.foldl_cons, h₁] at ih ⊢
    rw [ih, List.flatMap_cons, List.append_assoc]

/-- **The route loop with room** adds one `ip route add` line per route that is not
`proto kernel`, in order. -/
theorem addRoutes_of_room {ns : List Char} {routes : List Route} {b : Batch}
    (h : b.script.length + ((routes.filterMap routeAddCommand).flatMap (batchLine ns)).length <
      b.capacity) :
    addRoutes ns routes b =
      ⟨b.script ++ (routes.filterMap routeAddCommand).flatMap (batchLine ns), b.capacity⟩ :=
  queueAll_of_room ns _ b h

theorem setupRouterRoutes_of_routes_nil {router : Router} (h : router.routes = []) (w : World) :
    setupRouterRoutes w router = setupRouterInterfaces w router := by
  rcases hs : setupRouterInterfaces w router with ⟨sys, _ | b⟩
  · simp [setupRouterRoutes, hs]
  · simp [setupRouterRoutes, hs, h, addRoutes, queueAll]

/-! ## (3) The rule loop -/

/-- **The rules the loop passes over**: the priorities `0`, `32766` and `32767` of the rules the
kernel creates, and a table other than `main`, `local` and `default` whose name `atoi` reads as
`0`, a custom name that might not exist. -/
def skipRule (rule : Rule) : Bool :=
  rule.priority == 0 || rule.priority == 32766 || rule.priority == 32767 ||
    match rule.table with
    | some table => atoi table == 0 && table != "main".toList && table != "local".toList &&
        table != "default".toList
    | none => false

/-- **The command of one rule**, built by `snprintf` and `strcat` into `cmd[512]`:
`ip rule add priority P [from S] [to D] [iif I] [oif O] [fwmark 0xM] [dport N] [sport N]
[lookup T]`, each clause when its field is set; `none` for a rule the loop skips. A command past
511 characters is undefined; the model does not cut the text. -/
def ruleAddCommand (rule : Rule) : Option (List Char) :=
  if skipRule rule then none
  else some ("ip rule add priority ".toList ++ intDecimal rule.priority ++
    optionalField "from".toList rule.src ++ optionalField "to".toList rule.dst ++
    optionalField "iif".toList rule.iif ++ optionalField "oif".toList rule.oif ++
    (if rule.fwmark ≠ 0 then " fwmark 0x".toList ++ hexadecimal rule.fwmark else []) ++
    (if rule.dport ≠ 0 then " dport ".toList ++ intDecimal rule.dport else []) ++
    (if rule.sport ≠ 0 then " sport ".toList ++ intDecimal rule.sport else []) ++
    optionalField "lookup".toList rule.table)

/-- **The rule loop** `for (i = 0; i < rule_count; i++)` of `setup_router`. -/
def addRules (ns : List Char) (rules : List Rule) (b : Batch) : Batch :=
  queueAll ns (rules.filterMap ruleAddCommand) b

/-- The two `sysctl` lines queued after the rule loop. -/
def sysctlLines : List (List Char) :=
  ["sysctl -w net.ipv4.ip_forward=1 > /dev/null 2>&1".toList,
    "sysctl -w net.ipv6.conf.all.forwarding=1 > /dev/null 2>&1".toList]

/-- **`setup_router(router)` up to `batch_execute`**: the `system` commands it has run and the batch
it executes, the rule loop and the two `sysctl` lines queued after the route loop. -/
def setupRouterBatch (w : World) (router : Router) : List (List Char) × Option Batch :=
  ((setupRouterRoutes w router).1, (setupRouterRoutes w router).2.map fun b =>
    queueAll router.name sysctlLines (addRules router.name router.rules b))

/-- **The rule loop with room** adds one `ip rule add` line per rule it does not skip, in order. -/
theorem addRules_of_room {ns : List Char} {rules : List Rule} {b : Batch}
    (h : b.script.length + ((rules.filterMap ruleAddCommand).flatMap (batchLine ns)).length <
      b.capacity) :
    addRules ns rules b =
      ⟨b.script ++ (rules.filterMap ruleAddCommand).flatMap (batchLine ns), b.capacity⟩ :=
  queueAll_of_room ns _ b h

/-- **The two setups print a rule alike, ports and guard apart.** For a rule without ports that
`network_setup` does not skip, its command followed by `setup_router_with_veth`'s guard is the
command `setup_router_with_veth` replays; a rule it skips, such as a default rule of the kernel,
only `setup_router_with_veth` replays. -/
theorem ruleAddCommand_eq_ruleCommand (rule : Rule) (hd : rule.dport = 0) (hs : rule.sport = 0) :
    (ruleAddCommand rule).map (· ++ " 2>/dev/null || true".toList) =
      if skipRule rule then none else some (ruleCommand rule) := by
  unfold ruleAddCommand
  split <;> simp [ruleCommand, hd, hs]

/-! ## (4) What the loader leaves -/

@[simp] theorem loadRouterFacts_routes (parseInterfaces : List Char → List Interface)
    (router : Router) (content : List Char) :
    (loadRouterFacts parseInterfaces router content).routes = router.routes := rfl

/-- **A turn of the `readdir` loop keeps every route array empty**: the router it appends is a new
one that `load_router_facts` fills without a route. -/
theorem loadFactsEntry_routes (parseInterfaces : List Char → List Interface)
    (filterPattern : Option (List Char)) {ctx : FactsContext}
    (h : ∀ r ∈ ctx.routers, r.routes = []) (e : DirEntry) :
    ∀ r ∈ (loadFactsEntry parseInterfaces filterPattern ctx e).routers, r.routes = [] := by
  unfold loadFactsEntry
  split_ifs
  · exact h
  · exact h
  · exact h
  · split
    · exact h
    · intro r hr
      rcases List.mem_append.mp hr with hr | hr
      · exact h r hr
      · rw [List.mem_singleton.mp hr]
        rfl

/-- **Every router the loader produces has no route.** -/
theorem loadFactsFromEnvFiltered_routes (parseInterfaces : List Char → List Interface)
    {factsDir : Option (List DirEntry)} {filterPattern : Option (List Char)} {ctx : FactsContext}
    (h : loadFactsFromEnvFiltered parseInterfaces factsDir filterPattern = some ctx) :
    ∀ r ∈ ctx.routers, r.routes = [] := by
  obtain ⟨entries, -, rfl⟩ := Option.map_eq_some'.mp h
  suffices ∀ (entries : List DirEntry) (ctx : FactsContext), (∀ r ∈ ctx.routers, r.routes = []) →
      ∀ r ∈ (entries.foldl (loadFactsEntry parseInterfaces filterPattern) ctx).routers,
        r.routes = [] from this entries ⟨[]⟩ (fun _ h => absurd h (List.not_mem_nil _))
  intro entries
  induction entries with
  | nil => exact fun _ h => h
  | cons e es ih => exact fun ctx h => ih _ (loadFactsEntry_routes parseInterfaces filterPattern h e)

/-- **`network_setup` installs no parsed route.** For every facts directory, filter and facts
files, every router `load_facts_from_env_filtered` loads has an empty route array, since
`load_router_facts` never calls `parse_routing_section`; so, in every world, the route loop of
`setup_router` leaves the batch as the interface loop left it, whatever `routing_table` sections
the router's facts file holds. -/
theorem setupRouterRoutes_loadFactsFromEnvFiltered (parseInterfaces : List Char → List Interface)
    (factsDir : Option (List DirEntry)) (filterPattern : Option (List Char)) (ctx : FactsContext)
    (h : loadFactsFromEnvFiltered parseInterfaces factsDir filterPattern = some ctx) :
    ∀ r ∈ ctx.routers, r.routes = [] ∧ ∀ w, setupRouterRoutes w r = setupRouterInterfaces w r :=
  fun r hr =>
    have hnil := loadFactsFromEnvFiltered_routes parseInterfaces h r hr
    ⟨hnil, setupRouterRoutes_of_routes_nil hnil⟩

set_option maxRecDepth 8000 in
/-- **A facts file with one `routing_table_main` line**: the loader turns the line into the raw
command that `setup_router_with_veth` replays, but `network_setup`'s batch holds only the loopback
line when its route loop ends. -/
theorem setupRouterRoutes_routing_table_main :
    let content := factsContent
      [⟨"routing_table_main".toList, ["10.0.0.0/8 via 10.1.1.254 dev eth0".toList], 0⟩]
    let r1 := loadRouterFacts loadInterfaces (createRouter "r1".toList) content
    loadFactsFromEnvFiltered loadInterfaces (some [⟨"r1_facts.txt".toList, some content⟩]) none =
        some ⟨[r1]⟩ ∧
      r1.rawRouteCommands = ["ip route add 10.0.0.0/8 via 10.1.1.254 dev eth0".toList] ∧
      (r1.routes = [] ∧ ∀ w, setupRouterRoutes w r1 = setupRouterInterfaces w r1) ∧
      (setupRouterRoutes ⟨fun _ => true, fun _ => false, true, 0⟩ r1).2.map Batch.script =
        some ((createBatchContext (1024 * 1024)).script ++
          batchLine "r1".toList "ip link set lo up".toList) := by
  intro content r1
  exact ⟨rfl, by decide, setupRouterRoutes_loadFactsFromEnvFiltered loadInterfaces
    (some [⟨"r1_facts.txt".toList, some content⟩]) none ⟨[r1]⟩ rfl r1 (List.mem_singleton_self _),
    by decide⟩

end TracerouteSimulator.NetworkSetup
