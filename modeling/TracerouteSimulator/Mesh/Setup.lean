import TracerouteSimulator.Registry.Session
import TracerouteSimulator.Mesh.Subnet
import TracerouteSimulator.Facts.Router

/-! # The two phases of `hidden_mesh_setup`

`main` first runs `create_hidden_infrastructure` (Phase A): it creates the hidden namespace,
collects the subnets of every address of every router and registers one bridge per subnet. Then
it runs `setup_router_with_veth` for each router (Phase B), sequentially or in forked workers that
share the registry mapping.

* **`World`** — what the system answers: the exit status of each `system` command, the value of the
  `interrupted` flag at each of its tests, whether the batch buffer can be created, and `time(NULL)`.
* **`forUntil`** — the loops `for (i = 0; i < n && !interrupted; i++)`, which test the flag once per
  iteration; the test counter is threaded through every loop of a phase.
* **`Batch`**, **`batchAddCommand`** — the script buffer of `router_facts_loader.c`.
* **`createHiddenInfrastructure`**, **`setupRouterWithVeth`** — the two phases, with the registry
  operations, the `system` commands and the batch commands they issue.

The `system` commands are modelled by their texts only; what they do to the host is the world's
business. -/

namespace TracerouteSimulator.Mesh

open Registry Facts

/-! ## (1) The world and the loops -/

/-- **What the system answers during a run.** -/
structure World where
  /-- Whether `system(cmd)` exits with status `0`. -/
  system : List Char → Bool
  /-- The value of `interrupted` at its `t`-th test; only `sigint_handler` sets it. -/
  interrupted : Nat → Bool
  /-- Whether `create_batch_context` gets its shared memory. -/
  batchCreated : Bool
  /-- `time(NULL)`, read by the fallback of `generate_bridge_name`. -/
  now : Nat

/-- **`for (i = 0; i < n && !interrupted; i++) body`** over `xs`: the flag is tested before each
iteration, and the test counter `t` of the state is passed on, so that a body may run inner loops. -/
def forUntil {α σ : Type} (w : World) (body : α → σ × Nat → σ × Nat) :
    List α → σ × Nat → σ × Nat
  | [], st => st
  | x :: xs, (s, t) => if w.interrupted t then (s, t + 1) else forUntil w body xs (body x (s, t + 1))

/-- **A loop keeps every invariant its body keeps.** -/
theorem forUntil_induction {α σ : Type} {w : World} {body : α → σ × Nat → σ × Nat}
    (P : σ → Prop) {xs : List α} (hb : ∀ x ∈ xs, ∀ s t, P s → P (body x (s, t)).1) :
    ∀ {s t}, P s → P (forUntil w body xs (s, t)).1 := by
  induction xs with
  | nil => exact fun h => h
  | cons x xs ih =>
    intro s t h
    simp only [forUntil]
    split
    · exact h
    · exact ih (fun y hy => hb y (List.mem_cons_of_mem _ hy)) (hb x (List.mem_cons_self _ _) _ _ h)

/-- **Without interruption a loop runs every iteration.** -/
theorem forUntil_of_never {α σ : Type} {w : World} (hw : ∀ t, w.interrupted t = false)
    (body : α → σ × Nat → σ × Nat) (x : α) (xs : List α) (s : σ) (t : Nat) :
    forUntil w body (x :: xs) (s, t) = forUntil w body xs (body x (s, t + 1)) := by
  simp [forUntil, hw]

/-- `HIDDEN_NS`. -/
def hiddenNs : List Char := "hidden-mesh".toList

/-- **A command built with `snprintf(cmd, 512, ...)`**. -/
def cmd512 (text : List Char) : List Char := text.take 511

/-- **`create_namespace_safe_verbose(ns, verbose)`**: success, and the `system` commands run. A
namespace that `ip netns list | grep -w` finds is reused. -/
def createNamespaceSafe (w : World) (ns : List Char) : Bool × List (List Char) :=
  let exists_ := cmd512 ("ip netns list | grep -w ".toList ++ ns ++ " > /dev/null 2>&1".toList)
  let add := cmd512 ("ip netns add ".toList ++ ns)
  if w.system exists_ then (true, [exists_])
  else if !w.system add then (false, [exists_, add])
  else (true, [exists_, add,
    cmd512 ("ip netns exec ".toList ++ ns ++
      " sysctl -w net.ipv4.ip_forward=1 > /dev/null 2>&1".toList),
    cmd512 ("ip netns exec ".toList ++ ns ++
      " sysctl -w net.ipv6.conf.all.forwarding=1 > /dev/null 2>&1".toList),
    cmd512 ("ip netns exec ".toList ++ ns ++ " ip link set lo up".toList)])

/-- `ip netns exec hidden-mesh <cmd>`. -/
def inHidden (cmd : List Char) : List Char :=
  cmd512 ("ip netns exec ".toList ++ hiddenNs ++ " ".toList ++ cmd)

/-! ## (2) Phase A: `create_hidden_infrastructure` -/

/-- **One address of the subnet collection**: its subnet is appended when it is new and fewer than
`MAX_BRIDGES` are kept. -/
def collectStep (subnets : List (List Char)) (a : Address) : List (List Char) :=
  match subnetOf a.ip with
  | some s => if s ∉ subnets ∧ subnets.length < maxBridges then subnets ++ [s] else subnets
  | none => subnets

/-- **The address loop of the subnet collection**; this innermost loop does not test the flag. -/
def collectAddresses (addrs : List Address) (subnets : List (List Char)) : List (List Char) :=
  addrs.foldl collectStep subnets

/-- **The subnet collection**: routers, then interfaces, each loop testing the flag. -/
def collectSubnets (w : World) (routers : List Router) :
    List (List Char) × Nat → List (List Char) × Nat :=
  forUntil w (fun r => forUntil w (fun i st => (collectAddresses i.addresses st.1, st.2))
    r.interfaces) routers

/-- **The bridge creation command**: `ip netns exec hidden-mesh ip link add <name> type bridge
2>/dev/null`. -/
def bridgeAddCommand (name : List Char) : List Char :=
  inHidden ("ip link add ".toList ++ name ++ " type bridge 2>/dev/null".toList)

/-- **One iteration of the bridge loop**: register `generate_bridge_name(subnet)` and create the
bridge in the hidden namespace unless the registry says it exists. The state is the registry, the
`system` commands and `ctx->bridges_created`, which counts the creations that succeed. -/
def registerSubnetBridge (w : World) (subnet : List Char)
    (st : ShmRegistry × List (List Char) × Nat) : ShmRegistry × List (List Char) × Nat :=
  let name := generateBridgeName subnet w.now
  match registerBridgeShm st.1 name subnet with
  | (reg, some i) =>
    if (reg.bridges i).created then (reg, st.2)
    else
      let add := bridgeAddCommand name
      if w.system add then
        (setBridgeCreated reg i,
          st.2.1 ++ [add, inHidden ("ip link set ".toList ++ name ++ " up".toList)], st.2.2 + 1)
      else (reg, st.2.1 ++ [add], st.2.2)
  | (reg, none) => (reg, st.2)

/-- What a phase leaves: the registry, the `system` commands in order, the return value and the
next test of the flag. -/
structure PhaseResult where
  /-- The shared registry. -/
  registry : ShmRegistry
  /-- The `system` commands, in order. -/
  system : List (List Char)
  /-- The return value. -/
  status : Int
  /-- The index of the next test of `interrupted`. -/
  next : Nat
  /-- What the phase adds to `ctx->bridges_created`; the other statistics are left out. -/
  bridgesCreated : Nat

/-- **`create_hidden_infrastructure(ctx)`** from the flag test `t`, with the registry open. -/
def createHiddenInfrastructure (w : World) (ctx : FactsContext) (reg : ShmRegistry) (t : Nat) :
    PhaseResult :=
  match createNamespaceSafe w hiddenNs with
  | (false, sys) => ⟨reg, sys, -1, t, 0⟩
  | (true, sys) =>
    let subnets := collectSubnets w ctx.routers ([], t)
    let bridges := forUntil w (fun s st => (registerSubnetBridge w s st.1, st.2)) subnets.1
      ((reg, sys, 0), subnets.2)
    ⟨bridges.1.1, bridges.1.2.1, 0, bridges.2, bridges.1.2.2⟩

/-! ## (3) The batch buffer -/

/-- **`batch_context_t`**: the script text and its capacity. -/
structure Batch where
  /-- `script_buffer[0 .. buffer_size)`. -/
  script : List Char
  /-- `buffer_capacity`. -/
  capacity : Nat
  deriving DecidableEq, Repr

/-- **`create_batch_context(initial_size)`** once its shared memory exists. -/
def createBatchContext (initialSize : Nat) : Batch :=
  ⟨"#!/bin/bash\nset -e\n".toList, if initialSize = 0 then 1024 * 1024 else initialSize⟩

/-- **`full_cmd`**: `snprintf(full_cmd, 8192, "ip netns exec %s %s\n", namespace, command)`. -/
def batchLine (ns command : List Char) : List Char :=
  ("ip netns exec ".toList ++ ns ++ ' ' :: command ++ ['\n']).take 8191

/-- **`batch_add_command(ctx, ns, command)`**: the line `full_cmd` is appended when it fits with
its terminator, else the buffer is left as it is (`-1`). -/
def batchAddCommand (b : Batch) (ns command : List Char) : Batch × Int :=
  let fullCmd := batchLine ns command
  if b.capacity < b.script.length + fullCmd.length + 1 then (b, -1)
  else (⟨b.script ++ fullCmd, b.capacity⟩, 0)

/-- A command that fits `full_cmd` is copied whole. -/
theorem batchLine_eq {ns command : List Char} (h : ns.length + command.length ≤ 8175) :
    batchLine ns command = "ip netns exec ".toList ++ ns ++ ' ' :: command ++ ['\n'] :=
  List.take_of_length_le (by simp; omega)

theorem batchAddCommand_of_room {b : Batch} {ns command : List Char}
    (h : b.script.length + (batchLine ns command).length < b.capacity) :
    batchAddCommand b ns command = (⟨b.script ++ batchLine ns command, b.capacity⟩, 0) := by
  simp only [batchAddCommand]
  rw [if_neg (by omega)]

/-! ## (4) Phase B: `setup_router_with_veth` -/

/-- The state `setup_router_with_veth` threads through its loops. -/
structure SetupState where
  /-- The shared registry. -/
  registry : ShmRegistry
  /-- The router's batch. -/
  batch : Batch
  /-- The `system` commands, in order. -/
  system : List (List Char)

/-- Queue `cmd` in the router's batch. -/
def SetupState.queue (st : SetupState) (ns cmd : List Char) : SetupState :=
  { st with batch := (batchAddCommand st.batch ns cmd).1 }

/-- `" <key> <value>"` for a field that is set. -/
def optionalField (key : List Char) : Option (List Char) → List Char
  | some v => ' ' :: key ++ ' ' :: v
  | none => []

/-- **The subnet of an interface's first IPv4 address**: the bridge lookup loop stops at the first
address `inet_pton` accepts. -/
def firstSubnet (iface : Interface) : Option (List Char) :=
  iface.addresses.findSome? fun a => subnetOf a.ip

/-- **The commands that configure an interface in the router's namespace**: MAC, addresses, link
up and MTU. -/
def interfaceCommands (iface : Interface) : List (List Char) :=
  (match iface.mac with
    | some mac => [cmd512 ("ip link set ".toList ++ iface.name ++ " address ".toList ++ mac)]
    | none => []) ++
  iface.addresses.map (fun a => cmd512 ("ip addr add ".toList ++ a.ip ++ " brd ".toList ++
    a.broadcast.getD "+".toList ++ " dev ".toList ++ iface.name)) ++
  (if iface.up then [cmd512 ("ip link set ".toList ++ iface.name ++ " up".toList)] else []) ++
  (if iface.mtu ≠ 0 ∧ iface.mtu ≠ 1500 then
    [cmd512 ("ip link set ".toList ++ iface.name ++ " mtu ".toList ++ intDecimal iface.mtu)]
   else [])

/-- **One iteration of the interface loop** of `setup_router_with_veth`: skip `lo`; otherwise get
the interface code, create the veth pair, move its ends, attach the hidden end to the bridge of the
first subnet, and queue the configuration. A `NULL` interface code prints as `(null)`. -/
def setupInterface (w : World) (ns routerCode : List Char) (iface : Interface)
    (st : SetupState) : SetupState :=
  if iface.name = "lo".toList then st
  else
    let (reg, code) := getInterfaceCodeShm st.registry routerCode iface.name
    let ifaceCode := code.getD "(null)".toList
    let vethRouter := vethName routerCode ifaceCode 'r'
    let vethHidden := vethName routerCode ifaceCode 'h'
    let create := cmd512 ("ip link add ".toList ++ vethRouter ++ " type veth peer name ".toList ++
      vethHidden ++ " 2>/dev/null".toList)
    if !w.system create then { st with registry := reg, system := st.system ++ [create] }
    else
      let attach := match firstSubnet iface with
        | some subnet =>
          match findBridgeBySubnet reg subnet with
          | some k =>
            [inHidden ("ip link set ".toList ++ vethHidden ++ " master ".toList ++
                (reg.bridges k).bridgeName),
              inHidden ("ip link set ".toList ++ vethHidden ++ " up".toList)]
          | none => []
        | none => []
      let st' : SetupState := ⟨reg, st.batch, st.system ++
        [create, cmd512 ("ip link set ".toList ++ vethRouter ++ " netns ".toList ++ ns),
          cmd512 ("ip link set ".toList ++ vethHidden ++ " netns ".toList ++ hiddenNs)] ++ attach⟩
      ((cmd512 ("ip link set ".toList ++ vethRouter ++ " name ".toList ++ iface.name)) ::
        interfaceCommands iface).foldl (fun s c => s.queue ns c) st'

/-- **The replayed policy rule**: `ip rule add priority P [from S] [to D] [iif I] [oif O]
[fwmark 0xM] [lookup T] 2>/dev/null || true`, built by `strcat` into `cmd[512]`. -/
def ruleCommand (rule : Rule) : List Char :=
  "ip rule add priority ".toList ++ intDecimal rule.priority ++
    optionalField "from".toList rule.src ++ optionalField "to".toList rule.dst ++
    optionalField "iif".toList rule.iif ++ optionalField "oif".toList rule.oif ++
    (if rule.fwmark ≠ 0 then " fwmark 0x".toList ++ hexadecimal rule.fwmark else []) ++
    optionalField "lookup".toList rule.table ++ " 2>/dev/null || true".toList

/-- **The queued raw route command**: `snprintf(cmd, 1024, "%s 2>/dev/null || true", raw)`. -/
def routeCommand (raw : List Char) : List Char :=
  (raw ++ " 2>/dev/null || true".toList).take 1023

/-- **A loop that queues one command per element**, as the route and rule loops do. -/
def queueEach {α : Type} (w : World) (ns : List Char) (command : α → List Char) (xs : List α)
    (st : SetupState × Nat) : SetupState × Nat :=
  forUntil w (fun x st => (st.1.queue ns (command x), st.2)) xs st

/-- **The raw route loop**: `for (i = 0; i < raw_route_count && !interrupted; i++)`. -/
def queueRoutes (w : World) (ns : List Char) (raws : List (List Char)) (st : SetupState × Nat) :
    SetupState × Nat :=
  queueEach w ns routeCommand raws st

/-- **The policy rule loop**: `for (i = 0; i < rule_count && !interrupted; i++)`. -/
def queueRules (w : World) (ns : List Char) (rules : List Rule) (st : SetupState × Nat) :
    SetupState × Nat :=
  queueEach w ns ruleCommand rules st

/-- **`setup_router_with_veth(ctx, router)`** from the flag test `t`, with the registry open. The
batch is executed and the ipset and iptables blocks applied at the end; those commands run in
children and leave the registry alone. -/
def setupRouterWithVeth (w : World) (router : Router) (reg : ShmRegistry) (t : Nat) :
    PhaseResult × Option Batch :=
  if w.interrupted t then (⟨reg, [], -1, t + 1, 0⟩, none)
  else
    match getRouterCodeShm reg router.name with
    | (reg, none) => (⟨reg, [], -1, t + 1, 0⟩, none)
    | (reg, some routerCode) =>
      match createNamespaceSafe w router.name with
      | (false, sys) => (⟨reg, sys, -1, t + 1, 0⟩, none)
      | (true, sys) =>
        if !w.batchCreated then (⟨reg, sys, -1, t + 1, 0⟩, none)
        else
          let ns := router.name
          let st₀ : SetupState := (SetupState.queue (SetupState.queue
            ⟨reg, createBatchContext (1024 * 1024), sys⟩ ns "ipset flush 2>/dev/null || true".toList)
            ns "ipset destroy 2>/dev/null || true".toList)
          let ifaces := forUntil w (fun i st => (setupInterface w ns routerCode i st.1, st.2))
            router.interfaces (st₀, t + 1)
          let routes := queueRoutes w ns router.rawRouteCommands ifaces
          let rules := queueRules w ns router.rules routes
          (⟨rules.1.registry, rules.1.system, 0, rules.2, 0⟩, some rules.1.batch)

/-! ## (5) What the queue loops append -/

/-- **The queue loops touch only the batch.** -/
theorem queueEach_frame {α : Type} (w : World) (ns : List Char) (command : α → List Char)
    (xs : List α) (st : SetupState) (t : Nat) :
    (queueEach w ns command xs (st, t)).1.registry = st.registry ∧
      (queueEach w ns command xs (st, t)).1.system = st.system :=
  forUntil_induction (fun s : SetupState => s.registry = st.registry ∧ s.system = st.system)
    (fun _ _ _ _ h => h) ⟨rfl, rfl⟩

@[simp] theorem queueRoutes_registry (w : World) (ns : List Char) (raws : List (List Char))
    (st : SetupState × Nat) : (queueRoutes w ns raws st).1.registry = st.1.registry :=
  (queueEach_frame w ns routeCommand raws st.1 st.2).1

@[simp] theorem queueRules_registry (w : World) (ns : List Char) (rules : List Rule)
    (st : SetupState × Nat) : (queueRules w ns rules st).1.registry = st.1.registry :=
  (queueEach_frame w ns ruleCommand rules st.1 st.2).1

@[simp] theorem queueRoutes_system (w : World) (ns : List Char) (raws : List (List Char))
    (st : SetupState × Nat) : (queueRoutes w ns raws st).1.system = st.1.system :=
  (queueEach_frame w ns routeCommand raws st.1 st.2).2

@[simp] theorem queueRules_system (w : World) (ns : List Char) (rules : List Rule)
    (st : SetupState × Nat) : (queueRules w ns rules st).1.system = st.1.system :=
  (queueEach_frame w ns ruleCommand rules st.1 st.2).2

/-- **A queue loop that is not interrupted and has room appends one line per element**, in order:
`batch_add_command` never fails when the whole text fits. -/
theorem queueEach_of_room {α : Type} {w : World} (hw : ∀ t, w.interrupted t = false) (ns : List Char)
    (command : α → List Char) :
    ∀ (xs : List α) (st : SetupState) (t : Nat),
      st.batch.script.length + (xs.flatMap fun x => batchLine ns (command x)).length <
        st.batch.capacity →
      (queueEach w ns command xs (st, t)).1.batch =
        ⟨st.batch.script ++ xs.flatMap (fun x => batchLine ns (command x)), st.batch.capacity⟩
  | [], st, t, _ => by simp [queueEach, forUntil]
  | x :: xs, st, t, h => by
    rw [List.flatMap_cons, List.length_append] at h
    have h₁ : batchAddCommand st.batch ns (command x) = _ := batchAddCommand_of_room (by omega)
    have ih := queueEach_of_room hw ns command xs (st.queue ns (command x)) (t + 1)
      (by simp only [SetupState.queue, h₁, List.length_append]; omega)
    rw [queueEach, forUntil_of_never hw] at *
    rw [ih]
    simp [SetupState.queue, h₁]

end TracerouteSimulator.Mesh
