import TracerouteSimulator.Registry.Table

/-! # The shared registry: operations and runs

The operations of `shared_registry.h`, each as the C function computes it: the bounded lookup
loop, the capacity check, the first-free-slot loop and the writes that claim a slot.

* **`getRouterCodeShm`**, **`getInterfaceCodeShm`**, **`registerBridgeShm`** — get-or-create;
  the new state and the returned code (or slot index), `none` for `NULL` / `-1`.
* **`findBridgeBySubnet`**, **`clearSharedRegistry`**, **`setBridgeCreated`** (the write
  `bridge->created = 1` of `create_hidden_infrastructure`).
* **`Reachable ok`** — the states reached from the cleared registry by operations satisfying the
  callers' promise `ok`; **`SessionReach ok`** — the same without `clear`, i.e. within one
  session. -/

namespace TracerouteSimulator.Registry

/-! ## (1) Router codes -/

/-- The lookup loop of `get_router_code_shm`: the first active slot with the name, among the slots
below `MAX_ROUTERS` and below `router_count + 10`. -/
def findRouterSlot (reg : ShmRegistry) (name : List Char) : Option Nat :=
  scanFrom (fun i => (reg.routers i).active && (reg.routers i).routerName == name) 0
    (min maxRouters (reg.routerCount + 10))

/-- The first inactive router slot. -/
def freeRouterSlot (reg : ShmRegistry) : Option Nat :=
  scanFrom (fun i => !(reg.routers i).active) 0 maxRouters

/-- **The writes that claim router slot `i`** (lines 176–179): `strncpy` of at most
`MAX_NAME_LEN - 1` characters into the zeroed slot, the code from `next_router_code++`, then
`active = 1` and `router_count++`. -/
def ShmRegistry.claimRouterSlot (reg : ShmRegistry) (i : Nat) (name : List Char) : ShmRegistry :=
  { reg with
    routers := Function.update reg.routers i
      ⟨name.take (maxNameLen - 1), routerCodeText reg.nextRouterCode, true⟩
    nextRouterCode := reg.nextRouterCode + 1
    routerCount := reg.routerCount + 1 }

/-- **`get_router_code_shm(reg, router_name)`**: the registry after the call and the code it
returns. -/
def getRouterCodeShm (reg : ShmRegistry) (name : List Char) : ShmRegistry × Option (List Char) :=
  match findRouterSlot reg name with
  | some i => (reg, some (reg.routers i).routerCode)
  | none =>
    if maxRouters ≤ reg.routerCount then (reg, none)
    else match freeRouterSlot reg with
      | some i => (reg.claimRouterSlot i name, some (routerCodeText reg.nextRouterCode))
      | none => (reg, none)

/-! ## (2) Interface codes -/

/-- **The router slot `get_interface_code_shm` recovers from a code** (lines 193–199):
`atoi(&router_code[1])` when the code starts with `r`; `NULL` for any other code, for a slot at or
past `MAX_ROUTERS` and for `-1`. A value below `-1` would index before the table, which is
undefined; the model reports it as `NULL` too. -/
def routerIndexOfCode : List Char → Option Nat
  | 'r' :: digits =>
    if (maxRouters : Int) ≤ atoi digits then none
    else if atoi digits < 0 then none
    else some (atoi digits).toNat
  | _ => none

/-- The lookup loop of `get_interface_code_shm` over the block that starts at `base`. -/
def findInterfaceSlot (reg : ShmRegistry) (base : Nat) (code name : List Char) : Option Nat :=
  scanFrom (fun k => (reg.interfaces k).active && (reg.interfaces k).routerCode == code &&
    (reg.interfaces k).interfaceName == name) base maxInterfacesPerRouter

/-- The first inactive entry of the block that starts at `base`. -/
def freeInterfaceSlot (reg : ShmRegistry) (base : Nat) : Option Nat :=
  scanFrom (fun k => !(reg.interfaces k).active) base maxInterfacesPerRouter

/-- **The writes that claim interface entry `k` of router slot `r`** (lines 216–221). -/
def ShmRegistry.claimInterfaceSlot (reg : ShmRegistry) (r k : Nat) (code name : List Char) :
    ShmRegistry :=
  { reg with
    interfaces := Function.update reg.interfaces k
      ⟨code.take (maxCodeLen - 1), name.take (maxNameLen - 1),
        interfaceCodeText (reg.nextInterfaceCodes r), true⟩
    nextInterfaceCodes := Function.update reg.nextInterfaceCodes r (reg.nextInterfaceCodes r + 1)
    interfaceCount := reg.interfaceCount + 1 }

/-- **`get_interface_code_shm(reg, router_code, interface_name)`**. The C function returns the new
code through a static buffer (`strcpy` of the stored text), so the text is what the model
returns. -/
def getInterfaceCodeShm (reg : ShmRegistry) (code name : List Char) :
    ShmRegistry × Option (List Char) :=
  match routerIndexOfCode code with
  | none => (reg, none)
  | some r =>
    match findInterfaceSlot reg (r * maxInterfacesPerRouter) code name with
    | some k => (reg, some (reg.interfaces k).interfaceCode)
    | none =>
      match freeInterfaceSlot reg (r * maxInterfacesPerRouter) with
      | some k => (reg.claimInterfaceSlot r k code name,
          some (interfaceCodeText (reg.nextInterfaceCodes r)))
      | none => (reg, none)

/-! ## (3) Bridges and clearing -/

/-- The lookup loop of `register_bridge_shm`: slots below `MAX_BRIDGES` and `bridge_count + 10`. -/
def findBridgeSlot (reg : ShmRegistry) (bridgeName : List Char) : Option Nat :=
  scanFrom (fun i => (reg.bridges i).active && (reg.bridges i).bridgeName == bridgeName) 0
    (min maxBridges (reg.bridgeCount + 10))

/-- The first inactive bridge slot. -/
def freeBridgeSlot (reg : ShmRegistry) : Option Nat :=
  scanFrom (fun i => !(reg.bridges i).active) 0 maxBridges

/-- **The writes that claim bridge slot `i`** (lines 246–260): both texts cut to 31 characters,
`created = 0`, `active = 1`, `bridge_count++`. -/
def ShmRegistry.claimBridgeSlot (reg : ShmRegistry) (i : Nat) (bridgeName subnet : List Char) :
    ShmRegistry :=
  { reg with
    bridges := Function.update reg.bridges i
      ⟨bridgeName.take (bridgeFieldLen - 1), subnet.take (bridgeFieldLen - 1), false, true⟩
    bridgeCount := reg.bridgeCount + 1 }

/-- **`register_bridge_shm(reg, bridge_name, subnet)`**: the slot index, `none` for `-1`. -/
def registerBridgeShm (reg : ShmRegistry) (bridgeName subnet : List Char) :
    ShmRegistry × Option Nat :=
  match findBridgeSlot reg bridgeName with
  | some i => (reg, some i)
  | none =>
    match freeBridgeSlot reg with
    | some i => (reg.claimBridgeSlot i bridgeName subnet, some i)
    | none => (reg, none)

/-- **`find_bridge_by_subnet(reg, subnet)`**: the first active slot whose subnet is the query. -/
def findBridgeBySubnet (reg : ShmRegistry) (subnet : List Char) : Option Nat :=
  scanFrom (fun i => (reg.bridges i).active && (reg.bridges i).subnet == subnet) 0 maxBridges

/-- **`bridge->created = 1`** in `create_hidden_infrastructure`. -/
def setBridgeCreated (reg : ShmRegistry) (i : Nat) : ShmRegistry :=
  { reg with bridges := Function.update reg.bridges i { reg.bridges i with created := true } }

/-- **`clear_shared_registry(reg)`**: `memset` to zero, then `version = 1`. -/
def clearSharedRegistry (_reg : ShmRegistry) : ShmRegistry := cleared

/-! ## (4) Frame lemmas -/

@[simp] theorem getRouterCodeShm_interfaces (reg : ShmRegistry) (name : List Char) :
    (getRouterCodeShm reg name).1.interfaces = reg.interfaces := by
  unfold getRouterCodeShm; split <;> [rfl; (split <;> [rfl; split <;> rfl])]

@[simp] theorem getRouterCodeShm_nextInterfaceCodes (reg : ShmRegistry) (name : List Char) :
    (getRouterCodeShm reg name).1.nextInterfaceCodes = reg.nextInterfaceCodes := by
  unfold getRouterCodeShm; split <;> [rfl; (split <;> [rfl; split <;> rfl])]

@[simp] theorem getRouterCodeShm_interfaceCount (reg : ShmRegistry) (name : List Char) :
    (getRouterCodeShm reg name).1.interfaceCount = reg.interfaceCount := by
  unfold getRouterCodeShm; split <;> [rfl; (split <;> [rfl; split <;> rfl])]

@[simp] theorem getRouterCodeShm_bridges (reg : ShmRegistry) (name : List Char) :
    (getRouterCodeShm reg name).1.bridges = reg.bridges := by
  unfold getRouterCodeShm; split <;> [rfl; (split <;> [rfl; split <;> rfl])]

@[simp] theorem getRouterCodeShm_bridgeCount (reg : ShmRegistry) (name : List Char) :
    (getRouterCodeShm reg name).1.bridgeCount = reg.bridgeCount := by
  unfold getRouterCodeShm; split <;> [rfl; (split <;> [rfl; split <;> rfl])]

@[simp] theorem getInterfaceCodeShm_routers (reg : ShmRegistry) (code name : List Char) :
    (getInterfaceCodeShm reg code name).1.routers = reg.routers := by
  unfold getInterfaceCodeShm; split <;> [rfl; (split <;> [rfl; split <;> rfl])]

@[simp] theorem getInterfaceCodeShm_routerCount (reg : ShmRegistry) (code name : List Char) :
    (getInterfaceCodeShm reg code name).1.routerCount = reg.routerCount := by
  unfold getInterfaceCodeShm; split <;> [rfl; (split <;> [rfl; split <;> rfl])]

@[simp] theorem getInterfaceCodeShm_nextRouterCode (reg : ShmRegistry) (code name : List Char) :
    (getInterfaceCodeShm reg code name).1.nextRouterCode = reg.nextRouterCode := by
  unfold getInterfaceCodeShm; split <;> [rfl; (split <;> [rfl; split <;> rfl])]

@[simp] theorem getInterfaceCodeShm_bridges (reg : ShmRegistry) (code name : List Char) :
    (getInterfaceCodeShm reg code name).1.bridges = reg.bridges := by
  unfold getInterfaceCodeShm; split <;> [rfl; (split <;> [rfl; split <;> rfl])]

@[simp] theorem getInterfaceCodeShm_bridgeCount (reg : ShmRegistry) (code name : List Char) :
    (getInterfaceCodeShm reg code name).1.bridgeCount = reg.bridgeCount := by
  unfold getInterfaceCodeShm; split <;> [rfl; (split <;> [rfl; split <;> rfl])]

/-- `register_bridge_shm` writes only the bridge table and `bridge_count`. -/
theorem registerBridgeShm_eq (reg : ShmRegistry) (bridgeName subnet : List Char) :
    ∃ bridges count, (registerBridgeShm reg bridgeName subnet).1 =
      { reg with bridges := bridges, bridgeCount := count } := by
  unfold registerBridgeShm
  split
  · exact ⟨reg.bridges, reg.bridgeCount, rfl⟩
  · split
    · exact ⟨_, _, rfl⟩
    · exact ⟨reg.bridges, reg.bridgeCount, rfl⟩

/-! ## (5) Runs -/

/-- **One registry operation**, as the callers of `shared_registry.h` issue them. -/
inductive RegistryOp
  /-- `get_router_code_shm(reg, name)`. -/
  | getRouterCode (name : List Char)
  /-- `get_interface_code_shm(reg, router_code, name)`. -/
  | getInterfaceCode (routerCode name : List Char)
  /-- `register_bridge_shm(reg, bridge_name, subnet)`. -/
  | registerBridge (bridgeName subnet : List Char)
  /-- `bridges[slot].created = 1`. -/
  | setCreated (slot : Nat)
  /-- `clear_shared_registry(reg)`. -/
  | clear
  deriving DecidableEq, Repr

/-- The registry after one operation. -/
def RegistryOp.apply : RegistryOp → ShmRegistry → ShmRegistry
  | .getRouterCode name, reg => (getRouterCodeShm reg name).1
  | .getInterfaceCode code name, reg => (getInterfaceCodeShm reg code name).1
  | .registerBridge bridgeName subnet, reg => (registerBridgeShm reg bridgeName subnet).1
  | .setCreated slot, reg => setBridgeCreated reg slot
  | .clear, reg => clearSharedRegistry reg

/-- **The promise on router and interface names**: names shorter than `MAX_NAME_LEN`, and interface
lookups keyed by a code that `get_router_code_shm` can hand out (`r` and a slot number). -/
def RegistryOp.NamesFit : RegistryOp → Prop
  | .getRouterCode name => name.length < maxNameLen
  | .getInterfaceCode code name =>
    (∃ r < maxRouters, code = routerCodeText r) ∧ name.length < maxNameLen
  | _ => True

/-- **The promise of `NamesFit` and, for bridges, names shorter than the 32-byte field.** -/
def RegistryOp.Fits : RegistryOp → Prop
  | .registerBridge bridgeName _ => bridgeName.length < bridgeFieldLen
  | op => op.NamesFit

theorem RegistryOp.Fits.namesFit {op : RegistryOp} (h : op.Fits) : op.NamesFit := by
  cases op <;> first | exact h | trivial

/-- **Registry states reachable from the cleared registry** by operations keeping the promise
`ok`, in any order and with any number of clears. -/
inductive Reachable (ok : RegistryOp → Prop) : ShmRegistry → Prop
  | cleared : Reachable ok cleared
  | step {reg : ShmRegistry} (op : RegistryOp) :
      Reachable ok reg → ok op → Reachable ok (op.apply reg)

theorem Reachable.mono {ok ok' : RegistryOp → Prop} {reg : ShmRegistry} (h : Reachable ok reg)
    (hmono : ∀ op, ok op → ok' op) : Reachable ok' reg := by
  induction h with
  | cleared => exact .cleared
  | step op _ hok ih => exact .step op ih (hmono op hok)

/-- One operation other than `clear`. -/
def SessionStep (ok : RegistryOp → Prop) (reg reg' : ShmRegistry) : Prop :=
  ∃ op, ok op ∧ op ≠ .clear ∧ reg' = op.apply reg

/-- **Within one session**: `reg'` follows `reg` after operations none of which is `clear`. -/
def SessionReach (ok : RegistryOp → Prop) : ShmRegistry → ShmRegistry → Prop :=
  Relation.ReflTransGen (SessionStep ok)

theorem Reachable.of_sessionReach {ok : RegistryOp → Prop} {reg reg' : ShmRegistry}
    (h : SessionReach ok reg reg') (hr : Reachable ok reg) : Reachable ok reg' := by
  induction h with
  | refl => exact hr
  | tail _ hs ih =>
    obtain ⟨op, hok, -, rfl⟩ := hs
    exact .step op ih hok

/-- A property kept by every operation with the promise holds in every reachable state. -/
theorem Reachable.induct {ok : RegistryOp → Prop} {P : ShmRegistry → Prop} (h₀ : P Registry.cleared)
    (hstep : ∀ reg op, P reg → ok op → P (op.apply reg)) {reg : ShmRegistry}
    (h : Reachable ok reg) : P reg := by
  induction h with
  | cleared => exact h₀
  | step op _ hok ih => exact hstep _ op ih hok

end TracerouteSimulator.Registry
