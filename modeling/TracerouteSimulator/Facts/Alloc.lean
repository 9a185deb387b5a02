import TracerouteSimulator.Facts.Router

/-! # The loader's dynamic arrays

`router_t` keeps its interfaces, routes and rules, `interface_t` its addresses and
`facts_context_t` its routers in arrays of `count` used slots out of `capacity`, grown by
`GROWTH_FACTOR` through `realloc_safe`. This module models them at the level of the heap: an array
pointer names `NULL`, a live block, or a block that has been freed, and the allocator's answer is a
parameter of every operation that allocates.

* **`reallocSafe`** — `realloc`, and the `free` of the old block `realloc_safe` adds when `realloc`
  fails for a non-zero size.
* **`growIfFull`** — the growth step of the five operations; `add_interface`, `add_address`,
  `add_route` and `add_rule` clear the new slots with `memset`, the router array does not.
* **`addSlot`** — the body of the four `add_*` functions, whose members are `addInterface`,
  `addAddress`, `addRoute` and `addRule`; **`addRouter`** is the router array's growth.
* **`DynArray.Stores a used rest`** — `a` names a live block of `capacity` slots whose first
  `count` slots are `used` and whose others are `rest`. An `add_*` that succeeds on an array whose
  `rest` is zero hands out the zero slot at `count` and keeps the rest zero (`addSlot_of_ok`, and
  `addSlots_of_ok` for a whole run). One that fails frees the block while the caller keeps the
  pointer, `count` and `capacity` (`growIfFull_of_fail`), and the next operation on the array is
  undefined (`addSlot_freed`).

A `size_t` subtraction that would wrap (`new_capacity - count` with `count > new_capacity`) is
out of reach: every array here keeps `count ≤ capacity`. -/

namespace TracerouteSimulator.Facts

/-- `GROWTH_FACTOR`. -/
def growthFactor : Nat := 2

/-- `INITIAL_CAPACITY`. -/
def initialCapacity : Nat := 16

/-! ## (1) Blocks, `realloc_safe` and the growth step -/

/-- **What an array pointer names**: `NULL`, the slots of a live heap block, or a block that has
been freed. -/
inductive Block (α : Type) where
  | null
  | live (slots : List α)
  | freed
  deriving DecidableEq, Repr

/-- **A dynamic array of the loader**: `T *items; size_t count, capacity;`. -/
structure DynArray (α : Type) where
  /-- What `items` names. -/
  items : Block α
  /-- The `_count` field. -/
  count : Nat
  /-- The `_capacity` field. -/
  capacity : Nat
  deriving DecidableEq, Repr

variable {α : Type}

/-- The block `realloc(ptr, n)` returns: the first `n` old slots, then what the allocator left in
the new ones, `junk i` at index `i`. -/
def grownBlock (junk : Nat → α) (slots : List α) (n : Nat) : List α :=
  slots.take n ++ (List.range (n - slots.length)).map fun i => junk (slots.length + i)

/-- **`realloc_safe(ptr, n)`** with `ok` the allocator's answer: the block the returned pointer
names (`none` for `NULL`) and what `ptr` names afterwards. `realloc(NULL, n)` is `malloc(n)`; when
`realloc` fails for `n > 0` the old block is freed. `none` is a freed `ptr`, which `realloc` may
not be given. -/
def reallocSafe (ok : Bool) (junk : Nat → α) (ptr : Block α) (n : Nat) :
    Option (Option (List α) × Block α) :=
  match ptr with
  | .freed => none
  | .null => some (if ok then (some (grownBlock junk [] n), .null) else (none, .null))
  | .live slots =>
    some (if ok then (some (grownBlock junk slots n), .freed)
      else (none, if 0 < n then .freed else .live slots))

/-- **`memset(&items[count], 0, (new_capacity - count) * size)`** for the arrays that clear their
new slots (`clear = some zero`); the router array has none (`clear = none`). -/
def memsetSlots (clear : Option α) (slots : List α) (off n : Nat) : List α :=
  match clear with
  | some zero => overwrite slots off (List.replicate n zero)
  | none => slots

/-- **The growth step** `if (count >= capacity) { ... }` of the five operations: double the
capacity through `realloc_safe`, then clear the new slots. The result is the array afterwards and
whether the step succeeded (`false` is the `NULL` path); `none` is undefined behaviour. -/
def growIfFull (clear : Option α) (ok : Bool) (junk : Nat → α) (a : DynArray α) :
    Option (DynArray α × Bool) :=
  if a.capacity ≤ a.count then
    let newCapacity := a.capacity * growthFactor
    (reallocSafe ok junk a.items newCapacity).map fun
      | (some grown, _) =>
        (⟨.live (memsetSlots clear grown a.count (newCapacity - a.count)), a.count, newCapacity⟩, true)
      | (none, old) => ({ a with items := old }, false)
  else some (a, true)

/-- **`return &items[count++]`**: the slot at `count` is handed out and `count` grows. The caller
writes the slot at once, so `none` (undefined) when it lies outside a live block. -/
def handOut (a : DynArray α) : Option (DynArray α × Option Nat) :=
  match a.items with
  | .live slots =>
    if a.count < slots.length then some ({ a with count := a.count + 1 }, some a.count) else none
  | _ => none

/-- **The body of `add_interface`, `add_address`, `add_route` and `add_rule`** for an array whose
zero slot is `zero`: the array afterwards and the index of the slot returned, `none` for `NULL`. -/
def addSlot (zero : α) (ok : Bool) (junk : Nat → α) (a : DynArray α) :
    Option (DynArray α × Option Nat) :=
  (growIfFull (some zero) ok junk a).bind fun (a', grown) =>
    if grown then handOut a' else some (a', none)

/-- A write into slot `i` of a live block. -/
def DynArray.modify (a : DynArray α) (i : Nat) (f : α → α) : DynArray α :=
  match a.items with
  | .live slots => { a with items := .live (slots.modify f i) }
  | _ => a

/-! ## (2) The arrays of the facts -/

/-- **`address_t`** in the heap; a `NULL` string is `none`. -/
structure AddressMem where
  /-- `ip`. -/
  ip : Option (List Char)
  /-- `broadcast`. -/
  broadcast : Option (List Char)
  /-- `scope`. -/
  scope : Option (List Char)
  /-- `prefixlen`. -/
  prefixlen : Int
  /-- `secondary`. -/
  secondary : Bool
  deriving DecidableEq, Repr

/-- **`interface_t`** in the heap, with its address array. -/
structure InterfaceMem where
  /-- `name`. -/
  name : Option (List Char)
  /-- `mac`. -/
  mac : Option (List Char)
  /-- `mtu`. -/
  mtu : Int
  /-- `up`. -/
  up : Bool
  /-- `addresses`, `addr_count`, `addr_capacity`. -/
  addresses : DynArray AddressMem
  deriving DecidableEq, Repr

/-- **`router_t`'s arrays** in the heap. -/
structure RouterMem where
  /-- `interfaces`, `interface_count`, `interface_capacity`. -/
  interfaces : DynArray InterfaceMem
  /-- `routes`, `route_count`, `route_capacity`. -/
  routes : DynArray Route
  /-- `rules`, `rule_count`, `rule_capacity`. -/
  rules : DynArray Rule
  deriving DecidableEq, Repr

/-- The all-zero `address_t`. -/
def AddressMem.zero : AddressMem := ⟨none, none, none, 0, false⟩

/-- The all-zero `interface_t`: no address block, no slots. -/
def InterfaceMem.zero : InterfaceMem := ⟨none, none, 0, false, ⟨.null, 0, 0⟩⟩

/-- The all-zero `route_t`. -/
def Route.zero : Route := ⟨none, none, none, none, none, 0, none⟩

/-- The all-zero `rule_t`. -/
def Rule.zero : Rule := ⟨0, none, none, 0, none, none, none, 0, 0⟩

/-- **`calloc(n, size)`** with `ok` the allocator's answer. -/
def calloc (ok : Bool) (zero : α) (n : Nat) : Block α :=
  if ok then .live (List.replicate n zero) else .null

/-- **`add_address(iface)`**. -/
def addAddress (ok : Bool) (junk : Nat → AddressMem) (iface : InterfaceMem) :
    Option (InterfaceMem × Option Nat) :=
  (addSlot AddressMem.zero ok junk iface.addresses).map fun p => ({ iface with addresses := p.1 }, p.2)

/-- **`add_route(router)`**. -/
def addRoute (ok : Bool) (junk : Nat → Route) (r : RouterMem) : Option (RouterMem × Option Nat) :=
  (addSlot Route.zero ok junk r.routes).map fun p => ({ r with routes := p.1 }, p.2)

/-- **`add_rule(router)`**. -/
def addRule (ok : Bool) (junk : Nat → Rule) (r : RouterMem) : Option (RouterMem × Option Nat) :=
  (addSlot Rule.zero ok junk r.rules).map fun p => ({ r with rules := p.1 }, p.2)

/-- **`add_interface(router)`**: `addSlot`, after which the slot gets
`addr_capacity = INITIAL_CAPACITY` and a `calloc`ed address block (`okCalloc` the allocator's
answer). -/
def addInterface (ok okCalloc : Bool) (junk : Nat → InterfaceMem) (r : RouterMem) :
    Option (RouterMem × Option Nat) :=
  (addSlot InterfaceMem.zero ok junk r.interfaces).map fun
    | (a, some i) =>
      ({ r with interfaces := a.modify i fun iface => { iface with addresses :=
          { iface.addresses with
            capacity := initialCapacity,
            items := calloc okCalloc AddressMem.zero initialCapacity } } }, some i)
    | (a, none) => ({ r with interfaces := a }, none)

/-- **The router-array growth of `load_facts_from_env_filtered`**: the growth step with no
`memset`, then `routers[router_count++] = router`; when `realloc_safe` fails the router is freed
and skipped. The result is the array afterwards and whether the router was stored. -/
def addRouter (ok : Bool) (junk : Nat → Option Router) (routers : DynArray (Option Router))
    (router : Router) : Option (DynArray (Option Router) × Bool) :=
  (growIfFull none ok junk routers).bind fun (a, grown) =>
    if grown then (handOut a).map fun p => (p.1.modify a.count fun _ => some router, true)
    else some (a, false)

/-! ## (3) What a growth does -/

/-- **`a` stores `used`, then `rest`**: it names a live block of `capacity` slots, whose first
`count` slots are `used` and whose other slots are `rest`, and its capacity is not zero. -/
structure DynArray.Stores (a : DynArray α) (used rest : List α) : Prop where
  items : a.items = .live (used ++ rest)
  count_eq : used.length = a.count
  length_eq : used.length + rest.length = a.capacity
  pos : 0 < a.capacity

section Growth

variable {clear : Option α} {ok : Bool} {junk : Nat → α} {a : DynArray α} {used rest : List α}

theorem grownBlock_of_le {slots : List α} {n : Nat} (h : slots.length ≤ n) :
    grownBlock junk slots n =
      slots ++ (List.range (n - slots.length)).map fun i => junk (slots.length + i) := by
  rw [grownBlock, List.take_of_length_le h]

theorem growIfFull_of_lt (h : a.count < a.capacity) : growIfFull clear ok junk a = some (a, true) :=
  if_neg (by omega)

/-- **A failed growth frees the block** the array still names; `count` and `capacity` stay. -/
theorem growIfFull_of_fail {slots : List α} (hlive : a.items = .live slots)
    (hfull : a.capacity ≤ a.count) (hpos : 0 < a.capacity) :
    growIfFull clear false junk a = some ({ a with items := .freed }, false) := by
  rw [growIfFull, if_pos hfull, hlive]
  simp [reallocSafe, growthFactor, hpos]

/-- **A growth that succeeds** doubles the capacity and keeps the slots in use; the new slots are
zero when the array clears them, and what the allocator left otherwise. -/
theorem growIfFull_of_ok (h : a.Stores used []) :
    growIfFull clear true junk a =
      some (⟨.live (memsetSlots clear (used ++ (List.range a.capacity).map fun i =>
        junk (a.count + i)) a.count a.capacity), a.count, a.capacity * growthFactor⟩, true) := by
  have hc : used.length = a.capacity := by simpa using h.length_eq
  have hcount : a.count = a.capacity := h.count_eq ▸ hc
  have hsub : a.capacity * growthFactor - a.capacity = a.capacity := by rw [growthFactor]; omega
  rw [growIfFull, if_pos (by omega), h.items, List.append_nil]
  simp only [reallocSafe, if_true, Option.map_some', grownBlock_of_le (show used.length ≤
    a.capacity * growthFactor by rw [hc, growthFactor]; omega), hc, hcount, hsub]

theorem memsetSlots_zero {zero : α} {junk' : List α} {off n : Nat} (hoff : used.length = off)
    (h : junk'.length ≤ n) :
    memsetSlots (some zero) (used ++ junk') off n = used ++ List.replicate n zero := by
  subst hoff
  exact overwrite_append_of_length_le (by simpa using h)

/-- **`return &items[count++]`** from a block with room hands out the slot at `count`. -/
theorem handOut_of_stores {x : α} (h : a.Stores used (x :: rest)) :
    handOut a = some ({ a with count := a.count + 1 }, some a.count) ∧
      DynArray.Stores { a with count := a.count + 1 } (used ++ [x]) rest := by
  have hl := h.length_eq
  have hc := h.count_eq
  simp only [List.length_cons] at hl
  refine ⟨?_, ⟨by simpa using h.items, by simp [h.count_eq], by simp; omega, h.pos⟩⟩
  simp only [handOut, h.items, List.length_append, List.length_cons]
  rw [if_pos (by omega)]

/-- An array with room has a slot past its used ones. -/
theorem DynArray.Stores.exists_cons (h : a.Stores used rest) (hlt : a.count < a.capacity) :
    ∃ x rest', rest = x :: rest' := by
  have hl := h.length_eq
  have hc := h.count_eq
  cases rest with
  | nil => simp at hl; omega
  | cons x rest' => exact ⟨x, rest', rfl⟩

theorem modify_append_cons {f : α → α} {x : α} :
    ∀ {used : List α}, (used ++ x :: rest).modify f used.length = used ++ f x :: rest
  | [] => List.modify_zero_cons f x rest
  | y :: used => by
    rw [List.cons_append, List.length_cons, List.modify_succ_cons, modify_append_cons]; rfl

@[simp] theorem DynArray.modify_count {i : Nat} {f : α → α} : (a.modify i f).count = a.count := by
  unfold DynArray.modify; split <;> rfl

@[simp] theorem DynArray.modify_capacity {i : Nat} {f : α → α} :
    (a.modify i f).capacity = a.capacity := by
  unfold DynArray.modify; split <;> rfl

/-- **A write into the slot just handed out** changes that slot alone. -/
theorem DynArray.Stores.modify_last {f : α → α} {x : α} (h : a.Stores (used ++ [x]) rest) :
    (a.modify used.length f).Stores (used ++ [f x]) rest := by
  have hitems : a.items = .live (used ++ x :: rest) := by simpa using h.items
  refine ⟨?_, by simpa using h.count_eq, by simpa using h.length_eq, by simpa using h.pos⟩
  rw [DynArray.modify, hitems]
  simp only [modify_append_cons, List.append_assoc, List.singleton_append]

end Growth

/-! ## (4) The four `add_*` functions -/

section AddSlot

variable {zero : α} {ok : Bool} (junk : Nat → α) {a : DynArray α} {used : List α}

/-- **A successful `add_*`** hands out the zero slot at `count`: `count` grows by one and stays
within the capacity, the slots before it stay, and the slots past it are still zero. -/
theorem addSlot_of_ok (h : a.Stores used (List.replicate (a.capacity - a.count) zero))
    (hok : ok = true ∨ a.count < a.capacity) :
    ∃ a', addSlot zero ok junk a = some (a', some a.count) ∧
      a'.Stores (used ++ [zero]) (List.replicate (a'.capacity - a'.count) zero) ∧
      a'.count = a.count + 1 := by
  have hl := h.length_eq
  have hc := h.count_eq
  by_cases hlt : a.count < a.capacity
  · obtain ⟨k, hk⟩ : ∃ k, a.capacity - a.count = k + 1 := ⟨_, (Nat.succ_pred_eq_of_pos
      (by omega)).symm⟩
    rw [hk, List.replicate_succ] at h
    obtain ⟨hout, hs⟩ := handOut_of_stores h
    refine ⟨{ a with count := a.count + 1 }, ?_, ?_, rfl⟩
    · rw [addSlot, growIfFull_of_lt hlt, Option.some_bind]
      exact hout
    · convert hs using 2
      simp only
      omega
  · obtain rfl : ok = true := hok.resolve_right hlt
    have hpos := h.pos
    have hfull : a.capacity - a.count = 0 := by omega
    rw [hfull, List.replicate_zero] at h
    have hgrow : growIfFull (some zero) true junk a = _ := growIfFull_of_ok h
    rw [memsetSlots_zero h.count_eq (by simp)] at hgrow
    have hs : DynArray.Stores ⟨.live (used ++ List.replicate a.capacity zero), a.count,
        a.capacity * growthFactor⟩ used (zero :: List.replicate (a.capacity - 1) zero) := by
      refine ⟨?_, hc, ?_, Nat.mul_pos hpos (by decide : 0 < growthFactor)⟩
      · rw [← List.replicate_succ, Nat.sub_one_add_one_eq_of_pos hpos]
      · simp only [List.length_cons, List.length_replicate, growthFactor]; omega
    obtain ⟨hout, hs'⟩ := handOut_of_stores hs
    refine ⟨⟨.live (used ++ List.replicate a.capacity zero), a.count + 1,
      a.capacity * growthFactor⟩, ?_, ?_, rfl⟩
    · rw [addSlot, hgrow, Option.some_bind]
      exact hout
    · convert hs' using 2
      simp only [growthFactor]
      omega

/-- **A failed `add_*`** returns `NULL` and frees the block the array still names. -/
theorem addSlot_of_fail {slots : List α} (hlive : a.items = .live slots)
    (hfull : a.capacity ≤ a.count) (hpos : 0 < a.capacity) :
    addSlot zero false junk a = some ({ a with items := .freed }, none) := by
  rw [addSlot, growIfFull_of_fail hlive hfull hpos, Option.some_bind]
  rfl

/-- **An `add_*` on an array whose block was freed is undefined**: it gives the freed block to
`realloc`, or hands out a slot of it. -/
theorem addSlot_freed : addSlot zero ok junk { a with items := .freed } = none := by
  by_cases hfull : a.capacity ≤ a.count
  · simp [addSlot, growIfFull, hfull, reallocSafe]
  · rw [addSlot, growIfFull_of_lt (by simpa using hfull), Option.some_bind]
    rfl

end AddSlot

/-! ## (5) The members -/

section Members

variable {ok okCalloc : Bool}

/-- **`add_interface` that succeeds** hands out the slot at `interface_count`, with
`addr_capacity = INITIAL_CAPACITY` and the `calloc`ed address block; the interfaces before it stay. -/
theorem addInterface_of_ok {junk : Nat → InterfaceMem} {r : RouterMem} {used : List InterfaceMem}
    (h : r.interfaces.Stores used
      (List.replicate (r.interfaces.capacity - r.interfaces.count) InterfaceMem.zero))
    (hok : ok = true ∨ r.interfaces.count < r.interfaces.capacity) :
    ∃ a', addInterface ok okCalloc junk r = some ({ r with interfaces := a' }, some r.interfaces.count) ∧
      a'.Stores (used ++ [{ InterfaceMem.zero with addresses :=
          ⟨calloc okCalloc AddressMem.zero initialCapacity, 0, initialCapacity⟩ }])
        (List.replicate (a'.capacity - a'.count) InterfaceMem.zero) ∧
      a'.count = r.interfaces.count + 1 := by
  obtain ⟨a', hadd, hs, hcount⟩ := addSlot_of_ok junk h hok
  refine ⟨a'.modify r.interfaces.count fun iface => { iface with addresses :=
    { iface.addresses with
      capacity := initialCapacity, items := calloc okCalloc AddressMem.zero initialCapacity } },
    ?_, ?_, by simp [hcount]⟩
  · rw [addInterface, hadd, Option.map_some']
  · rw [DynArray.modify_capacity, DynArray.modify_count, ← h.count_eq]
    exact hs.modify_last

/-- **The router growth that succeeds** stores the router at `router_count`; the routers before
it stay. -/
theorem addRouter_of_ok {junk : Nat → Option Router} {routers : DynArray (Option Router)}
    {used rest : List (Option Router)} {router : Router} (h : routers.Stores used rest)
    (hok : ok = true ∨ routers.count < routers.capacity) :
    ∃ a' rest', addRouter ok junk routers router = some (a', true) ∧
      a'.Stores (used ++ [some router]) rest' ∧ a'.count = routers.count + 1 := by
  have hc := h.count_eq
  have hl := h.length_eq
  -- the array `handOut` sees: `routers` itself, or its grown copy
  obtain ⟨b, rest₁, hgrow, hb, hbc, hbcap⟩ : ∃ b rest₁, growIfFull none ok junk routers = some (b, true) ∧
      b.Stores used rest₁ ∧ b.count = routers.count ∧ b.count < b.capacity := by
    by_cases hlt : routers.count < routers.capacity
    · exact ⟨routers, rest, growIfFull_of_lt hlt, h, rfl, hlt⟩
    · obtain rfl : ok = true := hok.resolve_right hlt
      have hpos := h.pos
      have hnil : rest = [] := List.eq_nil_of_length_eq_zero (by omega)
      subst hnil
      refine ⟨_, _, growIfFull_of_ok h, ⟨rfl, hc, ?_, Nat.mul_pos hpos (by decide)⟩, rfl, ?_⟩
      · simp only [List.length_map, List.length_range, growthFactor]; omega
      · show routers.count < routers.capacity * growthFactor
        simp only [growthFactor]; omega
  obtain ⟨x, rest', rfl⟩ := hb.exists_cons hbcap
  obtain ⟨hout, hs⟩ := handOut_of_stores hb
  refine ⟨_, rest', ?_, hbc ▸ hs.modify_last (f := fun _ => some router), by simp [hbc]⟩
  simp only [addRouter, hgrow, Option.some_bind, if_true, hout, Option.map_some']
  rw [hb.count_eq, hbc]

/-- **The router growth that fails** frees the router array the context still names. -/
theorem addRouter_of_fail {junk : Nat → Option Router} {routers : DynArray (Option Router)}
    {stored : List (Option Router)} {router : Router} (hlive : routers.items = .live stored)
    (hfull : routers.capacity ≤ routers.count) (hpos : 0 < routers.capacity) :
    addRouter false junk routers router = some ({ routers with items := .freed }, false) := by
  rw [addRouter, growIfFull_of_fail hlive hfull hpos, Option.some_bind]
  rfl

/-- **The router growth on a freed array is undefined.** -/
theorem addRouter_freed {junk : Nat → Option Router} {routers : DynArray (Option Router)}
    {router : Router} : addRouter ok junk { routers with items := .freed } router = none := by
  by_cases hfull : routers.capacity ≤ routers.count
  · simp [addRouter, growIfFull, hfull, reallocSafe]
  · rw [addRouter, growIfFull_of_lt (by simpa using hfull), Option.some_bind]
    rfl

end Members

/-- **`create_router`'s arrays**: `calloc` of `INITIAL_CAPACITY` interfaces, `4 * INITIAL_CAPACITY`
routes and `INITIAL_CAPACITY` rules, with the allocator's answers. -/
def createRouterArrays (okInterfaces okRoutes okRules : Bool) : RouterMem :=
  ⟨⟨calloc okInterfaces InterfaceMem.zero initialCapacity, 0, initialCapacity⟩,
    ⟨calloc okRoutes Route.zero (initialCapacity * 4), 0, initialCapacity * 4⟩,
    ⟨calloc okRules Rule.zero initialCapacity, 0, initialCapacity⟩⟩

/-- A `calloc`ed array stores nothing yet, and zero slots. -/
theorem stores_calloc {zero : α} {n : Nat} (hn : 0 < n) :
    DynArray.Stores ⟨calloc true zero n, 0, n⟩ [] (List.replicate (n - 0) zero) :=
  ⟨rfl, rfl, by simp, hn⟩

/-- **`add_*` called once per allocator answer**, the slots handed out left as they are: the
array afterwards, `none` once undefined. -/
def addSlots (zero : α) (junk : Nat → α) (a : DynArray α) : List Bool → Option (DynArray α)
  | [] => some a
  | ok :: oks => (addSlot zero ok junk a).bind fun p => addSlots zero junk p.1 oks

/-- **A run in which every growth succeeds** keeps the invariant: each call adds one zero slot. -/
theorem addSlots_of_ok {zero : α} {junk : Nat → α} :
    ∀ {a : DynArray α} {used : List α} (oks : List Bool),
      a.Stores used (List.replicate (a.capacity - a.count) zero) → (∀ ok ∈ oks, ok = true) →
      ∃ a', addSlots zero junk a oks = some a' ∧
        a'.Stores (used ++ List.replicate oks.length zero)
          (List.replicate (a'.capacity - a'.count) zero) ∧ a'.count = a.count + oks.length
  | a, used, [], h, _ => ⟨a, rfl, by simpa using h, rfl⟩
  | a, used, ok :: oks, h, hoks => by
    obtain ⟨a₁, hadd, hs₁, hc₁⟩ := addSlot_of_ok junk h
      (.inl (hoks ok (List.mem_cons_self _ _)))
    obtain ⟨a', hrun, hs', hc'⟩ := addSlots_of_ok oks hs₁ fun o ho => hoks o (List.mem_cons_of_mem _ ho)
    refine ⟨a', by rw [addSlots, hadd, Option.some_bind, hrun], ?_, by simp [hc', hc₁]; omega⟩
    simpa [List.replicate_succ] using hs'

/-! ## (6) A failed growth -/

/-- **A failed growth loses the array.** When an array is full and `realloc` fails, an `add_*`
returns `NULL` and the router growth skips its router, with `count` and `capacity` as they were.
But `realloc_safe` has freed the block the array still names: the elements stored so far are gone,
and the next growth operation on the array is undefined. -/
theorem failed_growth_frees_array {zero : α} {junk : Nat → α} {a : DynArray α} {slots : List α}
    {junkR : Nat → Option Router} {routers : DynArray (Option Router)}
    {stored : List (Option Router)} {router : Router}
    (hlive : a.items = .live slots) (hfull : a.capacity ≤ a.count) (hpos : 0 < a.capacity)
    (hrlive : routers.items = .live stored) (hrfull : routers.capacity ≤ routers.count)
    (hrpos : 0 < routers.capacity) :
    addSlot zero false junk a = some ({ a with items := .freed }, none) ∧
      (∀ ok junk', addSlot zero ok junk' { a with items := .freed } = none) ∧
    addRouter false junkR routers router = some ({ routers with items := .freed }, false) ∧
      (∀ ok junk' router', addRouter ok junk' { routers with items := .freed } router' = none) :=
  ⟨addSlot_of_fail junk hlive hfull hpos, fun _ junk' => addSlot_freed junk',
    addRouter_of_fail hrlive hrfull hrpos, fun _ _ _ => addRouter_freed⟩

theorem failed_growth_frees_array_sixteen :
    16 ≤ 16 ∧ 0 < 16 ∧
    addSlot InterfaceMem.zero false (fun _ => InterfaceMem.zero)
        ⟨.live (List.replicate 16 InterfaceMem.zero), 16, 16⟩ = some (⟨.freed, 16, 16⟩, none) ∧
      (∀ ok junk', addSlot InterfaceMem.zero ok junk' ⟨.freed, 16, 16⟩ = none) ∧
    addRouter false (fun _ => none) ⟨.live (List.replicate 16 none), 16, 16⟩
        (createRouter "r17".toList) = some (⟨.freed, 16, 16⟩, false) ∧
      (∀ ok junk' router', addRouter ok junk' ⟨.freed, 16, 16⟩ router' = none) :=
  ⟨by decide, by decide, failed_growth_frees_array rfl (le_refl _) (by decide) rfl (le_refl _)
    (by decide)⟩

end TracerouteSimulator.Facts
