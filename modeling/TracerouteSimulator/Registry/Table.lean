import TracerouteSimulator.CString
import Mathlib.Logic.Function.Basic

/-! # The shared registry: layout, scans and codes

`shared_registry.h` keeps one fixed-size struct `shm_registry_t` in the named shared memory
`/tsim_registry`: a header of counts, a table of router entries, a table of interface entries
(`MAX_INTERFACES_PER_ROUTER` consecutive entries per router slot) and a table of bridge entries,
followed by the code counters.

* **`ShmRegistry`** — the struct; each fixed-size table is a function from the slot index, and
  every slot past a table's capacity keeps its zeroed value in every reachable state.
* **`scanFrom p start count`** — the bounded `for` loops of the registry that return the first
  slot satisfying a test, characterised by `scanFrom_eq_some_iff` / `scanFrom_eq_none_iff`.
* **`codeText tag n`** — the code `snprintf(code, MAX_CODE_LEN, "r%03d", n)` (tag `r`) or
  `"i%03d"` (tag `i`); `codeText_injective` reads the number back as `atoi` does. -/

namespace TracerouteSimulator.Registry

/-! ## (1) Capacities and entries -/

/-- `MAX_ROUTERS`. -/
def maxRouters : Nat := 1024

/-- `MAX_INTERFACES_PER_ROUTER`. -/
def maxInterfacesPerRouter : Nat := 64

/-- `MAX_BRIDGES`. -/
def maxBridges : Nat := 2048

/-- `MAX_NAME_LEN` as `hidden_mesh_setup.c` compiles the registry: `router_facts_loader.h`,
included first, defines it as `64`, so the `#ifndef` default `256` is not used. -/
def maxNameLen : Nat := 64

/-- `MAX_CODE_LEN`. -/
def maxCodeLen : Nat := 8

/-- The size of the `bridge_name` and `subnet` fields of a bridge entry. -/
def bridgeFieldLen : Nat := 32

/-- `shm_router_entry_t`; the default value is the zeroed entry. -/
structure RouterEntry where
  /-- `router_name`, a C string in a `MAX_NAME_LEN` field. -/
  routerName : List Char
  /-- `router_code`, `r000` upwards. -/
  routerCode : List Char
  /-- `active`: the entry is in use. -/
  active : Bool
  deriving DecidableEq, Repr, Inhabited

/-- `shm_interface_entry_t`; the default value is the zeroed entry. -/
structure InterfaceEntry where
  /-- `router_code` of the router the interface belongs to. -/
  routerCode : List Char
  /-- `interface_name`. -/
  interfaceName : List Char
  /-- `interface_code`, `i000` upwards. -/
  interfaceCode : List Char
  /-- `active`: the entry is in use. -/
  active : Bool
  deriving DecidableEq, Repr, Inhabited

/-- `shm_bridge_entry_t`; the default value is the zeroed entry. -/
structure BridgeEntry where
  /-- `bridge_name`, at most 31 characters. -/
  bridgeName : List Char
  /-- `subnet`, at most 31 characters. -/
  subnet : List Char
  /-- `created`: the bridge link exists in the hidden namespace. -/
  created : Bool
  /-- `active`: the entry is in use. -/
  active : Bool
  deriving DecidableEq, Repr, Inhabited

/-- **`shm_registry_t`.** The C `int` counters stay far below their range (they are bounded by the
capacities), so they are natural numbers. The interface table is one-dimensional, as in C: the
block of router slot `r` is `r * MAX_INTERFACES_PER_ROUTER + j` for `j < MAX_INTERFACES_PER_ROUTER`. -/
structure ShmRegistry where
  /-- `version`. -/
  version : Nat
  /-- `router_count`. -/
  routerCount : Nat
  /-- `interface_count`. -/
  interfaceCount : Nat
  /-- `bridge_count`. -/
  bridgeCount : Nat
  /-- `routers[MAX_ROUTERS]`. -/
  routers : Nat → RouterEntry
  /-- `interfaces[MAX_ROUTERS * MAX_INTERFACES_PER_ROUTER]`. -/
  interfaces : Nat → InterfaceEntry
  /-- `bridges[MAX_BRIDGES]`. -/
  bridges : Nat → BridgeEntry
  /-- `next_router_code`. -/
  nextRouterCode : Nat
  /-- `next_interface_codes[MAX_ROUTERS]`, one counter per router slot. -/
  nextInterfaceCodes : Nat → Nat

/-- **The cleared registry**: the struct zeroed with `version = 1`, as `open_shared_registry`
initialises a segment it creates and as `clear_shared_registry` leaves it. -/
def cleared : ShmRegistry where
  version := 1
  routerCount := 0
  interfaceCount := 0
  bridgeCount := 0
  routers := fun _ => default
  interfaces := fun _ => default
  bridges := fun _ => default
  nextRouterCode := 0
  nextInterfaceCodes := fun _ => 0

/-! ## (2) Bounded scans -/

/-- **`for (i = start; i < start + count; i++) if (p(i)) return i;`** — the first index of the
range satisfying `p`. -/
def scanFrom (p : Nat → Bool) (start : Nat) : Nat → Option Nat
  | 0 => none
  | count + 1 => if p start then some start else scanFrom p (start + 1) count

/-- **The scan finds the first hit.** -/
theorem scanFrom_eq_some_iff {p : Nat → Bool} {start count i : Nat} :
    scanFrom p start count = some i ↔
      start ≤ i ∧ i < start + count ∧ p i ∧ ∀ j, start ≤ j → j < i → p j = false := by
  induction count generalizing start with
  | zero => simp [scanFrom]; omega
  | succ count ih =>
    by_cases hp : p start
    · simp only [scanFrom, hp, ↓reduceIte, Option.some.injEq]
      constructor
      · rintro rfl; exact ⟨le_rfl, by omega, hp, fun j h₁ h₂ => by omega⟩
      · rintro ⟨h₁, -, -, h₄⟩
        by_contra hne
        simp [h₄ start le_rfl (by omega)] at hp
    · simp only [scanFrom, hp, Bool.false_eq_true, ↓reduceIte, ih]
      constructor
      · rintro ⟨h₁, h₂, h₃, h₄⟩
        refine ⟨by omega, by omega, h₃, fun j hj₁ hj₂ => ?_⟩
        rcases Nat.eq_or_lt_of_le hj₁ with rfl | hj₁
        · simpa using hp
        · exact h₄ j hj₁ hj₂
      · rintro ⟨h₁, h₂, h₃, h₄⟩
        have : start ≠ i := fun h => hp (h ▸ h₃)
        exact ⟨by omega, by omega, h₃, fun j hj₁ hj₂ => h₄ j (by omega) hj₂⟩

/-- **The scan fails when no index of the range passes.** -/
theorem scanFrom_eq_none_iff {p : Nat → Bool} {start count : Nat} :
    scanFrom p start count = none ↔ ∀ j, start ≤ j → j < start + count → p j = false := by
  induction count generalizing start with
  | zero => simp [scanFrom]; intro j h₁ h₂; omega
  | succ count ih =>
    by_cases hp : p start
    · simp only [scanFrom, hp, ↓reduceIte, reduceCtorEq, false_iff, not_forall]
      exact ⟨start, le_rfl, by omega, by simp [hp]⟩
    · simp only [scanFrom, hp, Bool.false_eq_true, ↓reduceIte, ih]
      constructor
      · intro h j hj₁ hj₂
        rcases Nat.eq_or_lt_of_le hj₁ with rfl | hj₁
        · simpa using hp
        · exact h j hj₁ (by omega)
      · exact fun h j hj₁ hj₂ => h j (by omega) (by omega)

/-- Two tests that agree on the range give the same scan. -/
theorem scanFrom_congr {p q : Nat → Bool} {start count : Nat}
    (h : ∀ j, start ≤ j → j < start + count → p j = q j) :
    scanFrom p start count = scanFrom q start count := by
  induction count generalizing start with
  | zero => rfl
  | succ count ih =>
    simp only [scanFrom, h start le_rfl (by omega)]
    rw [ih fun j h₁ h₂ => h j (by omega) (by omega)]

/-! ## (3) Codes -/

/-- **`snprintf(code, MAX_CODE_LEN, "<tag>%03d", n)`**, the family of router (`r`) and interface
(`i`) codes. -/
def codeText (tag : Char) (n : Nat) : List Char :=
  (tag :: zeroPad 3 (decimal n)).take (maxCodeLen - 1)

/-- **`snprintf(router_code, MAX_CODE_LEN, "r%03d", n)`** in `get_router_code_shm`. -/
def routerCodeText (n : Nat) : List Char := codeText 'r' n

/-- **`snprintf(interface_code, MAX_CODE_LEN, "i%03d", n)`** in `get_interface_code_shm`. -/
def interfaceCodeText (n : Nat) : List Char := codeText 'i' n

/-- Below `10 ^ 6` the code fits `MAX_CODE_LEN` and nothing is cut. -/
theorem codeText_eq {tag : Char} {n : Nat} (h : n < 10 ^ 6) :
    codeText tag n = tag :: zeroPad 3 (decimal n) := by
  have := decimal_length_le (by norm_num) h
  rw [codeText, List.take_of_length_le]
  simp [zeroPad_length, maxCodeLen]; omega

/-- **Codes are injective**: `atoi` of the digits after the tag gives the number back. -/
theorem codeText_injective {tag : Char} {n m : Nat} (hn : n < 10 ^ 6) (hm : m < 10 ^ 6)
    (h : codeText tag n = codeText tag m) : n = m := by
  rw [codeText_eq hn, codeText_eq hm, List.cons.injEq] at h
  rw [← digitsValue_zeroPad 3 n, h.2, digitsValue_zeroPad]

theorem codeText_length_le (tag : Char) (n : Nat) : (codeText tag n).length ≤ maxCodeLen - 1 := by
  simp [codeText]

/-- **`atoi(&router_code[1])`** recovers the router slot from its code. -/
theorem atoi_zeroPad_decimal {n : Nat} (h : n < 2 ^ 31) : atoi (zeroPad 3 (decimal n)) = n := by
  have := @atoi_digits_append _ [] (zeroPad_isDigit 3 n) (by simp [zeroPad, decimal_ne_nil])
    (by simp) (by rwa [digitsValue_zeroPad])
  simpa [digitsValue_zeroPad] using this

end TracerouteSimulator.Registry
