import TracerouteSimulator.Registry.Invariant

/-! # The shared registry: stable and distinct codes within a session

Between two clears the registry hands out each router name one code for good, and different names
different codes; the same holds for the interface names of one router code. The veth names that
`setup_router_with_veth` builds from a router code and an interface code are therefore distinct
for distinct (router, interface) pairs.

* **`Extends s t`** — `t` keeps every entry of `s`; one session step keeps it
  (`sessionStep_extends`), hence any stretch of a session (`sessionReach_extends`).
* **`RouterCodeReturned t name code`** — a call of `get_router_code_shm` returned `code` for
  `name` at some point of the session that leads to `t`; `InterfaceCodeReturned` likewise.
* **`registry_codes_session`** — equal codes exactly for equal names
  (`RouterCodeReturned.eq_iff`, `InterfaceCodeReturned.eq_iff`), `NULL` only at capacity
  (`getRouterCodeShm_eq_none_iff`, `getInterfaceCodeShm_eq_none_iff`), and distinct veth names
  (`vethName_returned_eq_iff`). -/

namespace TracerouteSimulator.Registry

/-! ## (1) Entries kept along a session -/

/-- Router slot `i` of `s` is active and holds `name`. -/
def HoldsRouter (s : ShmRegistry) (i : Nat) (name : List Char) : Prop :=
  i < s.routerCount ∧ (s.routers i).routerName = name

/-- Position `j` of the interface block of router slot `r` is active and holds `name`. -/
def HoldsInterface (s : ShmRegistry) (r j : Nat) (name : List Char) : Prop :=
  j < s.nextInterfaceCodes r ∧ (s.interfaces (r * maxInterfacesPerRouter + j)).interfaceName = name

/-- **`t` keeps every entry of `s`**: the counters only grow and the entries below them are
unchanged. -/
structure Extends (s t : ShmRegistry) : Prop where
  routerCount_le : s.routerCount ≤ t.routerCount
  routers_eq : ∀ i < s.routerCount, t.routers i = s.routers i
  next_le : ∀ r, s.nextInterfaceCodes r ≤ t.nextInterfaceCodes r
  interfaces_eq : ∀ r, ∀ j < s.nextInterfaceCodes r,
    t.interfaces (r * maxInterfacesPerRouter + j) = s.interfaces (r * maxInterfacesPerRouter + j)

theorem Extends.refl (s : ShmRegistry) : Extends s s :=
  ⟨le_rfl, fun _ _ => rfl, fun _ => le_rfl, fun _ _ _ => rfl⟩

theorem Extends.trans {s t u : ShmRegistry} (h₁ : Extends s t) (h₂ : Extends t u) : Extends s u :=
  ⟨h₁.routerCount_le.trans h₂.routerCount_le,
    fun i hi => (h₂.routers_eq i (lt_of_lt_of_le hi h₁.routerCount_le)).trans (h₁.routers_eq i hi),
    fun r => (h₁.next_le r).trans (h₂.next_le r),
    fun r j hj => (h₂.interfaces_eq r j (lt_of_lt_of_le hj (h₁.next_le r))).trans
      (h₁.interfaces_eq r j hj)⟩

theorem Extends.holdsRouter {s t : ShmRegistry} {i : Nat} {name : List Char} (h : Extends s t)
    (hh : HoldsRouter s i name) : HoldsRouter t i name :=
  ⟨lt_of_lt_of_le hh.1 h.routerCount_le, by rw [h.routers_eq i hh.1]; exact hh.2⟩

theorem Extends.holdsInterface {s t : ShmRegistry} {r j : Nat} {name : List Char}
    (h : Extends s t) (hh : HoldsInterface s r j name) : HoldsInterface t r j name :=
  ⟨lt_of_lt_of_le hh.1 (h.next_le r), by rw [h.interfaces_eq r j hh.1]; exact hh.2⟩

/-- A step that leaves the router and interface tables as they are. -/
theorem Extends.of_eq {s t : ShmRegistry} (h₁ : t.routers = s.routers)
    (h₂ : t.routerCount = s.routerCount) (h₃ : t.interfaces = s.interfaces)
    (h₄ : t.nextInterfaceCodes = s.nextInterfaceCodes) : Extends s t :=
  ⟨h₂.ge, fun i _ => by rw [h₁], fun r => by rw [h₄], fun r j _ => by rw [h₃]⟩

/-- **One session step keeps every entry.** -/
theorem sessionStep_extends {s t : ShmRegistry} (hr : RouterTableInv s)
    (hf : InterfaceTableInv s) (h : SessionStep RegistryOp.NamesFit s t) : Extends s t := by
  obtain ⟨op, hok, hne, rfl⟩ := h
  cases op with
  | getRouterCode name =>
    obtain ⟨i, -, -, he⟩ | ⟨-, -, he⟩ | ⟨-, hc, he⟩ := getRouterCodeShm_cases hr name
    · simp only [RegistryOp.apply, he]; exact Extends.refl s
    · simp only [RegistryOp.apply, he]; exact Extends.refl s
    · simp only [RegistryOp.apply, he]
      refine ⟨by simp [ShmRegistry.claimRouterSlot], fun i hi => ?_, fun r => le_rfl,
        fun r j _ => rfl⟩
      simp [ShmRegistry.claimRouterSlot, Function.update_noteq (Nat.ne_of_lt hi)]
  | getInterfaceCode code name =>
    obtain ⟨⟨r, hr', rfl⟩, -⟩ := hok
    obtain ⟨j, -, -, he⟩ | ⟨-, -, he⟩ | ⟨-, hc, he⟩ :=
      getInterfaceCodeShm_cases hf hr' name
    · simp only [RegistryOp.apply, he]; exact Extends.refl s
    · simp only [RegistryOp.apply, he]; exact Extends.refl s
    · simp only [RegistryOp.apply, he]
      refine ⟨le_rfl, fun i _ => rfl, fun r' => ?_, fun r' j hj => ?_⟩
      · by_cases h : r' = r
        · subst h; simp [ShmRegistry.claimInterfaceSlot]
        · simp [ShmRegistry.claimInterfaceSlot, Function.update_noteq h]
      · have hj' : j < maxInterfacesPerRouter := lt_of_lt_of_le hj (hf.next_le r')
        simp only [ShmRegistry.claimInterfaceSlot]
        rw [Function.update_noteq]
        intro heq
        obtain ⟨rfl, rfl⟩ := block_index_eq hc hj' heq
        exact Nat.lt_irrefl _ hj
  | registerBridge bridgeName subnet =>
    obtain ⟨bridges, count, he⟩ := registerBridgeShm_eq s bridgeName subnet
    simp only [RegistryOp.apply, he]
    exact Extends.of_eq rfl rfl rfl rfl
  | setCreated slot => exact Extends.of_eq rfl rfl rfl rfl
  | clear => exact absurd rfl hne

/-- **A stretch of a session keeps every entry.** -/
theorem sessionReach_extends {s t : ShmRegistry} (hs : Reachable RegistryOp.NamesFit s)
    (h : SessionReach RegistryOp.NamesFit s t) : Extends s t := by
  induction h with
  | refl => exact Extends.refl s
  | tail hst hstep ih =>
    have hinv := namesInv_of_reachable (hs.of_sessionReach hst)
    exact ih.trans (sessionStep_extends hinv.1 hinv.2 hstep)

/-! ## (2) What a call returns -/

/-- **A successful `get_router_code_shm`** returns the code of a slot that holds the name
afterwards. -/
theorem getRouterCodeShm_returns {u : ShmRegistry} {name code : List Char}
    (hi : RouterTableInv u) (hn : name.length < maxNameLen)
    (h : (getRouterCodeShm u name).2 = some code) :
    ∃ i < maxRouters, code = routerCodeText i ∧ HoldsRouter (getRouterCodeShm u name).1 i name := by
  obtain ⟨i, hi', hname, he⟩ | ⟨-, -, he⟩ | ⟨-, hc, he⟩ := getRouterCodeShm_cases hi name
  · rw [he] at h ⊢
    exact ⟨i, lt_of_lt_of_le hi' hi.count_le, (Option.some.inj h).symm, hi', hname⟩
  · rw [he] at h; exact absurd h (by simp)
  · rw [he] at h ⊢
    refine ⟨u.routerCount, hc, (Option.some.inj h).symm, by simp [ShmRegistry.claimRouterSlot],
      ?_⟩
    simp only [ShmRegistry.claimRouterSlot, Function.update_same]
    exact take_of_length_lt (by unfold maxNameLen at *; omega)

/-- **A successful `get_interface_code_shm`** for the code of router slot `r` returns the code of a
position that holds the name afterwards. -/
theorem getInterfaceCodeShm_returns {u : ShmRegistry} {r : Nat} {name code : List Char}
    (hi : InterfaceTableInv u) (hr : r < maxRouters) (hn : name.length < maxNameLen)
    (h : (getInterfaceCodeShm u (routerCodeText r) name).2 = some code) :
    ∃ j < maxInterfacesPerRouter, code = interfaceCodeText j ∧
      HoldsInterface (getInterfaceCodeShm u (routerCodeText r) name).1 r j name := by
  obtain ⟨j, hj, hname, he⟩ | ⟨-, -, he⟩ | ⟨-, hc, he⟩ :=
    getInterfaceCodeShm_cases hi hr name
  · rw [he] at h ⊢
    exact ⟨j, lt_of_lt_of_le hj (hi.next_le r), (Option.some.inj h).symm, hj, hname⟩
  · rw [he] at h; exact absurd h (by simp)
  · rw [he] at h ⊢
    refine ⟨u.nextInterfaceCodes r, hc, (Option.some.inj h).symm,
      by simp [ShmRegistry.claimInterfaceSlot], ?_⟩
    simp only [ShmRegistry.claimInterfaceSlot, Function.update_same]
    exact take_of_length_lt (by unfold maxNameLen at *; omega)

/-- **`get_router_code_shm` returned `code` for `name`** at a reachable point `u` of the session that
leads to `t`. -/
def RouterCodeReturned (t : ShmRegistry) (name code : List Char) : Prop :=
  ∃ u, Reachable RegistryOp.NamesFit u ∧ (getRouterCodeShm u name).2 = some code ∧
    SessionReach RegistryOp.NamesFit (getRouterCodeShm u name).1 t

/-- **`get_interface_code_shm` returned `code` for `(routerCode, name)`** at a reachable point `u`
of the session that leads to `t`. -/
def InterfaceCodeReturned (t : ShmRegistry) (routerCode name code : List Char) : Prop :=
  ∃ u, Reachable RegistryOp.NamesFit u ∧ (getInterfaceCodeShm u routerCode name).2 = some code ∧
    SessionReach RegistryOp.NamesFit (getInterfaceCodeShm u routerCode name).1 t

/-- A router code returned during the session is the code of a slot that holds the name at `t`. -/
theorem RouterCodeReturned.holds {t : ShmRegistry} {name code : List Char}
    (hn : name.length < maxNameLen) (h : RouterCodeReturned t name code) :
    Reachable RegistryOp.NamesFit t ∧
      ∃ i < maxRouters, code = routerCodeText i ∧ HoldsRouter t i name := by
  obtain ⟨u, hu, hc, hs⟩ := h
  have hu' : Reachable RegistryOp.NamesFit (getRouterCodeShm u name).1 :=
    .step (.getRouterCode name) hu hn
  obtain ⟨i, hi, rfl, hh⟩ := getRouterCodeShm_returns (namesInv_of_reachable hu).1 hn hc
  exact ⟨hu'.of_sessionReach hs, i, hi, rfl, (sessionReach_extends hu' hs).holdsRouter hh⟩

/-- An interface code returned during the session for the code of router slot `r` is the code of
a position of block `r` that holds the name at `t`. -/
theorem InterfaceCodeReturned.holds {t : ShmRegistry} {r : Nat} {name code : List Char}
    (hr : r < maxRouters) (hn : name.length < maxNameLen)
    (h : InterfaceCodeReturned t (routerCodeText r) name code) :
    Reachable RegistryOp.NamesFit t ∧
      ∃ j < maxInterfacesPerRouter, code = interfaceCodeText j ∧ HoldsInterface t r j name := by
  obtain ⟨u, hu, hc, hs⟩ := h
  have hu' : Reachable RegistryOp.NamesFit (getInterfaceCodeShm u (routerCodeText r) name).1 :=
    .step (.getInterfaceCode _ name) hu ⟨⟨r, hr, rfl⟩, hn⟩
  obtain ⟨j, hj, rfl, hh⟩ := getInterfaceCodeShm_returns (namesInv_of_reachable hu).2 hr hn hc
  exact ⟨hu'.of_sessionReach hs, j, hj, rfl, (sessionReach_extends hu' hs).holdsInterface hh⟩

/-! ## (3) Veth names -/

/-- **`snprintf(veth, 16, "%s%sr", router_code, iface_code)`** (and `...h`) in
`setup_router_with_veth`: router code, interface code and the end's letter, cut to 15
characters. -/
def vethName (routerCode ifaceCode : List Char) (suffix : Char) : List Char :=
  (routerCode ++ ifaceCode ++ [suffix]).take 15

theorem interfaceCodeText_eq {j : Nat} (hj : j < maxInterfacesPerRouter) :
    interfaceCodeText j = 'i' :: zeroPad 3 (decimal j) :=
  codeText_eq (by unfold maxInterfacesPerRouter at hj; omega)

/-- A digit string followed by `i` splits uniquely. -/
theorem digits_append_i_inj {x x' y y' : List Char} (hx : ∀ c ∈ x, c.isDigit)
    (hx' : ∀ c ∈ x', c.isDigit) (h : x ++ 'i' :: y = x' ++ 'i' :: y') : x = x' ∧ y = y' := by
  have ht : ∀ {x y : List Char}, (∀ c ∈ x, c.isDigit) →
      (x ++ 'i' :: y).takeWhile Char.isDigit = x := fun hx => by
    rw [List.takeWhile_append_of_pos hx]; simp [List.takeWhile_cons]
  have hxx : x = x' := by rw [← ht (y := y) hx, h, ht hx']
  subst hxx
  exact ⟨rfl, (List.cons.inj (List.append_cancel_left h)).2⟩

/-- **Veth names are injective** in the router slot, the interface position and the end. -/
theorem vethName_inj {a a' j j' : Nat} {e e' : Char} (ha : a < maxRouters) (ha' : a' < maxRouters)
    (hj : j < maxInterfacesPerRouter) (hj' : j' < maxInterfacesPerRouter)
    (h : vethName (routerCodeText a) (interfaceCodeText j) e =
      vethName (routerCodeText a') (interfaceCodeText j') e') : a = a' ∧ j = j' ∧ e = e' := by
  have hlen : ∀ {b k : Nat}, b < maxRouters → k < maxInterfacesPerRouter →
      (routerCodeText b ++ interfaceCodeText k ++ [e]).length ≤ 15 ∧
      (routerCodeText b ++ interfaceCodeText k ++ [e']).length ≤ 15 := fun {b k} hb hk => by
    have h₁ := decimal_length_le (n := b) (k := 4) (by norm_num)
      (show b < 10 ^ 4 by unfold maxRouters at hb; omega)
    have h₂ := decimal_length_le (n := k) (k := 2) (by norm_num)
      (show k < 10 ^ 2 by unfold maxInterfacesPerRouter at hk; omega)
    simp only [routerCodeText_eq hb, interfaceCodeText_eq hk, List.length_append,
      List.length_cons, zeroPad_length, List.length_singleton, List.length_nil]
    omega
  rw [vethName, vethName, List.take_of_length_le (hlen ha hj).1,
    List.take_of_length_le (hlen ha' hj').2, routerCodeText_eq ha, routerCodeText_eq ha',
    interfaceCodeText_eq hj, interfaceCodeText_eq hj'] at h
  simp only [List.cons_append, List.append_assoc, List.cons.injEq, true_and] at h
  obtain ⟨h₁, h₂⟩ := digits_append_i_inj (zeroPad_isDigit 3 a) (zeroPad_isDigit 3 a') h
  have hpj : (zeroPad 3 (decimal j)).length = (zeroPad 3 (decimal j')).length := by
    have := decimal_length_le (n := j) (k := 3) (by norm_num)
      (show j < 10 ^ 3 by unfold maxInterfacesPerRouter at hj; omega)
    have := decimal_length_le (n := j') (k := 3) (by norm_num)
      (show j' < 10 ^ 3 by unfold maxInterfacesPerRouter at hj'; omega)
    simp only [zeroPad_length]; omega
  obtain ⟨h₃, h₄⟩ := List.append_inj h₂ hpj
  refine ⟨?_, ?_, by simpa using h₄⟩
  · rw [← digitsValue_zeroPad 3 a, h₁, digitsValue_zeroPad]
  · rw [← digitsValue_zeroPad 3 j, h₃, digitsValue_zeroPad]

/-! ## (4) The session theorem -/

section
variable {t : ShmRegistry}

/-- Two active router slots of a reachable state hold one name exactly when they are one slot. -/
theorem HoldsRouter.eq_iff {i₁ i₂ : Nat} {n₁ n₂ : List Char} (ht : Reachable RegistryOp.NamesFit t)
    (h₁ : HoldsRouter t i₁ n₁) (h₂ : HoldsRouter t i₂ n₂) : i₁ = i₂ ↔ n₁ = n₂ :=
  ⟨fun he => by subst he; exact h₁.2.symm.trans h₂.2, fun he =>
    (namesInv_of_reachable ht).1.name_inj i₁ h₁.1 i₂ h₂.1 (h₁.2.trans (he.trans h₂.2.symm))⟩

/-- Two active positions of one interface block hold one name exactly when they are one
position. -/
theorem HoldsInterface.eq_iff {r j₁ j₂ : Nat} {m₁ m₂ : List Char}
    (ht : Reachable RegistryOp.NamesFit t) (h₁ : HoldsInterface t r j₁ m₁)
    (h₂ : HoldsInterface t r j₂ m₂) : j₁ = j₂ ↔ m₁ = m₂ :=
  ⟨fun he => by subst he; exact h₁.2.symm.trans h₂.2, fun he =>
    (namesInv_of_reachable ht).2.name_inj r j₁ h₁.1 j₂ h₂.1 (h₁.2.trans (he.trans h₂.2.symm))⟩

theorem RouterCodeReturned.eq_iff {n₁ n₂ c₁ c₂ : List Char} (hn₁ : n₁.length < maxNameLen)
    (hn₂ : n₂.length < maxNameLen) (h₁ : RouterCodeReturned t n₁ c₁)
    (h₂ : RouterCodeReturned t n₂ c₂) : c₁ = c₂ ↔ n₁ = n₂ := by
  obtain ⟨ht, i₁, hi₁, rfl, hh₁⟩ := h₁.holds hn₁
  obtain ⟨-, i₂, hi₂, rfl, hh₂⟩ := h₂.holds hn₂
  rw [← hh₁.eq_iff ht hh₂]
  exact ⟨routerCodeText_injective hi₁ hi₂, congrArg _⟩

theorem InterfaceCodeReturned.eq_iff {r : Nat} {m₁ m₂ d₁ d₂ : List Char} (hr : r < maxRouters)
    (hm₁ : m₁.length < maxNameLen) (hm₂ : m₂.length < maxNameLen)
    (h₁ : InterfaceCodeReturned t (routerCodeText r) m₁ d₁)
    (h₂ : InterfaceCodeReturned t (routerCodeText r) m₂ d₂) : d₁ = d₂ ↔ m₁ = m₂ := by
  obtain ⟨ht, j₁, hj₁, rfl, hh₁⟩ := h₁.holds hr hm₁
  obtain ⟨-, j₂, hj₂, rfl, hh₂⟩ := h₂.holds hr hm₂
  rw [← hh₁.eq_iff ht hh₂]
  exact ⟨codeText_injective (by unfold maxInterfacesPerRouter at hj₁; omega)
    (by unfold maxInterfacesPerRouter at hj₂; omega), congrArg _⟩

/-- Veth names built from returned codes are equal exactly when the routers, the interfaces and
the ends are. -/
theorem vethName_returned_eq_iff {n₁ n₂ m₁ m₂ c₁ c₂ d₁ d₂ : List Char} {e₁ e₂ : Char}
    (hn₁ : n₁.length < maxNameLen) (hn₂ : n₂.length < maxNameLen)
    (hm₁ : m₁.length < maxNameLen) (hm₂ : m₂.length < maxNameLen)
    (hr₁ : RouterCodeReturned t n₁ c₁) (hf₁ : InterfaceCodeReturned t c₁ m₁ d₁)
    (hr₂ : RouterCodeReturned t n₂ c₂) (hf₂ : InterfaceCodeReturned t c₂ m₂ d₂) :
    vethName c₁ d₁ e₁ = vethName c₂ d₂ e₂ ↔ n₁ = n₂ ∧ m₁ = m₂ ∧ e₁ = e₂ := by
  obtain ⟨ht, a₁, ha₁, rfl, hh₁⟩ := hr₁.holds hn₁
  obtain ⟨-, a₂, ha₂, rfl, hh₂⟩ := hr₂.holds hn₂
  obtain ⟨-, j₁, hj₁, rfl, hk₁⟩ := hf₁.holds ha₁ hm₁
  obtain ⟨-, j₂, hj₂, rfl, hk₂⟩ := hf₂.holds ha₂ hm₂
  constructor
  · intro h
    obtain ⟨rfl, rfl, rfl⟩ := vethName_inj ha₁ ha₂ hj₁ hj₂ h
    exact ⟨(hh₁.eq_iff ht hh₂).mp rfl, (hk₁.eq_iff ht hk₂).mp rfl, rfl⟩
  · rintro ⟨rfl, rfl, rfl⟩
    obtain rfl := (hh₁.eq_iff ht hh₂).mpr rfl
    obtain rfl := (hk₁.eq_iff ht hk₂).mpr rfl
    rfl

end

/-- `get_router_code_shm` returns `NULL` exactly when the name is new and the table is full. -/
theorem getRouterCodeShm_eq_none_iff {reg : ShmRegistry} (hreg : Reachable RegistryOp.NamesFit reg)
    (n : List Char) : (getRouterCodeShm reg n).2 = none ↔
      (∀ i < reg.routerCount, (reg.routers i).routerName ≠ n) ∧ reg.routerCount = maxRouters := by
  obtain ⟨i, hi, hname, he⟩ | ⟨hfresh, hfull, he⟩ | ⟨hfresh, hc, he⟩ :=
    getRouterCodeShm_cases (namesInv_of_reachable hreg).1 n
  · rw [he]; simp only [reduceCtorEq, false_iff, not_and]
    exact fun h => absurd hname (h i hi)
  · rw [he]; exact ⟨fun _ => ⟨hfresh, hfull⟩, fun _ => rfl⟩
  · rw [he]; simp only [reduceCtorEq, false_iff, not_and]; omega

/-- `get_interface_code_shm` returns `NULL` exactly when the interface is new and the router's
block is full. -/
theorem getInterfaceCodeShm_eq_none_iff {reg : ShmRegistry} {r : Nat}
    (hreg : Reachable RegistryOp.NamesFit reg) (hr : r < maxRouters) (m : List Char) :
    (getInterfaceCodeShm reg (routerCodeText r) m).2 = none ↔
      (∀ j < reg.nextInterfaceCodes r,
        (reg.interfaces (r * maxInterfacesPerRouter + j)).interfaceName ≠ m) ∧
        reg.nextInterfaceCodes r = maxInterfacesPerRouter := by
  obtain ⟨j, hj, hname, he⟩ | ⟨hfresh, hfull, he⟩ | ⟨hfresh, hc, he⟩ :=
    getInterfaceCodeShm_cases (namesInv_of_reachable hreg).2 hr m
  · rw [he]; simp only [reduceCtorEq, false_iff, not_and]
    exact fun h => absurd hname (h j hj)
  · rw [he]; exact ⟨fun _ => ⟨hfresh, hfull⟩, fun _ => rfl⟩
  · rw [he]; simp only [reduceCtorEq, false_iff, not_and]; omega

/-- **Codes within a session.** For names shorter than `MAX_NAME_LEN`, in any session that starts
from a reachable state (the registry freshly cleared, then any operations):
* two codes `get_router_code_shm` returned are equal exactly when the names are;
* it returns `NULL` only when the name is new and all `MAX_ROUTERS` slots are taken;
* for a fixed router code, two interface codes are equal exactly when the interface names are;
* it returns `NULL` only when the interface is new and the router's block of
  `MAX_INTERFACES_PER_ROUTER` entries is full;
* the veth names built from a returned router code and an interface code returned for it are equal
  exactly when the routers, the interfaces and the ends are. -/
theorem registry_codes_session :
    (∀ (t : ShmRegistry) (n₁ n₂ c₁ c₂ : List Char), n₁.length < maxNameLen →
      n₂.length < maxNameLen → RouterCodeReturned t n₁ c₁ → RouterCodeReturned t n₂ c₂ →
      (c₁ = c₂ ↔ n₁ = n₂)) ∧
    (∀ (reg : ShmRegistry) (n : List Char), Reachable RegistryOp.NamesFit reg →
      n.length < maxNameLen →
      ((getRouterCodeShm reg n).2 = none ↔
        (∀ i < reg.routerCount, (reg.routers i).routerName ≠ n) ∧
          reg.routerCount = maxRouters)) ∧
    (∀ (t : ShmRegistry) (r : Nat) (m₁ m₂ d₁ d₂ : List Char), r < maxRouters →
      m₁.length < maxNameLen → m₂.length < maxNameLen →
      InterfaceCodeReturned t (routerCodeText r) m₁ d₁ →
      InterfaceCodeReturned t (routerCodeText r) m₂ d₂ → (d₁ = d₂ ↔ m₁ = m₂)) ∧
    (∀ (reg : ShmRegistry) (r : Nat) (m : List Char), Reachable RegistryOp.NamesFit reg →
      r < maxRouters → m.length < maxNameLen →
      ((getInterfaceCodeShm reg (routerCodeText r) m).2 = none ↔
        (∀ j < reg.nextInterfaceCodes r,
          (reg.interfaces (r * maxInterfacesPerRouter + j)).interfaceName ≠ m) ∧
          reg.nextInterfaceCodes r = maxInterfacesPerRouter)) ∧
    (∀ (t : ShmRegistry) (n₁ n₂ m₁ m₂ c₁ c₂ d₁ d₂ : List Char) (e₁ e₂ : Char),
      n₁.length < maxNameLen → n₂.length < maxNameLen →
      m₁.length < maxNameLen → m₂.length < maxNameLen →
      RouterCodeReturned t n₁ c₁ → InterfaceCodeReturned t c₁ m₁ d₁ →
      RouterCodeReturned t n₂ c₂ → InterfaceCodeReturned t c₂ m₂ d₂ →
      (vethName c₁ d₁ e₁ = vethName c₂ d₂ e₂ ↔ n₁ = n₂ ∧ m₁ = m₂ ∧ e₁ = e₂)) :=
  ⟨fun _ _ _ _ _ hn₁ hn₂ h₁ h₂ => h₁.eq_iff hn₁ hn₂ h₂,
    fun _ n hreg _ => getRouterCodeShm_eq_none_iff hreg n,
    fun _ _ _ _ _ _ hr hm₁ hm₂ h₁ h₂ => h₁.eq_iff hr hm₁ hm₂ h₂,
    fun _ _ m hreg hr _ => getInterfaceCodeShm_eq_none_iff hreg hr m,
    fun _ _ _ _ _ _ _ _ _ _ _ hn₁ hn₂ hm₁ hm₂ hr₁ hf₁ hr₂ hf₂ =>
      vethName_returned_eq_iff hn₁ hn₂ hm₁ hm₂ hr₁ hf₁ hr₂ hf₂⟩

/-- **Two routers of one session**: the codes handed to `r1` and then to `r2` are `r000` and `r001`,
and they differ because the names do. -/
theorem registry_codes_session_two_routers :
    RouterCodeReturned (getRouterCodeShm (getRouterCodeShm cleared "r1".toList).1 "r2".toList).1
        "r1".toList (routerCodeText 0) ∧
      RouterCodeReturned (getRouterCodeShm (getRouterCodeShm cleared "r1".toList).1 "r2".toList).1
        "r2".toList (routerCodeText 1) ∧
      routerCodeText 0 ≠ routerCodeText 1 := by
  have h₁ : RouterCodeReturned (getRouterCodeShm (getRouterCodeShm cleared "r1".toList).1
      "r2".toList).1 "r1".toList (routerCodeText 0) :=
    ⟨cleared, .cleared, by decide,
      .single ⟨.getRouterCode "r2".toList, (by decide : "r2".length < maxNameLen), nofun, rfl⟩⟩
  have h₂ : RouterCodeReturned (getRouterCodeShm (getRouterCodeShm cleared "r1".toList).1
      "r2".toList).1 "r2".toList (routerCodeText 1) :=
    ⟨_, .step (.getRouterCode "r1".toList) .cleared (by decide : "r1".length < maxNameLen), by decide, .refl⟩
  refine ⟨h₁, h₂, fun he => ?_⟩
  have := (registry_codes_session.1 _ _ _ _ _ (by decide) (by decide) h₁ h₂).mp he
  exact absurd this (by decide)

end TracerouteSimulator.Registry
