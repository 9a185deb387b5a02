import TracerouteSimulator.CString
import Mathlib.Data.Nat.Bitwise

/-! # Subnets and bridge names

Both phases of `hidden_mesh_setup.c` turn an interface address `ip/prefix` into a subnet text, and
`generate_bridge_name` turns a subnet text into the name of the bridge of that subnet.

* **`inetPton4`** — the loop of glibc's `inet_pton(AF_INET, ...)`: four decimal octets of at most
  255 without leading zeros; the address is kept as a 32-bit number in host order.
* **`subnetOf ip`** — `snprintf(subnet, 32, "%s/%u", inet_ntoa(addr & mask), prefix)` with
  `subnetMask prefix`, the 32-bit `0xFFFFFFFF << (32 - prefix)`.
* **`generateBridgeName subnet now`** — `sscanf(subnet, "%u.%u.%u.%u/%u")` printed back as
  `"b%03u%03u%03u%03u%02u"` into 16 bytes, with the `time(NULL)` fallback `now`.

For prefixes `1` to `32` the mask clears exactly the host bits (`land_subnetMask`); at prefix `0`
the shift count is `32`, and the x86 shift keeps every bit (`land_subnetMask_zero`). Subnet texts
read back through `sscanf` (`scanSubnet_subnetText`), so bridge names of subnets with prefixes below
`100` are injective (`generateBridgeName_injective`). -/

namespace TracerouteSimulator.Mesh

/-! ## (1) `inet_pton` and `inet_ntoa` -/

/-- **The loop of glibc's `inet_pton4`**: `saw` is `saw_digit`, `octets` counts the octets begun,
`done` holds the finished octets and `cur` is the octet being read (`*tp`). -/
def inetPton4Loop : List Char → Bool → Nat → List Nat → Nat → Option (List Nat)
  | [], _, octets, done, cur => if octets < 4 then none else some (done ++ [cur])
  | ch :: rest, saw, octets, done, cur =>
    if ch.isDigit then
      let new := cur * 10 + (ch.toNat - '0'.toNat)
      if saw && cur == 0 then none
      else if 255 < new then none
      else if saw then inetPton4Loop rest true octets done new
      else if 4 < octets + 1 then none
      else inetPton4Loop rest true (octets + 1) done new
    else if ch == '.' && saw then
      if octets == 4 then none else inetPton4Loop rest false octets (done ++ [cur]) 0
    else none

/-- The 32-bit address, in host order, of four octets. -/
def octetsValue (o₁ o₂ o₃ o₄ : Nat) : Nat := ((o₁ * 256 + o₂) * 256 + o₃) * 256 + o₄

/-- **`inet_pton(AF_INET, src, &addr) == 1`**, with the address in host order. -/
def inetPton4 (src : List Char) : Option Nat :=
  match inetPton4Loop src false 0 [] 0 with
  | some [o₁, o₂, o₃, o₄] => some (octetsValue o₁ o₂ o₃ o₄)
  | _ => none

/-- Octet `i`, from the left, of a 32-bit address. -/
def octet (m i : Nat) : Nat := m / 256 ^ (3 - i) % 256

/-- **`inet_ntoa(addr)`**: `"%d.%d.%d.%d"` of the four bytes in network order. -/
def inetNtoa (m : Nat) : List Char :=
  decimal (octet m 0) ++ '.' :: decimal (octet m 1) ++ '.' :: decimal (octet m 2) ++ '.' ::
    decimal (octet m 3)

theorem octet_lt (m i : Nat) : octet m i < 256 := Nat.mod_lt _ (by norm_num)

/-- **A 32-bit address is its four octets.** -/
theorem octetsValue_octet {m : Nat} (hm : m < 2 ^ 32) :
    octetsValue (octet m 0) (octet m 1) (octet m 2) (octet m 3) = m := by
  simp only [octetsValue, octet]; omega

theorem decimal_octet_length_le (m i : Nat) : (decimal (octet m i)).length ≤ 3 :=
  decimal_length_le (by norm_num) (by have := octet_lt m i; norm_num; omega)

theorem inetNtoa_length_le (m : Nat) : (inetNtoa m).length ≤ 15 := by
  have h₀ := decimal_octet_length_le m 0
  have h₁ := decimal_octet_length_le m 1
  have h₂ := decimal_octet_length_le m 2
  have h₃ := decimal_octet_length_le m 3
  simp only [inetNtoa, List.length_append, List.length_cons]; omega

/-! ## (2) The subnet of an address -/

/-- **`0xFFFFFFFF << (32 - prefix)`** in 32-bit `unsigned int` arithmetic: `32 - prefix` wraps
modulo `2 ^ 32`, and the shift count is taken modulo 32 as x86's `shl` takes it; C leaves the count
`32` of `prefix = 0` undefined. -/
def subnetMask (pfx : Nat) : Nat := (0xFFFFFFFF <<< ((2 ^ 32 + 32 - pfx) % 2 ^ 32 % 32)) % 2 ^ 32

/-- **`strncpy(ip_copy, ip, 63)`, `strchr(ip_copy, '/')` and `atoi(slash + 1)`**: the address text
before the first slash and the prefix as an `unsigned int`, `24` without a slash. `ip_copy[63]` is
taken as the terminator: the parser stores no address longer than `MAX_IP_LEN - 1` characters. -/
def splitCidr (ip : List Char) : List Char × Nat :=
  match (ip.take 63).span (fun c => c != '/') with
  | (addr, []) => (addr, 24)
  | (addr, _ :: rest) => (addr, (atoi rest % 2 ^ 32).toNat)

/-- **The subnet text of an address**, as `create_hidden_infrastructure` and
`setup_router_with_veth` both compute it; `none` when `inet_pton` rejects the address. -/
def subnetOf (ip : List Char) : Option (List Char) :=
  match splitCidr ip with
  | (addrText, pfx) => (inetPton4 addrText).map fun a =>
      (inetNtoa (a &&& subnetMask pfx) ++ '/' :: decimal pfx).take 31

/-- **The network address**: `a` with its `32 - p` host bits cleared. -/
def clearHostBits (a p : Nat) : Nat := a / 2 ^ (32 - p) * 2 ^ (32 - p)

theorem subnetMask_lt (pfx : Nat) : subnetMask pfx < 2 ^ 32 := Nat.mod_lt _ (by norm_num)

/-- For prefixes `1` to `32` the mask is `p` one bits followed by `32 - p` zero bits. -/
theorem subnetMask_eq {p : Nat} (h₁ : 1 ≤ p) (h₂ : p ≤ 32) :
    subnetMask p = (2 ^ p - 1) <<< (32 - p) := by
  have hk : (2 ^ 32 + 32 - p) % 2 ^ 32 % 32 = 32 - p := by omega
  rw [subnetMask, hk]
  apply Nat.eq_of_testBit_eq
  intro i
  simp only [Nat.testBit_mod_two_pow, Nat.testBit_shiftLeft, show (0xFFFFFFFF : Nat) = 2 ^ 32 - 1
    from rfl, Nat.testBit_two_pow_sub_one]
  by_cases hi : 32 - p ≤ i <;> by_cases hi' : i < 32 <;> simp [hi, hi'] <;> omega

/-- **The mask clears the host bits** for prefixes `1` to `32`. -/
theorem land_subnetMask {a p : Nat} (ha : a < 2 ^ 32) (h₁ : 1 ≤ p) (h₂ : p ≤ 32) :
    a &&& subnetMask p = clearHostBits a p := by
  rw [subnetMask_eq h₁ h₂, clearHostBits, ← Nat.shiftRight_eq_div_pow, ← Nat.shiftLeft_eq]
  apply Nat.eq_of_testBit_eq
  intro i
  simp only [Nat.testBit_and, Nat.testBit_shiftLeft, Nat.testBit_shiftRight,
    Nat.testBit_two_pow_sub_one]
  by_cases hi : 32 - p ≤ i
  · by_cases hi' : i < 32
    · simp [hi, show i - (32 - p) < p by omega, show 32 - p + (i - (32 - p)) = i by omega]
    · have : a.testBit i = false := Nat.testBit_lt_two_pow (lt_of_lt_of_le ha
        (Nat.pow_le_pow_right (by norm_num) (by omega)))
      simp [this, show 32 - p + (i - (32 - p)) = i by omega]
  · simp [hi]

/-- **At prefix `0` the mask keeps every bit**: the shift by `32` leaves `0xFFFFFFFF`. -/
theorem land_subnetMask_zero {a : Nat} (ha : a < 2 ^ 32) : a &&& subnetMask 0 = a := by
  have : subnetMask 0 = 2 ^ 32 - 1 := by decide
  rw [this, Nat.and_pow_two_sub_one_eq_mod, Nat.mod_eq_of_lt ha]

/-- **The subnet text of a network address and a prefix.** -/
def subnetText (m pfx : Nat) : List Char := inetNtoa m ++ '/' :: decimal pfx

theorem subnetText_length_le {m pfx : Nat} (hp : pfx < 2 ^ 32) : (subnetText m pfx).length ≤ 31 := by
  have h₁ := inetNtoa_length_le m
  have h₂ := decimal_length_le (n := pfx) (k := 10) (by norm_num) (by omega)
  simp only [subnetText, List.length_append, List.length_cons]; omega

theorem splitCidr_prefix_lt (ip : List Char) : (splitCidr ip).2 < 2 ^ 32 := by
  unfold splitCidr
  split
  · norm_num
  · omega

/-- **Every subnet text is a masked address and the prefix**: `snprintf` never cuts it. -/
theorem subnetOf_eq_some {ip s : List Char} (h : subnetOf ip = some s) :
    ∃ a, inetPton4 (splitCidr ip).1 = some a ∧
      s = subnetText (a &&& subnetMask (splitCidr ip).2) (splitCidr ip).2 := by
  unfold subnetOf at h
  obtain ⟨a, ha, rfl⟩ := Option.map_eq_some'.mp h
  exact ⟨a, ha, List.take_of_length_le (subnetText_length_le (splitCidr_prefix_lt ip))⟩

theorem land_subnetMask_lt (a pfx : Nat) : a &&& subnetMask pfx < 2 ^ 32 :=
  Nat.and_lt_two_pow a (subnetMask_lt pfx)

/-! ## (3) Bridge names -/

/-- **A literal character of a `scanf` format**: it must be the next input character. -/
def scanLiteral (c : Char) : List Char → Option (List Char)
  | d :: rest => if d = c then some rest else none
  | [] => none

theorem scanLiteral_cons_self (c : Char) (rest : List Char) :
    scanLiteral c (c :: rest) = some rest :=
  if_pos rfl

/-- **`sscanf(subnet, "%u.%u.%u.%u/%u", ...) == 5`**: the five converted values. -/
def scanSubnet (s : List Char) : Option (Nat × Nat × Nat × Nat × Nat) := do
  let (o₁, s) ← scanUnsigned s
  let s ← scanLiteral '.' s
  let (o₂, s) ← scanUnsigned s
  let s ← scanLiteral '.' s
  let (o₃, s) ← scanUnsigned s
  let s ← scanLiteral '.' s
  let (o₄, s) ← scanUnsigned s
  let s ← scanLiteral '/' s
  let (pfx, _) ← scanUnsigned s
  pure (o₁, o₂, o₃, o₄, pfx)

/-- `MAX_BRIDGE_NAME`, the size of the `bridge_name` buffers. -/
def maxBridgeName : Nat := 16

/-- **`"b%03u%03u%03u%03u%02u"`** before `snprintf` cuts it to the buffer. -/
def bridgeText (o₁ o₂ o₃ o₄ pfx : Nat) : List Char :=
  'b' :: (zeroPad 3 (decimal o₁) ++ zeroPad 3 (decimal o₂) ++ zeroPad 3 (decimal o₃) ++
    zeroPad 3 (decimal o₄) ++ zeroPad 2 (decimal pfx))

/-- **`generate_bridge_name(subnet, bridge_name, MAX_BRIDGE_NAME)`**; `now` is the `time(NULL)` of
the fallback name. -/
def generateBridgeName (subnet : List Char) (now : Nat) : List Char :=
  (match scanSubnet subnet with
    | some (o₁, o₂, o₃, o₄, pfx) => bridgeText o₁ o₂ o₃ o₄ pfx
    | none => "bridge".toList ++ decimal (now % 10000)).take (maxBridgeName - 1)

/-- `%u` reads back what `%u` printed. -/
theorem scanUnsigned_decimal_append {n : Nat} {rest : List Char} (hn : n < 2 ^ 32)
    (hr : ∀ c ∈ rest.head?, c.isDigit = false) :
    scanUnsigned (decimal n ++ rest) = some (n, rest) := by
  rw [scanUnsigned_digits_append (decimal_isDigit n) (decimal_ne_nil n) hr
    (by rwa [digitsValue_decimal]), digitsValue_decimal]

theorem scanUnsigned_decimal {n : Nat} (hn : n < 2 ^ 32) : scanUnsigned (decimal n) = some (n, []) := by
  simpa using @scanUnsigned_decimal_append n [] hn (by simp)

/-- **`sscanf` reads a subnet text back** into its octets and prefix. -/
theorem scanSubnet_subnetText (m : Nat) {pfx : Nat} (hp : pfx < 2 ^ 32) :
    scanSubnet (subnetText m pfx) =
      some (octet m 0, octet m 1, octet m 2, octet m 3, pfx) := by
  have ho : ∀ i, octet m i < 2 ^ 32 := fun i => by have := octet_lt m i; omega
  have hdot : ∀ rest, ∀ c ∈ ('.' :: rest).head?, c.isDigit = false := fun _ c hc => by
    cases Option.mem_some_iff.mp hc; rfl
  have hslash : ∀ rest, ∀ c ∈ ('/' :: rest).head?, c.isDigit = false := fun _ c hc => by
    cases Option.mem_some_iff.mp hc; rfl
  simp only [subnetText, inetNtoa, List.append_assoc, List.cons_append]
  dsimp only [scanSubnet, Option.bind_eq_bind]
  rw [scanUnsigned_decimal_append (ho _) (hdot _), Option.some_bind, scanLiteral_cons_self,
    Option.some_bind, scanUnsigned_decimal_append (ho _) (hdot _), Option.some_bind,
    scanLiteral_cons_self, Option.some_bind, scanUnsigned_decimal_append (ho _) (hdot _),
    Option.some_bind, scanLiteral_cons_self, Option.some_bind,
    scanUnsigned_decimal_append (ho _) (hslash _), Option.some_bind, scanLiteral_cons_self,
    Option.some_bind, scanUnsigned_decimal hp]
  rfl

theorem zeroPad_decimal_length {w n : Nat} (hw : 0 < w) (hn : n < 10 ^ w) :
    (zeroPad w (decimal n)).length = w := by
  rw [zeroPad_length]; exact max_eq_left (decimal_length_le hw hn)

theorem zeroPad_three_length {n : Nat} (hn : n < 1000) : (zeroPad 3 (decimal n)).length = 3 :=
  zeroPad_decimal_length (by norm_num) (by norm_num; omega)

theorem zeroPad_two_length {n : Nat} (hn : n < 100) : (zeroPad 2 (decimal n)).length = 2 :=
  zeroPad_decimal_length (by norm_num) (by norm_num; omega)

theorem bridgeText_length {o₁ o₂ o₃ o₄ pfx : Nat} (h₁ : o₁ < 1000) (h₂ : o₂ < 1000)
    (h₃ : o₃ < 1000) (h₄ : o₄ < 1000) (hp : pfx < 100) :
    (bridgeText o₁ o₂ o₃ o₄ pfx).length = 15 := by
  simp only [bridgeText, List.length_cons, List.length_append, zeroPad_three_length h₁,
    zeroPad_three_length h₂, zeroPad_three_length h₃, zeroPad_three_length h₄, zeroPad_two_length hp]

/-- **The bridge name of a subnet text**: `b`, the zero-padded octets and the zero-padded prefix,
cut to 15 characters. -/
theorem generateBridgeName_subnetText (m : Nat) {pfx : Nat} (hp : pfx < 2 ^ 32) (now : Nat) :
    generateBridgeName (subnetText m pfx) now =
      (bridgeText (octet m 0) (octet m 1) (octet m 2) (octet m 3) pfx).take 15 := by
  rw [generateBridgeName, scanSubnet_subnetText m hp]; rfl

/-- Zero-padded fields are read back. -/
theorem zeroPad_decimal_inj {w n n' : Nat} (h : zeroPad w (decimal n) = zeroPad w (decimal n')) :
    n = n' := by
  rw [← digitsValue_zeroPad w n, h, digitsValue_zeroPad]

/-- **The fixed-width fields of a bridge name are read back one by one.** -/
theorem bridgeText_inj {o₁ o₂ o₃ o₄ p o₁' o₂' o₃' o₄' p' : Nat}
    (h₁ : o₁ < 1000) (h₂ : o₂ < 1000) (h₃ : o₃ < 1000) (h₄ : o₄ < 1000)
    (h₁' : o₁' < 1000) (h₂' : o₂' < 1000) (h₃' : o₃' < 1000) (h₄' : o₄' < 1000)
    (h : bridgeText o₁ o₂ o₃ o₄ p = bridgeText o₁' o₂' o₃' o₄' p') :
    o₁ = o₁' ∧ o₂ = o₂' ∧ o₃ = o₃' ∧ o₄ = o₄' ∧ p = p' := by
  simp only [bridgeText, List.cons.injEq, true_and, List.append_assoc] at h
  obtain ⟨e₁, h⟩ := List.append_inj h (by rw [zeroPad_three_length h₁, zeroPad_three_length h₁'])
  obtain ⟨e₂, h⟩ := List.append_inj h (by rw [zeroPad_three_length h₂, zeroPad_three_length h₂'])
  obtain ⟨e₃, h⟩ := List.append_inj h (by rw [zeroPad_three_length h₃, zeroPad_three_length h₃'])
  obtain ⟨e₄, e₅⟩ := List.append_inj h (by rw [zeroPad_three_length h₄, zeroPad_three_length h₄'])
  exact ⟨zeroPad_decimal_inj e₁, zeroPad_decimal_inj e₂, zeroPad_decimal_inj e₃,
    zeroPad_decimal_inj e₄, zeroPad_decimal_inj e₅⟩

theorem octet_lt_thousand (m i : Nat) : octet m i < 1000 := by have := octet_lt m i; omega

/-- **With a prefix below `100` the bridge name is not cut**: it is the whole 15 characters. -/
theorem generateBridgeName_subnetText_of_lt (m : Nat) {pfx : Nat} (hp : pfx < 100) (now : Nat) :
    generateBridgeName (subnetText m pfx) now =
      bridgeText (octet m 0) (octet m 1) (octet m 2) (octet m 3) pfx := by
  rw [generateBridgeName_subnetText m (by omega)]
  exact List.take_of_length_le (le_of_eq (bridgeText_length (octet_lt_thousand m 0)
    (octet_lt_thousand m 1) (octet_lt_thousand m 2) (octet_lt_thousand m 3) hp))

/-- **Bridge names are injective on subnet texts with prefixes below `100`**: the 15 characters
hold every octet and the prefix. -/
theorem generateBridgeName_injective {m m' p p' now now' : Nat} (hm : m < 2 ^ 32)
    (hm' : m' < 2 ^ 32) (hp : p < 100) (hp' : p' < 100)
    (h : generateBridgeName (subnetText m p) now = generateBridgeName (subnetText m' p') now') :
    subnetText m p = subnetText m' p' := by
  rw [generateBridgeName_subnetText_of_lt m hp, generateBridgeName_subnetText_of_lt m' hp'] at h
  have o := octet_lt_thousand
  obtain ⟨e₀, e₁, e₂, e₃, rfl⟩ := bridgeText_inj (o m 0) (o m 1) (o m 2) (o m 3) (o m' 0) (o m' 1)
    (o m' 2) (o m' 3) h
  rw [← octetsValue_octet hm, ← octetsValue_octet hm', e₀, e₁, e₂, e₃]

set_option maxRecDepth 2000 in
/-- **At prefix `0` the address keeps its host bits**: `10.1.2.3/0` and `10.9.9.9/0` have the same
network address `0.0.0.0`, but their subnet texts keep the addresses, and their bridge names
differ. -/
theorem subnetOf_prefix_zero_keeps_address :
    subnetOf "10.1.2.3/0".toList = some (subnetText (octetsValue 10 1 2 3) 0) ∧
      subnetOf "10.9.9.9/0".toList = some (subnetText (octetsValue 10 9 9 9) 0) ∧
      clearHostBits (octetsValue 10 1 2 3) 0 = clearHostBits (octetsValue 10 9 9 9) 0 ∧
      ∀ now now', generateBridgeName (subnetText (octetsValue 10 1 2 3) 0) now ≠
        generateBridgeName (subnetText (octetsValue 10 9 9 9) 0) now' :=
  ⟨by decide, by decide, by decide, fun now now' => by
    rw [generateBridgeName_subnetText_of_lt _ (by norm_num),
      generateBridgeName_subnetText_of_lt _ (by norm_num)]
    decide⟩

end TracerouteSimulator.Mesh
