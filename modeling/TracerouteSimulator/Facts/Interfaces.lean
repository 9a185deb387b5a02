import TracerouteSimulator.Facts.Section
import TracerouteSimulator.Facts.Router

/-! # Interfaces

`parse_interfaces_section` reads the `interfaces` section, the output of `ip address show`, line by
line. A line that starts with a digit may open an interface; the lines after it update the current
interface, the last one opened: `link/ether` sets its MAC, and `inet` and `inet6` lines add
addresses.

* **`ParsedAddress`**, **`ParsedInterface`** — `address_t` and `interface_t` with every field the
  parser writes; `toAddress` and `toInterface` keep the fields the setup reads.
* **`interfaceLine`**, **`parseInterfacesBody`** — the loop, with the current interface as state.
* **`listedInterfaces`** — the same reading told section-wide: one interface per header line, with
  the MAC and the addresses of the lines up to the next header (`parseInterfacesBody_eq_listed`).
* **`loadInterfaces_name_length_lt`** — every interface the loader reads has a name that fits
  `MAX_NAME_LEN`, the promise the registry lookups of the setup rely on.

Where the code departs from the words of its comments: `UP` is found as a substring of the flag
list, so `LOWER_UP` counts; an `inet6` address is dropped when it contains `fe80:` anywhere; only
the first `state ` of the header line is looked at. Allocation is taken to succeed here. -/

namespace TracerouteSimulator.Facts

/-! ## (1) The records -/

/-- **`address_t`**, every field `parse_interfaces_section` writes. -/
structure ParsedAddress where
  /-- `ip`: the token after `inet` or `inet6`, with its prefix. -/
  ip : List Char
  /-- `broadcast`: the token after `brd` of an `inet` line. -/
  broadcast : Option (List Char)
  /-- `scope`: the token after `scope`, or `global`. -/
  scope : List Char
  /-- `prefixlen`: `atoi` of the text after the first `/` of `ip`. -/
  prefixlen : Int
  /-- `secondary`: the `inet` line says `secondary`. -/
  secondary : Bool
  deriving DecidableEq, Repr

/-- **`interface_t`**, every field `parse_interfaces_section` writes. -/
structure ParsedInterface where
  /-- `name`, without its `@parent` suffix. -/
  name : List Char
  /-- `mac`, from the last `link/ether` line. -/
  mac : Option (List Char)
  /-- `mtu`. -/
  mtu : Int
  /-- `up`. -/
  up : Bool
  /-- `addresses[0 .. addr_count)`. -/
  addresses : List ParsedAddress
  deriving DecidableEq, Repr

/-- The fields of an address the setup reads. -/
def ParsedAddress.toAddress (a : ParsedAddress) : Address := ⟨a.ip, a.broadcast⟩

/-- The fields of an interface the setup reads. -/
def ParsedInterface.toInterface (i : ParsedInterface) : Interface :=
  ⟨i.name, i.mac, i.mtu, i.up, i.addresses.map ParsedAddress.toAddress⟩

/-! ## (2) Header lines -/

/-- `isdigit(line[0])`. -/
def startsWithDigit : List Char → Bool
  | c :: _ => c.isDigit
  | [] => false

/-- **The name of a header line** and the text from its end: after the first `:` and the spaces
that follow it, the text up to the next `:` or `@`. `none` when there is no `:`, when neither `:`
nor `@` ends the name, or when the name does not fit `iface_name[MAX_NAME_LEN]` (`64`). -/
def headerName (line : List Char) : Option (List Char × List Char) :=
  (strchr line ':').bind fun i =>
    let nameStart := (line.drop (i + 1)).dropWhile isspace
    let name := nameStart.takeWhile fun c => c != ':' && c != '@'
    let nameEnd := nameStart.drop name.length
    if nameEnd = [] ∨ 64 ≤ name.length then none else some (name, nameEnd)

/-- A line that opens an interface: it starts with a digit and has a name. -/
def headerOf (line : List Char) : Option (List Char × List Char) :=
  if startsWithDigit line then headerName line else none

/-- **The interface a header line opens.** `up` is set when the text between the first `<` after
the name and the first `>` after it contains `UP`; in the text after the flags (after the name's
end without flags), `mtu ` gives the MTU by `atoi` (`1500` without it), and a first `state `
followed by `DOWN` clears `up`. -/
def headerInterface (h : List Char × List Char) : ParsedInterface :=
  let nameEnd := h.2
  let flagsStart := strchr nameEnd '<'
  let flagsEnd := flagsStart.bind fun i => (strchr (nameEnd.drop i) '>').map (i + ·)
  let flagsUp := match flagsStart, flagsEnd with
    | some i, some j => (strstr ((nameEnd.drop (i + 1)).take (j - (i + 1))) "UP".toList).isSome
    | _, _ => false
  let props := match flagsEnd with
    | some j => nameEnd.drop (j + 1)
    | none => nameEnd.drop 1
  let mtu := match strstr props "mtu ".toList with
    | some k => atoi (props.drop (k + 4))
    | none => 1500
  let down := match strstr props "state ".toList with
    | some k => decide ((props.drop (k + 6)).take 4 = "DOWN".toList)
    | none => false
  { name := h.1, mac := none, mtu, up := flagsUp && !down, addresses := [] }

/-! ## (3) The other lines -/

/-- **A `link/ether` line**: `sscanf("%17s")` eleven characters past `link/ether`; the zeroed
buffer gives `""` when nothing is read. `none` for the other link types, which set nothing. When the
line ends at `link/ether`, `mac += 11` points past the string's terminator and the C read is out of
bounds; the model's `drop` gives `[]` there, so the `""` it returns stands for that undefined read. -/
def linkMac (line : List Char) : Option (List Char) :=
  let trimmed := line.dropWhile isspace
  (strstr trimmed "link/ether".toList).map fun j =>
    ((scanToken (trimmed.drop (j + 11))).getD []).take 17

/-- **`scope`**: the token after `scope `, cut to 31 characters by `%31s`; `global` when there is no
`scope ` or no token after it. -/
def scopeField (after : List Char) : List Char :=
  (((strstr after "scope ".toList).bind fun k => scanToken (after.drop (k + 6))).map (·.take 31)).getD
    "global".toList

/-- **`prefixlen`**: `atoi` of the text after the first `/`, `0` without one. -/
def prefixLen (ip : List Char) : Int :=
  ((strchr ip '/').map fun s => atoi (ip.drop (s + 1))).getD 0

/-- **An `inet` line**: the token after the first `inet `, kept when it contains `/`. -/
def inetAddress (line : List Char) : Option ParsedAddress :=
  let trimmed := line.dropWhile isspace
  (strstr trimmed "inet ".toList).bind fun k =>
    let after := trimmed.drop (k + 5)
    (scanToken after).bind fun ip =>
      if (strchr ip '/').isSome then
        some { ip
               broadcast := (strstr after "brd ".toList).bind fun b => scanToken (after.drop (b + 4))
               scope := scopeField after
               prefixlen := prefixLen ip
               secondary := (strstr after "secondary".toList).isSome }
      else none

/-- **An `inet6` line**: the token after the first `inet6 `, dropped when it contains `fe80:`. -/
def inet6Address (line : List Char) : Option ParsedAddress :=
  let trimmed := line.dropWhile isspace
  (strstr trimmed "inet6 ".toList).bind fun k =>
    let after := trimmed.drop (k + 6)
    (scanToken after).bind fun ip =>
      if (strstr ip "fe80:".toList).isNone then
        some { ip, broadcast := none, scope := scopeField after, prefixlen := prefixLen ip,
               secondary := false }
      else none

/-- **A line that does not start with a digit, read into the current interface**: the branches
`link/`, then `inet `, then `inet6 `, in this order. -/
def ParsedInterface.readLine (cur : ParsedInterface) (line : List Char) : ParsedInterface :=
  if (strstr line "link/".toList).isSome then
    match linkMac line with
    | some m => { cur with mac := some m }
    | none => cur
  else if (strstr line "inet ".toList).isSome then
    { cur with addresses := cur.addresses ++ (inetAddress line).toList }
  else if (strstr line "inet6 ".toList).isSome then
    { cur with addresses := cur.addresses ++ (inet6Address line).toList }
  else cur

/-! ## (4) `parse_interfaces_section` -/

/-- **One turn of the loop**, on the interfaces appended before the current one and the current
one (`NULL` before the first header). Empty lines and `EXIT_CODE:` lines are skipped; a line that
starts with a digit opens an interface when it is a header and is otherwise ignored. -/
def interfaceLine (st : List ParsedInterface × Option ParsedInterface) (line : List Char) :
    List ParsedInterface × Option ParsedInterface :=
  if line = [] ∨ (strstr line "EXIT_CODE:".toList).isSome then st
  else if startsWithDigit line then
    match headerName line with
    | some h => (st.1 ++ st.2.toList, some (headerInterface h))
    | none => st
  else (st.1, st.2.map (·.readLine line))

/-- **The interfaces of a section body**, in the order of their header lines. -/
def parseInterfacesBody (body : List Char) : List ParsedInterface :=
  let st := (strtokLines body).foldl interfaceLine ([], none)
  st.1 ++ st.2.toList

/-- **`parse_interfaces_section(content, router)`**: the interfaces it appends; none without the
section, where it returns `-1`. -/
def parseInterfacesSection (content : List Char) : List ParsedInterface :=
  match findSection content "interfaces".toList with
  | none => []
  | some body => parseInterfacesBody body

/-- The interfaces `load_router_facts` gives the router, as the setup reads them: the parameter
`parseInterfaces` of `loadRouterFacts`. -/
def loadInterfaces (content : List Char) : List Interface :=
  (parseInterfacesSection content).map ParsedInterface.toInterface

/-! ## (5) The section read header by header -/

/-- **The lines the loop reads**, as the specification counts them: the `strtok` lines without
`EXIT_CODE:`. -/
def readLines (body : List Char) : List (List Char) :=
  (strtokLines body).filter fun l => (strstr l "EXIT_CODE:".toList).isNone

/-- **Blocks of the specification**: each header line, with the lines after it up to the next
header. -/
def interfaceBlocks : List (List Char) → List ((List Char × List Char) × List (List Char))
  | [] => []
  | l :: ls => match headerOf l with
    | some h => (h, ls.takeWhile fun l => (headerOf l).isNone) :: interfaceBlocks ls
    | none => interfaceBlocks ls

/-- **The MAC a line of a block gives** in the specification: a `link/ether` line that does not
start with a digit. -/
def lineMac (line : List Char) : Option (List Char) :=
  if startsWithDigit line then none
  else if (strstr line "link/".toList).isSome then linkMac line else none

/-- **The address a line of a block gives** in the specification: an `inet` line, or else an
`inet6` line, that does not start with a digit and has no `link/`. -/
def lineAddress (line : List Char) : Option ParsedAddress :=
  if startsWithDigit line then none
  else if (strstr line "link/".toList).isSome then none
  else if (strstr line "inet ".toList).isSome then inetAddress line
  else if (strstr line "inet6 ".toList).isSome then inet6Address line
  else none

/-- **The interfaces a section lists**, as the specification says it: one per header line, in
order, each with the MAC of the last `link/ether` line of its block and the addresses of its block,
in order. -/
def listedInterfaces (body : List Char) : List ParsedInterface :=
  (interfaceBlocks (readLines body)).map fun b =>
    { headerInterface b.1 with mac := (b.2.filterMap lineMac).getLast?,
                               addresses := b.2.filterMap lineAddress }

/-! ## (6) The loop reads the section header by header -/

@[simp] theorem headerInterface_mac (h : List Char × List Char) : (headerInterface h).mac = none :=
  rfl

@[simp] theorem headerInterface_addresses (h : List Char × List Char) :
    (headerInterface h).addresses = [] :=
  rfl

/-- The current interface after a line that opens none: a line that starts with a digit leaves it
as it is. -/
def ParsedInterface.afterLine (cur : ParsedInterface) (line : List Char) : ParsedInterface :=
  if startsWithDigit line then cur else cur.readLine line

theorem ParsedInterface.afterLine_eq (cur : ParsedInterface) (line : List Char) :
    cur.afterLine line = { cur with mac := (lineMac line).or cur.mac,
                                    addresses := cur.addresses ++ (lineAddress line).toList } := by
  unfold afterLine readLine lineMac lineAddress
  by_cases hd : startsWithDigit line
  · simp [hd]
  rw [if_neg hd, if_neg hd, if_neg hd]
  by_cases hl : (strstr line "link/".toList).isSome
  · rw [if_pos hl, if_pos hl, if_pos hl]
    cases linkMac line <;> simp
  rw [if_neg hl, if_neg hl, if_neg hl]
  by_cases hi : (strstr line "inet ".toList).isSome
  · rw [if_pos hi, if_pos hi]; simp
  rw [if_neg hi, if_neg hi]
  by_cases h6 : (strstr line "inet6 ".toList).isSome
  · rw [if_pos h6, if_pos h6]; simp
  · rw [if_neg h6, if_neg h6]; simp

theorem getLast?_filterMap_cons_or {f : List Char → Option (List Char)} (l : List Char)
    (blk : List (List Char)) (m : Option (List Char)) :
    ((l :: blk).filterMap f).getLast?.or m = (blk.filterMap f).getLast?.or ((f l).or m) := by
  cases hf : f l with
  | none => rw [List.filterMap_cons_none hf, Option.none_or]
  | some x =>
    rw [List.filterMap_cons_some hf, List.getLast?_cons]
    cases (blk.filterMap f).getLast? <;> rfl

/-- **A block read line by line** gives the MAC of its last `link/ether` line and appends the
addresses of its lines, in order. -/
theorem foldl_afterLine : ∀ (blk : List (List Char)) (c : ParsedInterface),
    blk.foldl ParsedInterface.afterLine c =
      { c with mac := (blk.filterMap lineMac).getLast?.or c.mac,
               addresses := c.addresses ++ blk.filterMap lineAddress }
  | [], c => by simp
  | l :: blk, c => by
    rw [List.foldl_cons, foldl_afterLine blk, ParsedInterface.afterLine_eq,
      getLast?_filterMap_cons_or]
    cases ha : lineAddress l <;> simp [List.filterMap_cons, ha]

/-- **The loop skips the `EXIT_CODE:` lines.** -/
theorem foldl_interfaceLine_filter : ∀ (ls : List (List Char)) st,
    ls.foldl interfaceLine st =
      (ls.filter fun l => (strstr l "EXIT_CODE:".toList).isNone).foldl interfaceLine st
  | [], _ => rfl
  | l :: ls, st => by
    by_cases hx : (strstr l "EXIT_CODE:".toList).isNone
    · rw [List.filter_cons, if_pos hx, List.foldl_cons, List.foldl_cons,
        foldl_interfaceLine_filter ls]
    · rw [List.filter_cons, if_neg hx, List.foldl_cons, interfaceLine,
        if_pos (Or.inr (Option.isSome_iff_ne_none.mpr fun h => hx (by rw [h]; rfl))),
        foldl_interfaceLine_filter ls]

/-- **One line the loop reads**: a header opens an interface, any other line goes to the current
one. -/
theorem interfaceLine_eq {line : List Char} (hne : line ≠ [])
    (hx : (strstr line "EXIT_CODE:".toList).isNone) (st : List ParsedInterface × Option ParsedInterface) :
    interfaceLine st line = match headerOf line with
      | some h => (st.1 ++ st.2.toList, some (headerInterface h))
      | none => (st.1, st.2.map (·.afterLine line)) := by
  rw [interfaceLine, if_neg (by simpa [hne] using hx), headerOf]
  by_cases hd : startsWithDigit line
  · simp only [hd, if_true, ParsedInterface.afterLine]
    cases headerName line <;> simp
  · simp [hd, ParsedInterface.afterLine]

/-- **The loop invariant**: from the interfaces `done` and the current one `cur`, the loop gives
`done`, then `cur` read through the lines before the first header, then one interface per header
with its block. -/
theorem foldl_interfaceLine : ∀ (ls : List (List Char)),
    (∀ l ∈ ls, l ≠ [] ∧ (strstr l "EXIT_CODE:".toList).isNone) →
    ∀ (done : List ParsedInterface) (cur : Option ParsedInterface),
      let st := ls.foldl interfaceLine (done, cur)
      st.1 ++ st.2.toList = done ++
        (cur.map fun c =>
          (ls.takeWhile fun l => (headerOf l).isNone).foldl ParsedInterface.afterLine c).toList ++
        (interfaceBlocks ls).map fun b => b.2.foldl ParsedInterface.afterLine (headerInterface b.1)
  | [], _, done, cur => by cases cur <;> simp [interfaceBlocks]
  | l :: ls, hls, done, cur => by
    have ih := foldl_interfaceLine ls fun l' h => hls l' (List.mem_cons_of_mem l h)
    obtain ⟨hne, hx⟩ := hls l (List.mem_cons_self l ls)
    simp only [List.foldl_cons, interfaceLine_eq hne hx]
    cases hh : headerOf l with
    | some h =>
      simp only [hh, List.takeWhile_cons, Option.isNone_some, interfaceBlocks, ih]
      cases cur <;> simp
    | none =>
      simp only [hh, List.takeWhile_cons, Option.isNone_none, interfaceBlocks, ih]
      cases cur <;> simp

/-- **`parse_interfaces_section` reads a section header by header**: for every body, the
interfaces are one per header line, in order, each named by its header, with the `up` and MTU of its
header line, the MAC of the last `link/ether` line of its block and the addresses of the `inet` and
`inet6` lines of its block, in order; lines before the first header give nothing. -/
theorem parseInterfacesBody_eq_listed (body : List Char) :
    parseInterfacesBody body = listedInterfaces body := by
  have hread : ∀ l ∈ readLines body, l ≠ [] ∧ (strstr l "EXIT_CODE:".toList).isNone := by
    intro l hl
    obtain ⟨hl, hx⟩ := List.mem_filter.mp hl
    exact ⟨by simpa [strtokLines] using (List.mem_filter.mp hl).2, hx⟩
  have := foldl_interfaceLine (readLines body) hread [] none
  simp only [Option.map_none, Option.toList_none, List.append_nil, List.nil_append] at this
  rw [parseInterfacesBody, foldl_interfaceLine_filter, ← readLines, this, listedInterfaces]
  refine List.map_congr_left fun b _ => ?_
  rw [foldl_afterLine, headerInterface_mac, headerInterface_addresses, Option.or_none,
    List.nil_append]

/-! ## (7) Names that fit the registry -/

theorem headerName_name_length_lt {line : List Char} {h : List Char × List Char}
    (hh : headerName line = some h) : h.1.length < 64 := by
  obtain ⟨i, -, hh⟩ := Option.bind_eq_some.mp hh
  dsimp only at hh
  split at hh
  · cases hh
  · rename_i hc
    cases hh
    exact Nat.lt_of_not_le (not_or.mp hc).2

theorem interfaceBlocks_name_length_lt :
    ∀ (ls : List (List Char)), ∀ b ∈ interfaceBlocks ls, b.1.1.length < 64
  | [], _, hb => absurd hb (List.not_mem_nil _)
  | l :: ls, b, hb => by
    unfold interfaceBlocks at hb
    split at hb
    · rename_i h hh
      rcases List.mem_cons.mp hb with rfl | hb
      · unfold headerOf at hh
        split at hh
        · exact headerName_name_length_lt hh
        · cases hh
      · exact interfaceBlocks_name_length_lt ls b hb
    · exact interfaceBlocks_name_length_lt ls b hb

/-- **Every interface the loader reads has a name that fits `iface_name[MAX_NAME_LEN]`**: each is
opened by a header line, whose name `parse_interfaces_section` takes only when it is shorter than
`64`. -/
theorem loadInterfaces_name_length_lt (content : List Char) :
    ∀ i ∈ loadInterfaces content, i.name.length < 64 := by
  intro i hi
  obtain ⟨p, hp, rfl⟩ := List.mem_map.mp hi
  unfold parseInterfacesSection at hp
  split at hp
  · exact absurd hp (List.not_mem_nil _)
  · rw [parseInterfacesBody_eq_listed] at hp
    obtain ⟨b, hb, rfl⟩ := List.mem_map.mp hp
    exact interfaceBlocks_name_length_lt _ b hb

/-- **Two lines read against their words**: the flags `<BROADCAST,LOWER_UP>` hold no `UP` flag but
set `up`, and the global address `2001:db8::fe80:1/64`, which does not start with `fe80:`, is
dropped. -/
theorem parseInterfacesBody_lowerUp_fe80 :
    parseInterfacesBody ("2: eth0: <BROADCAST,LOWER_UP> mtu 1500 state UNKNOWN\n" ++
        "    inet6 2001:db8::fe80:1/64 scope global").toList =
      [⟨"eth0".toList, none, 1500, true, []⟩] := by
  decide

end TracerouteSimulator.Facts
