import TracerouteSimulator.CString

/-! # Router facts

The records of `router_facts_loader.h` that the loader fills and `hidden_mesh_setup.c` reads. A
`char *` field that may be `NULL` is an `Option`; a counted array is a list.

* **`Address`**, **`Interface`** — what `parse_interfaces_section` keeps of an `ip addr` listing.
* **`Rule`** — what `parse_rules_section` keeps of an `ip rule show` line and
  `setup_router_with_veth` replays.
* **`Route`** — a parsed route, which `network_setup.c` turns into an `ip route add` command.
* **`Router`**, **`FactsContext`** — one facts file, and the routers loaded from a directory. -/

namespace TracerouteSimulator.Facts

/-- **`address_t`**, with the fields the setup reads. -/
structure Address where
  /-- `ip`: the `inet` or `inet6` token, `a.b.c.d/p` for IPv4. -/
  ip : List Char
  /-- `broadcast`, the token after `brd` when there is one. -/
  broadcast : Option (List Char)
  deriving DecidableEq, Repr

/-- **`interface_t`**. -/
structure Interface where
  /-- `name`. -/
  name : List Char
  /-- `mac`, from `link/ether`. -/
  mac : Option (List Char)
  /-- `mtu`. -/
  mtu : Int
  /-- `up`. -/
  up : Bool
  /-- `addresses[0 .. addr_count)`. -/
  addresses : List Address
  deriving DecidableEq, Repr

/-- **`rule_t`**, with the fields the two setups replay; a zero `fwmark` means none. -/
structure Rule where
  /-- `priority`. -/
  priority : Int
  /-- `from`, absent for `from all`. -/
  src : Option (List Char)
  /-- `to`. -/
  dst : Option (List Char)
  /-- `fwmark`, as the `unsigned int` that `%x` stores. -/
  fwmark : Nat
  /-- `iif`. -/
  iif : Option (List Char)
  /-- `oif`. -/
  oif : Option (List Char)
  /-- `table`, the token after `lookup`. -/
  table : Option (List Char)
  /-- `sport`; `0` means none. -/
  sport : Int
  /-- `dport`; `0` means none. -/
  dport : Int
  deriving DecidableEq, Repr

/-- **`route_t`**, with the fields `network_setup.c` reads; a `NULL` string is `none`. -/
structure Route where
  /-- `destination`. -/
  destination : Option (List Char)
  /-- `gateway`. -/
  gateway : Option (List Char)
  /-- `device`. -/
  device : Option (List Char)
  /-- `source`. -/
  source : Option (List Char)
  /-- `table`. -/
  table : Option (List Char)
  /-- `metric`. -/
  metric : Int
  /-- `protocol`. -/
  protocol : Option (List Char)
  deriving DecidableEq, Repr

/-- **`router_t`**, with the fields the two setup programs read. -/
structure Router where
  /-- `name`, also the router's namespace. -/
  name : List Char
  /-- `interfaces[0 .. interface_count)`. -/
  interfaces : List Interface
  /-- `routes[0 .. route_count)`, which `network_setup.c` reads. -/
  routes : List Route
  /-- `rules[0 .. rule_count)`. -/
  rules : List Rule
  /-- `raw_route_commands[0 .. raw_route_count)`. -/
  rawRouteCommands : List (List Char)
  /-- `iptables_save.raw_content`. -/
  iptablesSave : Option (List Char)
  /-- `ipset_save.raw_content`. -/
  ipsetSave : Option (List Char)
  deriving DecidableEq, Repr

/-- **`create_router(name)`**: a router with no facts yet. -/
def createRouter (name : List Char) : Router :=
  ⟨name, [], [], [], [], none, none⟩

/-- **`facts_context_t`**: the loaded routers, in load order. -/
structure FactsContext where
  /-- `routers[0 .. router_count)`. -/
  routers : List Router
  deriving DecidableEq, Repr

end TracerouteSimulator.Facts
