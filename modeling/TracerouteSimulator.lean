import TracerouteSimulator.CString
import TracerouteSimulator.Registry.Table
import TracerouteSimulator.Registry.Ops
import TracerouteSimulator.Registry.Invariant
import TracerouteSimulator.Registry.Session
import TracerouteSimulator.Registry.Parallel
import TracerouteSimulator.Registry.ParallelInterfaces
import TracerouteSimulator.Mesh.Subnet
import TracerouteSimulator.Facts.Router
import TracerouteSimulator.Facts.Alloc
import TracerouteSimulator.Facts.Section
import TracerouteSimulator.Facts.Interfaces
import TracerouteSimulator.Facts.Rules
import TracerouteSimulator.Facts.Loader
import TracerouteSimulator.Facts.AddressShow
import TracerouteSimulator.Mesh.Setup
import TracerouteSimulator.Mesh.Batch
import TracerouteSimulator.Mesh.Veth
import TracerouteSimulator.Mesh.Phases
import TracerouteSimulator.Mesh.Rerun
import TracerouteSimulator.Mesh.Replay
import TracerouteSimulator.Mesh.InterfaceReplay
import TracerouteSimulator.Mesh.Main
import TracerouteSimulator.Mesh.ParallelSetup
import TracerouteSimulator.Mesh.ParallelSchedule
import TracerouteSimulator.Network.Setup
import TracerouteSimulator.Network.Main
import TracerouteSimulator.Utils.NetnsReader
