import SaiCommon.Fib.Lag
import SaiCommon.Fib.Neighbor
import SaiCommon.Fib.NextHopGroup
import SaiCommon.Fib.Route
import SaiCommon.Lib.Runs

namespace SaiCommon

/-- The calls of the routing code, each with what the world outside answers
to it. -/
inductive FibCall
  | virtualRouterCreate (defaults : VrfDefaults) (attrs : List VrfAttr) (env : VrfCreateEnv)
  | virtualRouterRemove (vrId : ObjectId) (npu : SaiStatus)
  | virtualRouterAttributeSet (vrId : ObjectId) (attr : VrfAttr) (validate npu : SaiStatus)
  | ecmpMaxPathsSet (maxPaths : BitVec 32) (npu : SaiStatus)
  | routerInterfaceCreate (defaults : RifDefaults) (attrs : List RifAttr) (env : RifCreateEnv)
  | routerInterfaceRemove (rifId : ObjectId) (npu : SaiStatus)
  | routerInterfaceAttributeSet (rifId : ObjectId) (attr : RifAttr) (validate npu : SaiStatus)
  | lagMemberCreate (attrs : List LagMemberAttr) (env : LagMemberEnv)
  | lagMemberRemove (lagId memberId : ObjectId) (rifNpu : SaiStatus)
  | nextHopCreate (attrs : List NextHopAttr) (env : NextHopCreateEnv)
  | nextHopRemove (nextHopId : ObjectId) (npu : SaiStatus) (idTreeOk : Bool)
  | nextHopAttributeSet
  | neighborCreate (entry : NeighborEntry) (attrs : List NeighborAttr) (node : NhNodeEnv) (env : NeighborEnv)
  | neighborRemove (entry : NeighborEntry) (macEntry : MacEntryEnv) (npu : SaiStatus)
  | neighborAttributeSet (entry : NeighborEntry) (attr : NeighborAttr) (env : NeighborEnv)
  | fdbCallback (npu : NhRef → SaiStatus) (updates : List FdbNotification)
  | nextHopGroupCreate (attrs : List NhGroupAttr) (alloc : NhGroupAllocEnv) (env : NhGroupCreateEnv)
  | nextHopGroupRemove (groupId : ObjectId) (npu : SaiStatus)
  | nextHopGroupAttributeSet
  | nextHopAddToGroup (groupId : ObjectId) (nextHopIds : List ObjectId) (listOk : Bool) (env : NhGroupAddEnv)
  | nextHopRemoveFromGroup (groupId : ObjectId) (nextHopIds : List ObjectId) (listOk : Bool) (npu : SaiStatus)
  | routeCreate (entry : RouteEntry) (attrs : List RouteAttr) (env : RouteCreateEnv)
  | routeRemove (entry : RouteEntry) (npu : SaiStatus)
  | routeAttributeSet (entry : RouteEntry) (attr : RouteAttr) (env : RouteSetEnv)

def FibCall.run (p : Platform) (s : FibState) : FibCall → FibState × SaiStatus
  | .virtualRouterCreate defaults attrs env => fibVirtualRouterCreate p s defaults attrs env
  | .virtualRouterRemove vrId npu => fibVirtualRouterRemove s vrId npu
  | .virtualRouterAttributeSet vrId attr validate npu => fibVirtualRouterAttributeSet p s vrId attr validate npu
  | .ecmpMaxPathsSet maxPaths npu => routerEcmpMaxPathsSet s maxPaths npu
  | .routerInterfaceCreate defaults attrs env => fibRouterInterfaceCreate p s defaults attrs env
  | .routerInterfaceRemove rifId npu => fibRouterInterfaceRemove s rifId npu
  | .routerInterfaceAttributeSet rifId attr validate npu =>
    fibRouterInterfaceAttributeSet s rifId attr validate npu
  | .lagMemberCreate attrs env => l2CreateLagMember s attrs env
  | .lagMemberRemove lagId memberId rifNpu => l2RemoveLagMember s lagId memberId rifNpu
  | .nextHopCreate attrs env => fibNextHopCreate p s attrs env
  | .nextHopRemove nextHopId npu idTreeOk => fibNextHopRemove s nextHopId npu idTreeOk
  | .nextHopAttributeSet => fibNextHopAttributeSet s
  | .neighborCreate entry attrs node env => fibNeighborCreate p s entry attrs node env
  | .neighborRemove entry macEntry npu => fibNeighborRemove p s entry macEntry npu
  | .neighborAttributeSet entry attr env => fibNeighborAttributeSet p s entry attr env
  | .fdbCallback npu updates => (neighborFdbCallback npu s nullObjectId updates, .success)
  | .nextHopGroupCreate attrs alloc env => fibNextHopGroupCreate s attrs alloc env
  | .nextHopGroupRemove groupId npu => fibNextHopGroupRemove s groupId npu
  | .nextHopGroupAttributeSet => fibNextHopGroupAttributeSet s
  | .nextHopAddToGroup groupId nextHopIds listOk env => fibNextHopAddToGroup s groupId nextHopIds listOk env
  | .nextHopRemoveFromGroup groupId nextHopIds listOk npu =>
    fibNextHopRemoveFromGroup s groupId nextHopIds listOk npu
  | .routeCreate entry attrs env => fibRouteCreate p s entry attrs env
  | .routeRemove entry npu => fibRouteRemove p s entry npu
  | .routeAttributeSet entry attr env => fibRouteAttributeSet p s entry attr env

/-- The routing database after its initialisation: only the ports, the LAGs
and the limit are there, and no port routes. -/
structure FibFresh (s : FibState) : Prop where
  vrfs : s.vrfTree = ∅
  rifs : s.routerInterfaceTree = ∅
  nextHops : s.nhTree = ∅
  nextHopIds : s.nhIdTree = ∅
  groups : s.groups = ∅
  groupIds : s.nhGroupTree = ∅
  routes : s.routeTree = ∅
  macEntries : s.neighborMacTree = ∅
  unlinkFault : s.unlinkFault = false
  npuMembers : s.npuGroups.members = ∅
  npuFault : s.npuGroups.fault = false
  notRouting : ∀ portId, s.portTree.get portId ≠ some .routing
  noMembers : ∀ lagId lag, s.lagTree.get lagId = some lag → lag.rifId = nullObjectId ∧ lag.members = []

def fibStep (p : Platform) (ok : FibState → FibCall → Prop) : FibState → FibCall → FibState → Prop :=
  Runs.guarded ok fun s call => (call.run p s).1

end SaiCommon
