import SaiCommon.Fib.NeighborConsistent
import SaiCommon.Fib.RouterInterfaceConsistent
import SaiCommon.Fib.NextHopGroupConsistent
import SaiCommon.Fib.RouteConsistent

namespace SaiCommon

open KeyTree

variable {s : FibState} {p : Platform}

section Run

theorem FibConsistent.run (consistent : FibConsistent s) (call : FibCall) : FibConsistent (call.run p s).1 := by
  cases call with
  | virtualRouterCreate defaults attrs env => exact consistent.virtualRouterCreate defaults attrs env
  | virtualRouterRemove vrId npu => exact consistent.virtualRouterRemove vrId npu
  | virtualRouterAttributeSet vrId attr validate npu =>
    exact consistent.virtualRouterAttributeSet vrId attr validate npu
  | ecmpMaxPathsSet maxPaths npu => exact consistent.ecmpMaxPathsSet maxPaths npu
  | routerInterfaceCreate defaults attrs env => exact consistent.routerInterfaceCreate defaults attrs env
  | routerInterfaceRemove rifId npu => exact consistent.routerInterfaceRemove rifId npu
  | routerInterfaceAttributeSet rifId attr validate npu =>
    exact consistent.routerInterfaceAttributeSet rifId attr validate npu
  | lagMemberCreate attrs env => exact consistent.quiet (l2CreateLagMember_ports s attrs env).quiet
  | lagMemberRemove lagId memberId rifNpu =>
    exact consistent.quiet (l2RemoveLagMember_ports s lagId memberId rifNpu).quiet
  | nextHopCreate attrs env => exact consistent.nextHopCreate attrs env
  | nextHopRemove nextHopId npu idTreeOk => exact consistent.nextHopRemove nextHopId npu idTreeOk
  | nextHopAttributeSet => exact consistent
  | neighborCreate entry attrs node env => exact consistent.neighborCreate entry attrs node env
  | neighborRemove entry macEntry npu => exact consistent.neighborRemove entry macEntry npu
  | neighborAttributeSet entry attr env => exact consistent.neighborAttributeSet entry attr env
  | fdbCallback npu updates => exact consistent.quiet (fibQuiet_fdbCallback npu updates s nullObjectId)
  | nextHopGroupCreate attrs alloc env => exact consistent.nextHopGroupCreate attrs alloc env
  | nextHopGroupRemove groupId npu => exact consistent.nextHopGroupRemove groupId npu
  | nextHopGroupAttributeSet => exact consistent
  | nextHopAddToGroup groupId nextHopIds listOk env =>
    exact consistent.nextHopAddToGroup groupId nextHopIds listOk env
  | nextHopRemoveFromGroup groupId nextHopIds listOk npu =>
    exact consistent.nextHopRemoveFromGroup groupId nextHopIds listOk npu
  | routeCreate entry attrs env => exact consistent.routeCreate entry attrs env
  | routeRemove entry npu => exact consistent.routeRemove entry npu
  | routeAttributeSet entry attr env => exact consistent.routeAttributeSet entry attr env

theorem FibFresh.consistent (fresh : FibFresh s) : FibConsistent s := by
  have nhs : ∀ ref, s.nhTree.get ref = none := by
    intro ref
    rw [fresh.nextHops, get_empty]
  have noLinks : ∀ ref, nhGroupLinks s ref = [] := by
    intro ref
    rw [nhGroupLinks, nhs]
  have noGroups : ∀ group, groupNhLinks s group = [] := by
    intro group
    rw [groupNhLinks, fresh.groups, get_empty]
  refine ⟨⟨?_, ?_, ?_⟩, ⟨?_, ?_, ?_, ?_, ?_, ?_, ?_, ?_, ?_⟩, ⟨⟨?_, ?_, ?_, ?_⟩, ?_⟩⟩
  · intro id ref named
    rw [fresh.nextHopIds, get_empty] at named
    cases named
  · intro id ref named
    rw [fresh.nextHopIds, get_empty] at named
    cases named
  · intro id group named
    rw [fresh.groupIds, get_empty] at named
    cases named
  · intro rifId vrfId named
    rw [fresh.rifs, get_empty] at named
    cases named
  · intro vrfId n found
    rw [fresh.vrfs, get_empty] at found
    cases found
  · exact fun ref there => absurd (nhs ref) there
  · intro rifId n found
    rw [fresh.rifs, get_empty] at found
    cases found
  · intro ref n found
    rw [nhs] at found
    cases found
  · intro group n found
    rw [fresh.groups, get_empty] at found
    cases found
  · intro key there
    rw [fresh.routes, get_empty] at there
    exact absurd rfl there
  · intro key ref named
    rw [fresh.routes, get_empty] at named
    cases named
  · intro key group named
    rw [fresh.routes, get_empty] at named
    cases named
  · intro ref
    rw [noLinks]
    exact WtList.wellFormed_nil
  · intro group
    rw [noGroups]
    exact WtList.wellFormed_nil
  · intro group ref
    rw [noLinks, noGroups]
    rfl
  · exact fun ref linked => absurd (noLinks ref) linked
  · intro group
    rw [noGroups, fibNhGroupCount, fresh.groups, get_empty]
    rfl

theorem fibReach_consistent {ok : FibState → FibCall → Prop}
    (reach : Runs.Reach FibFresh (fibStep p ok) s) : FibConsistent s := by
  refine reach.invariant FibConsistent (fun _ fresh => fresh.consistent) ?_
  rintro s call t consistent ⟨_, rfl⟩
  exact consistent.run call

end Run

/-- Each counter is the number of those that it counts. -/
structure RefCountsExact (s : FibState) : Prop where
  nextHops : ∀ ref node, s.nhTree.get ref = some node →
    node.refCount = s.routeTree.tally fun _ route => route.nhInfo = .nextHop ref
  groups : ∀ group node, s.groups.get group = some node →
    node.refCount = s.routeTree.tally fun _ route => route.nhInfo = .group group
  rifs : ∀ rifId rif, s.routerInterfaceTree.get rifId = some rif →
    rif.refCount = s.nhTree.tally fun ref _ => ref.key.rifId = rifId
  vrfs : ∀ vrfId vrf, s.vrfTree.get vrfId = some vrf →
    vrf.numRif = s.routerInterfaceTree.tally fun _ rif => rif.vrfId = vrfId

/-- What a stored route, group, next-hop node or router interface names has
not been freed. -/
structure NothingDangles (s : FibState) : Prop where
  routeVrf : ∀ key route, s.routeTree.get key = some route → s.vrfTree.get key.vrfId ≠ none
  routeNextHop : ∀ key route ref, s.routeTree.get key = some route → route.nhInfo = .nextHop ref →
    fibIsOwnerNextHop s ref = true
  routeGroup : ∀ key route group, s.routeTree.get key = some route → route.nhInfo = .group group →
    s.groups.get group ≠ none ∧ ∃ id, s.nhGroupTree.get id = some group
  groupNextHop : ∀ group node, s.groups.get group = some node → ∀ link ∈ node.nhList,
    fibIsOwnerNextHop s link.self = true
  nextHopRif : ∀ ref node, s.nhTree.get ref = some node → ∃ rif,
    s.routerInterfaceTree.get ref.key.rifId = some rif ∧ rif.vrfId = ref.vrfId
  rifVrf : ∀ rifId rif, s.routerInterfaceTree.get rifId = some rif → s.vrfTree.get rif.vrfId ≠ none

section Exact

theorem FibCounts.exact (counts : FibCounts s) : RefCountsExact s := by
  refine ⟨?_, ?_, ?_, ?_⟩
  · exact fun ref node found => counts.nhRef ref node.refCount (by rw [found, Option.map_some])
  · exact fun group node found => counts.groupRef group node.refCount (by rw [found, Option.map_some])
  · exact fun rifId rif found => counts.rifRef rifId rif.refCount (by rw [found, Option.map_some])
  · exact fun vrfId vrf found => counts.numRif vrfId vrf.numRif (by rw [found, Option.map_some])

theorem FibLinks.member_owned (links : FibLinks s) {group : GroupPtr} {node : NhGroup}
    (found : s.groups.get group = some node) {link : WtLink NhRef} (member : link ∈ node.nhList) :
    fibIsOwnerNextHop s link.self = true := by
  have list : groupNhLinks s group = node.nhList := by rw [groupNhLinks, found]
  have present : (groupNhLinks s group).has link.self = true := by
    rw [list]
    exact WtList.has_iff_mem.mpr ⟨link, member, rfl⟩
  exact (links.stored_of_has present).1

theorem FibConsistent.nothingDangles (consistent : FibConsistent s) : NothingDangles s := by
  obtain ⟨names, counts, members⟩ := consistent
  refine ⟨?_, ?_, ?_, ?_, ?_, ?_⟩
  · exact fun key route found => counts.routeVrf key (by rw [found]; exact Option.some_ne_none route)
  · exact fun key route ref found held => counts.routeNh key ref (by rw [found, Option.map_some, held])
  · intro key route group found held
    obtain ⟨id, named⟩ := counts.routeGroup key group (by rw [found, Option.map_some, held])
    refine ⟨fun absent => ?_, id, named⟩
    have there := names.groupAtId id group named
    rw [absent] at there
    cases there
  · exact fun group node found link member => members.toFibLinks.member_owned found member
  · intro ref node found
    have placed := counts.nhRif ref (by rw [found]; exact Option.some_ne_none node)
    exact Option.map_eq_some_iff.mp placed
  · exact fun rifId rif found => counts.rifVrf rifId rif.vrfId (by rw [found, Option.map_some])

/-- The reference counts are exact in every state of every run, and no call
that succeeds has freed what is still named. -/
theorem refCounts_exact (reach : Runs.Reach FibFresh (fibStep p fun _ _ => True) s) :
    RefCountsExact s ∧ NothingDangles s ∧
    ∀ call : FibCall, (call.run p s).2 = .success → NothingDangles (call.run p s).1 := by
  have consistent := fibReach_consistent reach
  exact ⟨consistent.counts.exact, consistent.nothingDangles, fun call _ => (consistent.run call).nothingDangles⟩

theorem FibLinks.unlisted_iff (links : FibLinks s) (ref : NhRef) :
    nhGroupLinks s ref = [] ↔ ∀ group, (groupNhLinks s group).weightOf ref = 0 := by
  simp only [links.symmetric]
  cases listed : nhGroupLinks s ref with
  | nil => exact iff_of_true rfl fun _ => rfl
  | cons link rest =>
    have weighs := (links.nhWf ref).positive link (listed ▸ List.mem_cons_self)
    refine iff_of_false (List.cons_ne_nil link rest) fun unlisted => ?_
    have zero := unlisted link.self
    rw [WtList.weightOf, if_pos rfl] at zero
    omega

/-- In every run an object is removed, by an NPU that lets it go, exactly when nothing names it. What
names a next hop are the group nodes in memory, also those that no tree has. -/
theorem fibRemoves_exact (reach : Runs.Reach FibFresh (fibStep p fun _ _ => True) s) :
    (∀ vrId, (fibVirtualRouterRemove s vrId .success).2 = .success ↔ vrId.objType = .virtualRouter ∧
      (∃ vrf, s.vrfTree.get vrId = some vrf) ∧
      (∀ rifId rif, s.routerInterfaceTree.get rifId = some rif → ¬ rif.vrfId = vrId) ∧
      ∀ key route, s.routeTree.get key = some route → ¬ key.vrfId = vrId) ∧
    (∀ rifId, (fibRouterInterfaceRemove s rifId .success).2 = .success ↔ rifId.objType = .routerInterface ∧
      (∃ rif, s.routerInterfaceTree.get rifId = some rif) ∧
      ∀ ref node, s.nhTree.get ref = some node → ¬ ref.key.rifId = rifId) ∧
    (∀ groupId, (fibNextHopGroupRemove s groupId .success).2 = .success ↔ groupId.objType = .nextHopGroup ∧
      ∃ group, s.nhGroupTree.get groupId = some group ∧
        ∀ key route, s.routeTree.get key = some route → ¬ route.nhInfo = .group group) ∧
    ∀ nextHopId idTreeOk, (fibNextHopRemove s nextHopId .success idTreeOk).2 = .success ↔
      nextHopId.objType = .nextHop ∧ ∃ ref, s.nhIdTree.get nextHopId = some ref ∧ ref.key.nhType = .ip ∧
        (∀ key route, s.routeTree.get key = some route → ¬ route.nhInfo = .nextHop ref) ∧
        ∀ group, (groupNhLinks s group).weightOf ref = 0 := by
  obtain ⟨names, counts, members⟩ := fibReach_consistent reach
  have counted := counts.exact
  refine ⟨fun vrId => ?_, fun rifId => ?_, fun groupId => ?_, fun nextHopId idTreeOk => ?_⟩
  · -- a next-hop node is on a router interface of its virtual router
    have noNhs : (∀ rifId rif, s.routerInterfaceTree.get rifId = some rif → ¬ rif.vrfId = vrId) →
        (s.nhTree.tally fun ref _ => ref.vrfId = vrId) = 0 := by
      refine fun noRifs => tally_decide.mpr fun ref node stored => ?_
      obtain ⟨rif, found, inVrf⟩ := Option.map_eq_some_iff.mp (counts.nhRif ref (by simp [stored]))
      exact inVrf ▸ noRifs _ rif found
    have count := counted.vrfs vrId
    simp only [← tally_decide] at noNhs ⊢
    unfold fibVirtualRouterRemove fibVrfNodeGet fibVrfIsNhTreeEmpty fibVrfIsRouteTreeEmpty
    grind
  · have count := counted.rifs rifId
    simp only [← tally_decide]
    unfold fibRouterInterfaceRemove fibRouterInterfaceNodeGet
    grind
  · have count := counted.groups
    have alive := names.groupAtId groupId
    simp only [← tally_decide]
    unfold fibNextHopGroupRemove fibNextHopGroupGet
    grind
  · have count := counted.nextHops
    have owner := names.owned
    have atId := names.atId
    simp only [← members.unlisted_iff, ← tally_decide]
    unfold fibNextHopRemove fibNextHopNodeGetFromId fibNextHopRemoveByType fibIpNextHopRemove fibIsNextHopInNhGroup
      fibIsNextHopUsed fibRemoveNhNodeFromNhIdDatabase nhGroupLinks
    grind [fibIsOwnerNextHop]

end Exact

section Sample

def fibSamplePlatform : Platform where
  switchMac := 1
  cpuPort := ⟨.port, 0⟩
  packetActionValidate := fun _ => true
  isIpAddrZero := fun ipAddr => ipAddr = .v4 0
  isIpAddrLoopback := fun _ => false
  isValidVlanId := fun vlanId => 1 ≤ vlanId ∧ vlanId ≤ 4094
  v4MaskToPrefixLen := fun mask => if mask = 0xffffff00 then 24 else 32
  v6MaskToPrefixLen := fun _ => 128

def fibSample : FibState where
  vrfTree := ∅
  numVirtualRouters := 0
  routerInterfaceTree := ∅
  nhTree := ∅
  nhIdTree := ∅
  groups := ∅
  nhGroupTree := ∅
  routeTree := ∅
  neighborMacTree := ∅
  unlinkFault := false
  maxEcmpPaths := 4
  portTree := (∅ : KeyTree ObjectId PortFwdMode).put ⟨.port, 1⟩ .unknown
  lagTree := (∅ : KeyTree ObjectId Lag).put ⟨.lag, 1⟩ ⟨nullObjectId, []⟩
  npuGroups := ⟨∅, false⟩

theorem fibSample_fresh : FibFresh fibSample := by
  refine ⟨rfl, rfl, rfl, rfl, rfl, rfl, rfl, rfl, rfl, rfl, rfl, ?_, ?_⟩
  · intro portId
    simp only [fibSample, get_put, get_empty]
    split <;> simp only [ne_eq, Option.some.injEq, reduceCtorEq, not_false_eq_true]
  · intro lagId lag stored
    simp only [fibSample, get_put, get_empty] at stored
    split at stored
    · cases Option.some.inj stored
      exact ⟨rfl, rfl⟩
    · cases stored

def fibSampleStep (s : FibState) (call : FibCall) : FibState := (call.run fibSamplePlatform s).1

def fibSampleVrf : FibCall :=
  .virtualRouterCreate ⟨true, true, .forward, .forward⟩ [] ⟨true, fun _ => .success, .success, 1, true, true⟩

def fibSampleRif (attachment : List RifAttr) (mac : Mac) (npuObjectId : Nat) : FibCall :=
  .routerInterfaceCreate ⟨true, true, 1500, .forward⟩
    (.virtualRouterId ⟨.virtualRouter, 1⟩ :: .srcMacAddress mac :: attachment)
    ⟨true, fun _ => true, fun _ => .success, .success, npuObjectId, true⟩

def fibSampleNextHop (addr : BitVec 32) (npuObjectId : Nat) : FibCall :=
  .nextHopCreate [.type .ip, .ip (.v4 addr), .routerInterfaceId ⟨.routerInterface, 1⟩]
    ⟨⟨true, true⟩, .success, npuObjectId, true, .success⟩

def fibSampleGroup (lists : List (List ObjectId)) (npu : SaiStatus) : FibCall :=
  .nextHopGroupCreate (.type .ecmp :: lists.map .nextHopList) ⟨some 0, true⟩
    ⟨fun _ => ⟨fun _ => true, fun _ => true⟩, npu, 1, true⟩

def fibSampleRun : List FibCall :=
  [fibSampleVrf, fibSampleRif [.type .port, .portId ⟨.port, 1⟩] 7 1, fibSampleNextHop 10 1,
    fibSampleGroup [[⟨.nextHop, 1⟩, ⟨.nextHop, 1⟩]] .success,
    .routeCreate ⟨⟨.virtualRouter, 1⟩, .v4 0 0xffffff00⟩ [.nextHopId ⟨.nextHopGroup, 1⟩]
      ⟨true, .error .failure, .success, true⟩]

theorem fibSampleRun_reach : Runs.Reach FibFresh (fibStep fibSamplePlatform fun _ _ => True)
    (fibSampleRun.foldl fibSampleStep fibSample) :=
  Runs.Reach.run (.start fibSample_fresh) (Runs.allowedRun_of_forall (fun _ _ => trivial) _ _)

theorem refCounts_exact_sample : RefCountsExact (fibSampleRun.foldl fibSampleStep fibSample) ∧
    ∃ group, (fibSampleRun.foldl fibSampleStep fibSample).groups.get 0 = some group ∧ group.refCount = 1 :=
  ⟨(refCounts_exact fibSampleRun_reach).1, _, rfl, by decide⟩

theorem fibRemoves_exact_sample :
    (fibVirtualRouterRemove (fibSampleRun.foldl fibSampleStep fibSample)
      ⟨.virtualRouter, 1⟩ .success).2 ≠ .success :=
  fun removed => (((fibRemoves_exact fibSampleRun_reach).1 _).mp removed).2.2.1 ⟨.routerInterface, 1⟩ _ rfl rfl

end Sample
end SaiCommon
