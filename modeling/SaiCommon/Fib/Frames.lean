import SaiCommon.Fib.NeighborConsistent
import SaiCommon.Fib.RouterInterfaceConsistent
import SaiCommon.Fib.NextHopGroupConsistent
import SaiCommon.Fib.RouteConsistent

namespace SaiCommon

variable {s t u : FibState} {group : GroupPtr} {p : Platform}

def FibNodesOnly (s t : FibState) : Prop :=
  ∃ nhTree nhIdTree rifs macTree fault, t = { s with
    nhTree := nhTree, nhIdTree := nhIdTree, routerInterfaceTree := rifs
    neighborMacTree := macTree, unlinkFault := fault }

def FibInterfacesOnly (s t : FibState) : Prop :=
  ∃ vrfTree vrfs maxPaths rifs ports lags, t = { s with
    vrfTree := vrfTree, numVirtualRouters := vrfs, maxEcmpPaths := maxPaths
    routerInterfaceTree := rifs, portTree := ports, lagTree := lags }

/-- A step of the next-hop-group code, which leaves the next hops apart from
their links. -/
structure FibGroupsOnly (s t : FibState) : Prop where
  frame : ∃ nhTree groups groupTree npuGroups, t = { s with
    nhTree := nhTree, groups := groups, nhGroupTree := groupTree, npuGroups := npuGroups }
  nhs : ∀ ref, (t.nhTree.get ref).map Nh.unlisted = (s.nhTree.get ref).map Nh.unlisted

def FibRoutesOnly (s t : FibState) : Prop :=
  ∃ u routeTree, FibCountsOnly s u ∧ t = { u with routeTree := routeTree }

section Nodes

theorem FibNodesOnly.refl (s : FibState) : FibNodesOnly s s :=
  ⟨s.nhTree, s.nhIdTree, s.routerInterfaceTree, s.neighborMacTree, s.unlinkFault, rfl⟩

theorem FibNodesOnly.trans (first : FibNodesOnly s t) (second : FibNodesOnly t u) : FibNodesOnly s u := by
  obtain ⟨_, _, _, _, _, rfl⟩ := first
  obtain ⟨nhTree, nhIdTree, rifs, macTree, fault, rfl⟩ := second
  exact ⟨nhTree, nhIdTree, rifs, macTree, fault, rfl⟩

theorem nodesOnly_modifyNh (s : FibState) (ref : NhRef) (f : Nh → Nh) : FibNodesOnly s (s.modifyNh ref f) :=
  ⟨_, s.nhIdTree, s.routerInterfaceTree, s.neighborMacTree, s.unlinkFault, rfl⟩

theorem nodesOnly_nodeCreate {info : NhInfo} {env : NhNodeEnv}
    (run : fibIpNextHopNodeCreate s info env = .ok t) : FibNodesOnly s t := by
  obtain ⟨_, _, rfl⟩ := fibIpNextHopNodeCreate_cases run
  exact ⟨_, s.nhIdTree, _, s.neighborMacTree, s.unlinkFault, rfl⟩

section
variable (s : FibState)

theorem nodesOnly_checkAndDelete (ref : NhRef) : FibNodesOnly s (fibCheckAndDeleteIpNextHopNode s ref).1 := by
  rcases fibCheckAndDeleteIpNextHopNode_cases s ref with same | ⟨_, _, _, gone⟩
  · rw [same]
    exact .refl s
  · rw [gone]
    exact ⟨_, s.nhIdTree, _, s.neighborMacTree, s.unlinkFault, rfl⟩

theorem nodesOnly_release (ref : NhRef) (f : Nh → Nh) :
    FibNodesOnly s (fibCheckAndDeleteIpNextHopNode (s.modifyNh ref f) ref).1 :=
  (nodesOnly_modifyNh s ref f).trans (nodesOnly_checkAndDelete _ ref)

theorem nodesOnly_own (ref : NhRef) (env : NextHopCreateEnv) : FibNodesOnly s (fibIpNextHopOwn s ref env).1 := by
  have owned := nodesOnly_modifyNh s ref Nh.setOwnerNextHop
  unfold fibIpNextHopOwn
  simp only
  split
  · exact owned.trans (nodesOnly_modifyNh _ ref _)
  · exact owned.trans (nodesOnly_release _ ref _)

theorem nodesOnly_ipNextHopCreate (info : NhInfo) (env : NextHopCreateEnv) :
    FibNodesOnly s (fibIpNextHopCreate s info env).1 := by
  unfold fibIpNextHopCreate
  split
  · split
    · exact .refl s
    · exact nodesOnly_own s _ env
  · split
    · exact .refl s
    · rename_i t created
      exact (nodesOnly_nodeCreate created).trans (nodesOnly_own t _ env)

theorem nodesOnly_ipNextHopRemove (ref : NhRef) (npu : SaiStatus) :
    FibNodesOnly s (fibIpNextHopRemove s ref npu).1 := by
  unfold fibIpNextHopRemove
  split
  · exact .refl s
  split
  · exact nodesOnly_release s ref _
  · exact .refl s

theorem nodesOnly_insertNhId (ref : NhRef) (idTreeOk : Bool) :
    FibNodesOnly s (fibInsertNhNodeInNhIdDatabase s ref idTreeOk).1 := by
  unfold fibInsertNhNodeInNhIdDatabase
  split
  · exact ⟨s.nhTree, _, s.routerInterfaceTree, s.neighborMacTree, s.unlinkFault, rfl⟩
  · exact .refl s

theorem nodesOnly_nextHopCreate (attrs : List NextHopAttr) (env : NextHopCreateEnv) :
    FibNodesOnly s (fibNextHopCreate p s attrs env).1 := by
  unfold fibNextHopCreate
  split
  · exact .refl s
  rename_i info _
  split
  · have created := nodesOnly_ipNextHopCreate s info env
    split
    · rename_i failed
      rw [failed] at created
      exact created
    rename_i t ref made
    rw [made] at created
    have inserted := created.trans (nodesOnly_insertNhId t ref env.idTreeOk)
    split
    · rename_i done
      rw [done] at inserted
      exact inserted
    · rename_i u error _ refused
      rw [refused] at inserted
      exact inserted.trans (nodesOnly_ipNextHopRemove u ref env.npuRemove)
  · exact .refl s

theorem nodesOnly_nextHopRemove (nextHopId : ObjectId) (npu : SaiStatus) (idTreeOk : Bool) :
    FibNodesOnly s (fibNextHopRemove s nextHopId npu idTreeOk).1 := by
  unfold fibNextHopRemove
  split
  · exact .refl s
  split
  · exact .refl s
  rename_i ref _
  split
  · exact .refl s
  split
  · exact .refl s
  have removed : FibNodesOnly s (fibRemoveNhNodeFromNhIdDatabase s ref).1 := by
    rw [fibRemoveNhNodeFromNhIdDatabase_eq]
    exact ⟨s.nhTree, _, s.routerInterfaceTree, s.neighborMacTree, s.unlinkFault, rfl⟩
  split
  · rename_i t done
    rw [done] at removed
    have freed : FibNodesOnly t (fibNextHopRemoveByType t ref npu).1 := by
      unfold fibNextHopRemoveByType
      split
      · exact nodesOnly_ipNextHopRemove t ref npu
      · exact .refl t
    split
    · rename_i u done
      rw [done] at freed
      exact removed.trans freed
    · rename_i u error _ failed
      rw [failed] at freed
      exact (removed.trans freed).trans (nodesOnly_insertNhId u ref idTreeOk)
  · rename_i t error _ failed
    rw [failed] at removed
    exact removed

theorem nodesOnly_macEntryRemove (ref : NhRef) : FibNodesOnly s (fibNeighborMacEntryRemove s ref).1 := by
  obtain ⟨tree, fault, same⟩ := fibNeighborMacEntryRemove_eq s ref
  rw [same]
  exact ⟨s.nhTree, s.nhIdTree, s.routerInterfaceTree, tree, fault, rfl⟩

theorem nodesOnly_macEntryInsert (ref : NhRef) (env : MacEntryEnv) :
    FibNodesOnly s (fibNeighborMacEntryInsert s ref env).1 := by
  obtain ⟨tree, fault, same⟩ := fibNeighborMacEntryInsert_eq s ref env
  rw [same]
  exact ⟨s.nhTree, s.nhIdTree, s.routerInterfaceTree, tree, fault, rfl⟩

theorem nodesOnly_neighborLink (ref : NhRef) (env : NeighborEnv) :
    FibNodesOnly s (fibNeighborLink s ref env).1 := by
  unfold fibNeighborLink
  split
  · exact .refl s
  rename_i portId _
  have linked := (nodesOnly_modifyNh s ref fun node => { node with portId := portId }).trans
    (nodesOnly_macEntryInsert _ ref env.macEntry)
  simp only
  split
  · rename_i t done
    rw [done] at linked
    exact linked
  · rename_i t error _ failed
    rw [failed] at linked
    exact linked

theorem nodesOnly_neighborNodeCreate (info : NhInfo) (env : NhNodeEnv) :
    FibNodesOnly s (fibNeighborNodeCreate s info env).1 := by
  unfold fibNeighborNodeCreate
  split
  · split
    · exact .refl s
    · exact (nodesOnly_modifyNh s _ _).trans (nodesOnly_modifyNh _ _ _)
  · split
    · exact .refl s
    · rename_i t created
      exact (nodesOnly_nodeCreate created).trans (nodesOnly_modifyNh t _ _)

theorem nodesOnly_neighborCreate (entry : NeighborEntry) (attrs : List NeighborAttr)
    (nodeEnv : NhNodeEnv) (env : NeighborEnv) :
    FibNodesOnly s (fibNeighborCreate p s entry attrs nodeEnv env).1 := by
  unfold fibNeighborCreate
  split
  · exact .refl s
  rename_i ref _
  split
  · exact .refl s
  rename_i node _
  have created := nodesOnly_neighborNodeCreate s ⟨ref, node⟩ nodeEnv
  split
  · rename_i failed
    rw [failed] at created
    exact created
  rename_i t found made
  rw [made] at created
  have linked := created.trans (nodesOnly_neighborLink t found env)
  split
  · rename_i done
    rw [done] at linked
    exact linked
  · rename_i u error _ failed
    rw [failed] at linked
    exact linked.trans ((nodesOnly_macEntryRemove u found).trans (nodesOnly_release _ found _))

theorem nodesOnly_neighborRemove (entry : NeighborEntry) (macEntry : MacEntryEnv)
    (npu : SaiStatus) : FibNodesOnly s (fibNeighborRemove p s entry macEntry npu).1 := by
  unfold fibNeighborRemove
  split
  · exact .refl s
  rename_i ref _
  split
  · exact .refl s
  have unlinked := nodesOnly_macEntryRemove s ref
  split
  · rename_i t done
    rw [done] at unlinked
    have reset := unlinked.trans (nodesOnly_modifyNh t ref fibNeighborInfoReset)
    simp only
    split
    · exact reset.trans (nodesOnly_checkAndDelete _ ref)
    · refine (reset.trans ?_).trans (nodesOnly_macEntryInsert _ ref macEntry)
      exact ⟨_, t.nhIdTree, t.routerInterfaceTree, t.neighborMacTree, t.unlinkFault, rfl⟩
  · rename_i t error _ failed
    rw [failed] at unlinked
    exact unlinked

theorem nodesOnly_neighborAttributeSet (entry : NeighborEntry) (attr : NeighborAttr)
    (env : NeighborEnv) : FibNodesOnly s (fibNeighborAttributeSet p s entry attr env).1 := by
  unfold fibNeighborAttributeSet
  split
  · exact .refl s
  rename_i ref _
  split
  · exact .refl s
  split
  · exact .refl s
  split
  · split
    · exact .refl s
    split
    · have unlinked := nodesOnly_macEntryRemove s ref
      simp only
      generalize (fibNeighborMacEntryRemove s ref).1 = t at unlinked
      refine (unlinked.trans ?_).trans (nodesOnly_macEntryInsert _ ref env.macEntry)
      exact ⟨_, t.nhIdTree, t.routerInterfaceTree, t.neighborMacTree, t.unlinkFault, rfl⟩
    · exact .refl s
  · split
    · exact ⟨_, s.nhIdTree, s.routerInterfaceTree, s.neighborMacTree, s.unlinkFault, rfl⟩
    · exact .refl s

end

theorem nodesOnly_portIdLoop (portId : ObjectId) (npu : NhRef → SaiStatus) (neighborList : List NhRef) :
    ∀ s, FibNodesOnly s (fibNeighborPortIdLoop portId npu s neighborList) := by
  induction neighborList with
  | nil => exact .refl
  | cons ref rest ih =>
    intro s
    unfold fibNeighborPortIdLoop
    split
    · exact ih s
    split
    · exact ih s
    split
    · exact (nodesOnly_modifyNh s ref _).trans (ih _)
    · exact ih s

theorem nodesOnly_portIdSet (s : FibState) (fdbEntry : NeighborMacKey) (portId : ObjectId)
    (npu : NhRef → SaiStatus) : FibNodesOnly s (fibNeighborPortIdSet s fdbEntry portId npu) := by
  unfold fibNeighborPortIdSet
  split
  · exact .refl s
  split
  · exact .refl s
  · exact nodesOnly_portIdLoop portId npu _ s

theorem nodesOnly_fdbCallback (npu : NhRef → SaiStatus) (updates : List FdbNotification) :
    ∀ s portId, FibNodesOnly s (neighborFdbCallback npu s portId updates) := by
  induction updates with
  | nil => exact fun s portId => .refl s
  | cons upd rest ih =>
    intro s portId
    unfold neighborFdbCallback
    exact (nodesOnly_portIdSet s _ _ npu).trans (ih _ _)

end Nodes

section Interfaces

theorem FibInterfacesOnly.refl (s : FibState) : FibInterfacesOnly s s :=
  ⟨s.vrfTree, s.numVirtualRouters, s.maxEcmpPaths, s.routerInterfaceTree, s.portTree, s.lagTree, rfl⟩

theorem FibInterfacesOnly.trans (first : FibInterfacesOnly s t) (second : FibInterfacesOnly t u) :
    FibInterfacesOnly s u := by
  obtain ⟨_, _, _, _, _, _, rfl⟩ := first
  obtain ⟨vrfTree, vrfs, maxPaths, rifs, ports, lags, rfl⟩ := second
  exact ⟨vrfTree, vrfs, maxPaths, rifs, ports, lags, rfl⟩

theorem FibPortsOnly.interfaces (only : FibPortsOnly s t) : FibInterfacesOnly s t := by
  obtain ⟨ports, lags, rfl⟩ := only
  exact ⟨s.vrfTree, s.numVirtualRouters, s.maxEcmpPaths, s.routerInterfaceTree, ports, lags, rfl⟩

section
variable (s : FibState)

theorem interfacesOnly_virtualRouterCreate (defaults : VrfDefaults) (attrs : List VrfAttr)
    (env : VrfCreateEnv) : FibInterfacesOnly s (fibVirtualRouterCreate p s defaults attrs env).1 := by
  unfold fibVirtualRouterCreate
  split
  · exact .refl s
  split
  · exact .refl s
  split
  · exact .refl s
  split
  · simp only
    split
    · exact .refl s
    split
    · exact ⟨_, _, s.maxEcmpPaths, s.routerInterfaceTree, s.portTree, s.lagTree, rfl⟩
    · exact .refl s
  · exact .refl s

theorem interfacesOnly_virtualRouterRemove (vrId : ObjectId) (npu : SaiStatus) :
    FibInterfacesOnly s (fibVirtualRouterRemove s vrId npu).1 := by
  unfold fibVirtualRouterRemove
  split
  · exact .refl s
  split
  · exact .refl s
  split
  · exact .refl s
  split
  · exact .refl s
  split
  · exact .refl s
  split
  · exact ⟨_, _, s.maxEcmpPaths, s.routerInterfaceTree, s.portTree, s.lagTree, rfl⟩
  · exact .refl s

theorem interfacesOnly_virtualRouterAttributeSet (vrId : ObjectId) (attr : VrfAttr) (validate npu : SaiStatus) :
    FibInterfacesOnly s (fibVirtualRouterAttributeSet p s vrId attr validate npu).1 := by
  unfold fibVirtualRouterAttributeSet
  split
  · exact .refl s
  split
  · exact .refl s
  split
  · exact .refl s
  split
  · exact ⟨_, s.numVirtualRouters, s.maxEcmpPaths, s.routerInterfaceTree, s.portTree, s.lagTree, rfl⟩
  · exact .refl s

theorem interfacesOnly_ecmpMaxPathsSet (maxPaths : BitVec 32) (npu : SaiStatus) :
    FibInterfacesOnly s (routerEcmpMaxPathsSet s maxPaths npu).1 := by
  unfold routerEcmpMaxPathsSet
  split
  · exact ⟨s.vrfTree, s.numVirtualRouters, _, s.routerInterfaceTree, s.portTree, s.lagTree, rfl⟩
  · exact .refl s

theorem interfacesOnly_routerInterfaceCreate (defaults : RifDefaults) (attrs : List RifAttr)
    (env : RifCreateEnv) : FibInterfacesOnly s (fibRouterInterfaceCreate p s defaults attrs env).1 := by
  rcases fibRouterInterfaceCreate_ends p s defaults attrs env with same | ⟨rif, set, rfl, ends⟩
  · rw [same]
    exact .refl s
  have begun := (fibRifRoutingConfigUpdate_ports s rif true).interfaces
  rcases ends with same | same | ⟨_, node, rifId, t, _, _, _, rfl, same⟩
  · rwa [same]
  · rw [same]
    exact begun.trans (fibRifRoutingConfigUpdate_ports _ rif false).interfaces
  · rw [same]
    generalize (fibRifRoutingConfigUpdate s rif true).1 = set at begun
    have stored := fun vrfs rifs => begun.trans
      ⟨vrfs, set.numVirtualRouters, set.maxEcmpPaths, rifs, set.portTree, set.lagTree, rfl⟩
    split
    · exact (stored _ _).trans (lagUpdateRifId_ports _ _ _).interfaces
    · exact stored _ _

theorem interfacesOnly_routerInterfaceRemove (rifId : ObjectId) (npu : SaiStatus) :
    FibInterfacesOnly s (fibRouterInterfaceRemove s rifId npu).1 := by
  unfold fibRouterInterfaceRemove
  split
  · exact .refl s
  split
  · exact .refl s
  rename_i rif _
  split
  · exact .refl s
  split
  · have listed : FibInterfacesOnly s (fibVrfRifListUpdate s rif.vrfId false).1 := by
      unfold fibVrfRifListUpdate
      split
      · exact .refl s
      · exact ⟨_, s.numVirtualRouters, s.maxEcmpPaths, s.routerInterfaceTree, s.portTree, s.lagTree, rfl⟩
    simp only
    generalize (fibVrfRifListUpdate s rif.vrfId false).1 = t at listed
    have removed : FibInterfacesOnly s { t with routerInterfaceTree := t.routerInterfaceTree.del rifId } :=
      listed.trans ⟨t.vrfTree, t.numVirtualRouters, t.maxEcmpPaths, _, t.portTree, t.lagTree, rfl⟩
    have reset := removed.trans (fibRifRoutingConfigUpdate_ports _ rif false).interfaces
    split
    · exact reset.trans (lagUpdateRifId_ports _ _ _).interfaces
    · exact reset
  · exact .refl s

theorem interfacesOnly_routerInterfaceAttributeSet (rifId : ObjectId) (attr : RifAttr) (validate npu : SaiStatus) :
    FibInterfacesOnly s (fibRouterInterfaceAttributeSet s rifId attr validate npu).1 := by
  unfold fibRouterInterfaceAttributeSet
  split
  · exact .refl s
  split
  · exact .refl s
  split
  · exact .refl s
  split
  · split
    · exact .refl s
    split
    · exact .refl s
    split
    · exact ⟨s.vrfTree, s.numVirtualRouters, s.maxEcmpPaths, _, s.portTree, s.lagTree, rfl⟩
    · exact .refl s
  · exact .refl s

end

end Interfaces

def Nh.withoutGroup (group : GroupPtr) (node : Nh) : Nh := { node with nhGroupList := node.nhGroupList.without group }

/-- A step that works on one group: its links at the next hops may change, and
the group itself. -/
structure NhGroupEdited (group : GroupPtr) (s t : FibState) : Prop where
  frame : ∃ nhTree groups, t = { s with nhTree := nhTree, groups := groups }
  nhs : ∀ ref, (t.nhTree.get ref).map (Nh.withoutGroup group) = (s.nhTree.get ref).map (Nh.withoutGroup group)
  others : ∀ other, other ≠ group → t.groups.get other = s.groups.get other

section Edited

theorem NhGroupEdited.refl (s : FibState) : NhGroupEdited group s s :=
  ⟨⟨s.nhTree, s.groups, rfl⟩, fun _ => rfl, fun _ _ => rfl⟩

theorem NhGroupEdited.trans (first : NhGroupEdited group s t) (second : NhGroupEdited group t u) :
    NhGroupEdited group s u := by
  refine ⟨?_, fun ref => (second.nhs ref).trans (first.nhs ref), fun other apart =>
    (second.others other apart).trans (first.others other apart)⟩
  obtain ⟨_, _, rfl⟩ := first.frame
  obtain ⟨nhTree, groups, rfl⟩ := second.frame
  exact ⟨nhTree, groups, rfl⟩

theorem nhGroupEdited_modifyNh (s : FibState) (ref : NhRef) {f : Nh → Nh}
    (keep : ∀ node, (f node).withoutGroup group = node.withoutGroup group) :
    NhGroupEdited group s (s.modifyNh ref f) :=
  ⟨⟨_, s.groups, rfl⟩, KeyTree.map_get_modify keep, fun _ _ => rfl⟩

theorem nhGroupEdited_modifyGroup (s : FibState) (f : NhGroup → NhGroup) :
    NhGroupEdited group s (s.modifyGroup group f) :=
  ⟨⟨s.nhTree, _, rfl⟩, fun _ => rfl, fun _ apart => KeyTree.get_modify_ne apart⟩

/-- New links of a next hop that only the group's own entry tells from the old
ones. -/
theorem nhGroupEdited_relist (s : FibState) (ref : NhRef) {f : WtList GroupPtr → WtList GroupPtr}
    (keep : ∀ list, (f list).without group = list.without group) :
    NhGroupEdited group s (s.modifyNh ref fun node => { node with nhGroupList := f node.nhGroupList }) := by
  refine nhGroupEdited_modifyNh s ref fun node => ?_
  rw [Nh.withoutGroup, Nh.withoutGroup, keep]

theorem fibAddLinkNode_without {list next : WtList GroupPtr} {allocOk : Bool}
    (run : fibAddLinkNode list group allocOk = some next) : next.without group = list.without group := by
  unfold fibAddLinkNode at run
  split at run
  · cases run
    exact WtList.without_incr
  split at run
  · cases run
    exact WtList.without_append
  · cases run

theorem nhGroupEdited_addGroupLink {ref : NhRef} {allocOk : Bool}
    (run : fibNhAddGroupLinkNode s ref group allocOk = some t) : NhGroupEdited group s t := by
  obtain ⟨links, added, rfl⟩ := fibNhAddGroupLinkNode_some run
  refine ⟨⟨_, s.groups, rfl⟩, fun other => ?_, fun _ _ => rfl⟩
  have here : (s.modifyNh ref fun node => { node with nhGroupList := links }).nhTree.get other =
      if other = ref then (s.nhTree.get other).map fun node => { node with nhGroupList := links }
      else s.nhTree.get other := KeyTree.get_modify s.nhTree ref _ other
  rw [here]
  split
  · rename_i this
    rw [this]
    cases found : s.nhTree.get ref with
    | none => rfl
    | some node =>
      rw [nhGroupLinks, found] at added
      have same := fibAddLinkNode_without added
      simp only [Option.map_some, Nh.withoutGroup, same]
  · rfl

theorem nhGroupEdited_addLoop (group : GroupPtr) (env : NhLinkEnv) (nextHops : List NhRef) : ∀ s nhIndex,
    NhGroupEdited group s (fibNhGroupAddLoop group env s nhIndex nextHops).1 := by
  induction nextHops with
  | nil => exact fun s _ => .refl s
  | cons ref rest ih =>
    intro s nhIndex
    unfold fibNhGroupAddLoop
    split
    · exact .refl s
    rename_i linked first
    have begun := nhGroupEdited_addGroupLink first
    split
    · exact begun.trans (nhGroupEdited_relist linked ref fun _ => WtList.without_decr)
    rename_i both second
    obtain ⟨nhs, _, _, rfl⟩ := fibNhGroupAddNhLinkNode_some second
    exact ((begun.trans (nhGroupEdited_modifyGroup _ _)).trans (nhGroupEdited_modifyGroup _ _)).trans (ih _ _)

theorem nhGroupEdited_removePair (s : FibState) (ref : NhRef) :
    NhGroupEdited group s (fibNhGroupRemovePair s group ref) := by
  unfold fibNhGroupRemovePair
  rw [fibNhFindAndRemoveGroupNode_eq, fibNhGroupFindAndRemoveNhNode_eq]
  have unlinked : NhGroupEdited group s (if (nhGroupLinks s ref).has group = true then
      fibNhRemoveGroupLinkNode s ref group else s) := by
    split
    · exact nhGroupEdited_relist s ref fun _ => WtList.without_decr
    · exact .refl s
  generalize (if (nhGroupLinks s ref).has group = true then fibNhRemoveGroupLinkNode s ref group else s) = t
    at unlinked
  split
  · exact (unlinked.trans (nhGroupEdited_modifyGroup _ _)).trans (nhGroupEdited_modifyGroup _ _)
  · exact unlinked

theorem nhGroupEdited_removeFromLists (nextHops : List NhRef) : ∀ s,
    NhGroupEdited group s (fibNhGroupRemoveFromLists s group nextHops) := by
  induction nextHops with
  | nil => exact .refl
  | cons ref rest ih => exact fun s => (nhGroupEdited_removePair s ref).trans (ih _)

theorem nhGroupEdited_addInLists (s : FibState) (nextHops : List NhRef) (env : NhLinkEnv) :
    NhGroupEdited group s (fibNhGroupAddInLists s group nextHops env).1 := by
  have loop := nhGroupEdited_addLoop group env nextHops s 0
  unfold fibNhGroupAddInLists
  simp only
  split
  · exact loop.trans (nhGroupEdited_removeFromLists _ _)
  · exact loop

theorem nhGroupEdited_dropPair (s : FibState) (ref : NhRef) :
    NhGroupEdited group s (fibNhGroupDropPair s group ref) := by
  unfold fibNhGroupDropPair
  refine (nhGroupEdited_modifyGroup s _).trans (nhGroupEdited_modifyNh _ ref fun node => ?_)
  split
  · rw [Nh.withoutGroup, Nh.withoutGroup, WtList.without_decr, WtList.without_setWeight]
  · rfl

theorem nhGroupEdited_empty (s : FibState) : NhGroupEdited group s (fibNhGroupEmpty s group) := by
  have loop : ∀ nextHops s, NhGroupEdited group s (fibNhGroupRemoveAllLoop s group nextHops) := by
    intro nextHops
    induction nextHops with
    | nil => exact .refl
    | cons ref rest ih => exact fun s => (nhGroupEdited_dropPair s ref).trans (ih _)
  unfold fibNhGroupEmpty
  split
  · unfold fibNhGroupRemoveAllNh
    split
    · exact .refl s
    · exact (loop _ s).trans (nhGroupEdited_modifyGroup _ _)
  · exact .refl s

theorem nhGroupEdited_attrSet (group : GroupPtr) (s : FibState) (array : NhArray) (env : NhLinkEnv)
    (attr : NhGroupAttr) :
    NhGroupEdited group s (fibNextHopGroupAttrSet s group array env attr).1 := by
  cases attr with
  | type groupType =>
    simp only [fibNextHopGroupAttrSet, fibNextHopGroupTypeSet]
    split
    · exact nhGroupEdited_modifyGroup s _
    · exact .refl s
  | nextHopList nextHopIds =>
    simp only [fibNextHopGroupAttrSet, fibNextHopGroupNextHopListSet]
    split
    · exact .refl s
    split
    · exact .refl s
    split
    · exact nhGroupEdited_addInLists s _ _
    · exact .refl s
  | nextHopCount => exact .refl s
  | other => exact .refl s

theorem nhGroupEdited_infoLoop (group : GroupPtr) (env : Nat → NhLinkEnv) (attrs : List NhGroupAttr) :
    ∀ s array attrIndex, NhGroupEdited group s (fibNextHopGroupInfoLoop group env s array attrIndex attrs).1 := by
  induction attrs with
  | nil => exact fun s _ _ => .refl s
  | cons attr rest ih =>
    intro s array attrIndex
    have set := nhGroupEdited_attrSet group s array (env attrIndex) attr
    unfold fibNextHopGroupInfoLoop
    split
    · rename_i t next done
      rw [done] at set
      exact set.trans (ih t next _)
    · rename_i t next error _ failed
      rw [failed] at set
      exact set

theorem nhGroupEdited_infoFill (group : GroupPtr) (s : FibState) (attrs : List NhGroupAttr) (array : NhArray)
    (env : Nat → NhLinkEnv) : NhGroupEdited group s (fibNextHopGroupInfoFill s group attrs array env).1 := by
  unfold fibNextHopGroupInfoFill
  split
  · exact .refl s
  have loop := nhGroupEdited_infoLoop group env attrs s array 0
  split
  · rename_i t next done
    rw [done] at loop
    split
    · exact loop
    · exact loop
  · rename_i t next error _ failed
    rw [failed] at loop
    exact loop

end Edited

section Groups

theorem FibGroupsOnly.refl (s : FibState) : FibGroupsOnly s s :=
  ⟨⟨s.nhTree, s.groups, s.nhGroupTree, s.npuGroups, rfl⟩, fun _ => rfl⟩

theorem FibGroupsOnly.trans (first : FibGroupsOnly s t) (second : FibGroupsOnly t u) : FibGroupsOnly s u := by
  refine ⟨?_, fun ref => (second.nhs ref).trans (first.nhs ref)⟩
  obtain ⟨_, _, _, _, rfl⟩ := first.frame
  obtain ⟨nhTree, groups, groupTree, npuGroups, rfl⟩ := second.frame
  exact ⟨nhTree, groups, groupTree, npuGroups, rfl⟩

theorem NhGroupEdited.groupsOnly (edited : NhGroupEdited group s t) : FibGroupsOnly s t := by
  refine ⟨?_, fun ref => ?_⟩
  · obtain ⟨nhTree, groups, rfl⟩ := edited.frame
    exact ⟨nhTree, groups, s.nhGroupTree, s.npuGroups, rfl⟩
  · have same := congrArg (Option.map Nh.unlisted) (edited.nhs ref)
    rwa [Option.map_map, Option.map_map] at same

theorem groupsOnly_mk (s : FibState) (groups : KeyTree GroupPtr NhGroup) (groupTree : KeyTree ObjectId GroupPtr)
    (npuGroups : NpuNhGroups) :
    FibGroupsOnly s { s with groups := groups, nhGroupTree := groupTree, npuGroups := npuGroups } :=
  ⟨⟨s.nhTree, groups, groupTree, npuGroups, rfl⟩, fun _ => rfl⟩

theorem groupsOnly_modifyGroup (s : FibState) (group : GroupPtr) (f : NhGroup → NhGroup) :
    FibGroupsOnly s (s.modifyGroup group f) := groupsOnly_mk s _ _ _

theorem groupsOnly_discard (s : FibState) (group : GroupPtr) :
    FibGroupsOnly s (fibNhGroupNodeFree (fibNhGroupEmpty s group) group) :=
  (nhGroupEdited_empty s).groupsOnly.trans (groupsOnly_mk _ _ _ _)

section
variable (s : FibState)

theorem groupsOnly_createLocked (group : GroupPtr) (array : NhArray) (attrs : List NhGroupAttr)
    (env : NhGroupCreateEnv) : FibGroupsOnly s (fibNextHopGroupCreateLocked s group array attrs env).1 := by
  have filled := (groupsOnly_mk s (s.groups.put group fibNhGroupNodeInit) s.nhGroupTree s.npuGroups).trans
    (nhGroupEdited_infoFill group _ attrs array env.links).groupsOnly
  unfold fibNextHopGroupCreateLocked
  simp only
  split
  · rename_i t next done
    rw [done] at filled
    have called : FibGroupsOnly s (npuNhGroupCreate t group (fibNhGroupCount t group) next env.npu).1 :=
      filled.trans (groupsOnly_mk t _ _ _)
    split
    · have named := called.trans (groupsOnly_modifyGroup _ group fun node =>
        { node with groupId := ⟨.nextHopGroup, env.npuObjectId⟩ })
      split
      · exact named.trans (groupsOnly_mk _ _ _ _)
      · exact named.trans (groupsOnly_mk _ _ _ _)
    · exact called.trans (groupsOnly_discard _ group)
  · rename_i t next error _ failed
    rw [failed] at filled
    exact filled.trans (groupsOnly_discard _ group)

theorem groupsOnly_create (attrs : List NhGroupAttr) (alloc : NhGroupAllocEnv)
    (env : NhGroupCreateEnv) : FibGroupsOnly s (fibNextHopGroupCreate s attrs alloc env).1 := by
  unfold fibNextHopGroupCreate
  split
  · exact .refl s
  split
  · exact .refl s
  · exact groupsOnly_createLocked s _ _ attrs env

theorem groupsOnly_remove (groupId : ObjectId) (npu : SaiStatus) :
    FibGroupsOnly s (fibNextHopGroupRemove s groupId npu).1 := by
  unfold fibNextHopGroupRemove
  split
  · exact .refl s
  split
  · exact .refl s
  rename_i group _
  split
  · exact .refl s
  split
  · exact .refl s
  split
  · have emptied := (groupsOnly_mk s _ _ _).trans (@nhGroupEdited_empty group (npuNhGroupRemove s group)).groupsOnly
    exact (emptied.trans (groupsOnly_mk _ _ _ _)).trans (groupsOnly_mk _ _ _ _)
  · exact .refl s

theorem groupsOnly_npuAdd (group : GroupPtr) (nextHops : List NhRef) (npu : SaiStatus) :
    FibGroupsOnly s (npuAddNhToGroup s group nextHops npu) := by
  obtain ⟨npuGroups, same⟩ := npuAddNhToGroup_eq s group nextHops npu
  rw [same]
  exact groupsOnly_mk s _ _ _

theorem groupsOnly_addLocked (groupId : ObjectId) (nextHopIds : List ObjectId) (array : NhArray)
    (env : NhGroupAddEnv) : FibGroupsOnly s (fibNextHopAddToGroupLocked s groupId nextHopIds array env).1 := by
  unfold fibNextHopAddToGroupLocked
  split
  · exact .refl s
  rename_i group _
  split
  · exact .refl s
  split
  · exact .refl s
  split
  · rename_i filled _
    have added := (@nhGroupEdited_addInLists group s (filled.nodes.take nextHopIds.length) env.links).groupsOnly
    simp only
    split
    · rename_i t done
      rw [done] at added
      have called := added.trans (groupsOnly_npuAdd t group (filled.nodes.take nextHopIds.length) env.npu)
      split
      · exact called
      · exact called.trans (nhGroupEdited_removeFromLists _ _).groupsOnly
    · rename_i t error _ failed
      rw [failed] at added
      exact added
  · exact .refl s

theorem groupsOnly_removeLocked (groupId : ObjectId) (nextHopIds : List ObjectId)
    (array : NhArray) (npu : SaiStatus) :
    FibGroupsOnly s (fibNextHopRemoveFromGroupLocked s groupId nextHopIds array npu).1 := by
  unfold fibNextHopRemoveFromGroupLocked
  split
  · exact .refl s
  rename_i group _
  split
  · exact .refl s
  split
  · rename_i filled _
    have called : FibGroupsOnly s (npuRemoveNhFromGroup s group (filled.nodes.take nextHopIds.length) npu) :=
      groupsOnly_mk s _ _ _
    simp only
    split
    · exact called.trans (nhGroupEdited_removeFromLists _ _).groupsOnly
    · exact called
  · exact .refl s

end

end Groups

section Routes

theorem FibRoutesOnly.refl (s : FibState) : FibRoutesOnly s s := ⟨s, s.routeTree, .refl s, rfl⟩

theorem routesOnly_create (s : FibState) (entry : RouteEntry) (attrs : List RouteAttr) (env : RouteCreateEnv) :
    FibRoutesOnly s (fibRouteCreate p s entry attrs env).1 := by
  unfold fibRouteCreate
  split
  · split
    · exact .refl s
    split
    · exact .refl s
    split
    · exact .refl s
    split
    · exact .refl s
    rename_i route _
    split
    · split
      · exact .refl s
      · exact ⟨fibRouteNhRefCountIncr s route, s.routeTree.put (fibRouteKey p entry) route,
          fibRouteNhRefCountIncr_only s route, fibRouteNhRefCountIncr_put s route _⟩
    · exact .refl s
  · exact .refl s

theorem routesOnly_remove (s : FibState) (entry : RouteEntry) (npu : SaiStatus) :
    FibRoutesOnly s (fibRouteRemove p s entry npu).1 := by
  unfold fibRouteRemove
  split
  · split
    · exact .refl s
    split
    · exact .refl s
    rename_i route _
    split
    · exact ⟨_, _, fibRouteNhRefCountDecr_only s route, rfl⟩
    · exact .refl s
  · exact .refl s

theorem routesOnly_attributeSet (s : FibState) (entry : RouteEntry) (attr : RouteAttr) (env : RouteSetEnv) :
    FibRoutesOnly s (fibRouteAttributeSet p s entry attr env).1 := by
  unfold fibRouteAttributeSet
  split
  · split
    · exact .refl s
    split
    · exact .refl s
    rename_i route _
    split
    · exact .refl s
    rename_i parsed _
    split
    · simp only
      split
      · exact ⟨s, _, .refl s, rfl⟩
      · exact ⟨_, _, (fibRouteNhRefCountDecr_only s route).trans (fibRouteNhRefCountIncr_only _ parsed), rfl⟩
    · exact .refl s
  · exact .refl s

end Routes
end SaiCommon
