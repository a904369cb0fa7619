import SaiCommon.Fib.NextHopGroupFill
import SaiCommon.Fib.NextHopGroupLinks

namespace SaiCommon

open KeyTree

variable {nextHopIds : List ObjectId} {array : NhArray} {groupId : ObjectId}

section Group
variable {s t : FibState} {group : GroupPtr}

theorem FibNames.accepted_owned (names : FibNames s) (node : NhGroup) (isRemove : Bool)
    (nextHopIds : List ObjectId) :
    ∀ ref ∈ fibNextHopAccepted s node isRemove nextHopIds, fibIsOwnerNextHop s ref = true := by
  intro ref member
  obtain ⟨⟨nextHopId, named⟩, _⟩ := fibNextHopAccepted_mem nextHopIds member
  exact names.owned nextHopId ref named

theorem fibQuiet_npuGroups (s : FibState) (npuGroups : NpuNhGroups) :
    FibQuiet s { s with npuGroups := npuGroups } :=
  ⟨fun _ => rfl, fun _ => rfl, fun _ => rfl, rfl, rfl, rfl, rfl⟩

theorem npuAddNhToGroup_eq (s : FibState) (group : GroupPtr) (nextHops : List NhRef) (npu : SaiStatus) :
    ∃ npuGroups, npuAddNhToGroup s group nextHops npu = { s with npuGroups := npuGroups } := by
  unfold npuAddNhToGroup
  split
  · exact ⟨_, rfl⟩
  · exact ⟨s.npuGroups, rfl⟩

section
variable (consistent : FibConsistent s)
include consistent

theorem FibConsistent.added {linked : List NhRef} (added : NhGroupAdded s t group linked) : FibConsistent t :=
  consistent.linksOnly added.only added.members

theorem FibConsistent.addInLists (group : GroupPtr) {nextHops : List NhRef}
    (owned : ∀ ref ∈ nextHops, fibIsOwnerNextHop s ref = true) (env : NhLinkEnv) :
    FibConsistent (fibNhGroupAddInLists s group nextHops env).1 ∧
    FibLinksOnly s (fibNhGroupAddInLists s group nextHops env).1 := by
  rcases fibNhGroupAddInLists_spec group env consistent.members owned with
    ⟨added, _⟩ | ⟨added, _⟩
  · exact ⟨consistent.added added, added.only⟩
  · exact ⟨consistent.added added, added.only⟩

theorem FibConsistent.removeFromLists (group : GroupPtr)
    (nextHops : List NhRef) : FibConsistent (fibNhGroupRemoveFromLists s group nextHops) := by
  obtain ⟨kept, only, _⟩ := FibMembers.removeFromLists group nextHops s consistent.members
  exact consistent.linksOnly only kept

theorem FibConsistent.modifyGroup {f : NhGroup → NhGroup}
    (ids : ∀ node, (f node).groupId = node.groupId) (refs : ∀ node, (f node).refCount = node.refCount)
    (lists : ∀ node, (f node).nhList = node.nhList) (counts : ∀ node, (f node).nhCount = node.nhCount) :
    FibConsistent (s.modifyGroup group f) := by
  refine ⟨consistent.names.congr (fun _ => rfl) (fun _ => rfl) rfl (map_get_modify ids) rfl,
    consistent.counts.congr (fun _ => rfl) (fun _ => rfl) (fun _ => rfl) (fun _ => rfl)
      (map_get_modify refs) rfl rfl,
    consistent.members.congr (fun _ => rfl) (fun _ => rfl) (fun g => ?_) fun g => ?_⟩
  · rw [groupNhLinks_eq, groupNhLinks_eq]
    exact congrArg (Option.getD · []) (map_get_modify lists g)
  · rw [fibNhGroupCount_eq, fibNhGroupCount_eq]
    exact congrArg (Option.getD · 0) (map_get_modify counts g)

end

/-- No id names the group; then no route points at it either. -/
def NhGroupUnnamed (s : FibState) (group : GroupPtr) : Prop := ∀ id, s.nhGroupTree.get id ≠ some group

theorem FibCounts.group_unrouted (counts : FibCounts s) (unnamed : NhGroupUnnamed s group) (key : RouteKey) :
    (s.routeTree.get key).map Route.nhInfo ≠ some (.group group) := by
  intro named
  obtain ⟨id, there⟩ := counts.routeGroup key group named
  exact unnamed id there

theorem FibNames.unnamed_of_absent (names : FibNames s) (absent : s.groups.get group = none) :
    NhGroupUnnamed s group := by
  intro id named
  have there := names.groupAtId id group named
  rw [absent] at there
  cases there

theorem FibConsistent.putGroup (consistent : FibConsistent s) (absent : s.groups.get group = none) :
    FibConsistent { s with groups := s.groups.put group fibNhGroupNodeInit } := by
  have unnamed := consistent.names.unnamed_of_absent absent
  have unrouted := consistent.counts.group_unrouted unnamed
  obtain ⟨names, counts, members⟩ := consistent
  refine ⟨⟨names.owned, names.atId, fun id g named => ?_⟩, ⟨counts.rifVrf, counts.numRif, counts.nhRif,
    counts.rifRef, counts.nhRef, fun g n found => ?_, counts.routeVrf, counts.routeNh, counts.routeGroup⟩,
    members.congr (fun _ => rfl) (fun _ => rfl) (fun g => ?_) fun g => ?_⟩
  · have apart : g ≠ group := by
      rintro rfl
      exact unnamed id named
    rw [get_put_ne apart]
    exact names.groupAtId id g named
  · simp only [get_put] at found
    split at found
    · rename_i here
      cases found
      refine (tally_eq_zero fun key route stored => decide_eq_false fun named => ?_).symm
      refine unrouted key ?_
      rw [show s.routeTree.get key = some route from stored, Option.map_some, named, here]
    · exact counts.groupRef g n found
  · rw [groupNhLinks_eq, groupNhLinks_eq]
    simp only [get_put]
    split
    · rename_i here
      rw [here, absent]
      rfl
    · rfl
  · rw [fibNhGroupCount_eq, fibNhGroupCount_eq]
    simp only [get_put]
    split
    · rename_i here
      rw [here, absent]
      rfl
    · rfl

theorem FibConsistent.freeGroup (consistent : FibConsistent s) (unnamed : NhGroupUnnamed s group)
    (empty : groupNhLinks s group = []) : FibConsistent (fibNhGroupNodeFree s group) := by
  obtain ⟨names, counts, members⟩ := consistent
  have links : ∀ g, groupNhLinks (fibNhGroupNodeFree s group) g = groupNhLinks s g := by
    intro g
    by_cases here : g = group
    · rw [here, empty, groupNhLinks_eq]
      simp only [fibNhGroupNodeFree, get_del_self, Option.map_none, Option.getD_none]
    · rw [groupNhLinks_eq, groupNhLinks_eq]
      simp only [fibNhGroupNodeFree, get_del_ne here]
  refine ⟨⟨names.owned, names.atId, fun id g named => ?_⟩, ⟨counts.rifVrf, counts.numRif, counts.nhRif,
    counts.rifRef, counts.nhRef, fun g n found => ?_, counts.routeVrf, counts.routeNh, counts.routeGroup⟩,
    ⟨members.toFibLinks.congr (fun _ => rfl) (fun _ => rfl) links, fun g => ?_⟩⟩
  · have apart : g ≠ group := by
      rintro rfl
      exact unnamed id named
    simp only [fibNhGroupNodeFree, get_del_ne apart]
    exact names.groupAtId id g named
  · simp only [fibNhGroupNodeFree, get_del] at found
    split at found
    · cases found
    · exact counts.groupRef g n found
  · rw [links]
    by_cases here : g = group
    · rw [here, empty, fibNhGroupCount_eq]
      simp only [fibNhGroupNodeFree, get_del_self, Option.map_none, Option.getD_none]
      rfl
    · rw [← members.counted g, fibNhGroupCount_eq, fibNhGroupCount_eq]
      simp only [fibNhGroupNodeFree, get_del_ne here]

theorem FibLinksOnly.unnamed (only : FibLinksOnly s t) (unnamed : NhGroupUnnamed s group) :
    NhGroupUnnamed t group := by
  obtain ⟨_, _, rfl⟩ := only.frame
  exact unnamed

theorem FibConsistent.discard (consistent : FibConsistent s) (unnamed : NhGroupUnnamed s group) :
    FibConsistent (fibNhGroupNodeFree (fibNhGroupEmpty s group) group) := by
  obtain ⟨members, only, _, empty⟩ := consistent.members.empty group
  exact (consistent.linksOnly only members).freeGroup (only.unnamed unnamed) empty

/-- What the loop over the attributes of a create keeps. -/
structure NhGroupFilled (t : FibState) (group : GroupPtr) : Prop where
  consistent : FibConsistent t
  unnamed : NhGroupUnnamed t group
  there : t.groups.get group ≠ none

theorem NhGroupFilled.attrSet (array : NhArray) (env : NhLinkEnv) (attr : NhGroupAttr)
    (filled : NhGroupFilled s group) : NhGroupFilled (fibNextHopGroupAttrSet s group array env attr).1 group := by
  cases attr with
  | type groupType =>
    simp only [fibNextHopGroupAttrSet, fibNextHopGroupTypeSet]
    split
    · refine ⟨filled.consistent.modifyGroup ?_ ?_ ?_ ?_, filled.unnamed, ?_⟩
      · exact fun _ => rfl
      · exact fun _ => rfl
      · exact fun _ => rfl
      · exact fun _ => rfl
      · exact fun absent => filled.there (get_modify_eq_none.mp absent)
    · exact filled
  | nextHopList nextHopIds =>
    simp only [fibNextHopGroupAttrSet, fibNextHopGroupNextHopListSet]
    split
    · exact filled
    split
    · exact filled
    rename_i node _ _
    split
    · rename_i array' run
      obtain ⟨_, _, _, accepted⟩ := fibNextHopFillFromNhIdList_success run
      rw [accepted]
      obtain ⟨kept, only⟩ := filled.consistent.addInLists group
        (filled.consistent.names.accepted_owned _ _ _) env
      exact ⟨kept, only.unnamed filled.unnamed, fun absent => filled.there ((only.groupStored group).mp absent)⟩
    · exact filled
  | nextHopCount => exact filled
  | other => exact filled

theorem NhGroupFilled.infoLoop (env : Nat → NhLinkEnv) (attrs : List NhGroupAttr) : ∀ s array attrIndex,
    NhGroupFilled s group → NhGroupFilled (fibNextHopGroupInfoLoop group env s array attrIndex attrs).1 group := by
  induction attrs with
  | nil => exact fun s array attrIndex filled => filled
  | cons attr rest ih =>
    intro s array attrIndex filled
    have set := filled.attrSet array (env attrIndex) attr
    unfold fibNextHopGroupInfoLoop
    split
    · rename_i t next done
      rw [done] at set
      exact ih t next (attrIndex + 1) set
    · rename_i t next error _ failed
      rw [failed] at set
      exact set

theorem NhGroupFilled.infoFill (env : Nat → NhLinkEnv) (filled : NhGroupFilled s group)
    (attrs : List NhGroupAttr) (array : NhArray) :
    NhGroupFilled (fibNextHopGroupInfoFill s group attrs array env).1 group := by
  unfold fibNextHopGroupInfoFill
  split
  · exact filled
  have loop := NhGroupFilled.infoLoop env attrs s array 0 filled
  split
  · rename_i t next done
    rw [done] at loop
    split
    · exact loop
    · exact loop
  · rename_i t next error _ failed
    rw [failed] at loop
    exact loop

theorem FibConsistent.nameGroup (consistent : FibConsistent s) (unnamed : NhGroupUnnamed s group)
    (groupId : ObjectId) : FibConsistent (s.modifyGroup group fun node => { node with groupId := groupId }) := by
  obtain ⟨names, counts, members⟩ := consistent
  have refs : ∀ g, ((s.groups.modify group fun node => { node with groupId := groupId }).get g).map
      NhGroup.refCount = (s.groups.get g).map NhGroup.refCount := by
    refine map_get_modify ?_
    exact fun _ => rfl
  refine ⟨⟨names.owned, names.atId, fun id g named => ?_⟩,
    counts.congr (fun _ => rfl) (fun _ => rfl) (fun _ => rfl) (fun _ => rfl) refs rfl rfl,
    members.congr (fun _ => rfl) (fun _ => rfl) (fun g => ?_) fun g => ?_⟩
  · have apart : g ≠ group := by
      rintro rfl
      exact unnamed id named
    simp only [FibState.modifyGroup, get_modify_ne apart]
    exact names.groupAtId id g named
  · rw [groupNhLinks_eq, groupNhLinks_eq]
    refine congrArg (Option.getD · []) (map_get_modify ?_ g)
    exact fun _ => rfl
  · rw [fibNhGroupCount_eq, fibNhGroupCount_eq]
    refine congrArg (Option.getD · 0) (map_get_modify ?_ g)
    exact fun _ => rfl

theorem FibConsistent.groupIdInsert (consistent : FibConsistent s)
    (free : s.nhGroupTree.get groupId = none) (there : (s.groups.get group).map NhGroup.groupId = some groupId) :
    FibConsistent { s with nhGroupTree := s.nhGroupTree.put groupId group } := by
  obtain ⟨names, counts, members⟩ := consistent
  refine ⟨⟨names.owned, names.atId, fun id g named => ?_⟩, ⟨counts.rifVrf, counts.numRif, counts.nhRif,
    counts.rifRef, counts.nhRef, counts.groupRef, counts.routeVrf, counts.routeNh, fun key g named => ?_⟩,
    members.congr (fun _ => rfl) (fun _ => rfl) (fun _ => rfl) fun _ => rfl⟩
  · simp only [get_put] at named
    split at named
    · rename_i here
      cases named
      rw [here]
      exact there
    · exact names.groupAtId id g named
  · obtain ⟨id, found⟩ := counts.routeGroup key g named
    refine ⟨id, ?_⟩
    have apart : id ≠ groupId := by
      rintro rfl
      rw [free] at found
      cases found
    simp only [get_put_ne apart]
    exact found

theorem FibConsistent.nextHopGroupCreateLocked {attrs : List NhGroupAttr}
    {env : NhGroupCreateEnv} (consistent : FibConsistent s) (absent : s.groups.get group = none) :
    FibConsistent (fibNextHopGroupCreateLocked s group array attrs env).1 := by
  have fresh : NhGroupFilled { s with groups := s.groups.put group fibNhGroupNodeInit } group := by
    refine ⟨consistent.putGroup absent, consistent.names.unnamed_of_absent absent, ?_⟩
    rw [get_put_self]
    exact Option.some_ne_none _
  have filled := fresh.infoFill env.links attrs array
  unfold fibNextHopGroupCreateLocked
  simp only
  split
  · rename_i t next done
    rw [done] at filled
    have called : FibConsistent (npuNhGroupCreate t group (fibNhGroupCount t group) next env.npu).1 :=
      filled.consistent.quiet (fibQuiet_npuGroups t _)
    split
    · have named := called.nameGroup filled.unnamed ⟨.nextHopGroup, env.npuObjectId⟩
      split
      · rename_i free
        refine named.groupIdInsert free ?_
        obtain ⟨node, found⟩ := Option.ne_none_iff_exists'.mp filled.there
        have found : (npuNhGroupCreate t group (fibNhGroupCount t group) next env.npu).1.groups.get group =
            some node := found
        simp only [FibState.modifyGroup, get_modify_self, found, Option.map_some]
      · exact named.quiet (fibQuiet_npuGroups _ _)
    · exact called.discard filled.unnamed
  · rename_i t next error _ failed
    rw [failed] at filled
    exact filled.consistent.discard filled.unnamed

theorem fibNhGroupNodeAlloc_some {alloc : Option GroupPtr} (run : fibNhGroupNodeAlloc s alloc = some group) :
    s.groups.get group = none := by
  unfold fibNhGroupNodeAlloc at run
  split at run
  · cases run
  split at run
  · rename_i absent
    cases run
    exact absent
  · cases run

theorem FibConsistent.nextHopGroupCreate (consistent : FibConsistent s) (attrs : List NhGroupAttr)
    (alloc : NhGroupAllocEnv) (env : NhGroupCreateEnv) :
    FibConsistent (fibNextHopGroupCreate s attrs alloc env).1 := by
  unfold fibNextHopGroupCreate
  split
  · exact consistent
  rename_i group allocated
  split
  · exact consistent
  · exact consistent.nextHopGroupCreateLocked (fibNhGroupNodeAlloc_some allocated)

theorem FibConsistent.unnameGroup (groupId : ObjectId) (consistent : FibConsistent s)
    (named : s.nhGroupTree.get groupId = some group)
    (unrouted : ∀ key, (s.routeTree.get key).map Route.nhInfo ≠ some (.group group)) :
    FibConsistent { s with nhGroupTree := s.nhGroupTree.del groupId } := by
  obtain ⟨names, counts, members⟩ := consistent
  refine ⟨⟨names.owned, names.atId, fun id g found => ?_⟩, ⟨counts.rifVrf, counts.numRif, counts.nhRif,
    counts.rifRef, counts.nhRef, counts.groupRef, counts.routeVrf, counts.routeNh, fun key g routed => ?_⟩,
    members.congr (fun _ => rfl) (fun _ => rfl) (fun _ => rfl) fun _ => rfl⟩
  · exact names.groupAtId id g (get_of_del found)
  · obtain ⟨id, found⟩ := counts.routeGroup key g routed
    refine ⟨id, ?_⟩
    have apart : id ≠ groupId := by
      rintro rfl
      rw [named] at found
      cases found
      exact unrouted key routed
    simp only [get_del_ne apart]
    exact found

theorem FibCounts.unrouted {node : NhGroup} (counts : FibCounts s) (found : s.groups.get group = some node)
    (unused : node.refCount = 0) (key : RouteKey) :
    (s.routeTree.get key).map Route.nhInfo ≠ some (.group group) := by
  intro routed
  obtain ⟨route, stored, nhInfo⟩ := Option.map_eq_some_iff.mp routed
  have exact := counts.groupRef group node.refCount (by rw [found, Option.map_some])
  have counted := tally_pos (m := s.routeTree) (p := fun _ route => route.nhInfo = .group group) stored
    (decide_eq_true nhInfo)
  omega

section
variable (consistent : FibConsistent s)
include consistent

theorem FibConsistent.nextHopGroupRemove (groupId : ObjectId)
    (npu : SaiStatus) : FibConsistent (fibNextHopGroupRemove s groupId npu).1 := by
  unfold fibNextHopGroupRemove
  split
  · exact consistent
  split
  · exact consistent
  rename_i group named
  have named : s.nhGroupTree.get groupId = some group := named
  split
  · exact consistent
  rename_i node found
  split
  · exact consistent
  rename_i unused
  split
  · have called : FibConsistent (npuNhGroupRemove s group) := consistent.quiet (fibQuiet_npuGroups s _)
    obtain ⟨members, only, _, empty⟩ := called.members.empty group
    have emptied := called.linksOnly only members
    have unrouted := consistent.counts.unrouted found (not_not.mp unused)
    have atId := consistent.names.groupAtId groupId group named
    rw [found, Option.map_some, Option.some.injEq] at atId
    have ids : (fibNhGroupEmpty (npuNhGroupRemove s group) group).nhGroupTree = s.nhGroupTree := by
      obtain ⟨_, _, frame⟩ := only.frame
      rw [frame]
      rfl
    have routes : (fibNhGroupEmpty (npuNhGroupRemove s group) group).routeTree = s.routeTree := by
      obtain ⟨_, _, frame⟩ := only.frame
      rw [frame]
      rfl
    have unnamed := emptied.unnameGroup node.groupId (by rw [ids, atId]; exact named)
      (by rw [routes]; exact unrouted)
    refine unnamed.freeGroup (fun id still => ?_) empty
    simp only [ids, get_del] at still
    split at still
    · cases still
    rename_i apart
    have other := consistent.names.groupAtId id group still
    rw [found, Option.map_some, Option.some.injEq] at other
    exact apart other.symm
  · exact consistent

theorem FibConsistent.nextHopAddToGroupLocked {env : NhGroupAddEnv} :
    FibConsistent (fibNextHopAddToGroupLocked s groupId nextHopIds array env).1 := by
  unfold fibNextHopAddToGroupLocked
  split
  · exact consistent
  rename_i group _
  split
  · exact consistent
  rename_i node _
  split
  · exact consistent
  split
  · rename_i filled run
    obtain ⟨_, _, _, accepted⟩ := fibNextHopFillFromNhIdList_success run
    obtain ⟨kept, only⟩ := consistent.addInLists group
      (consistent.names.accepted_owned node false nextHopIds) env.links
    simp only [accepted]
    split
    · rename_i t done
      rw [done] at kept
      have kept : FibConsistent t := kept
      obtain ⟨npuGroups, same⟩ := npuAddNhToGroup_eq t group (fibNextHopAccepted s node false nextHopIds) env.npu
      have called := kept.quiet (fibQuiet_npuGroups t npuGroups)
      rw [← same] at called
      split
      · exact called
      · exact called.removeFromLists group _
    · rename_i t error _ failed
      rw [failed] at kept
      exact kept
  · exact consistent

theorem FibConsistent.nextHopAddToGroup (groupId : ObjectId)
    (nextHopIds : List ObjectId) (listOk : Bool) (env : NhGroupAddEnv) :
    FibConsistent (fibNextHopAddToGroup s groupId nextHopIds listOk env).1 := by
  unfold fibNextHopAddToGroup
  split
  · exact consistent
  split
  · exact consistent
  · exact consistent.nextHopAddToGroupLocked

theorem FibConsistent.nextHopRemoveFromGroupLocked {npu : SaiStatus} :
    FibConsistent (fibNextHopRemoveFromGroupLocked s groupId nextHopIds array npu).1 := by
  unfold fibNextHopRemoveFromGroupLocked
  split
  · exact consistent
  rename_i group _
  split
  · exact consistent
  split
  · rename_i filled run
    have called : FibConsistent (npuRemoveNhFromGroup s group (filled.nodes.take nextHopIds.length) npu) :=
      consistent.quiet (fibQuiet_npuGroups s _)
    simp only
    split
    · exact called.removeFromLists group _
    · exact called
  · exact consistent

theorem FibConsistent.nextHopRemoveFromGroup (groupId : ObjectId)
    (nextHopIds : List ObjectId) (listOk : Bool) (npu : SaiStatus) :
    FibConsistent (fibNextHopRemoveFromGroup s groupId nextHopIds listOk npu).1 := by
  unfold fibNextHopRemoveFromGroup
  split
  · exact consistent
  split
  · exact consistent
  · exact consistent.nextHopRemoveFromGroupLocked

end

end Group
end SaiCommon
