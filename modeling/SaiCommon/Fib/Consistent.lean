import SaiCommon.Fib.System

namespace SaiCommon

def nhGroupLinks (s : FibState) (ref : NhRef) : WtList GroupPtr :=
  match s.nhTree.get ref with
  | none => []
  | some node => node.nhGroupList

def groupNhLinks (s : FibState) (group : GroupPtr) : WtList NhRef :=
  match s.groups.get group with
  | none => []
  | some node => node.nhList

/-- What an id tree names is alive, carries the id and, if it is a next hop,
is owned as one. -/
structure FibNames (s : FibState) : Prop where
  owned : ∀ id ref, s.nhIdTree.get id = some ref → fibIsOwnerNextHop s ref = true
  atId : ∀ id ref, s.nhIdTree.get id = some ref → fibNhNextHopId s ref = id
  groupAtId : ∀ id group, s.nhGroupTree.get id = some group →
    (s.groups.get group).map NhGroup.groupId = some id

/-- Every counter is the number of those that name its object, and what is
named is alive. -/
structure FibCounts (s : FibState) : Prop where
  rifVrf : ∀ rifId vrfId, (s.routerInterfaceTree.get rifId).map Rif.vrfId = some vrfId →
    s.vrfTree.get vrfId ≠ none
  numRif : ∀ vrfId n, (s.vrfTree.get vrfId).map Vrf.numRif = some n →
    n = s.routerInterfaceTree.tally fun _ rif => rif.vrfId = vrfId
  nhRif : ∀ ref, s.nhTree.get ref ≠ none →
    (s.routerInterfaceTree.get ref.key.rifId).map Rif.vrfId = some ref.vrfId
  rifRef : ∀ rifId n, (s.routerInterfaceTree.get rifId).map Rif.refCount = some n →
    n = s.nhTree.tally fun ref _ => ref.key.rifId = rifId
  nhRef : ∀ ref n, (s.nhTree.get ref).map Nh.refCount = some n →
    n = s.routeTree.tally fun _ route => route.nhInfo = .nextHop ref
  groupRef : ∀ group n, (s.groups.get group).map NhGroup.refCount = some n →
    n = s.routeTree.tally fun _ route => route.nhInfo = .group group
  routeVrf : ∀ key, s.routeTree.get key ≠ none → s.vrfTree.get key.vrfId ≠ none
  routeNh : ∀ key ref, (s.routeTree.get key).map Route.nhInfo = some (.nextHop ref) →
    fibIsOwnerNextHop s ref = true
  routeGroup : ∀ key group, (s.routeTree.get key).map Route.nhInfo = some (.group group) →
    ∃ id, s.nhGroupTree.get id = some group

/-- A next hop lists a group as often as the group lists it. -/
structure FibLinks (s : FibState) : Prop where
  nhWf : ∀ ref, (nhGroupLinks s ref).WellFormed
  groupWf : ∀ group, (groupNhLinks s group).WellFormed
  symmetric : ∀ group ref, (groupNhLinks s group).weightOf ref = (nhGroupLinks s ref).weightOf group
  owned : ∀ ref, nhGroupLinks s ref ≠ [] → fibIsOwnerNextHop s ref = true

structure FibMembers (s : FibState) : Prop extends FibLinks s where
  counted : ∀ group, fibNhGroupCount s group = (groupNhLinks s group).total

structure FibConsistent (s : FibState) : Prop where
  names : FibNames s
  counts : FibCounts s
  members : FibMembers s

section Readers
variable {s t : FibState} {ref : NhRef}

theorem fibIsOwnerNextHop_eq (s : FibState) (ref : NhRef) :
    fibIsOwnerNextHop s ref = ((s.nhTree.get ref).map fun node => node.ownerFlag.nextHop).getD false := by
  unfold fibIsOwnerNextHop
  cases s.nhTree.get ref <;> rfl

theorem fibNhNextHopId_eq (s : FibState) (ref : NhRef) :
    fibNhNextHopId s ref = ((s.nhTree.get ref).map Nh.nextHopId).getD nullObjectId := by
  unfold fibNhNextHopId
  cases s.nhTree.get ref <;> rfl

theorem nhGroupLinks_eq (s : FibState) (ref : NhRef) :
    nhGroupLinks s ref = ((s.nhTree.get ref).map Nh.nhGroupList).getD [] := by
  unfold nhGroupLinks
  cases s.nhTree.get ref <;> rfl

theorem groupNhLinks_eq (s : FibState) (group : GroupPtr) :
    groupNhLinks s group = ((s.groups.get group).map NhGroup.nhList).getD [] := by
  unfold groupNhLinks
  cases s.groups.get group <;> rfl

theorem fibNhGroupCount_eq (s : FibState) (group : GroupPtr) :
    fibNhGroupCount s group = ((s.groups.get group).map NhGroup.nhCount).getD 0 := by
  unfold fibNhGroupCount
  cases s.groups.get group <;> rfl

theorem stored_of_owner (owner : fibIsOwnerNextHop s ref = true) : s.nhTree.get ref ≠ none := by
  intro absent
  simp only [fibIsOwnerNextHop_eq, absent, Option.map_none, Option.getD_none, Bool.false_eq_true] at owner

end Readers

section Congruence
variable {s t : FibState}

theorem FibNames.congr (names : FibNames s) (owners : ∀ ref, fibIsOwnerNextHop t ref = fibIsOwnerNextHop s ref)
    (nhIds : ∀ ref, fibNhNextHopId t ref = fibNhNextHopId s ref) (ids : t.nhIdTree = s.nhIdTree)
    (groups : ∀ group, (t.groups.get group).map NhGroup.groupId = (s.groups.get group).map NhGroup.groupId)
    (groupIds : t.nhGroupTree = s.nhGroupTree) : FibNames t := by
  refine ⟨?_, ?_, ?_⟩
  · intro id ref named
    rw [ids] at named
    rw [owners]
    exact names.owned id ref named
  · intro id ref named
    rw [ids] at named
    rw [nhIds]
    exact names.atId id ref named
  · intro id group named
    rw [groupIds] at named
    rw [groups]
    exact names.groupAtId id group named

theorem FibLinks.congr (links : FibLinks s) (owners : ∀ ref, fibIsOwnerNextHop t ref = fibIsOwnerNextHop s ref)
    (nhs : ∀ ref, nhGroupLinks t ref = nhGroupLinks s ref)
    (groups : ∀ group, groupNhLinks t group = groupNhLinks s group) : FibLinks t := by
  refine ⟨fun ref => ?_, fun group => ?_, fun group ref => ?_, fun ref linked => ?_⟩
  · rw [nhs]
    exact links.nhWf ref
  · rw [groups]
    exact links.groupWf group
  · rw [nhs, groups]
    exact links.symmetric group ref
  · rw [nhs] at linked
    rw [owners]
    exact links.owned ref linked

theorem FibMembers.congr (members : FibMembers s)
    (owners : ∀ ref, fibIsOwnerNextHop t ref = fibIsOwnerNextHop s ref)
    (nhs : ∀ ref, nhGroupLinks t ref = nhGroupLinks s ref)
    (groups : ∀ group, groupNhLinks t group = groupNhLinks s group)
    (count : ∀ group, fibNhGroupCount t group = fibNhGroupCount s group) : FibMembers t := by
  refine ⟨members.toFibLinks.congr owners nhs groups, fun group => ?_⟩
  rw [count, groups]
  exact members.counted group

/-- The VRF and the reference count of a router interface. -/
def Rif.core (rif : Rif) : ObjectId × Nat := (rif.vrfId, rif.refCount)

theorem FibCounts.congr (counts : FibCounts s) (owners : ∀ ref, fibIsOwnerNextHop t ref = fibIsOwnerNextHop s ref)
    (nhs : ∀ ref, (t.nhTree.get ref).map Nh.refCount = (s.nhTree.get ref).map Nh.refCount)
    (rifs : ∀ rifId, (t.routerInterfaceTree.get rifId).map Rif.core =
      (s.routerInterfaceTree.get rifId).map Rif.core)
    (vrfs : ∀ vrfId, (t.vrfTree.get vrfId).map Vrf.numRif = (s.vrfTree.get vrfId).map Vrf.numRif)
    (groups : ∀ group, (t.groups.get group).map NhGroup.refCount = (s.groups.get group).map NhGroup.refCount)
    (groupIds : t.nhGroupTree = s.nhGroupTree) (routes : t.routeTree = s.routeTree) : FibCounts t := by
  have vrfStored : ∀ vrfId, t.vrfTree.get vrfId = none ↔ s.vrfTree.get vrfId = none := by
    intro vrfId
    rw [← Option.map_eq_none_iff (f := Vrf.numRif), vrfs, Option.map_eq_none_iff]
  have nhStored : ∀ ref, t.nhTree.get ref = none ↔ s.nhTree.get ref = none := by
    intro ref
    rw [← Option.map_eq_none_iff (f := Nh.refCount), nhs, Option.map_eq_none_iff]
  have rifVrfs : ∀ rifId, (t.routerInterfaceTree.get rifId).map Rif.vrfId =
      (s.routerInterfaceTree.get rifId).map Rif.vrfId := by
    intro rifId
    have same := congrArg (Option.map Prod.fst) (rifs rifId)
    rwa [Option.map_map, Option.map_map] at same
  have rifRefs : ∀ rifId, (t.routerInterfaceTree.get rifId).map Rif.refCount =
      (s.routerInterfaceTree.get rifId).map Rif.refCount := by
    intro rifId
    have same := congrArg (Option.map Prod.snd) (rifs rifId)
    rwa [Option.map_map, Option.map_map] at same
  refine ⟨?_, ?_, ?_, ?_, ?_, ?_, ?_, ?_, ?_⟩
  · intro rifId vrfId named
    rw [rifVrfs] at named
    rw [Ne, vrfStored]
    exact counts.rifVrf rifId vrfId named
  · intro vrfId n stored
    rw [vrfs] at stored
    rw [counts.numRif vrfId n stored]
    refine (KeyTree.tally_congr_get fun rifId => ?_).symm
    have same := congrArg (Option.map fun named => decide (named = vrfId)) (rifVrfs rifId)
    rwa [Option.map_map, Option.map_map] at same
  · intro ref stored
    rw [Ne, nhStored] at stored
    rw [rifVrfs]
    exact counts.nhRif ref stored
  · intro rifId n stored
    rw [rifRefs] at stored
    rw [counts.rifRef rifId n stored]
    refine (KeyTree.tally_congr_get fun ref => ?_).symm
    have same := congrArg (Option.map fun _ => decide (ref.key.rifId = rifId)) (nhs ref)
    rwa [Option.map_map, Option.map_map] at same
  · intro ref n stored
    rw [nhs] at stored
    rw [routes]
    exact counts.nhRef ref n stored
  · intro group n stored
    rw [groups] at stored
    rw [routes]
    exact counts.groupRef group n stored
  · intro key stored
    rw [routes] at stored
    rw [Ne, vrfStored]
    exact counts.routeVrf key stored
  · intro key ref named
    rw [routes] at named
    rw [owners]
    exact counts.routeNh key ref named
  · intro key group named
    rw [routes] at named
    rw [groupIds]
    exact counts.routeGroup key group named

end Congruence

/-- The fields of a next-hop node that the invariants read. -/
structure NhCore where
  nextHopId : ObjectId
  ownsNextHop : Bool
  refCount : Nat
  nhGroupList : WtList GroupPtr

def Nh.core (node : Nh) : NhCore := ⟨node.nextHopId, node.ownerFlag.nextHop, node.refCount, node.nhGroupList⟩

/-- A step that none of the invariants sees. -/
structure FibQuiet (s t : FibState) : Prop where
  nhs : ∀ ref, (t.nhTree.get ref).map Nh.core = (s.nhTree.get ref).map Nh.core
  rifs : ∀ rifId, (t.routerInterfaceTree.get rifId).map Rif.core =
    (s.routerInterfaceTree.get rifId).map Rif.core
  vrfs : ∀ vrfId, (t.vrfTree.get vrfId).map Vrf.numRif = (s.vrfTree.get vrfId).map Vrf.numRif
  ids : t.nhIdTree = s.nhIdTree
  groups : t.groups = s.groups
  groupIds : t.nhGroupTree = s.nhGroupTree
  routes : t.routeTree = s.routeTree

section Quiet
variable {s t u : FibState}

theorem FibQuiet.refl (s : FibState) : FibQuiet s s :=
  ⟨fun _ => rfl, fun _ => rfl, fun _ => rfl, rfl, rfl, rfl, rfl⟩

theorem FibQuiet.trans (first : FibQuiet s t) (second : FibQuiet t u) : FibQuiet s u :=
  ⟨fun ref => (second.nhs ref).trans (first.nhs ref), fun rifId => (second.rifs rifId).trans (first.rifs rifId),
    fun vrfId => (second.vrfs vrfId).trans (first.vrfs vrfId), second.ids.trans first.ids,
    second.groups.trans first.groups, second.groupIds.trans first.groupIds, second.routes.trans first.routes⟩

section
variable (quiet : FibQuiet s t)
include quiet

theorem FibQuiet.nh {W : Type} (read : NhCore → W) (ref : NhRef) :
    (t.nhTree.get ref).map (read ∘ Nh.core) = (s.nhTree.get ref).map (read ∘ Nh.core) := by
  rw [← Option.map_map, ← Option.map_map, quiet.nhs]

theorem FibQuiet.owners (ref : NhRef) : fibIsOwnerNextHop t ref = fibIsOwnerNextHop s ref := by
  rw [fibIsOwnerNextHop_eq, fibIsOwnerNextHop_eq]
  exact congrArg (Option.getD · false) (quiet.nh NhCore.ownsNextHop ref)

theorem FibQuiet.nhIds (ref : NhRef) : fibNhNextHopId t ref = fibNhNextHopId s ref := by
  rw [fibNhNextHopId_eq, fibNhNextHopId_eq]
  exact congrArg (Option.getD · nullObjectId) (quiet.nh NhCore.nextHopId ref)

theorem FibQuiet.nhLinks (ref : NhRef) : nhGroupLinks t ref = nhGroupLinks s ref := by
  rw [nhGroupLinks_eq, nhGroupLinks_eq]
  exact congrArg (Option.getD · []) (quiet.nh NhCore.nhGroupList ref)

theorem FibQuiet.groupLinks (group : GroupPtr) : groupNhLinks t group = groupNhLinks s group := by
  rw [groupNhLinks_eq, groupNhLinks_eq, quiet.groups]

end

theorem FibConsistent.quiet (consistent : FibConsistent s) (quiet : FibQuiet s t) : FibConsistent t := by
  obtain ⟨names, counts, members⟩ := consistent
  have groups : ∀ {W : Type} (read : NhGroup → W) group,
      (t.groups.get group).map read = (s.groups.get group).map read :=
    fun read group => by rw [quiet.groups]
  refine ⟨?_, ?_, ?_⟩
  · exact names.congr quiet.owners quiet.nhIds quiet.ids (groups _) quiet.groupIds
  · exact counts.congr quiet.owners (quiet.nh NhCore.refCount) quiet.rifs quiet.vrfs (groups _) quiet.groupIds
      quiet.routes
  · refine members.congr quiet.owners quiet.nhLinks quiet.groupLinks fun group => ?_
    rw [fibNhGroupCount_eq, fibNhGroupCount_eq, groups]

theorem fibQuiet_modifyNh (s : FibState) (ref : NhRef) {f : Nh → Nh} (keep : ∀ node, (f node).core = node.core) :
    FibQuiet s (s.modifyNh ref f) :=
  ⟨KeyTree.map_get_modify keep, fun _ => rfl, fun _ => rfl, rfl, rfl, rfl, rfl⟩

theorem fibQuiet_putNh {s : FibState} {ref : NhRef} {node : Nh} (next : Nh) (stored : s.nhTree.get ref = some node)
    (keep : next.core = node.core) : FibQuiet s { s with nhTree := s.nhTree.put ref next } := by
  refine ⟨fun other => ?_, fun _ => rfl, fun _ => rfl, rfl, rfl, rfl, rfl⟩
  simp only [KeyTree.get_put]
  split
  · rename_i same
    rw [same, stored, Option.map_some, Option.map_some, keep]
  · rfl

end Quiet
end SaiCommon
