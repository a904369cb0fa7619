import SaiCommon.Fib.RefCount
import SaiCommon.Fib.Frames

namespace SaiCommon

/-- The links of groups and next hops mirror each other, weight by weight. -/
structure MembershipSymmetric (s : FibState) : Prop where
  /-- The weight is zero where there is no link, also where there is no group
  or next hop any more. -/
  weights : ∀ group ref, (groupNhLinks s group).weightOf ref = (nhGroupLinks s ref).weightOf group
  groupLists : ∀ group node, s.groups.get group = some node → node.nhList.WellFormed
  nhLists : ∀ ref node, s.nhTree.get ref = some node → node.nhGroupList.WellFormed
  counted : ∀ group node, s.groups.get group = some node → node.nhCount = node.nhList.total
  alive : ∀ group node, s.groups.get group = some node → ∀ link ∈ node.nhList, s.nhTree.get link.self ≠ none

section Membership
variable {p : Platform} {s t : FibState}

theorem FibMembers.symmetricLists (members : FibMembers s) : MembershipSymmetric s := by
  refine ⟨members.symmetric, ?_, ?_, ?_, ?_⟩
  · intro group node found
    have wf := members.groupWf group
    rwa [groupNhLinks, found] at wf
  · intro ref node found
    have wf := members.nhWf ref
    rwa [nhGroupLinks, found] at wf
  · intro group node found
    have counted := members.counted group
    rwa [fibNhGroupCount, groupNhLinks, found] at counted
  · exact fun group node found link member => stored_of_owner (members.toFibLinks.member_owned found member)

def FibKeepsListed (s t : FibState) : Prop :=
  ∀ group ref, (groupNhLinks s group).has ref = true → t.nhTree.get ref ≠ none

theorem FibConsistent.keepsListed (after : FibConsistent t)
    (groups : ∀ group, groupNhLinks t group = groupNhLinks s group) : FibKeepsListed s t := by
  intro group ref present
  rw [← groups] at present
  exact stored_of_owner (after.members.stored_of_has present).1

theorem FibGroupsOnly.keepsListed (only : FibGroupsOnly s t) (before : FibConsistent s) : FibKeepsListed s t := by
  intro group ref present
  have stored := stored_of_owner (before.members.stored_of_has present).1
  rw [Ne, ← Option.map_eq_none_iff (f := Nh.unlisted), only.nhs, Option.map_eq_none_iff]
  exact stored

theorem FibNodesOnly.groupLinks (only : FibNodesOnly s t) (group : GroupPtr) :
    groupNhLinks t group = groupNhLinks s group := by
  obtain ⟨_, _, _, _, _, rfl⟩ := only
  rfl

theorem FibInterfacesOnly.groupLinks (only : FibInterfacesOnly s t) (group : GroupPtr) :
    groupNhLinks t group = groupNhLinks s group := by
  obtain ⟨_, _, _, _, _, _, rfl⟩ := only
  rfl

theorem FibRoutesOnly.groupLinks (only : FibRoutesOnly s t) (group : GroupPtr) :
    groupNhLinks t group = groupNhLinks s group := by
  obtain ⟨u, routeTree, counted, rfl⟩ := only
  rw [groupNhLinks_eq, groupNhLinks_eq]
  exact congrArg (Option.getD · []) (counted.group NhGroup.nhList (fun _ => rfl) group)

/-- The calls that step next-hop nodes. -/
def FibCall.onNodes : FibCall → Bool
  | .nextHopCreate .. | .nextHopRemove .. | .neighborCreate .. | .neighborRemove .. | .neighborAttributeSet ..
  | .fdbCallback .. => true
  | _ => false

theorem FibCall.run_only (s : FibState) (call : FibCall) :
    FibInterfacesOnly s (call.run p s).1 ∨ FibGroupsOnly s (call.run p s).1 ∨ FibRoutesOnly s (call.run p s).1 ∨
      call.onNodes = true ∧ FibNodesOnly s (call.run p s).1 := by
  cases call with
  | virtualRouterCreate defaults attrs env => exact .inl (interfacesOnly_virtualRouterCreate s defaults attrs env)
  | virtualRouterRemove vrId npu => exact .inl (interfacesOnly_virtualRouterRemove s vrId npu)
  | virtualRouterAttributeSet vrId attr validate npu =>
    exact .inl (interfacesOnly_virtualRouterAttributeSet s vrId attr validate npu)
  | ecmpMaxPathsSet maxPaths npu => exact .inl (interfacesOnly_ecmpMaxPathsSet s maxPaths npu)
  | routerInterfaceCreate defaults attrs env => exact .inl (interfacesOnly_routerInterfaceCreate s defaults attrs env)
  | routerInterfaceRemove rifId npu => exact .inl (interfacesOnly_routerInterfaceRemove s rifId npu)
  | routerInterfaceAttributeSet rifId attr validate npu =>
    exact .inl (interfacesOnly_routerInterfaceAttributeSet s rifId attr validate npu)
  | lagMemberCreate attrs env => exact .inl (l2CreateLagMember_ports s attrs env).interfaces
  | lagMemberRemove lagId memberId rifNpu => exact .inl (l2RemoveLagMember_ports s lagId memberId rifNpu).interfaces
  | nextHopCreate attrs env => exact .inr (.inr (.inr ⟨rfl, nodesOnly_nextHopCreate s attrs env⟩))
  | nextHopRemove nextHopId npu idTreeOk =>
    exact .inr (.inr (.inr ⟨rfl, nodesOnly_nextHopRemove s nextHopId npu idTreeOk⟩))
  | nextHopAttributeSet => exact .inl (.refl s)
  | neighborCreate entry attrs node env =>
    exact .inr (.inr (.inr ⟨rfl, nodesOnly_neighborCreate s entry attrs node env⟩))
  | neighborRemove entry macEntry npu =>
    exact .inr (.inr (.inr ⟨rfl, nodesOnly_neighborRemove s entry macEntry npu⟩))
  | neighborAttributeSet entry attr env =>
    exact .inr (.inr (.inr ⟨rfl, nodesOnly_neighborAttributeSet s entry attr env⟩))
  | fdbCallback npu updates => exact .inr (.inr (.inr ⟨rfl, nodesOnly_fdbCallback npu updates s nullObjectId⟩))
  | nextHopGroupCreate attrs alloc env => exact .inr (.inl (groupsOnly_create s attrs alloc env))
  | nextHopGroupRemove groupId npu => exact .inr (.inl (groupsOnly_remove s groupId npu))
  | nextHopGroupAttributeSet => exact .inl (.refl s)
  | nextHopAddToGroup groupId nextHopIds listOk env =>
    refine .inr (.inl ?_)
    simp only [FibCall.run, fibNextHopAddToGroup]
    split
    · exact .refl s
    split
    · exact .refl s
    · exact groupsOnly_addLocked s groupId nextHopIds _ env
  | nextHopRemoveFromGroup groupId nextHopIds listOk npu =>
    refine .inr (.inl ?_)
    simp only [FibCall.run, fibNextHopRemoveFromGroup]
    split
    · exact .refl s
    split
    · exact .refl s
    · exact groupsOnly_removeLocked s groupId nextHopIds _ npu
  | routeCreate entry attrs env => exact .inr (.inr (.inl (routesOnly_create s entry attrs env)))
  | routeRemove entry npu => exact .inr (.inr (.inl (routesOnly_remove s entry npu)))
  | routeAttributeSet entry attr env => exact .inr (.inr (.inl (routesOnly_attributeSet s entry attr env)))

theorem FibConsistent.run_keepsListed (before : FibConsistent s) (call : FibCall) :
    FibKeepsListed s (call.run p s).1 := by
  have after := before.run (p := p) call
  rcases call.run_only s with only | only | only | ⟨-, only⟩
  · exact after.keepsListed only.groupLinks
  · exact only.keepsListed before
  · exact after.keepsListed only.groupLinks
  · exact after.keepsListed only.groupLinks

/-- Membership is symmetric and counted in every state of every run, and no
call frees a next hop that some group lists. -/
theorem membership_symmetric (reach : Runs.Reach FibFresh (fibStep p fun _ _ => True) s) :
    MembershipSymmetric s ∧ ∀ call : FibCall, FibKeepsListed s (call.run p s).1 := by
  have consistent := fibReach_consistent reach
  exact ⟨consistent.members.symmetricLists, fun call => consistent.run_keepsListed call⟩

theorem membership_symmetric_sample : MembershipSymmetric (fibSampleRun.foldl fibSampleStep fibSample) ∧
    ∃ group, (fibSampleRun.foldl fibSampleStep fibSample).groups.get 0 = some group ∧ group.nhCount = 2 ∧
      group.nhList.length = 1 :=
  ⟨(membership_symmetric fibSampleRun_reach).1, _, rfl, by decide, by decide⟩

end Membership
end SaiCommon
