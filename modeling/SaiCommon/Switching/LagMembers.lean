import SaiCommon.Lib.Runs
import SaiCommon.Switching.LagPortLists

namespace SaiCommon

open KeyTree LagState

variable {u s t : LagState} {ports : List ObjectId} {lagId : ObjectId}

section PortListSet
variable {env : LagPortListEnv}

structure PortListAccepted (s : LagState) (lagId : ObjectId) (ports : List ObjectId) (env : LagPortListEnv) :
    Prop where
  valid : ∀ port ∈ ports, s.portValid port = true
  created : s.isLagCreated lagId = true
  cleared : s.portListGet lagId ≠ [] → env.npuRemove = .success
  apart : ∀ port ∈ ports, s.isPortPartOfDifferentLag lagId port = false
  inserted : ∀ port ∈ ports, env.nodeAdd port = .success
  added : env.npuAdd = .success

variable (ports env) in
/-- After a port list is set the LAG has some of the members it had, or the list
came through. -/
theorem l2LagPortListSet_becomes (sync : LagInSync s) (created : s.lagTree.get lagId ≠ none) :
    ∃ members, s.Becomes (l2LagPortListSet s lagId ports env).1 lagId members ∧
      (members ⊆ s.cached lagId ∨ PortListAccepted s lagId ports env ∧
        ∀ port ∈ members, port ∈ ports ∧ ∀ j, j ≠ lagId → port ∉ s.cached j) := by
  have matched := sync.matches created
  have stays : s.Becomes s lagId (s.cached lagId) := .of_same matched (fun _ => rfl) rfl rfl rfl
  by_cases valid : ∀ port ∈ ports, s.portValid port = true
  · have result := l2LagPortListSet_result matched created valid env
    rw [sdiff_self, Finset.bot_eq_empty, Finset.empty_union] at result
    rcases result with ⟨_, same, _⟩ | ⟨cleared, filled, _, set⟩ | ⟨_, _, _, emptied⟩
    · rw [same]
      exact ⟨_, stays, .inl (Finset.Subset.refl _)⟩
    · refine ⟨_,
        set, .inr ⟨⟨valid, isLagCreated_iff.mpr created, cleared, filled.apart, filled.inserted,
        filled.added⟩, fun port member => ?_⟩⟩
      have listed := List.mem_toFinset.mp member
      exact ⟨listed, isPortPartOfDifferentLag_eq_false.mp (filled.apart port listed)⟩
    · exact ⟨_, emptied, .inl (Finset.empty_subset _)⟩
  · have refused : ports.all s.portValid = false := by
      rw [← Bool.not_eq_true]
      exact fun all => valid (List.all_eq_true.mp all)
    unfold l2LagPortListSet
    rw [if_pos refused]
    exact ⟨_, stays, .inl (Finset.Subset.refl _)⟩

end PortListSet

/-- A port that was in ROUTING mode is in no LAG that it was not in before. -/
def NoRoutedPortAdded (s t : LagState) : Prop :=
  ∀ port, s.fwdMode port = some .routing → ∀ lagId, port ∈ t.cached lagId → port ∈ s.cached lagId

/-- Only the members of one LAG have changed, and the new ones are in no other
LAG and not in ROUTING mode. -/
def LagEdited (s t : LagState) (lagId : ObjectId) : Prop :=
  ∃ members, s.Becomes t lagId members ∧ ∀ port ∈ members, port ∈ s.cached lagId ∨
    (∀ j, j ≠ lagId → port ∉ s.cached j) ∧ s.fwdMode port ≠ some .routing

/-- A port list that comes through names no port that was in ROUTING mode and
was not in the LAG. -/
def PortListUnrouted (before s : LagState) (lagId : ObjectId) (ports : List ObjectId) (env : LagPortListEnv) : Prop :=
  PortListAccepted s lagId ports env → ∀ port ∈ ports, before.fwdMode port = some .routing →
    port ∈ before.portListGet lagId

section Edited

theorem LagEdited.of_same (sync : LagInSync s) (created : s.lagTree.get lagId ≠ none)
    (cached : ∀ j, t.cached j = s.cached j) (npu : t.npu = s.npu) (lagTree : t.lagTree = s.lagTree)
    (fwdMode : t.fwdMode = s.fwdMode) : LagEdited s t lagId :=
  ⟨_, .of_same (sync.matches created) cached npu lagTree fwdMode, fun _ member => .inl member⟩

section
variable (edited : LagEdited s t lagId)
include edited

theorem LagEdited.created (created : s.lagTree.get lagId ≠ none) : t.lagTree.get lagId ≠ none := by
  obtain ⟨members, becomes, _⟩ := edited
  rw [becomes.lagTree]
  exact created

theorem LagEdited.sync (sync : LagInSync s) (created : s.lagTree.get lagId ≠ none) : LagInSync t := by
  obtain ⟨members, becomes, fair⟩ := edited
  exact sync.becomes created becomes fun port member => (fair port member).imp_right And.left

theorem LagEdited.noRouted : NoRoutedPortAdded s t := by
  obtain ⟨members, becomes, fair⟩ := edited
  intro port routed j member
  rw [becomes.cached j] at member
  split at member
  · rename_i same
    rw [same]
    exact (fair port member).resolve_right fun new => new.2 routed
  · exact member

theorem LagEdited.shrink {members : Finset ObjectId}
    (becomes : t.Becomes u lagId members) (less : members ⊆ t.cached lagId) : LagEdited s u lagId := by
  obtain ⟨before, edits, fair⟩ := edited
  refine ⟨members, edits.trans becomes, fun port member => fair port ?_⟩
  rw [← edits.members_eq]
  exact less member

theorem LagEdited.notify (j : ObjectId) (lagOperation : LagOperation)
    (ports : List ObjectId) (status : SaiStatus) : LagEdited s (t.rifNotify j lagOperation ports status).1 lagId := by
  unfold LagState.rifNotify
  split
  · exact edited
  split
  · obtain ⟨members, becomes, fair⟩ := edited
    exact ⟨members, ⟨becomes.cached, becomes.npu, becomes.lagTree, becomes.fwdMode⟩, fair⟩
  · exact edited

theorem LagEdited.set (sync : LagInSync s) (created : s.lagTree.get lagId ≠ none)
    {env : LagPortListEnv} (unrouted : PortListUnrouted s t lagId ports env) :
    LagEdited s (l2LagPortListSet t lagId ports env).1 lagId := by
  have tSync := edited.sync sync created
  have tCreated := edited.created created
  obtain ⟨members, becomes, fair⟩ := edited
  obtain ⟨next, set, cause⟩ := l2LagPortListSet_becomes ports env tSync tCreated
  refine ⟨next, becomes.trans set, fun port member => ?_⟩
  rcases cause with old | ⟨accepted, listed⟩
  · have before := old member
    rw [becomes.members_eq] at before
    exact fair port before
  obtain ⟨isListed, apart⟩ := listed port member
  by_cases routed : s.fwdMode port = some .routing
  · exact .inl (List.mem_toFinset.mpr (unrouted accepted port isListed routed))
  refine .inr ⟨fun j other => ?_, routed⟩
  have away := apart j other
  rw [becomes.cached j, if_neg other] at away
  exact away

end

end Edited

section AddPorts
variable {nonDup : List ObjectId}

section
variable (done : LagLoopDone true s t lagId nonDup)
include done

theorem LagLoopDone.edited_added (sync : LagInSync s)
    (created : s.lagTree.get lagId ≠ none) (all : nonDup.toFinset ⊆ t.cached lagId) :
    LagEdited s (t.npuAddPorts lagId nonDup .success).1 lagId := by
  have members : t.cached lagId = s.cached lagId ∪ nonDup.toFinset :=
    Finset.Subset.antisymm done.within (Finset.union_subset done.keeps all)
  refine ⟨s.cached lagId ∪ nonDup.toFinset, ⟨fun j => ?_, fun j => ?_, ?_, ?_⟩, fun port member => ?_⟩
  · split
    · rename_i same
      rw [same]
      exact members
    · rename_i other
      exact done.others j other
  · rw [npuAddPorts_get, done.frame]
    split
    · rename_i same
      rw [same, sync.matches created]
      rfl
    · rfl
  · change t.lagTree = s.lagTree
    rw [done.frame]
  · change t.fwdMode = s.fwdMode
    rw [done.frame]
  · rcases Finset.mem_union.mp member with old | new
    · exact .inl old
    · have listed := List.mem_toFinset.mp new
      exact .inr ⟨done.apart port listed, done.unrouted rfl port listed⟩

theorem LagLoopDone.refused (matched : s.Matches lagId)
    (frame : u = { (t.npuAddPorts lagId nonDup .success).1 with told := u.told }) :
    s.Same (l2RemovePortNodes (u.npuRemovePorts lagId nonDup .success).1 lagId nonDup) := by
  have nodes : (u.npuRemovePorts lagId nonDup .success).1.nodes = t.nodes := by
    rw [frame]
    rfl
  refine ⟨fun j => ?_, fun j => ?_, fun j => ?_⟩
  · rw [cached_removePortNodes, cached_congr nodes, ← cached_removePortNodes, done.undone]
  · rw [l2RemovePortNodes_frame]
    change (u.npuRemovePorts lagId nonDup .success).1.npu.get j = _
    rw [npuRemovePorts_get, frame]
    change (if j = lagId then ((t.npuAddPorts lagId nonDup .success).1.npu.get j).map _
      else (t.npuAddPorts lagId nonDup .success).1.npu.get j) = _
    rw [npuAddPorts_get, done.frame]
    split
    · rename_i same
      rw [same, matched, Option.map_some, Option.map_some, Finset.union_sdiff_right]
      refine congrArg some (Finset.sdiff_eq_self_of_disjoint (Finset.disjoint_left.mpr fun port old new => ?_))
      exact done.fresh port (List.mem_toFinset.mp new) old
    · rfl
  · rw [l2RemovePortNodes_frame]
    change u.lagTree.get j ≠ none ↔ _
    rw [frame]
    change t.lagTree.get j ≠ none ↔ _
    rw [done.frame]

theorem LagLoopDone.edited_refused (sync : LagInSync s) (created : s.lagTree.get lagId ≠ none)
    (frame : u = { (t.npuAddPorts lagId nonDup .success).1 with told := u.told }) :
    LagEdited s (l2RemovePortNodes (u.npuRemovePorts lagId nonDup .success).1 lagId nonDup) lagId := by
  have matched := sync.matches created
  have same := done.refused matched frame
  refine ⟨s.cached lagId, ⟨fun j => ?_, fun j => ?_, ?_, ?_⟩, fun _ member => .inl member⟩
  · rw [same.cached]
    split
    · rename_i here
      rw [here]
    · rfl
  · rw [same.npu]
    split
    · rename_i here
      rw [here, matched]
    · rfl
  · rw [l2RemovePortNodes_frame]
    change u.lagTree = s.lagTree
    rw [frame]
    change t.lagTree = s.lagTree
    rw [done.frame]
  · rw [l2RemovePortNodes_frame]
    change u.fwdMode = s.fwdMode
    rw [frame]
    change t.fwdMode = s.fwdMode
    rw [done.frame]

end

theorem l2AddPortsToLag_edited (sync : LagInSync s) (created : s.lagTree.get lagId ≠ none) (env : LagAddPortsEnv) :
    LagEdited s (l2AddPortsToLag s lagId ports env).1 lagId := by
  have stays : LagEdited s s lagId := .of_same sync created (fun _ => rfl) rfl rfl rfl
  unfold l2AddPortsToLag
  split
  · exact stays
  split
  · exact stays
  obtain ⟨done, all⟩ := (LagLoopDone.start true s lagId).loop env.nodeAdd ports .failure
    (Finset.empty_subset _)
  rcases looped : l2LagPortsLoop true lagId env.nodeAdd s [] .failure ports with ⟨u, nonDup, status⟩
  rw [looped] at done all
  dsimp only at done all
  have undone : LagEdited s (l2RemovePortNodes u lagId nonDup) lagId :=
    ⟨_, done.becomes_undone (sync.matches created), fun _ member => .inl member⟩
  cases status with
  | success =>
    cases added : env.npuAdd with
    | success =>
      have told := (done.edited_added sync created (all rfl)).notify lagId .addPorts nonDup env.rifAdd
      have refused := done.edited_refused sync created (rifNotify_frame
        (u.npuAddPorts lagId nonDup .success).1 lagId .addPorts nonDup env.rifAdd)
      dsimp only
      rw [npuAddPorts_success]
      dsimp only
      split
      · rename_i notified
        rw [notified] at told
        exact told
      · rename_i notified
        rw [notified] at refused
        exact refused
    | _ => exact undone
  | _ => exact undone

end AddPorts

section RemovePorts

theorem LagState.Becomes.leave (ports : List ObjectId) (matched : s.Matches lagId)
    (cached : ∀ j, t.cached j = if j = lagId then s.cached j \ ports.toFinset else s.cached j)
    (npu : ∀ j, t.npu.get j = (s.npuRemovePorts lagId ports .success).1.npu.get j)
    (lagTree : t.lagTree = s.lagTree) (fwdMode : t.fwdMode = s.fwdMode) :
    s.Becomes t lagId (s.cached lagId \ ports.toFinset) := by
  refine ⟨fun j => ?_, fun j => ?_, lagTree, fwdMode⟩
  · rw [cached j]
    split
    · rename_i same
      rw [same]
    · rfl
  · rw [npu j, npuRemovePorts_get]
    split
    · rename_i same
      rw [same, matched]
      rfl
    · rfl

theorem l2RemovePortsFromLag_edited (sync : LagInSync s) (created : s.lagTree.get lagId ≠ none)
    (npu rifDel : SaiStatus) : LagEdited s (l2RemovePortsFromLag s lagId ports npu rifDel).1 lagId := by
  have stays : LagEdited s s lagId := .of_same sync created (fun _ => rfl) rfl rfl rfl
  unfold l2RemovePortsFromLag
  split
  · exact stays
  split
  · exact stays
  split
  · exact stays
  rename_i members
  have inside : ports.toFinset ⊆ s.cached lagId := by
    intro port member
    have all := (Bool.not_eq_false _).mp members
    exact isPortLagMember_iff.mp (List.all_eq_true.mp all port (List.mem_toFinset.mp member))
  cases npu with
  | success =>
    have frame := rifNotify_frame (s.npuRemovePorts lagId ports .success).1 lagId
      .delPorts ports rifDel
    rw [npuRemovePorts_success]
    dsimp only
    split
    · rename_i u notified
      rw [notified] at frame
      dsimp only at frame
      have left : s.Becomes (l2RemovePortNodes u lagId ports) lagId (s.cached lagId \ ports.toFinset) := by
        refine .leave ports (sync.matches created) (fun j => ?_) (fun j => ?_) ?_ ?_
        · rw [cached_removePortNodes, frame]
          rfl
        · rw [l2RemovePortNodes_frame, frame]
        · rw [l2RemovePortNodes_frame, frame]
          rfl
        · rw [l2RemovePortNodes_frame, frame]
          rfl
      exact stays.shrink left Finset.sdiff_subset
    · rename_i u status _ notified
      rw [notified] at frame
      dsimp only at frame
      refine ⟨s.cached lagId, ⟨fun j => ?_, fun j => ?_, ?_, ?_⟩, fun _ member => .inl member⟩
      · rw [frame]
        split
        · rename_i same
          rw [same]
          rfl
        · rfl
      · rw [npuAddPorts_get, frame]
        change (if j = lagId then ((s.npuRemovePorts lagId ports .success).1.npu.get j).map _
          else (s.npuRemovePorts lagId ports .success).1.npu.get j) = _
        rw [npuRemovePorts_get]
        split
        · rename_i same
          rw [same, sync.matches created, Option.map_some, Option.map_some,
            Finset.sdiff_union_of_subset inside]
        · rfl
      · rw [frame]
        rfl
      · rw [frame]
        rfl
  | _ => exact stays

theorem LagState.cached_removePort {npu : SaiStatus} {port : ObjectId} (j : ObjectId) :
    (s.removePort lagId port npu).cached j = if j = lagId then s.cached j \ [port].toFinset else s.cached j := by
  unfold LagState.removePort
  rw [cached_portNodeRemove]
  have nodes : (s.npuRemovePorts lagId [port] npu).1.nodes = s.nodes := by
    unfold LagState.npuRemovePorts
    split
    · rfl
    · rfl
  rw [cached_congr nodes, Finset.erase_eq]
  rfl

theorem LagState.removePort_becomes (matched : s.Matches lagId) (port : ObjectId) :
    s.Becomes (s.removePort lagId port .success) lagId (s.cached lagId \ [port].toFinset) :=
  .leave [port] matched (fun j => cached_removePort j) (fun _ => rfl) rfl rfl

end RemovePorts

section Member
variable {port : ObjectId}

/-- A state in which only flags and notices differ. -/
structure LagState.Flagged (s t : LagState) : Prop where
  cached : ∀ j, t.cached j = s.cached j
  npu : t.npu = s.npu
  lagTree : t.lagTree = s.lagTree
  fwdMode : t.fwdMode = s.fwdMode

theorem LagState.Flagged.refl (s : LagState) : s.Flagged s := ⟨fun _ => rfl, rfl, rfl, rfl⟩

theorem LagState.Flagged.trans (one : s.Flagged t) (two : t.Flagged u) : s.Flagged u :=
  ⟨fun j => (two.cached j).trans (one.cached j), two.npu.trans one.npu, two.lagTree.trans one.lagTree,
    two.fwdMode.trans one.fwdMode⟩

theorem LagState.rifNotify_flagged {lagOperation : LagOperation} {status : SaiStatus} :
    s.Flagged (s.rifNotify lagId lagOperation ports status).1 := by
  rw [rifNotify_frame]
  exact ⟨fun _ => rfl, rfl, rfl, rfl⟩

theorem LagState.givenFlagSet_flagged (s : LagState) (lagId port : ObjectId) (isIngress : Bool)
    (value : Option Bool) (npu : SaiStatus) : s.Flagged (s.givenFlagSet lagId port isIngress value npu).1 := by
  unfold LagState.givenFlagSet
  split
  · exact .refl s
  rename_i value
  unfold LagState.portFlagSet
  split
  · exact .refl s
  rename_i node _
  by_cases same : (if isIngress then node.ingressDisable else node.egressDisable) = value
  · rw [if_pos same]
    exact .refl s
  rw [if_neg same]
  cases npu with
  | success => exact ⟨fun _ => cached_setDisableStatus, rfl, rfl, rfl⟩
  | _ => exact .refl s

theorem LagState.finishMember_flagged (s : LagState) (lagId port : ObjectId) (parse : LagMemberParse)
    (env : L2LagMemberEnv) : s.Flagged (s.finishMember lagId port parse env).1 := by
  have ingress := s.givenFlagSet_flagged lagId port true parse.ingDisable env.ingDisable
  unfold LagState.finishMember
  split
  · rename_i u isIt
    rw [isIt] at ingress
    have egress := u.givenFlagSet_flagged lagId port false parse.egrDisable env.egrDisable
    split
    · rename_i v isIt'
      rw [isIt'] at egress
      exact (ingress.trans egress).trans rifNotify_flagged
    · rename_i isIt'
      rw [isIt'] at egress
      exact ingress.trans egress
  · rename_i isIt
    rw [isIt] at ingress
    exact ingress

theorem LagEdited.flagged (edited : LagEdited s t lagId) (flagged : t.Flagged u) : LagEdited s u lagId := by
  obtain ⟨members, becomes, fair⟩ := edited
  refine ⟨members, ⟨fun j => ?_, fun j => ?_, ?_, ?_⟩, fair⟩
  · rw [flagged.cached]
    exact becomes.cached j
  · rw [flagged.npu]
    exact becomes.npu j
  · rw [flagged.lagTree]
    exact becomes.lagTree
  · rw [flagged.fwdMode]
    exact becomes.fwdMode

theorem LagState.validatePortAdd_success (ok : s.validatePortAdd lagId port = .success) :
    s.lagTree.get lagId ≠ none ∧ port ∉ s.cached lagId ∧ (∀ j, j ≠ lagId → port ∉ s.cached j) ∧
      s.fwdMode port ≠ some .routing := by
  unfold LagState.validatePortAdd at ok
  split at ok
  · cases ok
  split at ok
  · cases ok
  rename_i created
  split at ok
  · cases ok
  rename_i new
  split at ok
  · cases ok
  rename_i apart
  have created := isLagCreated_iff.mp ((Bool.not_eq_false _).mp created)
  have apart := isPortPartOfDifferentLag_eq_false.mp ((Bool.not_eq_true _).mp apart)
  refine ⟨created, fun member => new (isPortLagMember_iff.mpr member), apart, fun routed => ?_⟩
  rw [routed] at ok
  cases ok

theorem LagState.addPort_edited (sync : LagInSync s) (created : s.lagTree.get lagId ≠ none)
    (apart : ∀ j, j ≠ lagId → port ∉ s.cached j) (mode : s.fwdMode port ≠ some .routing)
    (new : port ∉ s.cached lagId) (env : L2LagMemberEnv) : LagEdited s (s.addPort lagId port env).1 lagId := by
  have stays : LagEdited s s lagId := .of_same sync created (fun _ => rfl) rfl rfl rfl
  unfold LagState.addPort
  cases added : env.npuAdd with
  | success =>
    have npu : ∀ j, (s.npuAddPorts lagId [port] .success).1.npu.get j =
        if j = lagId then some (s.cached lagId ∪ [port].toFinset) else s.npu.get j := by
      intro j
      rw [npuAddPorts_get]
      split
      · rename_i same
        rw [same, sync.matches created]
        rfl
      · rfl
    cases inserted : env.nodeAdd with
    | success =>
      refine ⟨s.cached lagId ∪ [port].toFinset, ⟨fun j => ?_, npu, rfl, rfl⟩, fun q member => ?_⟩
      · have cached := cached_portNodeAdd (s.npuAddPorts lagId [port] .success).1 lagId port env.memberId j
        refine cached.trans ?_
        split
        · rename_i same
          rw [same, Finset.union_comm]
          rfl
        · rfl
      · rcases Finset.mem_union.mp member with old | isPort
        · exact .inl old
        · cases List.mem_singleton.mp (List.mem_toFinset.mp isPort)
          exact .inr ⟨apart, mode⟩
    | _ =>
      refine ⟨s.cached lagId, ⟨fun j => ?_, fun j => ?_, rfl, rfl⟩, fun _ member => .inl member⟩
      · change s.cached j = _
        split
        · rename_i same
          rw [same]
        · rfl
      · refine (npuRemovePorts_get (s.npuAddPorts lagId [port] .success).1 lagId [port] j).trans ?_
        rw [npu j]
        split
        · rw [Option.map_some, Finset.union_sdiff_right]
          refine congrArg some (Finset.sdiff_eq_self_of_disjoint (Finset.disjoint_left.mpr fun q old isPort => ?_))
          cases List.mem_singleton.mp (List.mem_toFinset.mp isPort)
          exact new old
        · rfl
  | _ => exact stays

theorem LagEdited.removed (edited : LagEdited s t lagId) (sync : LagInSync s) (created : s.lagTree.get lagId ≠ none)
    (port : ObjectId) : LagEdited s (t.removePort lagId port .success) lagId :=
  edited.shrink (removePort_becomes ((edited.sync sync created).matches (edited.created created)) port)
    Finset.sdiff_subset

theorem LagState.createMember_edited (sync : LagInSync s) (attrs : List LagMemberAttr) (env : L2LagMemberEnv) :
    (s.createMember attrs env).1 = s ∨ ∃ j, s.lagTree.get j ≠ none ∧
    LagEdited s (s.createMember attrs env).1 j := by
  unfold LagState.createMember
  split
  · exact .inl rfl
  split
  · rename_i parse _ _ _ j q _ _
    split
    · rename_i valid
      obtain ⟨created, new, apart, mode⟩ := validatePortAdd_success valid
      have added := addPort_edited sync created apart mode new env
      refine .inr ⟨j, created, ?_⟩
      split
      · rename_i u isAdded
        rw [isAdded] at added
        have finished := added.flagged (u.finishMember_flagged j q parse env)
        split
        · rename_i isFinished
          rw [isFinished] at finished
          exact finished
        · rename_i isFinished
          rw [isFinished] at finished
          exact finished.removed sync created q
      · rename_i isAdded
        rw [isAdded] at added
        exact added
    · exact .inl rfl
  · exact .inl rfl

theorem LagState.removeMember_edited (sync : LagInSync s) (memberId : ObjectId) (found : Option LagPortNode)
    (npu rifDel : SaiStatus)
    (removed : ∀ node, found = some node → node ∈ s.nodes → node.memberId = memberId →
      s.portValid node.portId = true → npu = .success) : (s.removeMember memberId found npu rifDel).1 = s ∨
      ∃ j, s.lagTree.get j ≠ none ∧ LagEdited s (s.removeMember memberId found npu rifDel).1 j := by
  unfold LagState.removeMember
  split
  · exact .inl rfl
  rename_i node
  split
  · exact .inl rfl
  rename_i isNode
  obtain ⟨member, sameId⟩ := not_or.mp isNode
  split
  · exact .inl rfl
  rename_i valid
  split
  · exact .inl rfl
  rename_i isCreated
  split
  · exact .inl rfl
  rw [removed node rfl (not_not.mp member) (not_not.mp sameId) ((Bool.not_eq_false _).mp valid)]
  have created := isLagCreated_iff.mp ((Bool.not_eq_false _).mp isCreated)
  have stays : LagEdited s s node.lagId := .of_same sync created (fun _ => rfl) rfl rfl rfl
  exact .inr ⟨node.lagId, created, (stays.removed sync created node.portId).notify _ _ _ _⟩

end Member

section Attribute
variable {env : LagSetEnv}

/-- No port list that comes through in a set of the attribute puts a port that
was in ROUTING mode into the LAG: the list when it is set first, the old list
when it is put back, and the list when it is set again. -/
def SetLagUnrouted (s : LagState) (lagId : ObjectId) (ports : List ObjectId) (env : LagSetEnv) : Prop :=
  let first := l2LagPortListSet s lagId ports env.first
  let told := l2SetLagTold first.1 lagId ports env
  PortListUnrouted s s lagId ports env.first ∧
  (first.2 = .success → told.2 ≠ .success →
    PortListUnrouted s (told.1.rifNotify lagId .addPorts env.stale env.rifUndo).1 lagId env.stale env.undo) ∧
  PortListUnrouted s (if first.2 = .success then l2SetLagNotify first.1 lagId ports env else first.1) lagId ports
    env.last

theorem l2SetLagAttribute_edited (sync : LagInSync s) (created : s.lagTree.get lagId ≠ none)
    (unrouted : SetLagUnrouted s lagId ports env) :
    LagEdited s (l2SetLagAttribute s lagId (.portList ports) env).1 lagId := by
  obtain ⟨unroutedFirst, unroutedUndo, unroutedLast⟩ := unrouted
  have stays : LagEdited s s lagId := .of_same sync created (fun _ => rfl) rfl rfl rfl
  have first := stays.set sync created unroutedFirst
  unfold l2SetLagAttribute
  split
  · exact stays
  dsimp only
  split
  · rename_i u isSet
    rw [isSet] at first unroutedUndo unroutedLast
    have told : LagEdited s (l2SetLagTold u lagId ports env).1 lagId := by
      have gone := first.notify lagId .delPorts env.stale env.rifDel
      unfold l2SetLagTold
      split
      · rename_i isGone
        rw [isGone] at gone
        exact gone.notify lagId .addPorts ports env.rifAdd
      · rename_i isGone
        rw [isGone] at gone
        exact gone
    have notified : LagEdited s (l2SetLagNotify u lagId ports env) lagId := by
      unfold l2SetLagNotify
      split
      · rename_i isTold
        rw [isTold] at told
        exact told
      · rename_i v status error isTold
        rw [isTold] at told unroutedUndo
        have undo := unroutedUndo rfl error
        exact (told.notify lagId .addPorts env.stale env.rifUndo).set sync created undo
    rw [if_pos rfl] at unroutedLast
    exact notified.set sync created unroutedLast
  · rename_i u status error isSet
    rw [isSet] at first unroutedLast
    rw [if_neg error] at unroutedLast
    exact first.set sync created unroutedLast

end Attribute

section Create
variable {portList : Nat → LagPortListEnv}

/-- No port list that comes through in the loop of a LAG creation puts a port
that was in ROUTING mode into the LAG. -/
def CreateLagUnrouted (before : LagState) (lagId : ObjectId) (portList : Nat → LagPortListEnv) (s : LagState)
    (index : Nat) : List LagAttr → Prop
  | [] => True
  | .portList ports :: rest =>
    PortListUnrouted before s lagId ports (portList index) ∧
      ((l2LagPortListSet s lagId ports (portList index)).2 = .success →
        CreateLagUnrouted before lagId portList (l2LagPortListSet s lagId ports (portList index)).1 (index + 1) rest)
  | .unknown :: _ => True

theorem LagEdited.createLoop (sync : LagInSync s) (created : s.lagTree.get lagId ≠ none) (attrs : List LagAttr)
    {index : Nat} (ret : SaiStatus) (edited : LagEdited s t lagId)
    (unrouted : CreateLagUnrouted s lagId portList t index attrs) :
    LagEdited s (l2CreateLagLoop t lagId portList index ret attrs).1 lagId := by
  induction attrs generalizing t index ret with
  | nil => exact edited
  | cons attr rest ih =>
    cases attr with
    | unknown => exact edited
    | portList ports =>
      obtain ⟨here, later⟩ := unrouted
      have set := edited.set sync created here
      unfold l2CreateLagLoop
      split
      · rename_i isSet
        rw [isSet] at set later
        exact ih .success set (later rfl)
      · rename_i isSet
        rw [isSet] at set
        exact set

theorem l2CreateLagLoop_absent (absent : s.lagTree.get lagId = none) (portList : Nat → LagPortListEnv)
    (index : Nat) (attrs : List LagAttr) {ret : SaiStatus} (error : ret ≠ .success) :
    (l2CreateLagLoop s lagId portList index ret attrs).1 = s ∧
      (l2CreateLagLoop s lagId portList index ret attrs).2 ≠ .success := by
  cases attrs with
  | nil => exact ⟨rfl, error⟩
  | cons attr rest =>
    cases attr with
    | unknown => exact ⟨rfl, fun ok => by cases ok⟩
    | portList ports =>
      have notCreated : s.isLagCreated lagId = false := by
        unfold LagState.isLagCreated
        rw [absent]
        rfl
      have refused : (l2LagPortListSet s lagId ports (portList index)).1 = s ∧
          (l2LagPortListSet s lagId ports (portList index)).2 ≠ .success := by
        unfold l2LagPortListSet
        split
        · exact ⟨rfl, fun ok => by cases ok⟩
        · exact ⟨rfl, fun ok => by cases ok⟩
      unfold l2CreateLagLoop
      split
      · rename_i isSet
        rw [isSet] at refused
        exact absurd rfl refused.2
      · rename_i isSet
        rw [isSet] at refused
        exact refused

/-- The LAG that the NPU has made, put into the cache. -/
def LagState.withLag (s : LagState) (lagId : ObjectId) : LagState :=
  { s with npu := s.npu.put lagId ∅, lagTree := s.lagTree.put lagId nullObjectId }

theorem LagInSync.withLag (sync : LagInSync s) (fresh : s.npu.get lagId = none) : LagInSync (s.withLag lagId) := by
  have absent := sync.lags.absent fresh
  refine ⟨fun j => ?_, fun j => ?_, sync.exclusive⟩
  · change s.cached j = ((s.npu.put lagId ∅).get j).getD ∅
    rw [get_put]
    split
    · rename_i same
      rw [same]
      exact sync.cached_of_absent absent
    · exact sync.agree j
  · change (s.lagTree.put lagId nullObjectId).get j ≠ none ↔ (s.npu.put lagId ∅).get j ≠ none
    rw [get_put, get_put]
    split
    · exact iff_of_true (Option.some_ne_none _) (Option.some_ne_none _)
    · exact sync.held j

/-- A state without one LAG. -/
structure LagState.Without (s t : LagState) (lagId : ObjectId) : Prop where
  cached : ∀ j, t.cached j = if j = lagId then ∅ else s.cached j
  npu : ∀ j, t.npu.get j = if j = lagId then none else s.npu.get j
  lagTree : ∀ j, t.lagTree.get j = if j = lagId then none else s.lagTree.get j

theorem LagState.dropped_without (s : LagState) (lagId : ObjectId) :
    s.Without ((((s.npuLagRemove lagId .success).1.removeAllPortNodes lagId).nodeRemove lagId).1) lagId := by
  unfold LagState.nodeRemove
  split
  · exact ⟨fun _ => cached_removeAllPortNodes, fun j => get_del s.npu lagId j,
      fun j => get_del s.lagTree lagId j⟩
  rename_i notCreated
  refine ⟨fun _ => cached_removeAllPortNodes, fun j => get_del s.npu lagId j, fun j => ?_⟩
  split
  · rename_i same
    rw [same]
    by_contra created
    exact notCreated (isLagCreated_iff.mpr created)
  · rfl

theorem LagHeld.undone_create (lags : LagHeld s) (fresh : s.npu.get lagId = none)
    (cached : ∀ j, j ≠ lagId → t.cached j = s.cached j) (npu : ∀ j, j ≠ lagId → t.npu.get j = s.npu.get j)
    (lagTree : ∀ j, j ≠ lagId → t.lagTree.get j = s.lagTree.get j) :
    s.Same ((((t.npuLagRemove lagId .success).1.removeAllPortNodes lagId).nodeRemove lagId).1) := by
  have absent := lags.absent fresh
  have without := t.dropped_without lagId
  refine ⟨fun j => ?_, fun j => ?_, fun j => ?_⟩
  · rw [without.cached]
    split
    · rename_i same
      rw [same]
      exact (lags.owned lagId absent).symm
    · rename_i other
      exact cached j other
  · rw [without.npu]
    split
    · rename_i same
      rw [same]
      exact fresh.symm
    · rename_i other
      exact npu j other
  · rw [without.lagTree]
    split
    · rename_i same
      rw [same, absent]
    · rename_i other
      rw [lagTree j other]

theorem LagState.Same.noRouted (same : s.Same t) : NoRoutedPortAdded s t := by
  intro port _ j member
  rw [same.cached j] at member
  exact member

theorem LagHeld.notInserted (lags : LagHeld s) (fresh : s.npu.get lagId = none) (attrs : List LagAttr)
    {env : LagCreateEnv} (refused : env.nodeAdd ≠ .success) :
    s.Same (l2CreateLagWithId { s with npu := s.npu.put lagId ∅ } lagId attrs env).1 ∧
      (l2CreateLagWithId { s with npu := s.npu.put lagId ∅ } lagId attrs env).2 ≠ .success := by
  have absent := lags.absent fresh
  have answer : LagState.nodeAdd { s with npu := s.npu.put lagId ∅ } lagId env.nodeAdd =
      ({ s with npu := s.npu.put lagId ∅ }, env.nodeAdd) := by
    unfold LagState.nodeAdd
    split
    · rename_i ok
      exact absurd ok refused
    · rfl
  unfold l2CreateLagWithId
  rw [answer]
  dsimp only
  rw [if_neg refused]
  obtain ⟨looped, error⟩ := l2CreateLagLoop_absent
    (s := (LagState.npuLagRemove { s with npu := s.npu.put lagId ∅ } lagId .success).1) absent env.portList 0 attrs
    refused
  have same : s.Same (((((l2CreateLagLoop (LagState.npuLagRemove { s with npu := s.npu.put lagId ∅ } lagId .success).1
      lagId env.portList 0 env.nodeAdd attrs).1.npuLagRemove lagId .success).1.removeAllPortNodes
        lagId).nodeRemove lagId).1) := by
    rw [looped]
    refine lags.undone_create fresh (fun _ _ => rfl) (fun j other => ?_) fun _ _ => rfl
    change ((s.npu.put lagId ∅).del lagId).get j = _
    rw [get_del_ne other, get_put_ne other]
  split
  · rename_i isLooped
    rw [isLooped] at error
    exact absurd rfl error
  · rename_i isError isLooped
    rw [isLooped] at same
    exact ⟨same, isError⟩

theorem l2CreateLagWithId_sync (sync : LagInSync s) (fresh : s.npu.get lagId = none) (attrs : List LagAttr)
    (env : LagCreateEnv) (unrouted : env.nodeAdd = .success →
      CreateLagUnrouted (s.withLag lagId) lagId env.portList (s.withLag lagId) 0 attrs) :
    LagInSync (l2CreateLagWithId { s with npu := s.npu.put lagId ∅ } lagId attrs env).1 ∧
      NoRoutedPortAdded s (l2CreateLagWithId { s with npu := s.npu.put lagId ∅ } lagId attrs env).1 := by
  by_cases inserted : env.nodeAdd = .success
  · unfold l2CreateLagWithId
    rw [inserted]
    have sync' := sync.withLag fresh
    have created : (s.withLag lagId).lagTree.get lagId ≠ none := by
      change (s.lagTree.put lagId nullObjectId).get lagId ≠ none
      rw [get_put_self]
      exact Option.some_ne_none _
    have stays : LagEdited (s.withLag lagId) (s.withLag lagId) lagId :=
      .of_same sync' created (fun _ => rfl) rfl rfl rfl
    have edited := LagEdited.createLoop sync' created attrs .success stays (unrouted inserted)
    have added : LagState.nodeAdd { s with npu := s.npu.put lagId ∅ } lagId .success =
      (s.withLag lagId, .success) := rfl
    rw [added]
    dsimp only
    rw [if_pos rfl]
    split
    · rename_i isLooped
      rw [isLooped] at edited
      exact ⟨edited.sync sync' created, edited.noRouted⟩
    rename_i t error _ isLooped
    rw [isLooped] at edited
    obtain ⟨members, becomes, _⟩ := edited
    have same : s.Same ((((t.npuLagRemove lagId .success).1.removeAllPortNodes lagId).nodeRemove lagId).1) := by
      refine sync.lags.undone_create fresh (fun j other => ?_) (fun j other => ?_) fun j other => ?_
      · rw [becomes.cached j, if_neg other]
        rfl
      · rw [becomes.npu j, if_neg other]
        exact get_put_ne other
      · rw [becomes.lagTree]
        exact get_put_ne other
    exact ⟨sync.same same, same.noRouted⟩
  · have same := (sync.lags.notInserted fresh attrs inserted).1
    exact ⟨sync.same same, same.noRouted⟩

theorem l2CreateLag_sync (sync : LagInSync s) (attrs : List LagAttr) (env : LagCreateEnv)
    (unrouted : ∀ lagId, env.create = .ok lagId → s.npu.get lagId = none → env.nodeAdd = .success →
      CreateLagUnrouted (s.withLag lagId) lagId env.portList (s.withLag lagId) 0 attrs) :
    LagInSync (l2CreateLag s attrs env).1 ∧ NoRoutedPortAdded s (l2CreateLag s attrs env).1 := by
  have stays : s.Same s := ⟨fun _ => rfl, fun _ => rfl, fun _ => Iff.rfl⟩
  unfold l2CreateLag LagState.npuLagCreate
  cases answer : env.create with
  | error status => exact ⟨sync, stays.noRouted⟩
  | ok lagId =>
    dsimp only
    cases fresh : s.npu.get lagId with
    | some held => exact ⟨sync, stays.noRouted⟩
    | none => exact l2CreateLagWithId_sync sync fresh attrs env (unrouted lagId answer fresh)

/-- A removal does nothing, drops the LAG, or has taken its members out of the
cache when the NPU refuses it. -/
theorem l2RemoveLag_cases (s : LagState) (lagId : ObjectId) (npu : SaiStatus) :
    (l2RemoveLag s lagId npu).1 = s ∧
      (∀ rifId, s.lagTree.get lagId = some rifId → rifId.objType = .routerInterface) ∨
    ∃ rifId, s.lagTree.get lagId = some rifId ∧ rifId.objType ≠ .routerInterface ∧
      (npu = .success ∧ (l2RemoveLag s lagId npu).2 = .success ∧ s.Without (l2RemoveLag s lagId npu).1 lagId ∨
        npu ≠ .success ∧ (l2RemoveLag s lagId npu).2 = npu ∧
        (∀ j, (l2RemoveLag s lagId npu).1.cached j = if j = lagId then ∅ else s.cached j) ∧
        (l2RemoveLag s lagId npu).1.npu = s.npu ∧
        ∀ j, (l2RemoveLag s lagId npu).1.lagTree.get j ≠ none ↔ s.lagTree.get j ≠ none) := by
  unfold l2RemoveLag
  cases found : s.lagTree.get lagId with
  | none => exact .inl ⟨rfl, fun _ isIt => by cases isIt⟩
  | some rifId =>
    dsimp only
    by_cases isRif : rifId.objType = .routerInterface
    · rw [if_pos isRif]
      refine .inl ⟨rfl, fun other isIt => ?_⟩
      cases isIt
      exact isRif
    have created : s.lagTree.get lagId ≠ none := by
      rw [found]
      exact Option.some_ne_none _
    have isCreated : (s.removeAllPortNodes lagId).isLagCreated lagId = true := isLagCreated_iff.mpr created
    rw [if_neg isRif]
    unfold LagState.nodeRemove
    rw [if_pos isCreated]
    dsimp only
    refine .inr ⟨rifId, rfl, isRif, ?_⟩
    by_cases removed : npu = .success
    · subst removed
      exact .inl ⟨rfl, rfl, fun _ => cached_removeAllPortNodes, fun j => get_del s.npu lagId j,
        fun j => get_del s.lagTree lagId j⟩
    rw [npuLagRemove_refused _ _ removed]
    split
    · rename_i isIt
      exact absurd (congrArg Prod.snd isIt) removed
    rename_i isIt
    cases isIt
    refine .inr ⟨removed, rfl, fun _ => cached_removeAllPortNodes, rfl, fun j => ?_⟩
    change ((s.lagTree.del lagId).put lagId nullObjectId).get j ≠ none ↔ s.lagTree.get j ≠ none
    rw [get_put, get_del]
    split
    · rename_i same
      rw [same]
      exact iff_of_true (Option.some_ne_none _) created
    · exact Iff.rfl

theorem LagInSync.without (sync : LagInSync s) (without : s.Without t lagId) : LagInSync t := by
  refine ⟨fun j => ?_, fun j => ?_, fun port j j' one two => ?_⟩
  · unfold LagState.npuMembers
    rw [without.cached, without.npu]
    split
    · rfl
    · exact sync.agree j
  · rw [without.lagTree, without.npu]
    split
    · exact iff_of_false (fun held => held rfl) fun held => held rfl
    · exact sync.held j
  · rw [without.cached] at one two
    split at one
    · cases one
    split at two
    · cases two
    · exact sync.exclusive port j j' one two

theorem l2RemoveLag_sync (sync : LagInSync s) (npu : SaiStatus)
    (removed : ∀ rifId, s.lagTree.get lagId = some rifId → rifId.objType ≠ .routerInterface →
      npu = .success ∨ s.portListGet lagId = []) :
    LagInSync (l2RemoveLag s lagId npu).1 ∧ NoRoutedPortAdded s (l2RemoveLag s lagId npu).1 := by
  rcases l2RemoveLag_cases s lagId npu with ⟨same, _⟩ | ⟨rifId, found, kind, ⟨_, _, without⟩ |
    ⟨refused, _, cached, npus, lagTree⟩⟩
  · rw [same]
    exact ⟨sync, LagState.Same.noRouted (.refl s)⟩
  · refine ⟨sync.without without, fun port _ j member => ?_⟩
    rw [without.cached] at member
    split at member
    · cases member
    · exact member
  · have none := (removed rifId found kind).resolve_left refused
    have same : s.Same (l2RemoveLag s lagId npu).1 := by
      refine ⟨fun j => ?_, fun j => by rw [npus], lagTree⟩
      rw [cached]
      split
      · rename_i same
        unfold LagState.cached
        rw [same, none]
        rfl
      · rfl
    exact ⟨sync.same same, same.noRouted⟩

end Create

section System

/-- The steps of the calls that keep cache and NPU together and routed ports out
are taken: the NPU removes a LAG that has members and a member that is removed,
and no port list that comes through names a new port in ROUTING mode. -/
def LagCall.harmless (s : LagState) : LagCall → Prop
  | .createLag attrs env => ∀ lagId, env.create = .ok lagId → s.npu.get lagId = none → env.nodeAdd = .success →
      CreateLagUnrouted (s.withLag lagId) lagId env.portList (s.withLag lagId) 0 attrs
  | .removeLag lagId npu => ∀ rifId, s.lagTree.get lagId = some rifId → rifId.objType ≠ .routerInterface →
      npu = .success ∨ s.portListGet lagId = []
  | .setAttribute lagId attr env => s.isLagCreated lagId = true → ∀ ports, attr = .portList ports →
      SetLagUnrouted s lagId ports env
  | .removeMember memberId found npu _ => ∀ node, found = some node → node ∈ s.nodes →
    node.memberId = memberId →
      s.portValid node.portId = true → npu = .success
  | _ => True

theorem LagInSync.run (sync : LagInSync s) (call : LagCall) (harmless : call.harmless s) :
    LagInSync (call.step s) ∧ NoRoutedPortAdded s (call.step s) := by
  have stays : s.Same s := ⟨fun _ => rfl, fun _ => rfl, fun _ => Iff.rfl⟩
  have unchanged : ∀ t, t = s → LagInSync t ∧ NoRoutedPortAdded s t := by
    rintro t rfl
    exact ⟨sync, stays.noRouted⟩
  have byEdit : ∀ t lagId, s.lagTree.get lagId ≠ none → LagEdited s t lagId → LagInSync t ∧
    NoRoutedPortAdded s t :=
    fun t lagId created edited => ⟨edited.sync sync created, edited.noRouted⟩
  cases call with
  | createLag attrs env => exact l2CreateLag_sync sync attrs env harmless
  | removeLag lagId npu => exact l2RemoveLag_sync sync npu harmless
  | setAttribute lagId attr env =>
    by_cases created : s.isLagCreated lagId = true
    · cases attr with
      | unknown =>
        refine unchanged _ ?_
        change (l2SetLagAttribute s lagId .unknown env).1 = s
        unfold l2SetLagAttribute
        split
        · rfl
        · rfl
      | portList ports =>
        have isCreated := isLagCreated_iff.mp created
        exact byEdit _ lagId isCreated (l2SetLagAttribute_edited sync isCreated (harmless created ports rfl))
    · refine unchanged _ ?_
      change (l2SetLagAttribute s lagId attr env).1 = s
      unfold l2SetLagAttribute
      rw [if_pos ((Bool.not_eq_true _).mp created)]
  | addPorts lagId ports env =>
    by_cases created : s.isLagCreated lagId = true
    · have isCreated := isLagCreated_iff.mp created
      exact byEdit _ lagId isCreated (l2AddPortsToLag_edited sync isCreated env)
    refine unchanged _ ?_
    change (l2AddPortsToLag s lagId ports env).1 = s
    unfold l2AddPortsToLag
    rw [if_pos ((Bool.not_eq_true _).mp created)]
    split
    · rfl
    · rfl
  | removePorts lagId ports npu rifDel =>
    by_cases created : s.isLagCreated lagId = true
    · have isCreated := isLagCreated_iff.mp created
      exact byEdit _ lagId isCreated (l2RemovePortsFromLag_edited sync isCreated npu rifDel)
    refine unchanged _ ?_
    change (l2RemovePortsFromLag s lagId ports npu rifDel).1 = s
    unfold l2RemovePortsFromLag
    rw [if_pos ((Bool.not_eq_true _).mp created)]
    split
    · rfl
    · rfl
  | createMember attrs env =>
    rcases createMember_edited sync attrs env with same | ⟨j, created, edited⟩
    · exact unchanged _ same
    · exact byEdit _ j created edited
  | removeMember memberId found npu rifDel =>
    rcases removeMember_edited sync memberId found npu rifDel harmless with same | ⟨j, created, edited⟩
    · exact unchanged _ same
    · exact byEdit _ j created edited
  | portsChange valid fwdMode =>
    exact ⟨sync.same ⟨fun _ => rfl, fun _ => rfl, fun _ => Iff.rfl⟩, fun _ _ _ => id⟩
  | updateRifId lagId rifId =>
    exact ⟨sync.same ⟨fun _ => rfl, fun _ => rfl, fun j => not_congr get_modify_eq_none⟩,
      fun _ _ _ => id⟩
  | registerCallback registered =>
    exact ⟨sync.same ⟨fun _ => rfl, fun _ => rfl, fun _ => Iff.rfl⟩, fun _ _ _ => id⟩

structure LagFresh (s : LagState) : Prop where
  noLags : s.lagTree = ∅
  noNodes : s.nodes = []
  noNpuLags : s.npu = ∅

theorem LagFresh.sync (fresh : LagFresh s) : LagInSync s := by
  have noMembers : ∀ lagId, s.cached lagId = ∅ := by
    intro lagId
    unfold LagState.cached LagState.portListGet
    rw [fresh.noNodes]
    rfl
  refine ⟨fun j => ?_, fun j => ?_, fun port j j' one _ => ?_⟩
  · unfold LagState.npuMembers
    rw [noMembers j, fresh.noNpuLags, get_empty]
    rfl
  · rw [fresh.noLags, fresh.noNpuLags, get_empty, get_empty]
    exact iff_of_false (fun held => held rfl) fun held => held rfl
  · rw [noMembers j] at one
    cases one

/-- A port is a member of one LAG at most, and every LAG has the same members in
the cache and in the NPU. -/
structure LagMembersExact (s : LagState) : Prop where
  exclusive : ∀ port lagId lagId', port ∈ s.cached lagId → port ∈ s.cached lagId' → lagId = lagId'
  agree : ∀ lagId, s.cached lagId = s.npuMembers lagId

/-- In every run of harmless calls the members are exact and no port that was in
ROUTING mode joins a LAG. -/
theorem lagMembers_exact (reach : Runs.Reach LagFresh (Runs.guarded LagCall.harmless LagCall.step) s) :
    LagMembersExact s ∧ ∀ call : LagCall, call.harmless s → NoRoutedPortAdded s (call.step s) := by
  have sync : LagInSync s := by
    refine reach.invariant LagInSync (fun _ fresh => fresh.sync) ?_
    intro s call t sync moved
    rw [moved.2]
    exact (sync.run call moved.1).1
  exact ⟨⟨sync.exclusive, sync.agree⟩, fun call harmless => (sync.run call harmless).2⟩

end System

def lagSample : LagState where
  lagTree := ∅
  nodes := []
  npu := ∅
  portValid := fun _ => true
  fwdMode := fun port => if port.npuObjectId = 2 then some .routing else some .switching
  rifCallback := true
  told := []

theorem lagSample_fresh : LagFresh lagSample := ⟨rfl, rfl, rfl⟩

def lagSamplePortList : LagPortListEnv := ⟨.success, fun _ => .success, .success⟩

def lagSampleRun (npu : SaiStatus) : List LagCall :=
  [.createLag [.portList [⟨.port, 1⟩]] ⟨.ok ⟨.lag, 1⟩, .success, fun _ => lagSamplePortList⟩,
    .removeMember nullObjectId (some ⟨⟨.lag, 1⟩, ⟨.port, 1⟩, nullObjectId, false, false⟩) npu .success]

theorem lagMembers_exact_sample : LagMembersExact ((lagSampleRun .success).foldl LagCall.step lagSample) ∧
      ∀ call : LagCall, call.harmless ((lagSampleRun .success).foldl LagCall.step lagSample) →
        NoRoutedPortAdded ((lagSampleRun .success).foldl LagCall.step lagSample)
          (call.step ((lagSampleRun .success).foldl LagCall.step lagSample)) := by
  refine lagMembers_exact (Runs.Reach.run (.start lagSample_fresh) ⟨?_, ?_, trivial⟩)
  · intro lagId isIt _ _
    cases isIt
    refine ⟨fun _ port member routed => ?_, fun _ => trivial⟩
    cases List.mem_singleton.mp member
    cases routed
  · intro node _ _ _ _
    rfl

/-- A member that the NPU refuses to remove leaves the cache only, and a port
list that is set takes a port in ROUTING mode. -/
theorem lagMembers_not_exact :
    (¬ ∀ s, Runs.Reach LagFresh (Runs.guarded (fun _ _ => True) LagCall.step) s → LagMembersExact s) ∧
    ¬ ∀ s, Runs.Reach LagFresh (Runs.guarded (fun _ _ => True) LagCall.step) s →
      ∀ call : LagCall, NoRoutedPortAdded s (call.step s) := by
  constructor
  · intro all
    have exact := all _ (Runs.Reach.run (.start lagSample_fresh)
      (Runs.allowedRun_of_forall (fun _ _ => trivial) _ (lagSampleRun .failure)))
    have agree := exact.agree ⟨.lag, 1⟩
    have differ :
      ⟨.port, 1⟩ ∈ LagState.npuMembers ((lagSampleRun .failure).foldl LagCall.step lagSample) ⟨.lag, 1⟩ := by
      decide
    rw [← agree] at differ
    revert differ
    decide
  · intro all
    have kept := all _ (.start lagSample_fresh)
      (.createLag [.portList [⟨.port, 2⟩]] ⟨.ok ⟨.lag, 1⟩, .success, fun _ => lagSamplePortList⟩)
      ⟨.port, 2⟩ rfl
      ⟨.lag, 1⟩
    revert kept
    decide

end SaiCommon
