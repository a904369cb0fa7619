import SaiCommon.Fib.Membership
import SaiCommon.Fib.NeighborNextHop

namespace SaiCommon

open KeyTree

variable {s t : FibState} {ref : NhRef} {p : Platform}

def FibNodesOwned (s : FibState) : Prop := ∀ ref, nhOwner s ref ≠ some ⟨false, false⟩

/-- The same, one node left out. -/
def FibOwnedBut (s : FibState) (ref : NhRef) : Prop := ∀ other, other ≠ ref →
    nhOwner s other ≠ some ⟨false, false⟩

section Owned

theorem FibNodesOwned.congr (owned : FibNodesOwned s) (same : ∀ ref, nhOwner t ref = nhOwner s ref) :
    FibNodesOwned t := by
  intro ref
  rw [same]
  exact owned ref

theorem FibNodesOwned.but (owned : FibNodesOwned s) (ref : NhRef) : FibOwnedBut s ref :=
  fun other _ => owned other

theorem FibOwnedBut.all (owned : FibOwnedBut s ref) (here : nhOwner s ref ≠ some ⟨false, false⟩) :
    FibNodesOwned s := by
  intro other
  by_cases same : other = ref
  · rw [same]
    exact here
  · exact owned other same

theorem FibOwnedBut.modifyNh (owned : FibOwnedBut s ref) (f : Nh → Nh) : FibOwnedBut (s.modifyNh ref f) ref := by
  intro other apart
  have same : nhOwner (s.modifyNh ref f) other = nhOwner s other :=
    congrArg (Option.map Nh.ownerFlag) (get_modify_ne apart)
  rw [same]
  exact owned other apart

theorem FibOwnedBut.own {f : Nh → Nh} (owned : FibOwnedBut s ref)
    (owner : ∀ node, (f node).ownerFlag ≠ ⟨false, false⟩) :
    FibNodesOwned (s.modifyNh ref f) := by
  refine (owned.modifyNh f).all fun unowned => ?_
  have here : (s.nhTree.modify ref f).get ref = (s.nhTree.get ref).map f := get_modify_self s.nhTree ref f
  have flags : ((s.nhTree.modify ref f).get ref).map Nh.ownerFlag = some ⟨false, false⟩ := unowned
  rw [here, Option.map_map] at flags
  obtain ⟨node, _, unowned⟩ := Option.map_eq_some_iff.mp flags
  exact owner node unowned

theorem nhOwner_modifyNh {f : Nh → Nh} (keep : ∀ node, (f node).ownerFlag = node.ownerFlag) (other : NhRef) :
    nhOwner (s.modifyNh ref f) other = nhOwner s other :=
  map_get_modify keep other

theorem Nh.setOwnerNextHop_owned (node : Nh) : node.setOwnerNextHop.ownerFlag ≠ ⟨false, false⟩ := by
  intro unowned
  have nextHop : node.setOwnerNextHop.ownerFlag.nextHop = false := congrArg NhOwner.nextHop unowned
  exact Bool.noConfusion nextHop

theorem Nh.setOwnerNeighbor_owned (node : Nh) : node.setOwnerNeighbor.ownerFlag ≠ ⟨false, false⟩ := by
  intro unowned
  have neighbor : node.setOwnerNeighbor.ownerFlag.neighbor = false := congrArg NhOwner.neighbor unowned
  exact Bool.noConfusion neighbor

def FibNodePlaced (s : FibState) (ref : NhRef) : Prop := s.nhTree.get ref ≠ none → s.vrfTree.get ref.vrfId ≠ none

theorem FibConsistent.nodePlaced (consistent : FibConsistent s) (ref : NhRef) : FibNodePlaced s ref :=
  fun stored => consistent.counts.rifVrf ref.key.rifId ref.vrfId (consistent.counts.nhRif ref stored)

theorem FibNodePlaced.modifyNh (placed : FibNodePlaced s ref) (f : Nh → Nh) :
    FibNodePlaced (s.modifyNh ref f) ref := by
  intro stored
  refine placed fun absent => stored ?_
  exact get_modify_eq_none.mpr absent

theorem FibOwnedBut.checkAndDelete (owned : FibOwnedBut s ref) (placed : FibNodePlaced s ref) :
    FibNodesOwned (fibCheckAndDeleteIpNextHopNode s ref).1 := by
  unfold fibCheckAndDeleteIpNextHopNode
  split
  · rename_i absent
    refine owned.all fun unowned => ?_
    rw [nhOwner, absent] at unowned
    cases unowned
  rename_i node found
  split
  · rename_i owner
    refine owned.all fun unowned => owner ?_
    rw [nhOwner, found] at unowned
    exact Option.some.inj unowned
  split
  · rename_i absent
    exact absurd absent (placed (by rw [found]; exact Option.some_ne_none node))
  intro other
  have deleted : nhOwner (fibNhRifRefCountDecr { s with nhTree := s.nhTree.del ref } ref) other =
      ((s.nhTree.del ref).get other).map Nh.ownerFlag := rfl
  rw [deleted, get_del]
  split
  · exact fun none => by cases none
  · rename_i apart
    exact owned other apart

theorem FibOwnedBut.release (owned : FibOwnedBut s ref) (placed : FibNodePlaced s ref) (f : Nh → Nh) :
    FibNodesOwned (fibCheckAndDeleteIpNextHopNode (s.modifyNh ref f) ref).1 :=
  (owned.modifyNh f).checkAndDelete (placed.modifyNh f)

end Owned

section NextHops

theorem fibOwnedBut_nodeCreate {info : NhInfo} {env : NhNodeEnv} (owned : FibNodesOwned s)
    (run : fibIpNextHopNodeCreate s info env = .ok t) : FibOwnedBut t info.ref ∧ FibNodePlaced t info.ref := by
  obtain ⟨vrf, _, rfl⟩ := fibIpNextHopNodeCreate_cases run
  refine ⟨fun other apart => ?_, fun _ => vrf⟩
  have same : nhOwner (fibNhRifRefCountIncr
      { s with nhTree := s.nhTree.put info.ref { info.node with nhGroupList := [] } } info.ref) other =
      nhOwner s other := congrArg (Option.map Nh.ownerFlag) (get_put_ne apart)
  rw [same]
  exact owned other

theorem FibOwnedBut.ipNextHopOwn (owned : FibOwnedBut s ref) (placed : FibNodePlaced s ref)
    (env : NextHopCreateEnv) : FibNodesOwned (fibIpNextHopOwn s ref env).1 := by
  unfold fibIpNextHopOwn
  simp only
  split
  · refine (owned.own Nh.setOwnerNextHop_owned).congr ?_
    exact nhOwner_modifyNh fun _ => rfl
  · exact (owned.modifyNh Nh.setOwnerNextHop).release (placed.modifyNh _) fibNextHopInfoReset

theorem FibNodesOwned.ipNextHopCreate (owned : FibNodesOwned s) (consistent : FibConsistent s) (info : NhInfo)
    (env : NextHopCreateEnv) : FibNodesOwned (fibIpNextHopCreate s info env).1 := by
  unfold fibIpNextHopCreate
  split
  · split
    · exact owned
    · exact (owned.but _).ipNextHopOwn (consistent.nodePlaced _) env
  · split
    · exact owned
    rename_i t created
    obtain ⟨but, placed⟩ := fibOwnedBut_nodeCreate owned created
    exact but.ipNextHopOwn placed env

theorem FibNodesOwned.ipNextHopRemove (owned : FibNodesOwned s) (placed : FibNodePlaced s ref) (npu : SaiStatus) :
    FibNodesOwned (fibIpNextHopRemove s ref npu).1 := by
  unfold fibIpNextHopRemove
  split
  · exact owned
  split
  · exact (owned.but ref).release placed fibNextHopInfoReset
  · exact owned

theorem fibInsertNhId_nodes (s : FibState) (ref : NhRef) (idTreeOk : Bool) :
    (fibInsertNhNodeInNhIdDatabase s ref idTreeOk).1.nhTree = s.nhTree ∧
    (fibInsertNhNodeInNhIdDatabase s ref idTreeOk).1.vrfTree = s.vrfTree := by
  unfold fibInsertNhNodeInNhIdDatabase
  split <;> exact ⟨rfl, rfl⟩

theorem FibNodesOwned.insertNhId (owned : FibNodesOwned s) (ref : NhRef) (idTreeOk : Bool) :
    FibNodesOwned (fibInsertNhNodeInNhIdDatabase s ref idTreeOk).1 := by
  refine owned.congr fun other => ?_
  rw [nhOwner, (fibInsertNhId_nodes s ref idTreeOk).1, nhOwner]

theorem FibNodesOwned.nextHopCreate (owned : FibNodesOwned s) (consistent : FibConsistent s)
    (attrs : List NextHopAttr) (env : NextHopCreateEnv) : FibNodesOwned (fibNextHopCreate p s attrs env).1 := by
  unfold fibNextHopCreate
  split
  · exact owned
  rename_i info filled
  obtain ⟨same, located⟩ := fibNextHopInfoFill_ok filled
  have blank : NhBlank info.node := by
    rw [same]
    exact nhBlank_nextHopDefault
  split
  · have created := owned.ipNextHopCreate consistent info env
    obtain ⟨after, _⟩ := consistent.ipNextHopCreate env blank located
    split
    · rename_i failed
      rw [failed] at created
      exact created
    rename_i t ref made
    rw [made] at created after
    have inserted := created.insertNhId ref env.idTreeOk
    obtain ⟨nodes, vrfs⟩ := fibInsertNhId_nodes t ref env.idTreeOk
    split
    · rename_i done
      rw [done] at inserted
      exact inserted
    rename_i u error _ refused
    rw [refused] at inserted nodes vrfs
    have placed : FibNodePlaced u ref := by
      intro stored
      rw [nodes] at stored
      rw [vrfs]
      exact after.nodePlaced ref stored
    exact inserted.ipNextHopRemove placed env.npuRemove
  · exact owned

theorem FibNodesOwned.nextHopRemove (owned : FibNodesOwned s) (consistent : FibConsistent s) (nextHopId : ObjectId)
    (npu : SaiStatus) (idTreeOk : Bool) : FibNodesOwned (fibNextHopRemove s nextHopId npu idTreeOk).1 := by
  unfold fibNextHopRemove
  split
  · exact owned
  split
  · exact owned
  rename_i ref named
  split
  · exact owned
  split
  · exact owned
  have eq := fibRemoveNhNodeFromNhIdDatabase_eq s ref
  split
  · rename_i t done
    rw [done] at eq
    subst eq
    have unnamed : FibNodesOwned { s with nhIdTree := s.nhIdTree.del (fibNhNextHopId s ref) } := owned
    have removed : FibNodesOwned (fibNextHopRemoveByType
        { s with nhIdTree := s.nhIdTree.del (fibNhNextHopId s ref) } ref npu).1 := by
      unfold fibNextHopRemoveByType
      split
      · exact unnamed.ipNextHopRemove (consistent.nodePlaced ref) npu
      · exact unnamed
    split
    · rename_i u done
      rw [done] at removed
      exact removed
    · rename_i u error _ failed
      rw [failed] at removed
      exact removed.insertNhId ref idTreeOk
  · rename_i t error _ done
    rw [done] at eq
    rw [eq]
    exact owned

end NextHops

section Neighbors

theorem nhOwner_macEntryRemove (s : FibState) (ref other : NhRef) :
    nhOwner (fibNeighborMacEntryRemove s ref).1 other = nhOwner s other := by
  obtain ⟨tree, fault, same⟩ := fibNeighborMacEntryRemove_eq s ref
  rw [same]
  rfl

theorem nhOwner_macEntryInsert (s : FibState) (ref : NhRef) (env : MacEntryEnv) (other : NhRef) :
    nhOwner (fibNeighborMacEntryInsert s ref env).1 other = nhOwner s other := by
  obtain ⟨tree, fault, same⟩ := fibNeighborMacEntryInsert_eq s ref env
  rw [same]
  rfl

theorem FibNodePlaced.macEntryRemove (placed : FibNodePlaced s ref) (other : NhRef) :
    FibNodePlaced (fibNeighborMacEntryRemove s other).1 ref := by
  obtain ⟨tree, fault, same⟩ := fibNeighborMacEntryRemove_eq s other
  rw [same]
  exact placed

theorem FibNodesOwned.neighborNodeCreate (owned : FibNodesOwned s) (info : NhInfo) (env : NhNodeEnv) :
    FibNodesOwned (fibNeighborNodeCreate s info env).1 := by
  unfold fibNeighborNodeCreate
  split
  · split
    · exact owned
    · exact ((owned.but _).modifyNh _).own Nh.setOwnerNeighbor_owned
  · split
    · exact owned
    · rename_i created
      exact (fibOwnedBut_nodeCreate owned created).1.own Nh.setOwnerNeighbor_owned

theorem nhOwner_neighborLink (s : FibState) (ref : NhRef) (env : NeighborEnv) (other : NhRef) :
    nhOwner (fibNeighborLink s ref env).1 other = nhOwner s other := by
  unfold fibNeighborLink
  split
  · rfl
  rename_i portId _
  have resolved : nhOwner (s.modifyNh ref fun node => { node with portId := portId }) other = nhOwner s other := by
    refine nhOwner_modifyNh ?_ other
    exact fun _ => rfl
  have linked := (nhOwner_macEntryInsert _ ref env.macEntry other).trans resolved
  simp only
  split
  · rename_i t done
    rw [done] at linked
    exact linked
  · rename_i t error _ failed
    rw [failed] at linked
    exact linked

theorem FibNodesOwned.neighborCreateUndo (owned : FibNodesOwned s) (placed : FibNodePlaced s ref) :
    FibNodesOwned (fibNeighborCreateUndo s ref) :=
  ((owned.congr (nhOwner_macEntryRemove s ref)).but ref).release (placed.macEntryRemove ref) fibNeighborInfoReset

theorem FibNodesOwned.neighborCreate (owned : FibNodesOwned s) (consistent : FibConsistent s)
    (entry : NeighborEntry) (attrs : List NeighborAttr) (nodeEnv : NhNodeEnv) (env : NeighborEnv) :
    FibNodesOwned (fibNeighborCreate p s entry attrs nodeEnv env).1 := by
  unfold fibNeighborCreate
  split
  · exact owned
  rename_i ref key
  split
  · exact owned
  rename_i node filled
  have blank : NhBlank node := nhBlank_neighborDefault.of_frame (fibNeighborInfoFill_frame filled)
  have created := owned.neighborNodeCreate ⟨ref, node⟩ nodeEnv
  have after := consistent.neighborNodeCreate ⟨ref, node⟩ nodeEnv blank (fibNeighborKeyValidateAndFill_ok key)
  split
  · rename_i failed
    rw [failed] at created
    exact created
  rename_i t found made
  rw [made] at created after
  have linked := created.congr (nhOwner_neighborLink t found env)
  have quiet := after.quiet (fibQuiet_neighborLink t found env)
  split
  · rename_i done
    rw [done] at linked
    exact linked
  · rename_i u error _ failed
    rw [failed] at linked quiet
    exact linked.neighborCreateUndo (quiet.nodePlaced found)

theorem FibNodesOwned.neighborRemove (owned : FibNodesOwned s) (consistent : FibConsistent s)
    (entry : NeighborEntry) (macEntry : MacEntryEnv) (npu : SaiStatus) :
    FibNodesOwned (fibNeighborRemove p s entry macEntry npu).1 := by
  unfold fibNeighborRemove
  split
  · exact owned
  rename_i ref _
  split
  · exact owned
  rename_i nodeCopy stored
  have unlink := owned.congr (nhOwner_macEntryRemove s ref)
  have placed := (consistent.nodePlaced ref).macEntryRemove ref
  split
  · rename_i unlinked done
    rw [done] at unlink placed
    simp only
    split
    · exact (unlink.but ref).release placed fibNeighborInfoReset
    refine FibNodesOwned.congr ?_ (nhOwner_macEntryInsert _ ref macEntry)
    intro other
    have here : nhOwner ({ (unlinked.modifyNh ref fibNeighborInfoReset) with
        nhTree := (unlinked.modifyNh ref fibNeighborInfoReset).nhTree.put ref nodeCopy } : FibState) other =
        (((unlinked.modifyNh ref fibNeighborInfoReset).nhTree.put ref nodeCopy).get other).map Nh.ownerFlag :=
      rfl
    rw [here, get_put]
    split
    · have kept := owned ref
      rw [nhOwner, stored] at kept
      exact kept
    · rename_i apart
      exact (unlink.but ref).modifyNh fibNeighborInfoReset other apart
  · rename_i t error _ failed
    rw [failed] at unlink
    exact unlink

theorem nhOwner_putNh {node next : Nh} (stored : s.nhTree.get ref = some node)
    (same : next.ownerFlag = node.ownerFlag) (other : NhRef) :
    nhOwner { s with nhTree := s.nhTree.put ref next } other = nhOwner s other := by
  have here : nhOwner { s with nhTree := s.nhTree.put ref next } other =
      ((s.nhTree.put ref next).get other).map Nh.ownerFlag := rfl
  rw [here, get_put]
  split
  · rename_i this
    rw [this, nhOwner, stored, Option.map_some, Option.map_some, same]
  · rfl

theorem nhOwner_neighborAttributeSet (s : FibState) (entry : NeighborEntry) (attr : NeighborAttr) (env : NeighborEnv)
    (other : NhRef) : nhOwner (fibNeighborAttributeSet p s entry attr env).1 other = nhOwner s other := by
  unfold fibNeighborAttributeSet
  split
  · rfl
  rename_i ref _
  split
  · rfl
  rename_i node stored
  split
  · rfl
  rename_i nodeCopy filled
  have owner : nodeCopy.ownerFlag = node.ownerFlag := congrArg Prod.snd (fibNeighborInfoFill_frame filled)
  split
  · split
    · rfl
    rename_i portId _
    split
    · have there : (fibNeighborMacEntryRemove s ref).1.nhTree.get ref = some node := by
        obtain ⟨tree, fault, same⟩ := fibNeighborMacEntryRemove_eq s ref
        rw [same]
        exact stored
      refine (nhOwner_macEntryInsert _ ref env.macEntry other).trans ?_
      refine Eq.trans ?_ (nhOwner_macEntryRemove s ref other)
      exact nhOwner_putNh there (show ({ nodeCopy with portId := portId } : Nh).ownerFlag = _ from owner) other
    · rfl
  · split
    · exact nhOwner_putNh stored owner other
    · rfl

theorem nhOwner_portIdLoop (portId : ObjectId) (npu : NhRef → SaiStatus) (neighborList : List NhRef)
    (other : NhRef) : ∀ s, nhOwner (fibNeighborPortIdLoop portId npu s neighborList) other = nhOwner s other := by
  induction neighborList with
  | nil => exact fun s => rfl
  | cons ref rest ih =>
    intro s
    unfold fibNeighborPortIdLoop
    split
    · exact ih s
    split
    · exact ih s
    split
    · refine (ih _).trans (nhOwner_modifyNh ?_ other)
      exact fun _ => rfl
    · exact ih s

theorem nhOwner_portIdSet (npu : NhRef → SaiStatus) (other : NhRef) (s : FibState) (fdbEntry : NeighborMacKey)
    (portId : ObjectId) : nhOwner (fibNeighborPortIdSet s fdbEntry portId npu) other = nhOwner s other := by
  unfold fibNeighborPortIdSet
  split
  · rfl
  split
  · rfl
  · exact nhOwner_portIdLoop portId npu _ other s

theorem nhOwner_fdbCallback (npu : NhRef → SaiStatus) (updates : List FdbNotification) (other : NhRef) :
    ∀ s portId, nhOwner (neighborFdbCallback npu s portId updates) other = nhOwner s other := by
  induction updates with
  | nil => exact fun s portId => rfl
  | cons upd rest ih =>
    intro s portId
    unfold neighborFdbCallback
    exact (ih _ _).trans (nhOwner_portIdSet npu other s upd.fdbEntry _)

end Neighbors

section Run

theorem FibInterfacesOnly.owned (only : FibInterfacesOnly s t) (owned : FibNodesOwned s) : FibNodesOwned t := by
  obtain ⟨_, _, _, _, _, _, rfl⟩ := only
  exact owned

theorem FibGroupsOnly.owned (only : FibGroupsOnly s t) (owned : FibNodesOwned s) : FibNodesOwned t := by
  refine owned.congr fun ref => ?_
  have same := congrArg (Option.map Nh.ownerFlag) (only.nhs ref)
  rw [Option.map_map, Option.map_map] at same
  exact same

theorem FibRoutesOnly.owned (only : FibRoutesOnly s t) (owned : FibNodesOwned s) : FibNodesOwned t := by
  obtain ⟨u, routeTree, counted, rfl⟩ := only
  refine owned.congr fun ref => ?_
  exact counted.nh Nh.ownerFlag (fun _ => rfl) ref

theorem FibNodesOwned.run (owned : FibNodesOwned s) (consistent : FibConsistent s) (call : FibCall) :
    FibNodesOwned (call.run p s).1 := by
  rcases call.run_only s with only | only | only | ⟨onNodes, -⟩
  · exact only.owned owned
  · exact only.owned owned
  · exact only.owned owned
  cases call with
  | nextHopCreate attrs env => exact owned.nextHopCreate consistent attrs env
  | nextHopRemove nextHopId npu idTreeOk => exact owned.nextHopRemove consistent nextHopId npu idTreeOk
  | neighborCreate entry attrs node env => exact owned.neighborCreate consistent entry attrs node env
  | neighborRemove entry macEntry npu => exact owned.neighborRemove consistent entry macEntry npu
  | neighborAttributeSet entry attr env => exact owned.congr (nhOwner_neighborAttributeSet s entry attr env)
  | fdbCallback npu updates => exact owned.congr fun ref => nhOwner_fdbCallback npu updates ref s nullObjectId
  | _ => cases onNodes

theorem fibReach_owned (reach : Runs.Reach FibFresh (fibStep p fun _ _ => True) s) : FibNodesOwned s := by
  refine (reach.invariant (fun s => FibConsistent s ∧ FibNodesOwned s) ?_ ?_).2
  · intro s fresh
    refine ⟨fresh.consistent, fun ref => ?_⟩
    rw [nhOwner, fresh.nextHops, get_empty]
    exact fun none => by cases none
  · rintro s call t ⟨consistent, owned⟩ ⟨_, rfl⟩
    exact ⟨consistent.run call, owned.run consistent call⟩

end Run
end SaiCommon
