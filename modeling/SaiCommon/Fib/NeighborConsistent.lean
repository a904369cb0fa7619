import SaiCommon.Fib.NextHopConsistent

namespace SaiCommon

variable {metaRange : Except SaiStatus (BitVec 32 × BitVec 32)} {next node : Nh} {info : NhInfo} {rifId : ObjectId}

def NhPlaced (s : FibState) (ref : NhRef) : Prop :=
  (s.routerInterfaceTree.get ref.key.rifId).map Rif.vrfId = some ref.vrfId

section Fill
variable {p : Platform} {s : FibState}

theorem fibGetVrfNodeForRif_some {vrfId : ObjectId} (found : fibGetVrfNodeForRif s rifId = some vrfId) :
    (s.routerInterfaceTree.get rifId).map Rif.vrfId = some vrfId := by
  unfold fibGetVrfNodeForRif fibRouterInterfaceNodeGet at found
  split at found
  · cases found
  rename_i rif stored
  split at found
  · cases found
  · rw [stored]
    exact found

theorem fibIpNextHopNodeGet_some {ipAddr : IpAddress} {ref : NhRef}
    (found : fibIpNextHopNodeGet s rifId ipAddr = some ref) :
    s.nhTree.get ref ≠ none ∧ ref.key = ⟨.ip, rifId, ipAddr⟩ ∧ NhPlaced s ref := by
  unfold fibIpNextHopNodeGet at found
  split at found
  · cases found
  rename_i vrfId placed
  simp only at found
  split at found
  · cases found
  rename_i node stored
  cases found
  exact ⟨by rw [stored]; exact Option.some_ne_none node, rfl, fibGetVrfNodeForRif_some placed⟩

theorem fibNextHopAttrSet_ok {next : NhInfo} {attr : NextHopAttr} (run : fibNextHopAttrSet p s info attr = .ok next) :
    next.node = info.node ∧ (attr.isRif = true ∨ NhPlaced s info.ref → NhPlaced s next.ref) := by
  cases attr with
  | type nhType =>
    simp only [fibNextHopAttrSet, fibNextHopTypeSet] at run
    split at run
    · cases run
      exact ⟨rfl, fun placed => placed.resolve_left Bool.false_ne_true⟩
    · cases run
  | ip ipAddr =>
    simp only [fibNextHopAttrSet, fibNextHopIpAddrSet] at run
    split at run
    · cases run
      exact ⟨rfl, fun placed => placed.resolve_left Bool.false_ne_true⟩
    · cases run
  | routerInterfaceId rifId =>
    simp only [fibNextHopAttrSet, fibNextHopRifSet] at run
    split at run
    · cases run
    split at run
    · cases run
    split at run
    · cases run
    rename_i vrfId found
    cases run
    exact ⟨rfl, fun _ => fibGetVrfNodeForRif_some found⟩
  | other => cases run

theorem fibNextHopInfoLoop_ok (attrs : List NextHopAttr) : ∀ (attrIndex : Nat) (info filled : NhInfo),
    fibNextHopInfoLoop p s attrs attrIndex info = .ok filled →
    filled.node = info.node ∧
    (attrs.any NextHopAttr.isRif = true ∨ NhPlaced s info.ref → NhPlaced s filled.ref) := by
  induction attrs with
  | nil =>
    intro attrIndex info filled run
    cases run
    exact ⟨rfl, fun placed => placed.resolve_left Bool.false_ne_true⟩
  | cons attr rest ih =>
    intro attrIndex info filled run
    unfold fibNextHopInfoLoop at run
    split at run
    · cases run
    rename_i next set
    obtain ⟨same, place⟩ := fibNextHopAttrSet_ok set
    obtain ⟨sameRest, placeRest⟩ := ih _ _ _ run
    refine ⟨sameRest.trans same, fun placed => placeRest ?_⟩
    rw [List.any_cons, Bool.or_eq_true] at placed
    rcases placed with (here | later) | before
    · exact Or.inr (place (Or.inl here))
    · exact Or.inl later
    · exact Or.inr (place (Or.inr before))

theorem fibNextHopInfoFill_ok {filled : NhInfo} {attrs : List NextHopAttr}
    (run : fibNextHopInfoFill p s info attrs = .ok filled) : filled.node = info.node ∧ NhPlaced s filled.ref := by
  unfold fibNextHopInfoFill at run
  split at run
  · cases run
  split at run
  · cases run
  rename_i loop
  obtain ⟨same, place⟩ := fibNextHopInfoLoop_ok attrs _ _ _ loop
  split at run
  · cases run
  rename_i mandatory
  split at run
  · cases run
  cases run
  refine ⟨same, place (Or.inl ?_)⟩
  by_contra missing
  exact mandatory (Or.inr (Bool.eq_false_iff.mpr missing))

theorem nhBlank_nextHopDefault : NhBlank (fibNextHopDefaultAttrSet nhInfoInit).node := ⟨rfl, rfl, rfl⟩

theorem nhBlank_neighborDefault : NhBlank (fibNeighborDefaultAttrSet nhInfoInit.node) := ⟨rfl, rfl, rfl⟩

/-- The fields that neighbor attributes leave alone. -/
def Nh.frame (node : Nh) : NhCore × NhOwner := (node.core, node.ownerFlag)

theorem NhBlank.of_frame (blank : NhBlank node) (same : next.frame = node.frame) : NhBlank next := by
  simp only [Nh.frame, Nh.core, Prod.mk.injEq, NhCore.mk.injEq] at same
  obtain ⟨⟨nhId, _, refs, _⟩, owner⟩ := same
  exact ⟨nhId.trans blank.noId, owner.trans blank.noOwner, refs.trans blank.uncounted⟩

theorem fibNeighborAttrSet_frame {attr : NeighborAttr} (run : fibNeighborAttrSet p metaRange node attr = .ok next) :
    next.frame = node.frame := by
  cases attr with
  | dstMacAddress mac =>
    simp only [fibNeighborAttrSet] at run
    split at run <;> cases run
    rfl
  | packetAction pktAction =>
    simp only [fibNeighborAttrSet] at run
    split at run <;> cases run
    rfl
  | noHostRoute value =>
    cases run
    rfl
  | metaData value =>
    simp only [fibNeighborAttrSet] at run
    split at run
    · cases run
    · split at run <;> cases run
      rfl
  | other => cases run

theorem fibNeighborInfoLoop_frame (attrs : List NeighborAttr) : ∀ (attrIndex : Nat) (node filled : Nh),
    fibNeighborInfoLoop p metaRange attrs attrIndex node = .ok filled → filled.frame = node.frame := by
  induction attrs with
  | nil =>
    intro attrIndex node filled run
    cases run
    rfl
  | cons attr rest ih =>
    intro attrIndex node filled run
    unfold fibNeighborInfoLoop at run
    split at run
    · cases run
    · rename_i next set
      exact (ih _ _ _ run).trans (fibNeighborAttrSet_frame set)

theorem fibNeighborInfoFill_frame {filled : Nh} {attrs : List NeighborAttr} {isCreateReq : Bool}
    (run : fibNeighborInfoFill p metaRange node attrs isCreateReq = .ok filled) : filled.frame = node.frame := by
  unfold fibNeighborInfoFill at run
  split at run
  · cases run
  split at run
  · cases run
  rename_i loop
  split at run
  · cases run
  · cases run
    exact fibNeighborInfoLoop_frame attrs _ _ _ loop

theorem fibNeighborKeyValidateAndFill_ok {entry : NeighborEntry} {ref : NhRef}
    (run : fibNeighborKeyValidateAndFill p s entry = .ok ref) : NhPlaced s ref := by
  unfold fibNeighborKeyValidateAndFill at run
  split at run
  · split at run
    · cases run
    rename_i vrfId found
    cases run
    exact fibGetVrfNodeForRif_some found
  · cases run

end Fill

section MacEntry
variable (s : FibState) (ref : NhRef)

theorem fibNeighborMacEntryRemove_eq : ∃ tree fault,
    (fibNeighborMacEntryRemove s ref).1 = { s with neighborMacTree := tree, unlinkFault := fault } := by
  unfold fibNeighborMacEntryRemove
  split
  · split
    · exact ⟨_, _, rfl⟩
    simp only
    split
    · exact ⟨_, _, rfl⟩
    · exact ⟨_, _, rfl⟩
  · exact ⟨_, _, rfl⟩

theorem fibNeighborMacEntryInsert_eq (env : MacEntryEnv) : ∃ tree fault,
    (fibNeighborMacEntryInsert s ref env).1 = { s with neighborMacTree := tree, unlinkFault := fault } := by
  unfold fibNeighborMacEntryInsert
  split
  · split
    · exact ⟨_, _, rfl⟩
    simp only
    split
    · exact ⟨_, _, rfl⟩
    split
    · exact ⟨_, _, rfl⟩
    split
    · exact ⟨_, _, rfl⟩
    split
    · exact ⟨_, _, rfl⟩
    obtain ⟨tree, fault, same⟩ := fibNeighborMacEntryRemove_eq
      { s with neighborMacTree := s.neighborMacTree.put _ [ref] } ref
    exact ⟨tree, fault, same⟩
  · exact ⟨_, _, rfl⟩

theorem fibQuiet_macTree (tree : KeyTree NeighborMacKey (List NhRef)) (fault : Bool) :
    FibQuiet s { s with neighborMacTree := tree, unlinkFault := fault } :=
  ⟨fun _ => rfl, fun _ => rfl, fun _ => rfl, rfl, rfl, rfl, rfl⟩

theorem fibQuiet_macEntryRemove : FibQuiet s (fibNeighborMacEntryRemove s ref).1 := by
  obtain ⟨tree, fault, same⟩ := fibNeighborMacEntryRemove_eq s ref
  rw [same]
  exact fibQuiet_macTree s tree fault

theorem fibQuiet_macEntryInsert (env : MacEntryEnv) : FibQuiet s (fibNeighborMacEntryInsert s ref env).1 := by
  obtain ⟨tree, fault, same⟩ := fibNeighborMacEntryInsert_eq s ref env
  rw [same]
  exact fibQuiet_macTree s tree fault

end MacEntry

section Calls
variable {p : Platform} {s t : FibState} {ref : NhRef}

theorem FibUnnamed.of_same (unnamed : FibUnnamed s ref) (ids : t.nhIdTree = s.nhIdTree)
    (routes : t.routeTree = s.routeTree) (links : nhGroupLinks t ref = nhGroupLinks s ref) : FibUnnamed t ref := by
  refine ⟨?_, ?_, links.trans unnamed.noGroup⟩
  · rw [ids]
    exact unnamed.noId
  · rw [routes]
    exact unnamed.noRoute

theorem FibConsistent.release (consistent : FibConsistent s) (unnamed : FibUnnamed s ref) :
    FibConsistent (fibCheckAndDeleteIpNextHopNode (s.modifyNh ref fibNextHopInfoReset) ref).1 :=
  (consistent.disown unnamed).checkAndDelete ref

theorem FibConsistent.ipNextHopOwn {env : NextHopCreateEnv} (consistent : FibConsistent s)
    (stored : s.nhTree.get ref ≠ none) (free : fibIsOwnerNextHop s ref = false) :
    FibConsistent (fibIpNextHopOwn s ref env).1 ∧ ∀ found, (fibIpNextHopOwn s ref env).2 = .ok found →
      fibIsOwnerNextHop (fibIpNextHopOwn s ref env).1 found = true ∧
      FibUnnamed (fibIpNextHopOwn s ref env).1 found := by
  have unnamed := consistent.unnamed free
  have owned := consistent.own stored
  have links : nhGroupLinks (s.modifyNh ref Nh.setOwnerNextHop) ref = nhGroupLinks s ref :=
    nhGroupLinks_modifyNh s ref ref fun _ => rfl
  have unnamedOwned : FibUnnamed (s.modifyNh ref Nh.setOwnerNextHop) ref := unnamed.of_same rfl rfl links
  unfold fibIpNextHopOwn
  simp only
  split
  · refine ⟨owned.nameId _ unnamedOwned.noId, fun found same => ?_⟩
    cases same
    refine ⟨?_, unnamedOwned.of_same rfl rfl (nhGroupLinks_modifyNh _ _ _ fun _ => rfl)⟩
    refine (owners_modifyNh_keep _ ref ref ?_).trans (owner_setOwner stored)
    exact fun _ => rfl
  · exact ⟨owned.release unnamedOwned, fun found same => by cases same⟩

theorem fibIpNextHopNodeCreate_stored {env : NhNodeEnv} (blank : NhBlank info.node)
    (run : fibIpNextHopNodeCreate s info env = .ok t) :
    t.nhTree.get info.ref ≠ none ∧ fibIsOwnerNextHop t info.ref = false := by
  obtain ⟨_, _, rfl⟩ := fibIpNextHopNodeCreate_cases run
  rw [fibIsOwnerNextHop_eq]
  simp only [fibNhRifRefCountIncr, KeyTree.get_put_self, Option.map_some, Option.getD_some, blank.noOwner,
    ne_eq, reduceCtorEq, not_false_eq_true, and_self]

theorem FibConsistent.ipNextHopCreate (env : NextHopCreateEnv) (consistent : FibConsistent s)
    (blank : NhBlank info.node) (placed : NhPlaced s info.ref) :
    FibConsistent (fibIpNextHopCreate s info env).1 ∧ ∀ found, (fibIpNextHopCreate s info env).2 = .ok found →
      fibIsOwnerNextHop (fibIpNextHopCreate s info env).1 found = true ∧
      FibUnnamed (fibIpNextHopCreate s info env).1 found := by
  unfold fibIpNextHopCreate
  split
  · rename_i ref found
    split
    · exact ⟨consistent, fun found same => by cases same⟩
    · rename_i free
      exact consistent.ipNextHopOwn (fibIpNextHopNodeGet_some found).1 (Bool.eq_false_iff.mpr free)
  · split
    · exact ⟨consistent, fun found same => by cases same⟩
    rename_i t created
    obtain ⟨stored, free⟩ := fibIpNextHopNodeCreate_stored blank created
    exact (consistent.nodeCreate blank placed created).ipNextHopOwn stored free

theorem fibIsNextHopInNhGroup_false (outside : fibIsNextHopInNhGroup s ref = false) : nhGroupLinks s ref = [] := by
  cases found : s.nhTree.get ref with
  | none => rw [nhGroupLinks, found]
  | some node =>
    simp only [fibIsNextHopInNhGroup, found] at outside
    rw [nhGroupLinks, found]
    exact of_not_not (of_decide_eq_false outside)

section
variable (consistent : FibConsistent s)
include consistent

theorem FibConsistent.ipNextHopRemove (noId : ∀ id, s.nhIdTree.get id ≠ some ref)
    (noRoute : ∀ key, (s.routeTree.get key).map Route.nhInfo ≠ some (.nextHop ref)) (npu : SaiStatus) :
    FibConsistent (fibIpNextHopRemove s ref npu).1 ∧
      ((fibIpNextHopRemove s ref npu).2 ≠ .success → (fibIpNextHopRemove s ref npu).1 = s) := by
  unfold fibIpNextHopRemove
  split
  · exact ⟨consistent, fun _ => rfl⟩
  rename_i outside
  have noGroup := fibIsNextHopInNhGroup_false (Bool.eq_false_iff.mpr outside)
  split
  · exact ⟨consistent.release ⟨noId, noRoute, noGroup⟩, fun failed => absurd rfl failed⟩
  · exact ⟨consistent, fun _ => rfl⟩

theorem FibConsistent.nextHopRemoveByType (noId : ∀ id, s.nhIdTree.get id ≠ some ref)
    (noRoute : ∀ key, (s.routeTree.get key).map Route.nhInfo ≠ some (.nextHop ref)) (npu : SaiStatus) :
    FibConsistent (fibNextHopRemoveByType s ref npu).1 ∧
      ((fibNextHopRemoveByType s ref npu).2 ≠ .success → (fibNextHopRemoveByType s ref npu).1 = s) := by
  unfold fibNextHopRemoveByType
  split
  · exact consistent.ipNextHopRemove noId noRoute npu
  · exact ⟨consistent, fun _ => rfl⟩

theorem FibConsistent.insertNhId (owner : fibIsOwnerNextHop s ref = true)
    (idTreeOk : Bool) : FibConsistent (fibInsertNhNodeInNhIdDatabase s ref idTreeOk).1 := by
  unfold fibInsertNhNodeInNhIdDatabase
  split
  · exact consistent.idInsert owner
  · exact consistent

theorem FibConsistent.nextHopCreate (attrs : List NextHopAttr)
    (env : NextHopCreateEnv) : FibConsistent (fibNextHopCreate p s attrs env).1 := by
  unfold fibNextHopCreate
  split
  · exact consistent
  rename_i info filled
  obtain ⟨same, placed⟩ := fibNextHopInfoFill_ok filled
  have blank : NhBlank info.node := by
    rw [same]
    exact nhBlank_nextHopDefault
  split
  · obtain ⟨created, result⟩ := consistent.ipNextHopCreate env blank placed
    split
    · rename_i failed
      rw [failed] at created
      exact created
    rename_i t ref made
    rw [made] at created result
    obtain ⟨owner, unnamed⟩ := result ref rfl
    have inserted := created.insertNhId owner env.idTreeOk
    split
    · rename_i done
      rw [done] at inserted
      exact inserted
    rename_i u error failed refused
    have kept : u = t := by
      unfold fibInsertNhNodeInNhIdDatabase at refused
      split at refused
      · cases refused
        exact absurd rfl failed
      · cases refused
        rfl
    rw [kept]
    exact (created.ipNextHopRemove unnamed.noId unnamed.noRoute env.npuRemove).1
  · exact consistent

end

theorem fibRemoveNhNodeFromNhIdDatabase_eq (s : FibState) (ref : NhRef) :
    (fibRemoveNhNodeFromNhIdDatabase s ref).1 = { s with nhIdTree := s.nhIdTree.del (fibNhNextHopId s ref) } := by
  unfold fibRemoveNhNodeFromNhIdDatabase
  simp only
  split <;> rfl

theorem FibCounts.noRoute (counts : FibCounts s) (unused : fibIsNextHopUsed s ref = false) (key : RouteKey) :
    (s.routeTree.get key).map Route.nhInfo ≠ some (.nextHop ref) := by
  intro named
  obtain ⟨node, found⟩ := Option.ne_none_iff_exists'.mp (stored_of_owner (counts.routeNh key ref named))
  obtain ⟨route, stored, nhInfo⟩ := Option.map_eq_some_iff.mp named
  have zero : node.refCount = 0 := by
    simp only [fibIsNextHopUsed, found] at unused
    exact of_not_not (of_decide_eq_false unused)
  have exact := counts.nhRef ref node.refCount (by rw [found, Option.map_some])
  have counted := KeyTree.tally_pos (p := fun _ (route : Route) => decide (route.nhInfo = .nextHop ref)) stored
    (decide_eq_true nhInfo)
  omega

theorem FibConsistent.nextHopRemove (consistent : FibConsistent s) (nextHopId : ObjectId) (npu : SaiStatus)
    (idTreeOk : Bool) : FibConsistent (fibNextHopRemove s nextHopId npu idTreeOk).1 := by
  unfold fibNextHopRemove
  split
  · exact consistent
  split
  · exact consistent
  rename_i ref named
  split
  · exact consistent
  rename_i owner
  split
  · exact consistent
  rename_i unused
  have noRoute := consistent.counts.noRoute (Bool.eq_false_iff.mpr unused)
  have removed := consistent.idRemove (fibNhNextHopId s ref)
  have noId : ∀ id, (s.nhIdTree.del (fibNhNextHopId s ref)).get id ≠ some ref := by
    intro id still
    rw [KeyTree.get_del] at still
    split at still
    · cases still
    · rename_i apart
      exact apart (consistent.names.atId id ref still).symm
  have eq := fibRemoveNhNodeFromNhIdDatabase_eq s ref
  split
  · rename_i t done
    rw [done] at eq
    subst eq
    obtain ⟨kept, failed⟩ := removed.nextHopRemoveByType noId noRoute npu
    split
    · rename_i u done
      rw [done] at kept
      exact kept
    · rename_i u error isError done
      rw [done] at failed
      rw [show u = _ from failed isError]
      exact removed.insertNhId (Bool.eq_true_of_not_eq_false owner) idTreeOk
  · rename_i t error isError done
    rw [done] at eq
    rw [eq]
    exact removed

theorem fibQuiet_neighborReset (s : FibState) (ref : NhRef) : FibQuiet s (s.modifyNh ref fibNeighborInfoReset) :=
  fibQuiet_modifyNh s ref fun _ => rfl

theorem FibConsistent.neighborNodeCreate (info : NhInfo) (env : NhNodeEnv) (consistent : FibConsistent s)
    (blank : NhBlank info.node) (placed : NhPlaced s info.ref) :
    FibConsistent (fibNeighborNodeCreate s info env).1 := by
  unfold fibNeighborNodeCreate
  split
  · rename_i ref found
    split
    · exact consistent
    have copied : FibQuiet s (s.modifyNh ref fun node => fibNeighborAttrCopy node info.node) :=
      fibQuiet_modifyNh s ref fun _ => rfl
    have owned := copied.trans (fibQuiet_modifyNh _ ref (f := Nh.setOwnerNeighbor) fun _ => rfl)
    exact consistent.quiet owned
  · split
    · exact consistent
    rename_i t created
    exact (consistent.nodeCreate blank placed created).quiet
      (fibQuiet_modifyNh t info.ref (f := Nh.setOwnerNeighbor) fun _ => rfl)

theorem fibQuiet_neighborLink (s : FibState) (ref : NhRef) (env : NeighborEnv) :
    FibQuiet s (fibNeighborLink s ref env).1 := by
  unfold fibNeighborLink
  split
  · exact FibQuiet.refl s
  rename_i portId _
  have resolved : FibQuiet s (s.modifyNh ref fun node => { node with portId := portId }) :=
    fibQuiet_modifyNh s ref fun _ => rfl
  have linked := resolved.trans (fibQuiet_macEntryInsert _ ref env.macEntry)
  simp only
  split
  · rename_i t done
    rw [done] at linked
    exact linked
  · rename_i t error _ failed
    rw [failed] at linked
    exact linked

section
variable (consistent : FibConsistent s)
include consistent

theorem FibConsistent.neighborCreateUndo (ref : NhRef) : FibConsistent (fibNeighborCreateUndo s ref) :=
  (consistent.quiet ((fibQuiet_macEntryRemove s ref).trans (fibQuiet_neighborReset _ ref))).checkAndDelete ref

theorem FibConsistent.neighborCreate (entry : NeighborEntry)
    (attrs : List NeighborAttr) (nodeEnv : NhNodeEnv) (env : NeighborEnv) :
    FibConsistent (fibNeighborCreate p s entry attrs nodeEnv env).1 := by
  unfold fibNeighborCreate
  split
  · exact consistent
  rename_i ref key
  have placed := fibNeighborKeyValidateAndFill_ok key
  split
  · exact consistent
  rename_i node filled
  have blank : NhBlank node := nhBlank_neighborDefault.of_frame (fibNeighborInfoFill_frame filled)
  have created := consistent.neighborNodeCreate ⟨ref, node⟩ nodeEnv blank placed
  split
  · rename_i failed
    rw [failed] at created
    exact created
  rename_i t found made
  rw [made] at created
  have linked := created.quiet (fibQuiet_neighborLink t found env)
  split
  · rename_i done
    rw [done] at linked
    exact linked
  · rename_i u error _ failed
    rw [failed] at linked
    exact linked.neighborCreateUndo found

theorem FibConsistent.neighborRemove (entry : NeighborEntry) (macEntry : MacEntryEnv) (npu : SaiStatus) :
    FibConsistent (fibNeighborRemove p s entry macEntry npu).1 := by
  unfold fibNeighborRemove
  split
  · exact consistent
  rename_i ref _
  split
  · exact consistent
  rename_i nodeCopy stored
  have unlink := fibQuiet_macEntryRemove s ref
  have nodes : (fibNeighborMacEntryRemove s ref).1.nhTree = s.nhTree := by
    obtain ⟨tree, fault, same⟩ := fibNeighborMacEntryRemove_eq s ref
    rw [same]
  split
  · rename_i unlinked done
    rw [done] at unlink nodes
    have reset := unlink.trans (fibQuiet_neighborReset unlinked ref)
    simp only
    split
    · exact (consistent.quiet reset).checkAndDelete ref
    have there : (unlinked.modifyNh ref fibNeighborInfoReset).nhTree.get ref =
        some (fibNeighborInfoReset nodeCopy) := by
      show (unlinked.nhTree.modify ref fibNeighborInfoReset).get ref = _
      rw [KeyTree.get_modify_self, show unlinked.nhTree = s.nhTree from nodes, stored, Option.map_some]
    have restored := reset.trans (fibQuiet_putNh nodeCopy there rfl)
    exact consistent.quiet (restored.trans (fibQuiet_macEntryInsert _ ref macEntry))
  · rename_i t error _ failed
    rw [failed] at unlink
    exact consistent.quiet unlink

theorem FibConsistent.neighborAttributeSet (entry : NeighborEntry) (attr : NeighborAttr) (env : NeighborEnv) :
    FibConsistent (fibNeighborAttributeSet p s entry attr env).1 := by
  unfold fibNeighborAttributeSet
  split
  · exact consistent
  rename_i ref _
  split
  · exact consistent
  rename_i node stored
  split
  · exact consistent
  rename_i nodeCopy filled
  have core : nodeCopy.core = node.core := congrArg Prod.fst (fibNeighborInfoFill_frame filled)
  split
  · split
    · exact consistent
    rename_i portId _
    split
    · have unlink := fibQuiet_macEntryRemove s ref
      have there : (fibNeighborMacEntryRemove s ref).1.nhTree.get ref = some node := by
        obtain ⟨tree, fault, same⟩ := fibNeighborMacEntryRemove_eq s ref
        rw [same]
        exact stored
      have updated := unlink.trans (fibQuiet_putNh { nodeCopy with portId := portId } there core)
      exact consistent.quiet (updated.trans (fibQuiet_macEntryInsert _ ref env.macEntry))
    · exact consistent
  · split
    · exact consistent.quiet (fibQuiet_putNh _ stored core)
    · exact consistent

end

theorem fibQuiet_portIdLoop (portId : ObjectId) (npu : NhRef → SaiStatus) (neighborList : List NhRef) :
    ∀ s, FibQuiet s (fibNeighborPortIdLoop portId npu s neighborList) := by
  induction neighborList with
  | nil => exact FibQuiet.refl
  | cons ref rest ih =>
    intro s
    unfold fibNeighborPortIdLoop
    split
    · exact ih s
    split
    · exact ih s
    split
    · have moved : FibQuiet s (s.modifyNh ref fun node => { node with portId := portId }) :=
        fibQuiet_modifyNh s ref fun _ => rfl
      exact moved.trans (ih _)
    · exact ih s

theorem fibQuiet_portIdSet (s : FibState) (fdbEntry : NeighborMacKey) (portId : ObjectId)
    (npu : NhRef → SaiStatus) : FibQuiet s (fibNeighborPortIdSet s fdbEntry portId npu) := by
  unfold fibNeighborPortIdSet
  split
  · exact FibQuiet.refl s
  split
  · exact FibQuiet.refl s
  · exact fibQuiet_portIdLoop portId npu _ s

theorem fibQuiet_fdbCallback (npu : NhRef → SaiStatus) (updates : List FdbNotification) :
    ∀ s portId, FibQuiet s (neighborFdbCallback npu s portId updates) := by
  induction updates with
  | nil => exact fun s portId => FibQuiet.refl s
  | cons upd rest ih =>
    intro s portId
    unfold neighborFdbCallback
    exact (fibQuiet_portIdSet s _ _ npu).trans (ih _ _)

end Calls
end SaiCommon
