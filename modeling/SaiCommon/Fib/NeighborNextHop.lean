import SaiCommon.Fib.RefCount

namespace SaiCommon

open KeyTree

variable {node old record : Nh} {s t : FibState} {entry : NeighborEntry} {ref : NhRef} {portId : ObjectId}
  {p : Platform}

def Rif.place (rif : Rif) : ObjectId × RifType × RifAttachment := (rif.vrfId, rif.rifType, rif.attachment)

structure FibSamePlaces (s t : FibState) : Prop where
  vrfs : t.vrfTree = s.vrfTree
  rifs : ∀ rifId, (t.routerInterfaceTree.get rifId).map Rif.place = (s.routerInterfaceTree.get rifId).map Rif.place

section Places
variable {u : FibState}

theorem FibSamePlaces.refl (s : FibState) : FibSamePlaces s s := ⟨rfl, fun _ => rfl⟩

theorem FibSamePlaces.incr (s : FibState) (ref : NhRef) : FibSamePlaces s (fibNhRifRefCountIncr s ref) :=
  ⟨rfl, fun rifId => map_get_modify (g := Rif.place) (fun rif => by rfl) rifId⟩

theorem FibSamePlaces.decr (s : FibState) (ref : NhRef) : FibSamePlaces s (fibNhRifRefCountDecr s ref) :=
  ⟨rfl, fun rifId => map_get_modify (g := Rif.place) (fun rif => by rfl) rifId⟩

variable (places : FibSamePlaces s t)
include places

theorem FibSamePlaces.absent (rifId : ObjectId) :
    fibRouterInterfaceNodeGet t rifId = none ↔ fibRouterInterfaceNodeGet s rifId = none := by
  have same := places.rifs rifId
  unfold fibRouterInterfaceNodeGet
  rw [← Option.map_eq_none_iff (f := Rif.place), same, Option.map_eq_none_iff]

theorem FibSamePlaces.vrfForRif (rifId : ObjectId) : fibGetVrfNodeForRif t rifId = fibGetVrfNodeForRif s rifId := by
  have same := places.rifs rifId
  unfold fibGetVrfNodeForRif fibRouterInterfaceNodeGet fibVrfNodeGet
  rw [places.vrfs]
  cases before : s.routerInterfaceTree.get rifId with
  | none =>
    rw [before] at same
    rw [Option.map_eq_none_iff.mp same]
  | some rif =>
    rw [before] at same
    obtain ⟨after, stored, place⟩ := Option.map_eq_some_iff.mp same
    have vrf : after.vrfId = rif.vrfId := congrArg Prod.fst place
    rw [stored]
    dsimp only
    rw [vrf]

theorem FibSamePlaces.entryValidate (entry : NeighborEntry) :
    fibNeighborEntryValidate p t entry = fibNeighborEntryValidate p s entry := by
  have gone := places.absent entry.rifId
  unfold fibNeighborEntryValidate
  cases before : fibRouterInterfaceNodeGet s entry.rifId with
  | none => rw [gone.mpr before]
  | some rif =>
    cases after : fibRouterInterfaceNodeGet t entry.rifId with
    | none => exact absurd (gone.mp after) (by rw [before]; exact Option.some_ne_none rif)
    | some next => rfl

theorem FibSamePlaces.keyFill (entry : NeighborEntry) :
    fibNeighborKeyValidateAndFill p t entry = fibNeighborKeyValidateAndFill p s entry := by
  unfold fibNeighborKeyValidateAndFill
  rw [places.entryValidate, places.vrfForRif]

theorem FibSamePlaces.nextHopAttrSet (info : NhInfo) (attr : NextHopAttr) :
    fibNextHopAttrSet p t info attr = fibNextHopAttrSet p s info attr := by
  cases attr with
  | routerInterfaceId rifId =>
    have gone := places.absent rifId
    dsimp only [fibNextHopAttrSet, fibNextHopRifSet]
    rw [places.vrfForRif]
    cases before : fibRouterInterfaceNodeGet s rifId with
    | none => rw [gone.mpr before]
    | some rif =>
      cases after : fibRouterInterfaceNodeGet t rifId with
      | none => exact absurd (gone.mp after) (by rw [before]; exact Option.some_ne_none rif)
      | some next => rfl
  | _ => rfl

theorem FibSamePlaces.nextHopFill (info : NhInfo) (attrs : List NextHopAttr) :
    fibNextHopInfoFill p t info attrs = fibNextHopInfoFill p s info attrs := by
  have loop : ∀ (attrs : List NextHopAttr) attrIndex info,
      fibNextHopInfoLoop p t attrs attrIndex info = fibNextHopInfoLoop p s attrs attrIndex info := by
    intro attrs
    induction attrs with
    | nil => exact fun _ _ => rfl
    | cons attr rest ih =>
      intro attrIndex info
      unfold fibNextHopInfoLoop
      rw [places.nextHopAttrSet]
      split
      · rfl
      · exact ih _ _
  unfold fibNextHopInfoFill
  rw [loop]

theorem FibSamePlaces.portResolve (rifId : ObjectId) (mac : Mac)
    (fdbPort : NeighborMacKey → Except SaiStatus ObjectId) :
    fibNeighborPortIdResolve t rifId mac fdbPort = fibNeighborPortIdResolve s rifId mac fdbPort := by
  have same := places.rifs rifId
  unfold fibNeighborPortIdResolve fibRouterInterfaceNodeGet
  cases before : s.routerInterfaceTree.get rifId with
  | none =>
    rw [before] at same
    rw [Option.map_eq_none_iff.mp same]
  | some rif =>
    rw [before] at same
    obtain ⟨after, stored, place⟩ := Option.map_eq_some_iff.mp same
    have attached : after.rifType = rif.rifType ∧ after.attachment = rif.attachment := by
      simpa only [Rif.place, Prod.mk.injEq] using congrArg Prod.snd place
    rw [stored]
    dsimp only
    rw [attached.1, attached.2]

end Places

/-- The fields of a node that are its neighbor's. -/
structure NeighborFields where
  macAddr : Mac
  packetAction : PacketAction
  noHostRoute : Bool
  metaData : BitVec 32
  portId : ObjectId
deriving DecidableEq

def Nh.neighborFields (node : Nh) : NeighborFields :=
  ⟨node.macAddr, node.packetAction, node.noHostRoute, node.metaData, node.portId⟩

def neighborFields (s : FibState) (ref : NhRef) : Option NeighborFields := (s.nhTree.get ref).map Nh.neighborFields

def nhOwner (s : FibState) (ref : NhRef) : Option NhOwner := (s.nhTree.get ref).map Nh.ownerFlag

section Creates

section
variable {rif : Rif} (atRif : s.routerInterfaceTree.get ref.key.rifId = some rif)
include atRif

theorem fibNeighborMacEntryInsert_success (stored : s.nhTree.get ref = some node) :
    (fibNeighborMacEntryInsert s ref ⟨true, true, .success⟩).2 = .success := by
  unfold fibNeighborMacEntryInsert fibRouterInterfaceNodeGet
  rw [atRif, stored]
  dsimp only
  split
  · rfl
  · split <;> rfl

theorem fibNeighborLink_success {env : NeighborEnv} (stored : s.nhTree.get ref = some node)
    (resolves : fibNeighborPortIdResolve s ref.key.rifId node.macAddr env.fdbPort = .ok portId)
    (linked : env.macEntry = ⟨true, true, .success⟩) (npu : env.npu = .success) :
    ∃ tree fault, fibNeighborLink s ref env =
      ({ s with nhTree := s.nhTree.modify ref fun node => { node with portId := portId }
                neighborMacTree := tree, unlinkFault := fault }, .success) := by
  have mac : fibNhMacAddr s ref = node.macAddr := by
    unfold fibNhMacAddr
    rw [stored]
  unfold fibNeighborLink
  rw [mac, resolves, linked, npu]
  dsimp only
  have after : (s.modifyNh ref fun node => { node with portId := portId }).nhTree.get ref =
      some { node with portId := portId } := by
    unfold FibState.modifyNh
    dsimp only
    rw [get_modify_self, stored]
    rfl
  have inserted := fibNeighborMacEntryInsert_success (s := s.modifyNh ref fun node => { node with portId := portId })
    atRif after
  obtain ⟨tree, fault, same⟩ :=
    fibNeighborMacEntryInsert_eq (s.modifyNh ref fun node => { node with portId := portId })
    ref ⟨true, true, .success⟩
  refine ⟨tree, fault, ?_⟩
  generalize fibNeighborMacEntryInsert (s.modifyNh ref fun node => { node with portId := portId }) ref
    ⟨true, true, .success⟩ = outcome at inserted same ⊢
  obtain ⟨v, status⟩ := outcome
  dsimp only at inserted same
  rw [inserted, same]
  rfl

end

structure NeighborPlaced (s : FibState) (entry : NeighborEntry) (ref : NhRef) : Prop where
  key : ref.key = ⟨.ip, entry.rifId, entry.ipAddress⟩
  vrf : fibGetVrfNodeForRif s entry.rifId = some ref.vrfId
  rif : ∃ rif, s.routerInterfaceTree.get ref.key.rifId = some rif
  vrfStored : s.vrfTree.get ref.vrfId ≠ none

theorem fibGetVrfNodeForRif_stored {rifId vrfId : ObjectId} (found : fibGetVrfNodeForRif s rifId = some vrfId) :
    (∃ rif, s.routerInterfaceTree.get rifId = some rif) ∧ s.vrfTree.get vrfId ≠ none := by
  unfold fibGetVrfNodeForRif fibRouterInterfaceNodeGet fibVrfNodeGet at found
  split at found
  · cases found
  rename_i rif stored
  split at found
  · cases found
  rename_i vrf live
  cases found
  exact ⟨⟨rif, stored⟩, by rw [live]; exact Option.some_ne_none vrf⟩

theorem NeighborPlaced.of_keyFill (fill : fibNeighborKeyValidateAndFill p s entry = .ok ref) :
    NeighborPlaced s entry ref := by
  unfold fibNeighborKeyValidateAndFill at fill
  split at fill
  · split at fill
    · cases fill
    rename_i vrfId found
    cases fill
    obtain ⟨rif, live⟩ := fibGetVrfNodeForRif_stored found
    exact ⟨rfl, found, rif, live⟩
  · cases fill

theorem NeighborPlaced.nodeGet (placed : NeighborPlaced s entry ref) :
    fibIpNextHopNodeGet s ref.key.rifId ref.key.ipAddr = (s.nhTree.get ref).map fun _ => ref := by
  obtain ⟨vrfId, key⟩ := ref
  obtain ⟨same, vrf, -, -⟩ := placed
  dsimp only at same vrf
  subst same
  unfold fibIpNextHopNodeGet
  dsimp only
  rw [vrf]
  dsimp only
  cases s.nhTree.get ⟨vrfId, .ip, entry.rifId, entry.ipAddress⟩ with
  | none => rfl
  | some node => rfl

theorem FibSamePlaces.placed (places : FibSamePlaces s t)
    (placed : NeighborPlaced s entry ref) : NeighborPlaced t entry ref := by
  have vrf := (places.vrfForRif entry.rifId).trans placed.vrf
  obtain ⟨rif, live⟩ := fibGetVrfNodeForRif_stored vrf
  refine ⟨placed.key, vrf, ?_, live⟩
  rw [placed.key]
  exact rif

/-- What a neighbor create meets that goes through: the list is accepted, and nothing outside
refuses. -/
structure NeighborAccepted (p : Platform) (s : FibState) (entry : NeighborEntry) (attrs : List NeighborAttr)
    (env : NeighborEnv) (ref : NhRef) (record : Nh) (portId : ObjectId) : Prop where
  fill : fibNeighborKeyValidateAndFill p s entry = .ok ref
  filled : fibNeighborInfoFill p env.metaRange (fibNeighborDefaultAttrSet nhInfoInit.node) attrs true = .ok record
  resolves : fibNeighborPortIdResolve s ref.key.rifId record.macAddr env.fdbPort = .ok portId
  linked : env.macEntry = ⟨true, true, .success⟩
  npu : env.npu = .success

section Neighbor
variable {attrs : List NeighborAttr} {env : NeighborEnv}

theorem FibSamePlaces.accepted (places : FibSamePlaces s t)
    (accepted : NeighborAccepted p s entry attrs env ref record portId) :
    NeighborAccepted p t entry attrs env ref record portId :=
  ⟨(places.keyFill entry).trans accepted.fill, accepted.filled, (places.portResolve _ _ _).trans accepted.resolves,
    accepted.linked, accepted.npu⟩

section
variable (accepted : NeighborAccepted p s entry attrs env ref record portId)
include accepted

theorem neighborCreate_linked {nodeEnv : NhNodeEnv}
    (made : fibNeighborNodeCreate s ⟨ref, record⟩ nodeEnv = (t, .ok ref)) (places : FibSamePlaces s t)
    (stored : t.nhTree.get ref = some node) (mac : node.macAddr = record.macAddr) :
    ∃ u, fibNeighborCreate p s entry attrs nodeEnv env = (u, .success) ∧ FibSamePlaces s u ∧
      u.nhIdTree = t.nhIdTree ∧ u.nhTree.get ref = some { node with portId := portId } := by
  obtain ⟨rif, atRif⟩ := (places.placed (.of_keyFill accepted.fill)).rif
  have resolves : fibNeighborPortIdResolve t ref.key.rifId node.macAddr env.fdbPort = .ok portId := by
    rw [mac, places.portResolve]
    exact accepted.resolves
  obtain ⟨tree, fault, linked⟩ := fibNeighborLink_success atRif stored resolves accepted.linked accepted.npu
  unfold fibNeighborCreate
  rw [accepted.fill]
  dsimp only
  rw [accepted.filled]
  dsimp only
  rw [made]
  dsimp only
  rw [linked]
  refine ⟨_, rfl, ⟨places.vrfs, places.rifs⟩, rfl, ?_⟩
  dsimp only
  rw [get_modify_self, stored]
  rfl

theorem neighborCreate_fresh
    (absent : s.nhTree.get ref = none) :
    ∃ u, fibNeighborCreate p s entry attrs ⟨true, true⟩ env = (u, .success) ∧ FibSamePlaces s u ∧
      u.nhIdTree = s.nhIdTree ∧ u.nhTree.get ref = some { record with
        nhGroupList := [], ownerFlag := { record.ownerFlag with neighbor := true }, portId := portId } := by
  have placed := NeighborPlaced.of_keyFill accepted.fill
  obtain ⟨vrf, live⟩ := Option.ne_none_iff_exists'.mp placed.vrfStored
  have created : fibIpNextHopNodeCreate s ⟨ref, record⟩ ⟨true, true⟩ = .ok (fibNhRifRefCountIncr
      { s with nhTree := s.nhTree.put ref { record with nhGroupList := [] } } ref) := by
    unfold fibIpNextHopNodeCreate fibVrfNodeGet
    dsimp only
    rw [live]
    dsimp only
    rw [if_neg Bool.noConfusion, absent]
  have made : fibNeighborNodeCreate s ⟨ref, record⟩ ⟨true, true⟩ = ((fibNhRifRefCountIncr
      { s with nhTree := s.nhTree.put ref { record with nhGroupList := [] } } ref).modifyNh ref Nh.setOwnerNeighbor,
        .ok ref) := by
    unfold fibNeighborNodeCreate
    dsimp only
    rw [placed.nodeGet, absent]
    dsimp only [Option.map]
    rw [created]
  have counted := FibSamePlaces.incr { s with nhTree := s.nhTree.put ref { record with nhGroupList := [] } } ref
  have node : ((fibNhRifRefCountIncr { s with nhTree := s.nhTree.put ref { record with nhGroupList := [] } }
      ref).modifyNh ref Nh.setOwnerNeighbor).nhTree.get ref =
      some ({ record with nhGroupList := [] } : Nh).setOwnerNeighbor := by
    unfold FibState.modifyNh fibNhRifRefCountIncr
    dsimp only
    rw [get_modify_self, get_put_self]
    rfl
  exact neighborCreate_linked accepted made ⟨counted.vrfs, counted.rifs⟩ node rfl

theorem neighborCreate_shared
    (stored : s.nhTree.get ref = some old) (free : old.ownerFlag.neighbor = false) (nodeEnv : NhNodeEnv) :
    ∃ u, fibNeighborCreate p s entry attrs nodeEnv env = (u, .success) ∧ FibSamePlaces s u ∧
      u.nhIdTree = s.nhIdTree ∧ u.nhTree.get ref = some { old with
        macAddr := record.macAddr, packetAction := record.packetAction,
        ownerFlag := { old.ownerFlag with neighbor := true }, portId := portId } := by
  have placed := NeighborPlaced.of_keyFill accepted.fill
  have unowned : fibIsOwnerNeighbor s ref = false := by
    unfold fibIsOwnerNeighbor
    rw [stored]
    exact free
  have made : fibNeighborNodeCreate s ⟨ref, record⟩ nodeEnv =
      ((s.modifyNh ref fun node => fibNeighborAttrCopy node record).modifyNh ref Nh.setOwnerNeighbor, .ok ref) := by
    unfold fibNeighborNodeCreate
    dsimp only
    rw [placed.nodeGet, stored]
    dsimp only [Option.map]
    rw [unowned, if_neg Bool.noConfusion]
  have node : ((s.modifyNh ref fun node => fibNeighborAttrCopy node record).modifyNh ref
      Nh.setOwnerNeighbor).nhTree.get ref = some (fibNeighborAttrCopy old record).setOwnerNeighbor := by
    unfold FibState.modifyNh
    dsimp only
    rw [get_modify_self, get_modify_self, stored]
    rfl
  exact neighborCreate_linked accepted made ⟨rfl, fun _ => rfl⟩ node rfl

end

end Neighbor

/-- What a next-hop create of the same router interface and address meets. -/
structure NextHopAccepted (p : Platform) (s : FibState) (attrs : List NextHopAttr) (env : NextHopCreateEnv)
    (ref : NhRef) : Prop where
  filled : ∃ info, fibNextHopInfoFill p s (fibNextHopDefaultAttrSet nhInfoInit) attrs = .ok info ∧
    info.ref.key = ref.key
  made : env.node = ⟨true, true⟩
  npu : env.npu = .success
  idTree : env.idTreeOk = true
  idFree : s.nhIdTree.get ⟨.nextHop, env.npuObjectId⟩ = none

def nextHopNode (npuObjectId : Nat) : Nh :=
  { (fibNextHopDefaultAttrSet nhInfoInit).node with
    nextHopId := ⟨.nextHop, npuObjectId⟩, ownerFlag := ⟨true, false⟩ }

section NextHop
variable {attrs : List NextHopAttr} {env : NextHopCreateEnv}

theorem FibSamePlaces.acceptedNextHop (places : FibSamePlaces s t) (ids : t.nhIdTree = s.nhIdTree)
    (accepted : NextHopAccepted p s attrs env ref) : NextHopAccepted p t attrs env ref := by
  obtain ⟨info, filled, key⟩ := accepted.filled
  refine ⟨⟨info, (places.nextHopFill _ _).trans filled, key⟩, accepted.made, accepted.npu, accepted.idTree, ?_⟩
  rw [ids]
  exact accepted.idFree

section
variable (accepted : NextHopAccepted p s attrs env ref)
include accepted

theorem NextHopAccepted.fill (placed : NeighborPlaced s entry ref) :
    ∃ info, fibNextHopInfoFill p s (fibNextHopDefaultAttrSet nhInfoInit) attrs = .ok info ∧ info.ref = ref ∧
      info.node = (fibNextHopDefaultAttrSet nhInfoInit).node ∧ info.ref.key.nhType = .ip := by
  obtain ⟨info, filled, key⟩ := accepted.filled
  obtain ⟨node, inVrf⟩ := fibNextHopInfoFill_ok filled
  refine ⟨info, filled, ?_, node, by rw [key, placed.key]⟩
  have vrf := fibGetVrfNodeForRif_some placed.vrf
  unfold NhPlaced at inVrf
  rw [key, placed.key, vrf] at inVrf
  obtain ⟨vrfId, nhKey⟩ := ref
  obtain ⟨⟨vrfId', nhKey'⟩, node'⟩ := info
  cases Option.some.inj inVrf
  cases key
  rfl

theorem nextHopCreate_owned (placed : NeighborPlaced s entry ref)
    (ids : t.nhIdTree = s.nhIdTree) (places : FibSamePlaces s t) (stored : t.nhTree.get ref = some node)
    (made : ∀ info, info.ref = ref → info.node = (fibNextHopDefaultAttrSet nhInfoInit).node →
      fibIpNextHopCreate s info env = fibIpNextHopOwn t ref env) :
    ∃ u, fibNextHopCreate p s attrs env = (u, .success) ∧ FibSamePlaces s u ∧
      u.nhTree.get ref = some { node with
        nextHopId := ⟨.nextHop, env.npuObjectId⟩, ownerFlag := { node.ownerFlag with nextHop := true } } := by
  obtain ⟨info, filled, isRef, isNode, isIp⟩ := accepted.fill placed
  have owned : fibIpNextHopOwn t ref env = ((t.modifyNh ref Nh.setOwnerNextHop).modifyNh ref
      fun node => { node with nextHopId := ⟨.nextHop, env.npuObjectId⟩ }, .ok ref) := by
    unfold fibIpNextHopOwn
    rw [accepted.npu]
  have node' : ((t.modifyNh ref Nh.setOwnerNextHop).modifyNh ref
      fun node => { node with nextHopId := ⟨.nextHop, env.npuObjectId⟩ }).nhTree.get ref =
      some { node with
        nextHopId := ⟨.nextHop, env.npuObjectId⟩, ownerFlag := { node.ownerFlag with nextHop := true } } := by
    unfold FibState.modifyNh
    dsimp only
    rw [get_modify_self, get_modify_self, stored]
    rfl
  unfold fibNextHopCreate
  rw [filled]
  dsimp only
  rw [if_pos isIp, made info isRef isNode, owned]
  dsimp only
  have id : fibNhNextHopId ((t.modifyNh ref Nh.setOwnerNextHop).modifyNh ref
      fun node => { node with nextHopId := ⟨.nextHop, env.npuObjectId⟩ }) ref =
        ⟨.nextHop, env.npuObjectId⟩ := by
    unfold fibNhNextHopId
    rw [node']
  have free : ((t.modifyNh ref Nh.setOwnerNextHop).modifyNh ref
      fun node => { node with nextHopId := ⟨.nextHop, env.npuObjectId⟩ }).nhIdTree.get
        ⟨.nextHop, env.npuObjectId⟩ =
      none := by
    unfold FibState.modifyNh
    dsimp only
    rw [ids]
    exact accepted.idFree
  unfold fibInsertNhNodeInNhIdDatabase
  rw [accepted.idTree, id, free]
  exact ⟨_, rfl, ⟨places.vrfs, places.rifs⟩, node'⟩

theorem nextHopCreate_fresh (placed : NeighborPlaced s entry ref) (absent : s.nhTree.get ref = none) :
    ∃ u, fibNextHopCreate p s attrs env = (u, .success) ∧ FibSamePlaces s u ∧
      u.nhTree.get ref = some (nextHopNode env.npuObjectId) := by
  obtain ⟨vrf, live⟩ := Option.ne_none_iff_exists'.mp placed.vrfStored
  have counted :=
    FibSamePlaces.incr { s with nhTree := s.nhTree.put ref (fibNextHopDefaultAttrSet nhInfoInit).node } ref
  have made : ∀ info : NhInfo, info.ref = ref → info.node = (fibNextHopDefaultAttrSet nhInfoInit).node →
      fibIpNextHopCreate s info env = fibIpNextHopOwn (fibNhRifRefCountIncr
        { s with nhTree := s.nhTree.put ref (fibNextHopDefaultAttrSet nhInfoInit).node } ref) ref env := by
    rintro ⟨ref', node⟩ isRef isNode
    dsimp only at isRef isNode
    subst isRef isNode
    unfold fibIpNextHopCreate
    dsimp only
    rw [placed.nodeGet, absent]
    dsimp only [Option.map]
    unfold fibIpNextHopNodeCreate fibVrfNodeGet
    dsimp only
    rw [live, accepted.made]
    dsimp only
    rw [if_neg Bool.noConfusion, absent]
    rfl
  have node : (fibNhRifRefCountIncr { s with nhTree := s.nhTree.put ref (fibNextHopDefaultAttrSet nhInfoInit).node }
      ref).nhTree.get ref = some (fibNextHopDefaultAttrSet nhInfoInit).node := get_put_self _ _ _
  have ids : (fibNhRifRefCountIncr { s with nhTree := s.nhTree.put ref (fibNextHopDefaultAttrSet nhInfoInit).node }
      ref).nhIdTree = s.nhIdTree := rfl
  exact nextHopCreate_owned accepted placed ids ⟨counted.vrfs, counted.rifs⟩ node made

theorem nextHopCreate_shared (placed : NeighborPlaced s entry ref) (stored : s.nhTree.get ref = some old)
    (free : old.ownerFlag.nextHop = false) :
    ∃ u, fibNextHopCreate p s attrs env = (u, .success) ∧ FibSamePlaces s u ∧
      u.nhTree.get ref = some { old with
        nextHopId := ⟨.nextHop, env.npuObjectId⟩, ownerFlag := { old.ownerFlag with nextHop := true } } := by
  have unowned : fibIsOwnerNextHop s ref = false := by
    unfold fibIsOwnerNextHop
    rw [stored]
    exact free
  refine nextHopCreate_owned accepted placed rfl (.refl s) stored fun info isRef _ => ?_
  unfold fibIpNextHopCreate
  rw [isRef, placed.nodeGet, stored]
  dsimp only [Option.map]
  rw [unowned, if_neg Bool.noConfusion]

end

end NextHop

section Remove
variable {macEntry : MacEntryEnv}

theorem fibNeighborGet_error (status : SaiStatus) (got : fibNeighborGet p s entry = .error status) :
    status ≠ .success := by
  unfold fibNeighborGet at got
  split at got
  · split at got
    · cases got
      decide
    split at got
    · cases got
      decide
    · cases got
  · next failed =>
    cases got
    exact failed

theorem fibNeighborGet_placed {found : NhRef} (got : fibNeighborGet p s entry = .ok found)
    (placed : NeighborPlaced s entry ref) : found = ref ∧ fibIsOwnerNeighbor s ref = true := by
  have nodeGet := placed.nodeGet
  rw [placed.key] at nodeGet
  dsimp only at nodeGet
  unfold fibNeighborGet at got
  rw [nodeGet] at got
  split at got
  · cases stored : s.nhTree.get ref with
    | none =>
      rw [stored] at got
      cases got
    | some node =>
      rw [stored] at got
      dsimp only [Option.map] at got
      split at got
      · cases got
      next owner =>
      cases got
      exact ⟨rfl, Bool.eq_true_of_not_eq_false owner⟩
  · cases got

theorem checkAndDelete_reset {u : FibState} (reset : u.nhTree.get ref = some (fibNeighborInfoReset old))
    (places : FibSamePlaces s u) (live : s.vrfTree.get ref.vrfId ≠ none) :
    FibSamePlaces s (fibCheckAndDeleteIpNextHopNode u ref).1 ∧
      (fibCheckAndDeleteIpNextHopNode u ref).1.nhTree.get ref =
        if old.ownerFlag.nextHop then some (fibNeighborInfoReset old) else none := by
  obtain ⟨vrf, stored⟩ := Option.ne_none_iff_exists'.mp live
  rw [← places.vrfs] at stored
  unfold fibCheckAndDeleteIpNextHopNode fibVrfNodeGet
  rw [reset, stored]
  dsimp only
  cases owner : old.ownerFlag.nextHop with
  | true =>
    have owned : (fibNeighborInfoReset old).ownerFlag ≠ ⟨false, false⟩ := by
      intro unowned
      have clash : (fibNeighborInfoReset old).ownerFlag.nextHop = false := congrArg NhOwner.nextHop unowned
      exact Bool.noConfusion (owner.symm.trans clash)
    rw [if_pos owned]
    exact ⟨places, reset⟩
  | false =>
    have free : (fibNeighborInfoReset old).ownerFlag = ⟨false, false⟩ := by
      unfold fibNeighborInfoReset
      dsimp only
      rw [owner]
    rw [if_neg (not_not.mpr free)]
    have counted := FibSamePlaces.decr { u with nhTree := u.nhTree.del ref } ref
    exact ⟨⟨counted.vrfs.trans places.vrfs, fun rifId => (counted.rifs rifId).trans (places.rifs rifId)⟩,
      get_del_self _ _⟩

theorem neighborRemove_node (removed : fibNeighborRemove p s entry macEntry .success = (t, .success))
    (placed : NeighborPlaced s entry ref) : ∃ old, s.nhTree.get ref = some old ∧ old.ownerFlag.neighbor = true ∧
      FibSamePlaces s t ∧
      t.nhTree.get ref = if old.ownerFlag.nextHop then some (fibNeighborInfoReset old) else none := by
  cases got : fibNeighborGet p s entry with
  | error error =>
    unfold fibNeighborRemove at removed
    rw [got] at removed
    exact absurd (congrArg Prod.snd removed) (fibNeighborGet_error error got)
  | ok found =>
    obtain ⟨same, owner⟩ := fibNeighborGet_placed got placed
    subst same
    unfold fibNeighborRemove at removed
    rw [got] at removed
    dsimp only at removed
    cases stored : s.nhTree.get found with
    | none =>
      rw [stored] at removed
      cases removed
    | some old =>
      rw [stored] at removed
      dsimp only at removed
      obtain ⟨tree, fault, unlinked⟩ := fibNeighborMacEntryRemove_eq s found
      generalize fibNeighborMacEntryRemove s found = outcome at removed unlinked
      obtain ⟨u, status⟩ := outcome
      dsimp only at unlinked
      subst unlinked
      have isNeighbor : old.ownerFlag.neighbor = true := by
        unfold fibIsOwnerNeighbor at owner
        rw [stored] at owner
        exact owner
      refine ⟨old, rfl, isNeighbor, ?_⟩
      have reset : ({ s with neighborMacTree := tree, unlinkFault := fault }.modifyNh found
          fibNeighborInfoReset).nhTree.get found = some (fibNeighborInfoReset old) := by
        unfold FibState.modifyNh
        dsimp only
        rw [get_modify_self, stored]
        rfl
      split at removed
      · next same =>
        cases same
        cases removed
        exact checkAndDelete_reset reset ⟨rfl, fun _ => rfl⟩ placed.vrfStored
      · next failed same =>
        cases same
        exact absurd (congrArg Prod.snd removed) failed

end Remove

end Creates

def nextHopThenNeighbor (p : Platform) (s : FibState) (nhAttrs : List NextHopAttr) (nhEnv : NextHopCreateEnv)
    (entry : NeighborEntry) (attrs : List NeighborAttr) (env : NeighborEnv) : FibState × SaiStatus :=
  match fibNextHopCreate p s nhAttrs nhEnv with
  | (t, .success) => fibNeighborCreate p t entry attrs ⟨true, true⟩ env
  | (t, error) => (t, error)

def neighborThenNextHop (p : Platform) (s : FibState) (nhAttrs : List NextHopAttr) (nhEnv : NextHopCreateEnv)
    (entry : NeighborEntry) (attrs : List NeighborAttr) (env : NeighborEnv) : FibState × SaiStatus :=
  match fibNeighborCreate p s entry attrs ⟨true, true⟩ env with
  | (t, .success) => fibNextHopCreate p t nhAttrs nhEnv
  | (t, error) => (t, error)

section Orders
variable {nhAttrs : List NextHopAttr} {nhEnv : NextHopCreateEnv} {attrs : List NeighborAttr} {env : NeighborEnv}

theorem nextHopThenNeighbor_node (nextHop : NextHopAccepted p s nhAttrs nhEnv ref)
    (accepted : NeighborAccepted p s entry attrs env ref record portId) (absent : s.nhTree.get ref = none) :
    (nextHopThenNeighbor p s nhAttrs nhEnv entry attrs env).2 = .success ∧
    neighborFields (nextHopThenNeighbor p s nhAttrs nhEnv entry attrs env).1 ref =
      some ⟨record.macAddr, record.packetAction, false, 0, portId⟩ ∧
    nhOwner (nextHopThenNeighbor p s nhAttrs nhEnv entry attrs env).1 ref = some ⟨true, true⟩ := by
  obtain ⟨t, first, places, node⟩ := nextHopCreate_fresh nextHop (.of_keyFill accepted.fill) absent
  obtain ⟨u, second, -, -, shared⟩ := neighborCreate_shared (places.accepted accepted) node rfl ⟨true, true⟩
  unfold nextHopThenNeighbor neighborFields nhOwner
  rw [first]
  dsimp only
  rw [second]
  dsimp only
  rw [shared]
  exact ⟨rfl, rfl, rfl⟩

theorem neighborThenNextHop_node (nextHop : NextHopAccepted p s nhAttrs nhEnv ref)
    (accepted : NeighborAccepted p s entry attrs env ref record portId) (absent : s.nhTree.get ref = none) :
    (neighborThenNextHop p s nhAttrs nhEnv entry attrs env).2 = .success ∧
    neighborFields (neighborThenNextHop p s nhAttrs nhEnv entry attrs env).1 ref =
      some ⟨record.macAddr, record.packetAction, record.noHostRoute, record.metaData, portId⟩ ∧
    nhOwner (neighborThenNextHop p s nhAttrs nhEnv entry attrs env).1 ref = some ⟨true, true⟩ := by
  have placed := NeighborPlaced.of_keyFill accepted.fill
  have unowned : record.ownerFlag = ⟨false, false⟩ :=
    (nhBlank_neighborDefault.of_frame (fibNeighborInfoFill_frame accepted.filled)).noOwner
  obtain ⟨t, first, places, ids, node⟩ := neighborCreate_fresh accepted absent
  obtain ⟨u, second, -, shared⟩ :=
    nextHopCreate_shared (places.acceptedNextHop ids nextHop) (places.placed placed) node
    (congrArg NhOwner.nextHop unowned)
  unfold neighborThenNextHop neighborFields nhOwner
  rw [first]
  dsimp only
  rw [second]
  dsimp only
  rw [shared]
  exact ⟨rfl, rfl, rfl⟩

/-- What is left of the old node beside the second list: a next hop keeps the node, with the
host-route flag that it had and no metadata. -/
def neighborRest (record old : Nh) : Bool × BitVec 32 :=
  if old.ownerFlag.nextHop then (old.noHostRoute, 0) else (record.noHostRoute, record.metaData)

theorem neighborRecreate_node {macEntry : MacEntryEnv}
    (removed : fibNeighborRemove p s entry macEntry .success = (t, .success))
    (accepted : NeighborAccepted p s entry attrs env ref record portId) : ∃ old, s.nhTree.get ref = some old ∧
      (fibNeighborCreate p t entry attrs ⟨true, true⟩ env).2 = .success ∧
      neighborFields (fibNeighborCreate p t entry attrs ⟨true, true⟩ env).1 ref =
        some ⟨record.macAddr, record.packetAction, (neighborRest record old).1, (neighborRest record old).2,
          portId⟩ := by
  obtain ⟨old, stored, -, places, left⟩ := neighborRemove_node removed (.of_keyFill accepted.fill)
  refine ⟨old, stored, ?_⟩
  unfold neighborRest neighborFields
  split at left
  · next owned =>
    obtain ⟨u, created, -, -, node⟩ := neighborCreate_shared (places.accepted accepted) left rfl ⟨true, true⟩
    rw [created, if_pos owned]
    dsimp only
    rw [node]
    exact ⟨rfl, rfl⟩
  · next free =>
    obtain ⟨u, created, -, -, node⟩ := neighborCreate_fresh (places.accepted accepted) left
    rw [created, if_neg free]
    dsimp only
    rw [node]
    exact ⟨rfl, rfl⟩

end Orders

/-- Either order leaves the same neighbor exactly when the list asks for neither of the two
fields that are not copied into the node of a next hop; and two neighbors that are removed
and created again end with the same fields exactly when their old nodes leave the same rest. -/
theorem neighborNextHop_order_iff (p : Platform) (entry : NeighborEntry) (attrs : List NeighborAttr)
    (env : NeighborEnv) (ref : NhRef) (record : Nh) (portId : ObjectId) :
    (∀ s nhAttrs nhEnv, NeighborAccepted p s entry attrs env ref record portId →
      NextHopAccepted p s nhAttrs nhEnv ref → s.nhTree.get ref = none →
      (nextHopThenNeighbor p s nhAttrs nhEnv entry attrs env).2 = .success ∧
      (neighborThenNextHop p s nhAttrs nhEnv entry attrs env).2 = .success ∧
      nhOwner (nextHopThenNeighbor p s nhAttrs nhEnv entry attrs env).1 ref =
        nhOwner (neighborThenNextHop p s nhAttrs nhEnv entry attrs env).1 ref ∧
      (neighborFields (nextHopThenNeighbor p s nhAttrs nhEnv entry attrs env).1 ref =
          neighborFields (neighborThenNextHop p s nhAttrs nhEnv entry attrs env).1 ref ↔
        record.noHostRoute = false ∧ record.metaData = 0)) ∧
    ∀ s s' t t' macEntry macEntry', NeighborAccepted p s entry attrs env ref record portId →
      NeighborAccepted p s' entry attrs env ref record portId →
      fibNeighborRemove p s entry macEntry .success = (t, .success) →
      fibNeighborRemove p s' entry macEntry' .success = (t', .success) →
      ∃ old old', s.nhTree.get ref = some old ∧ s'.nhTree.get ref = some old' ∧
        (neighborFields (fibNeighborCreate p t entry attrs ⟨true, true⟩ env).1 ref =
            neighborFields (fibNeighborCreate p t' entry attrs ⟨true, true⟩ env).1 ref ↔
          neighborRest record old = neighborRest record old') := by
  constructor
  · intro s nhAttrs nhEnv accepted nextHop absent
    obtain ⟨first, fields, owner⟩ := nextHopThenNeighbor_node nextHop accepted absent
    obtain ⟨second, fields', owner'⟩ := neighborThenNextHop_node nextHop accepted absent
    refine ⟨first, second, owner.trans owner'.symm, ?_⟩
    rw [fields, fields', Option.some.injEq, NeighborFields.mk.injEq]
    constructor
    · rintro ⟨-, -, flag, metaData, -⟩
      exact ⟨flag.symm, metaData.symm⟩
    · rintro ⟨flag, metaData⟩
      exact ⟨rfl, rfl, flag.symm, metaData.symm, rfl⟩
  · intro s s' t t' macEntry macEntry' accepted accepted' removed removed'
    obtain ⟨old, stored, -, fields⟩ := neighborRecreate_node removed accepted
    obtain ⟨old', stored', -, fields'⟩ := neighborRecreate_node removed' accepted'
    refine ⟨old, old', stored, stored', ?_⟩
    rw [fields, fields', Option.some.injEq, NeighborFields.mk.injEq, Prod.ext_iff]
    constructor
    · rintro ⟨-, -, flag, metaData, -⟩
      exact ⟨flag, metaData⟩
    · rintro ⟨flag, metaData⟩
      exact ⟨rfl, rfl, flag, metaData, rfl⟩

def orderSample : FibState :=
  [fibSampleVrf, fibSampleRif [.type .port, .portId ⟨.port, 1⟩] 7 1].foldl fibSampleStep fibSample

def orderSampleEntry : NeighborEntry := ⟨⟨.routerInterface, 1⟩, .v4 10⟩

def orderSampleRef : NhRef := ⟨⟨.virtualRouter, 1⟩, .ip, ⟨.routerInterface, 1⟩, .v4 10⟩

def orderSampleNextHop : List NextHopAttr := [.type .ip, .ip (.v4 10), .routerInterfaceId ⟨.routerInterface, 1⟩]

def orderSampleNhEnv : NextHopCreateEnv := ⟨⟨true, true⟩, .success, 1, true, .success⟩

def orderSampleEnv : NeighborEnv :=
  ⟨.ok (0, 100), fun _ => .ok ⟨.port, 5⟩, ⟨true, true, .success⟩, .success⟩

def orderSampleAttrs : List NeighborAttr := [.dstMacAddress 1, .noHostRoute true]

def orderSampleRecord : Nh :=
  { fibNeighborDefaultAttrSet nhInfoInit.node with macAddr := 1, noHostRoute := true }

theorem orderSample_accepted : NeighborAccepted fibSamplePlatform orderSample orderSampleEntry orderSampleAttrs
    orderSampleEnv orderSampleRef orderSampleRecord ⟨.port, 1⟩ :=
  ⟨rfl, rfl, rfl, rfl, rfl⟩

theorem orderSample_nextHop : NextHopAccepted fibSamplePlatform orderSample orderSampleNextHop orderSampleNhEnv
    orderSampleRef :=
  ⟨⟨⟨orderSampleRef, (fibNextHopDefaultAttrSet nhInfoInit).node⟩, rfl, rfl⟩, rfl, rfl, rfl, rfl⟩

def orderSampleShared : FibState :=
  (neighborThenNextHop fibSamplePlatform orderSample orderSampleNextHop orderSampleNhEnv orderSampleEntry
    orderSampleAttrs orderSampleEnv).1

def orderSampleAlone : FibState :=
  (fibNeighborCreate fibSamplePlatform orderSample orderSampleEntry [.dstMacAddress 2] ⟨true, true⟩
    orderSampleEnv).1

theorem neighborNextHop_order_sample :
    (neighborFields (nextHopThenNeighbor fibSamplePlatform orderSample orderSampleNextHop orderSampleNhEnv
          orderSampleEntry orderSampleAttrs orderSampleEnv).1 orderSampleRef =
        neighborFields (neighborThenNextHop fibSamplePlatform orderSample orderSampleNextHop orderSampleNhEnv
          orderSampleEntry orderSampleAttrs orderSampleEnv).1 orderSampleRef ↔
      orderSampleRecord.noHostRoute = false ∧ orderSampleRecord.metaData = 0) ∧
    ∃ old old', orderSampleShared.nhTree.get orderSampleRef = some old ∧
      orderSampleAlone.nhTree.get orderSampleRef = some old' ∧
      (neighborFields (fibNeighborCreate fibSamplePlatform (fibNeighborRemove fibSamplePlatform orderSampleShared
            orderSampleEntry ⟨true, true, .success⟩ .success).1 orderSampleEntry orderSampleAttrs ⟨true, true⟩
            orderSampleEnv).1 orderSampleRef =
          neighborFields (fibNeighborCreate fibSamplePlatform (fibNeighborRemove fibSamplePlatform orderSampleAlone
            orderSampleEntry ⟨true, true, .success⟩ .success).1 orderSampleEntry orderSampleAttrs ⟨true, true⟩
            orderSampleEnv).1 orderSampleRef ↔
        neighborRest orderSampleRecord old = neighborRest orderSampleRecord old') := by
  have orders := neighborNextHop_order_iff fibSamplePlatform orderSampleEntry orderSampleAttrs orderSampleEnv
    orderSampleRef orderSampleRecord ⟨.port, 1⟩
  exact ⟨(orders.1 orderSample orderSampleNextHop orderSampleNhEnv orderSample_accepted
    orderSample_nextHop rfl).2.2.2,
    orders.2 orderSampleShared orderSampleAlone _ _ ⟨true, true, .success⟩ ⟨true, true, .success⟩
      ⟨rfl, rfl, rfl, rfl, rfl⟩ ⟨rfl, rfl, rfl, rfl, rfl⟩ (Prod.ext rfl rfl) (Prod.ext rfl rfl)⟩

/-- The neighbor that comes after the next hop gets its host route. -/
theorem neighborNextHop_not_commute : ¬ ∀ p s nhAttrs nhEnv entry attrs env ref record portId,
    Runs.Reach FibFresh (fibStep p fun _ _ => True) s → NeighborAccepted p s entry attrs env ref record portId →
    NextHopAccepted p s nhAttrs nhEnv ref → s.nhTree.get ref = none →
    neighborFields (nextHopThenNeighbor p s nhAttrs nhEnv entry attrs env).1 ref =
      neighborFields (neighborThenNextHop p s nhAttrs nhEnv entry attrs env).1 ref := by
  intro commute
  have same := commute fibSamplePlatform orderSample orderSampleNextHop orderSampleNhEnv orderSampleEntry
    orderSampleAttrs orderSampleEnv orderSampleRef orderSampleRecord ⟨.port, 1⟩
    (Runs.Reach.run (.start fibSample_fresh) (Runs.allowedRun_of_forall (fun _ _ => trivial) _ _))
    orderSample_accepted orderSample_nextHop rfl
  revert same
  decide

end SaiCommon
