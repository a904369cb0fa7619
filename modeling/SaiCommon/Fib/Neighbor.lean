import SaiCommon.Fib.NextHop

namespace SaiCommon

inductive NeighborAttr
  | dstMacAddress (mac : Mac)
  | packetAction (pktAction : PacketAction)
  | noHostRoute (value : Bool)
  | metaData (value : BitVec 32)
  | other
deriving DecidableEq

structure NeighborEntry where
  rifId : ObjectId
  ipAddress : IpAddress
deriving DecidableEq

/-- What a new MAC entry meets: the allocator, the tree and the registration
with the FDB. -/
structure MacEntryEnv where
  allocOk : Bool
  treeOk : Bool
  fdbReg : SaiStatus
deriving DecidableEq

/-- The range of metadata that the ACL side allows, and the FDB's port of a
MAC. -/
structure NeighborEnv where
  metaRange : Except SaiStatus (BitVec 32 × BitVec 32)
  fdbPort : NeighborMacKey → Except SaiStatus ObjectId
  macEntry : MacEntryEnv
  npu : SaiStatus

section Attributes
variable (p : Platform)

/-- One round of the loop of `sai_fib_neighbor_info_fill`. -/
def fibNeighborAttrSet (metaRange : Except SaiStatus (BitVec 32 × BitVec 32)) (node : Nh) :
    NeighborAttr → Except SaiStatus Nh
  | .dstMacAddress mac =>
    if mac = 0 then .error (.invalidAttrValue 0) else .ok { node with macAddr := mac }
  | .packetAction pktAction =>
    if p.packetActionValidate pktAction then .ok { node with packetAction := pktAction }
    else .error (.invalidAttrValue 0)
  | .noHostRoute value => .ok { node with noHostRoute := value }
  | .metaData value =>
    match metaRange with
    | .error error => .error error
    | .ok (least, most) =>
      if value < least ∨ value > most then .error (.invalidAttrValue 0)
      else .ok { node with metaData := value }
  | .other => .error (.unknownAttribute 0)

def fibNeighborInfoLoop (metaRange : Except SaiStatus (BitVec 32 × BitVec 32)) :
    List NeighborAttr → Nat → Nh → Except SaiStatus Nh
  | [], _, node => .ok node
  | attr :: rest, attrIndex, node =>
    match fibNeighborAttrSet p metaRange node attr with
    | .error error => .error (fibAttrStatusCodeGet error attrIndex)
    | .ok next => fibNeighborInfoLoop metaRange rest (attrIndex + 1) next

def NeighborAttr.isDstMac : NeighborAttr → Bool
  | .dstMacAddress _ => true
  | _ => false

def fibNeighborInfoFill (metaRange : Except SaiStatus (BitVec 32 × BitVec 32)) (node : Nh)
    (attrs : List NeighborAttr) (isCreateReq : Bool) : Except SaiStatus Nh :=
  if attrs = [] then .error .invalidParameter
  else match fibNeighborInfoLoop p metaRange attrs 0 node with
    | .error error => .error error
    | .ok filled =>
      if isCreateReq ∧ attrs.any NeighborAttr.isDstMac = false then .error .mandatoryAttributeMissing
      else .ok filled

def fibNeighborEntryValidate (s : FibState) (entry : NeighborEntry) : SaiStatus :=
  match fibRouterInterfaceNodeGet s entry.rifId with
  | none => .invalidObjectId
  | some _ => fibNextHopIpAddressValidate p entry.ipAddress

def fibNeighborKeyValidateAndFill (s : FibState) (entry : NeighborEntry) : Except SaiStatus NhRef :=
  match fibNeighborEntryValidate p s entry with
  | .success =>
    match fibGetVrfNodeForRif s entry.rifId with
    | none => .error .itemNotFound
    | some vrfId => .ok ⟨vrfId, .ip, entry.rifId, entry.ipAddress⟩
  | error => .error error

end Attributes

def fibNeighborDefaultAttrSet (node : Nh) : Nh :=
  { node with packetAction := .forward, noHostRoute := false, portId := nullObjectId }

def fibNeighborInfoReset (node : Nh) : Nh :=
  { node with
    packetAction := .trap
    macAddr := 0
    metaData := 0
    portId := nullObjectId
    ownerFlag := { node.ownerFlag with neighbor := false } }

def fibNeighborAttrCopy (dest src : Nh) : Nh :=
  { dest with macAddr := src.macAddr, packetAction := src.packetAction }

def fibNeighborPortIdResolve (s : FibState) (rifId : ObjectId) (mac : Mac)
    (fdbPort : NeighborMacKey → Except SaiStatus ObjectId) : Except SaiStatus ObjectId :=
  match fibRouterInterfaceNodeGet s rifId with
  | none => .error .invalidObjectId
  | some rif =>
    if rif.rifType = .port then .ok rif.attachment.portId
    else fdbPort ⟨rif.attachment.vlanId, mac⟩

/-- The node is taken from the list of its MAC's entry, and an entry with no
neighbor left goes. -/
def fibNeighborMacEntryRemove (s : FibState) (ref : NhRef) : FibState × SaiStatus :=
  match fibRouterInterfaceNodeGet s ref.key.rifId, s.nhTree.get ref with
  | some rif, some node =>
    if rif.rifType ≠ .vlan then (s, .success)
    else
      let key : NeighborMacKey := ⟨rif.attachment.vlanId, node.macAddr⟩
      match s.neighborMacTree.get key with
      | none => (s, .itemNotFound)
      | some neighborList =>
        let left := neighborList.erase ref
        let tree := if left = [] then s.neighborMacTree.del key else s.neighborMacTree.put key left
        ({ s with
          neighborMacTree := tree
          unlinkFault := s.unlinkFault || decide (ref ∉ neighborList) }, .success)
  | _, _ => (s, .itemNotFound)

/-- A new entry that the FDB does not take is left by way of the unlinking. -/
def fibNeighborMacEntryInsert (s : FibState) (ref : NhRef) (env : MacEntryEnv) : FibState × SaiStatus :=
  match fibRouterInterfaceNodeGet s ref.key.rifId, s.nhTree.get ref with
  | some rif, some node =>
    if rif.rifType ≠ .vlan then (s, .success)
    else
      let key : NeighborMacKey := ⟨rif.attachment.vlanId, node.macAddr⟩
      match s.neighborMacTree.get key with
      | some neighborList =>
        ({ s with neighborMacTree := s.neighborMacTree.put key (neighborList ++ [ref]) }, .success)
      | none =>
        if env.allocOk = false then (s, .noMemory)
        else if env.treeOk = false then (s, .failure)
        else
          let linked := { s with neighborMacTree := s.neighborMacTree.put key [ref] }
          match env.fdbReg with
          | .success => (linked, .success)
          | error => ((fibNeighborMacEntryRemove linked ref).1, error)
  | _, _ => (s, .itemNotFound)

def fibNeighborNodeCreate (s : FibState) (info : NhInfo) (env : NhNodeEnv) : FibState × Except SaiStatus NhRef :=
  match fibIpNextHopNodeGet s info.ref.key.rifId info.ref.key.ipAddr with
  | some ref =>
    if fibIsOwnerNeighbor s ref then (s, .error .itemAlreadyExists)
    else ((s.modifyNh ref fun node => fibNeighborAttrCopy node info.node).modifyNh ref Nh.setOwnerNeighbor,
      .ok ref)
  | none =>
    match fibIpNextHopNodeCreate s info env with
    | .error error => (s, .error error)
    | .ok t => (t.modifyNh info.ref Nh.setOwnerNeighbor, .ok info.ref)

/-- The clean-up of a create that got as far as the node, the same wherever it
failed. -/
def fibNeighborCreateUndo (s : FibState) (ref : NhRef) : FibState :=
  let unlinked := (fibNeighborMacEntryRemove s ref).1
  (fibCheckAndDeleteIpNextHopNode (unlinked.modifyNh ref fibNeighborInfoReset) ref).1

def fibNhMacAddr (s : FibState) (ref : NhRef) : Mac :=
  match s.nhTree.get ref with
  | none => 0
  | some node => node.macAddr

/-- The steps of a create after its node: the port, the MAC entry, the NPU. -/
def fibNeighborLink (s : FibState) (ref : NhRef) (env : NeighborEnv) : FibState × SaiStatus :=
  match fibNeighborPortIdResolve s ref.key.rifId (fibNhMacAddr s ref) env.fdbPort with
  | .error error => (s, error)
  | .ok portId =>
    let resolved := s.modifyNh ref fun node => { node with portId := portId }
    match fibNeighborMacEntryInsert resolved ref env.macEntry with
    | (t, .success) => (t, env.npu)
    | (t, error) => (t, error)

def fibNeighborCreate (p : Platform) (s : FibState) (entry : NeighborEntry) (attrs : List NeighborAttr)
    (nodeEnv : NhNodeEnv) (env : NeighborEnv) : FibState × SaiStatus :=
  match fibNeighborKeyValidateAndFill p s entry with
  | .error error => (s, error)
  | .ok ref =>
    match fibNeighborInfoFill p env.metaRange (fibNeighborDefaultAttrSet nhInfoInit.node) attrs true with
    | .error error => (s, error)
    | .ok node =>
      match fibNeighborNodeCreate s ⟨ref, node⟩ nodeEnv with
      | (t, .error error) => (t, error)
      | (t, .ok found) =>
        match fibNeighborLink t found env with
        | (u, .success) => (u, .success)
        | (u, error) => (fibNeighborCreateUndo u found, error)

/-- The stored node of a neighbor entry, and the errors on the way to it. -/
def fibNeighborGet (p : Platform) (s : FibState) (entry : NeighborEntry) : Except SaiStatus NhRef :=
  match fibNeighborEntryValidate p s entry with
  | .success =>
    match fibIpNextHopNodeGet s entry.rifId entry.ipAddress with
    | none => .error .itemNotFound
    | some ref => if fibIsOwnerNeighbor s ref = false then .error .itemNotFound else .ok ref
  | error => .error error

/-- When the NPU refuses, the copy of the node comes back and is linked again. -/
def fibNeighborRemove (p : Platform) (s : FibState) (entry : NeighborEntry) (macEntry : MacEntryEnv)
    (npu : SaiStatus) : FibState × SaiStatus :=
  match fibNeighborGet p s entry with
  | .error error => (s, error)
  | .ok ref =>
    match s.nhTree.get ref with
    | none => (s, .itemNotFound)
    | some nodeCopy =>
      match fibNeighborMacEntryRemove s ref with
      | (unlinked, .success) =>
        let reset := unlinked.modifyNh ref fibNeighborInfoReset
        match npu with
        | .success => ((fibCheckAndDeleteIpNextHopNode reset ref).1, .success)
        | error =>
          let restored := { reset with nhTree := reset.nhTree.put ref nodeCopy }
          ((fibNeighborMacEntryInsert restored ref macEntry).1, error)
      | (t, error) => (t, error)

/-- A new MAC moves the node from the old entry to the new one, whatever the
two calls return. -/
def fibNeighborAttributeSet (p : Platform) (s : FibState) (entry : NeighborEntry) (attr : NeighborAttr)
    (env : NeighborEnv) : FibState × SaiStatus :=
  match fibNeighborGet p s entry with
  | .error error => (s, error)
  | .ok ref =>
    match s.nhTree.get ref with
    | none => (s, .itemNotFound)
    | some node =>
      match fibNeighborInfoFill p env.metaRange node [attr] false with
      | .error error => (s, error)
      | .ok nodeCopy =>
        if attr.isDstMac then
          match fibNeighborPortIdResolve s ref.key.rifId nodeCopy.macAddr env.fdbPort with
          | .error error => (s, error)
          | .ok portId =>
            match env.npu with
            | .success =>
              let unlinked := (fibNeighborMacEntryRemove s ref).1
              let updated := { unlinked with
                nhTree := unlinked.nhTree.put ref { nodeCopy with portId := portId } }
              ((fibNeighborMacEntryInsert updated ref env.macEntry).1, .success)
            | error => (s, error)
        else match env.npu with
          | .success => ({ s with nhTree := s.nhTree.put ref nodeCopy }, .success)
          | error => (s, error)

def fibNeighborPortIdLoop (portId : ObjectId) (npu : NhRef → SaiStatus) (s : FibState) :
    List NhRef → FibState
  | [] => s
  | ref :: rest =>
    match s.nhTree.get ref with
    | none => fibNeighborPortIdLoop portId npu s rest
    | some node =>
      if node.portId = portId then fibNeighborPortIdLoop portId npu s rest
      else if npu ref = .success then
        fibNeighborPortIdLoop portId npu (s.modifyNh ref fun node => { node with portId := portId }) rest
      else fibNeighborPortIdLoop portId npu s rest

def fibNeighborPortIdSet (s : FibState) (fdbEntry : NeighborMacKey) (portId : ObjectId)
    (npu : NhRef → SaiStatus) : FibState :=
  if portId = nullObjectId then s
  else match s.neighborMacTree.get fdbEntry with
    | none => s
    | some neighborList => fibNeighborPortIdLoop portId npu s neighborList

structure FdbNotification where
  learned : Bool
  fdbEntry : NeighborMacKey
  portId : ObjectId
deriving DecidableEq

/-- The port of the last learned entry stays in use for the updates after it. -/
def neighborFdbCallback (npu : NhRef → SaiStatus) (s : FibState) (portId : ObjectId) :
    List FdbNotification → FibState
  | [] => s
  | upd :: rest =>
    let portId := if upd.learned then upd.portId else portId
    neighborFdbCallback npu (fibNeighborPortIdSet s upd.fdbEntry portId npu) portId rest

end SaiCommon
