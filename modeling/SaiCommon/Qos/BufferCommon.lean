import SaiCommon.Qos.State

namespace SaiCommon

inductive BufferPoolAttr
  | type (poolType : BufferPoolType)
  | size (value : BitVec 32)
  | thMode (mode : BufferThresholdMode)
  | sharedSize (value : BitVec 32)
  | unknown
deriving DecidableEq

inductive BufferProfileAttr
  | poolId (oid : ObjectId)
  | bufferSize (value : BitVec 32)
  | thMode (mode : BufferThresholdMode)
  | sharedDynamicTh (value : BitVec 8)
  | sharedStaticTh (value : BitVec 32)
  | xoffTh (value : BitVec 32)
  | xonTh (value : BitVec 32)
  | unknown
deriving DecidableEq

/-- An insertion fails on a key that is present and whenever the tree says so. -/
def qosBufferPoolNodeInsertToTree (s : QosState) (poolId : ObjectId) (node : BufferPool)
    (treeOk : Bool) : QosState × SaiStatus :=
  match treeOk, s.bufferPoolTree.get poolId with
  | true, none => ({ s with bufferPoolTree := s.bufferPoolTree.put poolId node }, .success)
  | _, _ => (s, .failure)

def qosBufferPoolNodeRemoveFromTree (s : QosState) (poolId : ObjectId) : QosState :=
  { s with bufferPoolTree := s.bufferPoolTree.del poolId }

def qosBufferProfileNodeInsertToTree (s : QosState) (profileId : ObjectId) (node : BufferProfile)
    (treeOk : Bool) : QosState × SaiStatus :=
  match treeOk, s.bufferProfileTree.get profileId with
  | true, none => ({ s with bufferProfileTree := s.bufferProfileTree.put profileId node }, .success)
  | _, _ => (s, .failure)

/-- A profile's glue leaves the pool's list. -/
def BufferPool.unlink (pool : BufferPool) (profileId : ObjectId) : BufferPool :=
  { pool with
    bufferProfileList := pool.bufferProfileList.erase profileId
    numRef := pool.numRef - 1 }

def BufferPool.link (pool : BufferPool) (profileId : ObjectId) : BufferPool :=
  { pool with
    bufferProfileList := pool.bufferProfileList ++ [profileId]
    numRef := pool.numRef + 1 }

def qosBufferProfileNodeRemoveFromTree (s : QosState) (profileId : ObjectId)
    (node : BufferProfile) : QosState × SaiStatus :=
  if node.numRef ≠ 0 then (s, .objectInUse)
  else
    ({ s with
      bufferPoolTree := s.bufferPoolTree.modify node.bufferPoolId fun pool => pool.unlink profileId
      bufferProfileTree := s.bufferProfileTree.del profileId }, .success)

/-- The loop of `sai_qos_update_buffer_pool_node`, from attribute `index` on. -/
def qosUpdateBufferPoolNode (index : Nat) : List BufferPoolAttr → BufferPool → BufferPool × SaiStatus
  | [], pool => (pool, .success)
  | .type poolType :: rest, pool =>
    qosUpdateBufferPoolNode (index + 1) rest { pool with poolType := poolType }
  | .size value :: rest, pool =>
    qosUpdateBufferPoolNode (index + 1) rest
      { pool with
        sharedSize := pool.sharedSize + (value - pool.size)
        size := value }
  | .thMode mode :: rest, pool =>
    qosUpdateBufferPoolNode (index + 1) rest { pool with thresholdMode := mode }
  | .sharedSize _ :: _, pool => (pool, .invalidAttribute index)
  | .unknown :: _, pool => (pool, .unknownAttribute index)

def qosInitBufferPoolNode : BufferPool where
  poolType := .ingress
  size := 0
  sharedSize := 0
  thresholdMode := .dynamic
  numRef := 0
  bufferProfileList := []

def qosInitBufferProfileNode : BufferProfile where
  bufferPoolId := nullObjectId
  size := 0
  profileThEnable := false
  thresholdMode := .static
  dynamicTh := 0
  staticTh := 0
  xoffTh := 0
  xonTh := 0
  numRef := 0
  portList := []
  queueList := []
  pgList := []

/-- The loop of `sai_qos_update_buffer_profile_node`, from attribute `index`
on. The node may be stored or still be a fresh one; its links are written
under the id it has or is going to have. -/
def qosUpdateBufferProfileNode (profileId : ObjectId) (index : Nat) :
    List BufferProfileAttr → QosState → BufferProfile → QosState × BufferProfile × SaiStatus
  | [], s, node => (s, node, .success)
  | .poolId oid :: rest, s, node =>
    match s.bufferPoolTree.get oid with
    | none => (s, node, .itemNotFound)
    | some _ =>
      let released := if node.bufferPoolId ≠ nullObjectId
        then s.bufferPoolTree.modify node.bufferPoolId fun pool => pool.unlink profileId
        else s.bufferPoolTree
      qosUpdateBufferProfileNode profileId (index + 1) rest
        { s with bufferPoolTree := released.modify oid fun pool => pool.link profileId }
        { node with bufferPoolId := oid }
  | .bufferSize value :: rest, s, node =>
    qosUpdateBufferProfileNode profileId (index + 1) rest s { node with size := value }
  | .thMode mode :: rest, s, node =>
    qosUpdateBufferProfileNode profileId (index + 1) rest s
      { node with profileThEnable := true, thresholdMode := mode }
  | .sharedDynamicTh value :: rest, s, node =>
    qosUpdateBufferProfileNode profileId (index + 1) rest s { node with dynamicTh := value }
  | .sharedStaticTh value :: rest, s, node =>
    qosUpdateBufferProfileNode profileId (index + 1) rest s { node with staticTh := value }
  | .xoffTh value :: rest, s, node =>
    qosUpdateBufferProfileNode profileId (index + 1) rest s { node with xoffTh := value }
  | .xonTh value :: rest, s, node =>
    qosUpdateBufferProfileNode profileId (index + 1) rest s { node with xonTh := value }
  | .unknown :: _, s, node => (s, node, .unknownAttribute index)

def qosGetBufferProfileId (s : QosState) (objectId : ObjectId) : Except SaiStatus ObjectId :=
  match objectId.objType with
  | .port =>
    match s.portTree.get objectId with
    | none => .error .itemNotFound
    | some node => .ok node.bufferProfileId
  | .queue =>
    match s.queueTree.get objectId with
    | none => .error .itemNotFound
    | some node => .ok node.bufferProfileId
  | .priorityGroup =>
    match s.pgTree.get objectId with
    | none => .error .itemNotFound
    | some node => .ok node.bufferProfileId
  | _ => .error .invalidObjectType

def qosSetBufferProfileId (s : QosState) (objectId profileId : ObjectId) : QosState :=
  match objectId.objType with
  | .port =>
    { s with portTree := s.portTree.modify objectId fun node =>
        { node with bufferProfileId := profileId } }
  | .queue =>
    { s with queueTree := s.queueTree.modify objectId fun node =>
        { node with bufferProfileId := profileId } }
  | .priorityGroup =>
    { s with pgTree := s.pgTree.modify objectId fun node =>
        { node with bufferProfileId := profileId } }
  | _ => s

/-- An object's glue leaves the profile's list of its kind. -/
def BufferProfile.unlink (profile : BufferProfile) (objectId : ObjectId) : BufferProfile :=
  match objectId.objType with
  | .port =>
    { profile with portList := profile.portList.erase objectId, numRef := profile.numRef - 1 }
  | .queue =>
    { profile with queueList := profile.queueList.erase objectId, numRef := profile.numRef - 1 }
  | _ =>
    { profile with pgList := profile.pgList.erase objectId, numRef := profile.numRef - 1 }

def BufferProfile.link (profile : BufferProfile) (objectId : ObjectId) : BufferProfile :=
  match objectId.objType with
  | .port =>
    { profile with portList := profile.portList ++ [objectId], numRef := profile.numRef + 1 }
  | .queue =>
    { profile with queueList := profile.queueList ++ [objectId], numRef := profile.numRef + 1 }
  | _ =>
    { profile with pgList := profile.pgList ++ [objectId], numRef := profile.numRef + 1 }

/-- The object's glue leaves the list of its old profile; NULL is no profile. -/
def bufferProfileRelease (tree : KeyTree ObjectId BufferProfile) (objectId oldProfileId : ObjectId) :
    KeyTree ObjectId BufferProfile :=
  if oldProfileId ≠ nullObjectId
  then tree.modify oldProfileId fun profile => profile.unlink objectId
  else tree

def bufferProfileTake (tree : KeyTree ObjectId BufferProfile) (objectId profileId : ObjectId) :
    KeyTree ObjectId BufferProfile :=
  if profileId ≠ nullObjectId
  then tree.modify profileId fun profile => profile.link objectId
  else tree

def bufferProfileRelink (tree : KeyTree ObjectId BufferProfile)
    (objectId oldProfileId profileId : ObjectId) : KeyTree ObjectId BufferProfile :=
  bufferProfileTake (bufferProfileRelease tree objectId oldProfileId) objectId profileId

/-- The three branches differ in the tree and the list only, both chosen by
the object's kind. The caller has found the old profile. -/
def qosObjUpdateBufferProfileNode (s : QosState) (objectId profileId : ObjectId) : QosState × SaiStatus :=
  if profileId ≠ nullObjectId ∧ s.bufferProfileTree.get profileId = none then (s, .itemNotFound)
  else match qosGetBufferProfileId s objectId with
    | .error status => (s, status)
    | .ok oldProfileId =>
      let t := qosSetBufferProfileId s objectId profileId
      ({ t with bufferProfileTree :=
          bufferProfileRelink s.bufferProfileTree objectId oldProfileId profileId }, .success)

def qosIsBufferPoolAvailable (s : QosState) (poolId : ObjectId) (size : BitVec 32) : Bool :=
  match s.bufferPoolTree.get poolId with
  | none => false
  | some pool => pool.sharedSize > size

/-- The profile applied for a NULL id. -/
def qosIsObjectBufferProfileCompatible (s : QosState) (objectId : ObjectId) (profile : BufferProfile) : Bool :=
  match s.bufferPoolTree.get profile.bufferPoolId with
  | none => false
  | some pool =>
    (pool.poolType = .ingress && (objectId.objType = .port || objectId.objType = .priorityGroup)) ||
    (pool.poolType = .egress && objectId.objType = .queue)

def qosIsBufferPoolCompatible (s : QosState) (poolId1 poolId2 : ObjectId) (checkTh : Bool) : Bool :=
  match s.bufferPoolTree.get poolId1, s.bufferPoolTree.get poolId2 with
  | some pool1, some pool2 =>
    pool1.poolType = pool2.poolType && (!checkTh || pool1.thresholdMode = pool2.thresholdMode)
  | _, _ => false

def qosBufferProfileIsValidThresholdApplied (s : QosState) (profile : BufferProfile)
    (attr : BufferProfileAttr) : Bool :=
  match s.bufferPoolTree.get profile.bufferPoolId with
  | none => false
  | some pool =>
    let mode := if profile.profileThEnable then profile.thresholdMode else pool.thresholdMode
    match attr with
    | .sharedStaticTh _ => mode = .static
    | .sharedDynamicTh _ => mode = .dynamic
    | .xoffTh _ => pool.poolType = .ingress
    | .xonTh _ => pool.poolType = .ingress
    | _ => false

/-- The pool ids of an attribute list with their positions. -/
def bufferProfilePoolIds (attrs : List BufferProfileAttr) : List (ObjectId × Nat) :=
  attrs.zipIdx.filterMap fun attr => match attr.1 with
    | .poolId oid => some (oid, attr.2)
    | _ => none

/-- The pool of the last pool id of the list. -/
def bufferProfileLastPool (s : QosState) (attrs : List BufferProfileAttr) : Option BufferPool :=
  (bufferProfilePoolIds attrs).getLast?.bind fun last => s.bufferPoolTree.get last.1

def qosBufferProfileIsMandatoryThAttrPresent (s : QosState) (attrs : List BufferProfileAttr) : SaiStatus :=
  let isStatic := attrs.any fun attr => match attr with
    | .sharedStaticTh _ => true
    | _ => false
  let isDynamic := attrs.any fun attr => match attr with
    | .sharedDynamicTh _ => true
    | _ => false
  let profileThMode := (attrs.filterMap fun attr => match attr with
    | .thMode mode => some mode
    | _ => none).getLast?
  match bufferProfileLastPool s attrs with
  | none => .invalidAttrValue ((bufferProfilePoolIds attrs).getLast?.elim 0 Prod.snd)
  | some pool =>
    if isDynamic && isStatic then .invalidParameter
    else match profileThMode.getD pool.thresholdMode with
      | .static => if isStatic then .success else .mandatoryAttributeMissing
      | .dynamic => if isDynamic then .success else .mandatoryAttributeMissing
      | .other _ => .success

def qosBufferProfileIsPfcThresholdValid (s : QosState) (attrs : List BufferProfileAttr) : SaiStatus :=
  let pfcAttrs := attrs.zipIdx.filterMap fun attr => match attr.1 with
    | .xoffTh _ => some attr.2
    | .xonTh _ => some attr.2
    | _ => none
  match bufferProfileLastPool s attrs with
  | none => .invalidParameter
  | some pool =>
    match pfcAttrs.getLast? with
    | some index => if pool.poolType = .egress then .invalidAttribute index else .success
    | none => .success

end SaiCommon
