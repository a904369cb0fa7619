import SaiCommon.Qos.BufferCommon

namespace SaiCommon

def qosBufferPoolAttributesValidate (attrs : List BufferPoolAttr) (vendor : SaiStatus) : SaiStatus :=
  if attrs.length = 0 then .invalidParameter else vendor

def qosCreateBufferPool (s : QosState) (attrs : List BufferPoolAttr) (env : CreateEnv) : QosState × SaiStatus :=
  match qosBufferPoolAttributesValidate attrs env.vendor with
  | .success =>
    if env.allocOk = false then (s, .noMemory)
    else match qosUpdateBufferPoolNode 0 attrs qosInitBufferPoolNode with
      | (node, .success) =>
        match env.npu with
        | .success =>
          qosBufferPoolNodeInsertToTree s ⟨.bufferPool, env.npuObjectId⟩ node env.treeOk
        | error => (s, error)
      | (_, error) => (s, error)
  | error => (s, error)

def qosRemoveBufferPool (s : QosState) (poolId : ObjectId) (npu : SaiStatus) : QosState × SaiStatus :=
  match s.bufferPoolTree.get poolId with
  | none => (s, .itemNotFound)
  | some pool =>
    if pool.numRef ≠ 0 then (s, .objectInUse)
    else match npu with
      | .success => (qosBufferPoolNodeRemoveFromTree s poolId, .success)
      | error => (s, error)

/-- Only the size can be set. Every error puts the old node back. -/
def qosBufferPoolAttrSet (s : QosState) (poolId : ObjectId) (attr : BufferPoolAttr)
    (vendor npu : SaiStatus) : QosState × SaiStatus :=
  match qosBufferPoolAttributesValidate [attr] vendor with
  | .success =>
    match s.bufferPoolTree.get poolId with
    | none => (s, .itemNotFound)
    | some oldPool =>
      match qosUpdateBufferPoolNode 0 [attr] oldPool with
      | (pool, .success) =>
        let status := match attr with
          | .size _ => npu
          | .thMode _ => .invalidAttribute 0
          | .sharedSize _ => .invalidAttribute 0
          | .type _ => .invalidAttribute 0
          | .unknown => .unknownAttribute 0
        match status with
        | .success => ({ s with bufferPoolTree := s.bufferPoolTree.put poolId pool }, .success)
        | error => ({ s with bufferPoolTree := s.bufferPoolTree.put poolId oldPool }, error)
      | (_, error) => ({ s with bufferPoolTree := s.bufferPoolTree.put poolId oldPool }, error)
  | error => (s, error)

def qosBufferProfileAttributesValidate (s : QosState) (attrs : List BufferProfileAttr)
    (isCreate : Bool) (vendor : SaiStatus) : SaiStatus :=
  if attrs.length = 0 then .invalidParameter
  else match vendor with
    | .success =>
      if isCreate then
        match qosBufferProfileIsMandatoryThAttrPresent s attrs with
        | .success => qosBufferProfileIsPfcThresholdValid s attrs
        | error => error
      else .success
    | error => error

/-- The pools keep what the attribute loop did to them also when a later step
fails. -/
def qosCreateBufferProfile (s : QosState) (attrs : List BufferProfileAttr) (env : CreateEnv) :
    QosState × SaiStatus :=
  match qosBufferProfileAttributesValidate s attrs true env.vendor with
  | .success =>
    if env.allocOk = false then (s, .noMemory)
    else
      let profileId : ObjectId := ⟨.bufferProfile, env.npuObjectId⟩
      match qosUpdateBufferProfileNode profileId 0 attrs s qosInitBufferProfileNode with
      | (t, node, .success) =>
        match env.npu with
        | .success => qosBufferProfileNodeInsertToTree t profileId node env.treeOk
        | error => (t, error)
      | (t, _, error) => (t, error)
  | error => (s, error)

def qosRemoveBufferProfile (s : QosState) (profileId : ObjectId) (npu : SaiStatus) : QosState × SaiStatus :=
  match s.bufferProfileTree.get profileId with
  | none => (s, .itemNotFound)
  | some profile =>
    if profile.numRef ≠ 0 then (s, .objectInUse)
    else match npu with
      | .success => ((qosBufferProfileNodeRemoveFromTree s profileId profile).1, .success)
      | error => (s, error)

/-- `npu` answers the `buffer_pool_attr_set` that follows the arithmetic; on an
error the amount is moved back. -/
def qosBufferPoolSizeRecalc (s : QosState) (poolId : ObjectId) (size : BitVec 32) (isAdd : Bool)
    (npu : SaiStatus) : QosState × SaiStatus :=
  match s.bufferPoolTree.get poolId with
  | none => (s, .itemNotFound)
  | some pool =>
    if isAdd ∧ pool.sharedSize < size then (s, .insufficientResources)
    else
      let sharedSize := if isAdd then pool.sharedSize - size else pool.sharedSize + size
      let restored := if isAdd then sharedSize + size else sharedSize - size
      let moved := { pool with sharedSize := sharedSize }
      let back := { pool with sharedSize := restored }
      match npu with
      | .success => ({ s with bufferPoolTree := s.bufferPoolTree.put poolId moved }, .success)
      | error => ({ s with bufferPoolTree := s.bufferPoolTree.put poolId back }, error)

/-- The loop that hands an attribute to the objects of one list, up to the
object `stop`. It returns the status with the object it failed on. -/
def qosUpdateBufferProfileList (npu : ObjectId → SaiStatus) (stop : ObjectId) :
    List ObjectId → SaiStatus × ObjectId
  | [] => (.success, stop)
  | objectId :: rest =>
    if objectId = stop then (.success, stop)
    else match npu objectId with
      | .success => qosUpdateBufferProfileList npu stop rest
      | error => (error, objectId)

def qosUpdateBufferProfilePorts (profile : BufferProfile) (npu : ObjectId → SaiStatus)
    (stop : ObjectId) : SaiStatus × ObjectId :=
  qosUpdateBufferProfileList npu stop profile.portList

def qosUpdateBufferProfileQueues (profile : BufferProfile) (npu : ObjectId → SaiStatus)
    (stop : ObjectId) : SaiStatus × ObjectId :=
  qosUpdateBufferProfileList npu stop profile.queueList

def qosUpdateBufferProfilePgs (profile : BufferProfile) (npu : ObjectId → SaiStatus)
    (stop : ObjectId) : SaiStatus × ObjectId :=
  qosUpdateBufferProfileList npu stop profile.pgList

/-- The status of handing the attribute to every object it concerns: none for
the threshold mode, which is a cache entry, and priority groups only for the
PFC thresholds. On an error the objects served so far get the old value again
from the NPU; the database takes no part in that. -/
def qosUpdateBufferProfileUsers (profile : BufferProfile) (attr : BufferProfileAttr)
    (npu : ObjectId → SaiStatus) : SaiStatus :=
  match attr with
  | .thMode _ => .success
  | .xoffTh _ => (qosUpdateBufferProfilePgs profile npu nullObjectId).1
  | .xonTh _ => (qosUpdateBufferProfilePgs profile npu nullObjectId).1
  | _ =>
    match (qosUpdateBufferProfilePorts profile npu nullObjectId).1 with
    | .success =>
      match (qosUpdateBufferProfileQueues profile npu nullObjectId).1 with
      | .success => (qosUpdateBufferProfilePgs profile npu nullObjectId).1
      | error => error
    | error => error

/-- The profile node is written last, once every object has taken the value. -/
def qosUpdateBufferProfileObjects (s : QosState) (profileId : ObjectId) (profile : BufferProfile)
    (attr : BufferProfileAttr) (npu : ObjectId → SaiStatus) : QosState × SaiStatus :=
  match qosUpdateBufferProfileUsers profile attr npu with
  | .success =>
    match qosUpdateBufferProfileNode profileId 0 [attr] s profile with
    | (t, node, status) =>
      ({ t with bufferProfileTree := t.bufferProfileTree.put profileId node }, status)
  | error => (s, error)

/-- The amount an attribute moves and its direction, or the refusal. -/
def qosCheckBufferSize (s : QosState) (attr : BufferProfileAttr) (profile : BufferProfile) :
    Except SaiStatus (BitVec 32 × Bool) :=
  let numRef := BitVec.ofNat 32 profile.numRef
  match attr with
  | .poolId oid =>
    let bufSize := numRef * (profile.size + profile.xoffTh)
    if qosIsBufferPoolAvailable s oid bufSize then .ok (bufSize, false)
    else .error .insufficientResources
  | .bufferSize value =>
    if value > profile.size then
      let bufSize := numRef * (value - profile.size)
      if qosIsBufferPoolAvailable s profile.bufferPoolId bufSize then .ok (bufSize, true)
      else .error .insufficientResources
    else .ok (numRef * (profile.size - value), false)
  | .xoffTh value =>
    if value > profile.xoffTh then
      let bufSize := numRef * (value - profile.xoffTh)
      if qosIsBufferPoolAvailable s profile.bufferPoolId bufSize then .ok (bufSize, true)
      else .error .insufficientResources
    else .ok (numRef * (profile.xoffTh - value), false)
  | _ => .ok (0, false)

def qosCheckBufferProfileAttrValue (s : QosState) (attr : BufferProfileAttr)
    (profile : BufferProfile) : SaiStatus :=
  match attr with
  | .poolId oid =>
    if qosIsBufferPoolCompatible s oid profile.bufferPoolId !profile.profileThEnable then .success
    else .invalidAttrValue 0
  | .bufferSize _ => .success
  | .thMode _ => .success
  | .unknown => .success
  | _ =>
    if qosBufferProfileIsValidThresholdApplied s profile attr then .success
    else .invalidAttribute 0

/-- What the world outside answers to a profile attribute set: the vendor's
check, the NPU for each object, and the NPU for the two recalculations. -/
structure ProfileSetEnv where
  vendor : SaiStatus
  users : ObjectId → SaiStatus
  recalc : SaiStatus
  recalcNew : SaiStatus

/-- The recalculations after the objects took the new value. Their statuses
are not looked at. -/
def qosBufferProfileAttrRecalc (s : QosState) (attr : BufferProfileAttr) (oldPoolId : ObjectId)
    (bufSize : BitVec 32) (isAdd : Bool) (env : ProfileSetEnv) : QosState :=
  match attr with
  | .poolId oid =>
    let t := (qosBufferPoolSizeRecalc s oldPoolId bufSize false env.recalc).1
    (qosBufferPoolSizeRecalc t oid bufSize true env.recalcNew).1
  | .bufferSize _ => (qosBufferPoolSizeRecalc s oldPoolId bufSize isAdd env.recalc).1
  | .xoffTh _ => (qosBufferPoolSizeRecalc s oldPoolId bufSize isAdd env.recalc).1
  | _ => s

def qosBufferProfileAttrSet (s : QosState) (profileId : ObjectId) (attr : BufferProfileAttr)
    (env : ProfileSetEnv) : QosState × SaiStatus :=
  match qosBufferProfileAttributesValidate s [attr] false env.vendor with
  | .success =>
    match s.bufferProfileTree.get profileId with
    | none => (s, .itemNotFound)
    | some profile =>
      match qosCheckBufferProfileAttrValue s attr profile with
      | .success =>
        match qosCheckBufferSize s attr profile with
        | .error status => (s, status)
        | .ok (bufSize, isAdd) =>
          match qosUpdateBufferProfileObjects s profileId profile attr env.users with
          | (t, .success) =>
            (qosBufferProfileAttrRecalc t attr profile.bufferPoolId bufSize isAdd env, .success)
          | (t, error) => (t, error)
      | error => (s, error)
  | error => (s, error)

/-- The amount by which an apply changes the pool both profiles share, or the
refusal. -/
def qosCalcPoolSize (s : QosState) (oldPoolId newPoolId : ObjectId) (checkTh : Bool)
    (oldSize newSize : BitVec 32) : Except SaiStatus (BitVec 32 × Bool) :=
  let available (tmpSize : BitVec 32) (isAdd : Bool) : Except SaiStatus (BitVec 32 × Bool) :=
    if newPoolId ≠ nullObjectId ∧ qosIsBufferPoolAvailable s newPoolId tmpSize = false
    then .error .insufficientResources
    else .ok (tmpSize, isAdd)
  if oldPoolId = newPoolId then
    if newSize > oldSize then available (newSize - oldSize) true
    else available (oldSize - newSize) false
  else if newPoolId ≠ nullObjectId then
    if oldPoolId ≠ nullObjectId ∧ qosIsBufferPoolCompatible s oldPoolId newPoolId checkTh = false
    then .error .invalidParameter
    else available newSize false
  else available 0 false

structure ProfileApplyEnv where
  apply : SaiStatus
  recalc : SaiStatus
  recalcNew : SaiStatus
deriving DecidableEq

def qosObjProfileRecalc (s : QosState) (oldPoolId newPoolId : ObjectId)
    (oldSize newSize tmpSize : BitVec 32) (isAdd : Bool) (env : ProfileApplyEnv) : QosState :=
  if oldPoolId = newPoolId then (qosBufferPoolSizeRecalc s oldPoolId tmpSize isAdd env.recalc).1
  else
    let t := if oldPoolId ≠ nullObjectId
      then (qosBufferPoolSizeRecalc s oldPoolId oldSize false env.recalc).1 else s
    if newPoolId ≠ nullObjectId
      then (qosBufferPoolSizeRecalc t newPoolId newSize true env.recalcNew).1 else t

/-- The node behind a profile id; the NULL id has none. -/
def bufferProfileGet (s : QosState) (profileId : ObjectId) : Option BufferProfile :=
  if profileId = nullObjectId then none else s.bufferProfileTree.get profileId

def bufferProfilePool (s : QosState) (profileId : ObjectId) : ObjectId :=
  (bufferProfileGet s profileId).elim nullObjectId fun profile => profile.bufferPoolId

def bufferProfileSize (s : QosState) (profileId : ObjectId) : BitVec 32 :=
  (bufferProfileGet s profileId).elim 0 fun profile => profile.size + profile.xoffTh

/-- What is refused before the NPU is asked to apply a profile. -/
def qosObjProfileCheck (s : QosState) (objectId oldProfileId profileId : ObjectId) :
    Except SaiStatus (BitVec 32 × Bool) :=
  if oldProfileId = profileId then .error .itemAlreadyExists
  else
    let newCheck : SaiStatus :=
      if profileId = nullObjectId then .success
      else match s.bufferProfileTree.get profileId with
        | none => .itemNotFound
        | some profile =>
          if qosIsObjectBufferProfileCompatible s objectId profile then .success
          else .invalidParameter
    match newCheck with
    | .success =>
      let oldProfile := bufferProfileGet s oldProfileId
      if oldProfileId ≠ nullObjectId ∧ oldProfile = none then .error .itemNotFound
      else
        let checkTh := oldProfile.elim true fun profile => !profile.profileThEnable
        qosCalcPoolSize s (bufferProfilePool s oldProfileId) (bufferProfilePool s profileId) checkTh
          (bufferProfileSize s oldProfileId) (bufferProfileSize s profileId)
    | error => .error error

def qosObjUpdateBufferProfile (s : QosState) (objectId profileId : ObjectId)
    (env : ProfileApplyEnv) : QosState × SaiStatus :=
  match qosGetBufferProfileId s objectId with
  | .error status => (s, status)
  | .ok oldProfileId =>
    match qosObjProfileCheck s objectId oldProfileId profileId with
    | .error status => (s, status)
    | .ok (tmpSize, isAdd) =>
      match env.apply with
      | .success =>
        match qosObjUpdateBufferProfileNode s objectId profileId with
        | (t, .success) =>
          (qosObjProfileRecalc t (bufferProfilePool s oldProfileId) (bufferProfilePool s profileId)
            (bufferProfileSize s oldProfileId) (bufferProfileSize s profileId) tmpSize isAdd env,
            .success)
        | (t, error) => (t, error)
      | error => (s, error)

inductive BufferCall
  | poolCreate (attrs : List BufferPoolAttr) (env : CreateEnv)
  | poolRemove (poolId : ObjectId) (npu : SaiStatus)
  | poolAttrSet (poolId : ObjectId) (attr : BufferPoolAttr) (vendor npu : SaiStatus)
  | profileCreate (attrs : List BufferProfileAttr) (env : CreateEnv)
  | profileRemove (profileId : ObjectId) (npu : SaiStatus)
  | profileAttrSet (profileId : ObjectId) (attr : BufferProfileAttr) (env : ProfileSetEnv)
  | profileApply (objectId profileId : ObjectId) (env : ProfileApplyEnv)

def BufferCall.run (s : QosState) : BufferCall → QosState × SaiStatus
  | .poolCreate attrs env => qosCreateBufferPool s attrs env
  | .poolRemove poolId npu => qosRemoveBufferPool s poolId npu
  | .poolAttrSet poolId attr vendor npu => qosBufferPoolAttrSet s poolId attr vendor npu
  | .profileCreate attrs env => qosCreateBufferProfile s attrs env
  | .profileRemove profileId npu => qosRemoveBufferProfile s profileId npu
  | .profileAttrSet profileId attr env => qosBufferProfileAttrSet s profileId attr env
  | .profileApply objectId profileId env => qosObjUpdateBufferProfile s objectId profileId env

def BufferCall.step (s : QosState) (call : BufferCall) : QosState := (call.run s).1

end SaiCommon
