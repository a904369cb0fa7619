import SaiCommon.Qos.Queue

namespace SaiCommon

inductive PacketColor
  | green
  | yellow
  | red
deriving DecidableEq

structure WredThreshold where
  enable : Bool
  minLimit : BitVec 32
  maxLimit : BitVec 32
  dropProbability : BitVec 32
deriving DecidableEq

structure WredParams where
  green : WredThreshold
  yellow : WredThreshold
  red : WredThreshold
  weight : BitVec 32
  ecnMarkEnable : Bool
deriving DecidableEq

structure Wred where
  params : WredParams
  queueList : List ObjectId
deriving DecidableEq

inductive WredAttr
  | enable (color : PacketColor) (value : Bool)
  | minThreshold (color : PacketColor) (value : BitVec 32)
  | maxThreshold (color : PacketColor) (value : BitVec 32)
  | dropProbability (color : PacketColor) (value : BitVec 32)
  | weight (value : BitVec 32)
  | ecnMarkEnable (value : Bool)
  | unknown
deriving DecidableEq

def WredParams.threshold (params : WredParams) : PacketColor → WredThreshold
  | .green => params.green
  | .yellow => params.yellow
  | .red => params.red

def WredParams.modifyThreshold (params : WredParams) (color : PacketColor)
    (f : WredThreshold → WredThreshold) : WredParams :=
  match color with
  | .green => { params with green := f params.green }
  | .yellow => { params with yellow := f params.yellow }
  | .red => { params with red := f params.red }

/-- What the NPU knows about WRED: its objects, and for each queue the node it
was last given. Where WRED is no hardware object a queue works by the node it
was given, otherwise by the object. -/
structure WredNpu where
  isHwObject : Bool
  maxBufSize : BitVec 32
  objects : KeyTree ObjectId WredParams
  queues : KeyTree ObjectId (ObjectId × WredParams)
deriving DecidableEq

def WredNpu.attrSet (npu : WredNpu) (wredId : ObjectId) (params : WredParams) : WredNpu :=
  { npu with objects := npu.objects.put wredId params }

def WredNpu.onQueueSet (npu : WredNpu) (queueId wredId : ObjectId) (params : WredParams) (isAdd : Bool) : WredNpu :=
  { npu with queues := if isAdd then npu.queues.put queueId (wredId, params) else npu.queues.del queueId }

def WredNpu.queueParams (npu : WredNpu) (queueId : ObjectId) : Option WredParams :=
  (npu.queues.get queueId).bind fun given =>
    if npu.isHwObject then npu.objects.get given.1 else some given.2

structure WredState where
  qos : QosState
  wredTree : KeyTree ObjectId Wred
  npu : WredNpu
deriving DecidableEq

def qosWredAttrSet (params : WredParams) : WredAttr → WredParams × SaiStatus
  | .enable color value => (params.modifyThreshold color fun t => { t with enable := value }, .success)
  | .minThreshold color value => (params.modifyThreshold color fun t => { t with minLimit := value }, .success)
  | .maxThreshold color value => (params.modifyThreshold color fun t => { t with maxLimit := value }, .success)
  | .dropProbability color value =>
    (params.modifyThreshold color fun t => { t with dropProbability := value }, .success)
  | .weight value => ({ params with weight := value }, .success)
  | .ecnMarkEnable value => ({ params with ecnMarkEnable := value }, .success)
  | .unknown => (params, .unknownAttribute 0)

/-- An enabled colour needs both of its thresholds. -/
def qosWredCheckMandatoryAttr (bufSize : BitVec 32) (params : WredParams) : SaiStatus :=
  if [PacketColor.green, .yellow, .red].any fun color =>
      let threshold := params.threshold color
      threshold.enable && (threshold.minLimit = bufSize || threshold.maxLimit = bufSize)
  then .mandatoryAttributeMissing
  else .success

def qosWredFillInDefaults (bufSize : BitVec 32) : WredParams :=
  let threshold : WredThreshold := ⟨false, bufSize, bufSize, 100⟩
  ⟨threshold, threshold, threshold, 0, false⟩

def wredParseAttributesLoop (index : Nat) : List WredAttr → WredParams → WredParams × SaiStatus
  | [], params => (params, .success)
  | attr :: rest, params =>
    match qosWredAttrSet params attr with
    | (next, .success) => wredParseAttributesLoop (index + 1) rest next
    | (next, _) => (next, .unknownAttribute index)

def wredParseUpdateAttributes (bufSize : BitVec 32) (attrs : List WredAttr) (vendor : SaiStatus)
    (params : WredParams) : WredParams × SaiStatus :=
  match vendor with
  | .success =>
    match wredParseAttributesLoop 0 attrs params with
    | (next, .success) => (next, qosWredCheckMandatoryAttr bufSize next)
    | (next, error) => (next, error)
  | error => (params, error)

/-- A node that cannot go into the tree leaves the NPU again. -/
def qosWredCreate (s : WredState) (attrs : List WredAttr) (env : CreateEnv) : WredState × SaiStatus :=
  if env.allocOk = false then (s, .noMemory)
  else match wredParseUpdateAttributes s.npu.maxBufSize attrs env.vendor
      (qosWredFillInDefaults s.npu.maxBufSize) with
    | (params, .success) =>
      match env.npu with
      | .success =>
        let wredId : ObjectId := ⟨.wred, env.npuObjectId⟩
        match env.treeOk, s.wredTree.get wredId with
        | true, none =>
          ({ s with
            wredTree := s.wredTree.put wredId ⟨params, []⟩
            npu := s.npu.attrSet wredId params }, .success)
        | _, _ => (s, .failure)
      | error => (s, error)
    | (_, error) => (s, error)

def qosWredRemove (s : WredState) (wredId : ObjectId) (npu : SaiStatus) : WredState × SaiStatus :=
  if wredId.objType ≠ .wred then (s, .invalidObjectType)
  else match s.wredTree.get wredId with
    | none => (s, .invalidObjectId)
    | some wred =>
      if wred.queueList ≠ [] then (s, .objectInUse)
      else match npu with
        | .success =>
          ({ s with
            wredTree := s.wredTree.del wredId
            npu := { s.npu with objects := s.npu.objects.del wredId } }, .success)
        | error => (s, error)

/-- The queues of a WRED get its old parameters again, `count` of them and up
to the first failure. -/
def wredQueueListErrorRecovery (wredId : ObjectId) (old : WredParams) (recover : Nat → SaiStatus) :
    Nat → Nat → List ObjectId → WredNpu → WredNpu
  | _, 0, _, npu => npu
  | _, _, [], npu => npu
  | index, count + 1, queueId :: rest, npu =>
    match recover index with
    | .success =>
      wredQueueListErrorRecovery wredId old recover (index + 1) count rest
        (npu.onQueueSet queueId wredId old true)
    | _ => npu

/-- The walk that hands the new parameters to the queues, with the number of
queues it has served. -/
def wredUpdateQueueLoop (wredId : ObjectId) (new : WredParams) (users : Nat → SaiStatus) :
    Nat → List ObjectId → WredNpu → WredNpu × SaiStatus × Nat
  | count, [], npu => (npu, .success, count)
  | count, queueId :: rest, npu =>
    match users count with
    | .success =>
      wredUpdateQueueLoop wredId new users (count + 1) rest (npu.onQueueSet queueId wredId new true)
    | error => (npu, error, count)

/-- What the world outside answers to a WRED set: the vendor's check, the NPU
for the attribute, and the NPU for each queue of the walk and of the recovery. -/
structure WredSetEnv where
  vendor : SaiStatus
  attrSet : SaiStatus
  users : Nat → SaiStatus
  recover : Nat → SaiStatus

def wredUpdateQueueList (s : WredState) (wredId : ObjectId) (new : WredParams) (env : WredSetEnv) :
    WredNpu × SaiStatus :=
  match s.wredTree.get wredId with
  | none => (s.npu, .invalidObjectId)
  | some wred =>
    match wredUpdateQueueLoop wredId new env.users 0 wred.queueList s.npu with
    | (npu, .success, _) => (npu, .success)
    | (npu, error, count) =>
      (wredQueueListErrorRecovery wredId wred.params env.recover 0 count wred.queueList npu, error)

/-- The attribute is applied to a copy of the node, handed to the NPU and to
the queues, and written into the node last. -/
def qosWredAttributeSet (s : WredState) (wredId : ObjectId) (attr : WredAttr) (env : WredSetEnv) :
    WredState × SaiStatus :=
  if wredId.objType ≠ .wred then (s, .invalidObjectType)
  else match s.wredTree.get wredId with
    | none => (s, .invalidObjectId)
    | some wred =>
      match wredParseUpdateAttributes s.npu.maxBufSize [attr] env.vendor wred.params with
      | (new, .success) =>
        match env.attrSet with
        | .success =>
          let t := { s with npu := s.npu.attrSet wredId new }
          let (npu, status) :=
            if s.npu.isHwObject then (t.npu, .success) else wredUpdateQueueList t wredId new env
          match status with
          | .success =>
            let (params, status) := qosWredAttrSet wred.params attr
            ({ s with npu := npu, wredTree := s.wredTree.put wredId { wred with params := params } }, status)
          | error => ({ s with npu := npu }, error)
        | error => (s, error)
      | (_, error) => (s, error)

def Wred.unlink (wred : Wred) (queueId : ObjectId) : Wred :=
  { wred with queueList := wred.queueList.erase queueId }

def Wred.link (wred : Wred) (queueId : ObjectId) : Wred :=
  { wred with queueList := wred.queueList ++ [queueId] }

@[simp]
theorem Wred.params_unlink (wred : Wred) (queueId : ObjectId) : (wred.unlink queueId).params = wred.params := rfl

@[simp]
theorem Wred.params_link (wred : Wred) (queueId : ObjectId) : (wred.link queueId).params = wred.params := rfl

/-- The queue's glue moves to the list of the WRED it is given, or leaves the
list it is in; the queue takes the id. -/
def wredQueueNodeUpdate (s : WredState) (queueId : ObjectId) (queue : Queue) (wredId : ObjectId)
    (isAdd : Bool) : WredState :=
  let setId (id : ObjectId) : QosState :=
    { s.qos with queueTree := s.qos.queueTree.put queueId { queue with wredId := id } }
  if isAdd then
    let released := if queue.wredId ≠ nullObjectId
      then s.wredTree.modify queue.wredId fun wred => wred.unlink queueId
      else s.wredTree
    { s with
      wredTree := released.modify wredId fun wred => wred.link queueId
      qos := setId wredId }
  else
    { s with
      wredTree := s.wredTree.modify wredId fun wred => wred.unlink queueId
      qos := setId nullObjectId }

def qosWredSetOnQueue (s : WredState) (queueId oid : ObjectId) (npu : SaiStatus) : WredState × SaiStatus :=
  match s.qos.queueTree.get queueId with
  | none => (s, .invalidObjectId)
  | some queue =>
    if queue.queueType ≠ .unicast then (s, .invalidAttribute 0)
    else if oid ≠ nullObjectId ∧ oid.objType ≠ .wred then (s, .invalidObjectType)
    else
      let isAdd : Bool := oid ≠ nullObjectId
      let wredId := if isAdd then oid else queue.wredId
      match s.wredTree.get wredId with
      | none => (s, .invalidObjectId)
      | some wred =>
        match npu with
        | .success =>
          (wredQueueNodeUpdate { s with npu := s.npu.onQueueSet queueId wredId wred.params isAdd }
            queueId queue wredId isAdd, .success)
        | error => (s, error)

def qosQueueWredProfileSet (s : WredState) (queueId oid : ObjectId) (vendor npu : SaiStatus) :
    WredState × SaiStatus :=
  if queueId.objType ≠ .queue then (s, .invalidObjectType)
  else match s.qos.queueTree.get queueId with
    | none => (s, .invalidObjectId)
    | some queue =>
      match vendor with
      | .success =>
        if queue.wredId = oid then (s, .success)
        else match qosWredSetOnQueue s queueId oid npu with
          | (t, .success) =>
            ({ t with qos := { t.qos with queueTree := t.qos.queueTree.modify queueId fun q =>
                { q with wredId := oid } } }, .success)
          | (t, error) => (t, error)
      | error => (s, error)

inductive WredCall
  | create (attrs : List WredAttr) (env : CreateEnv)
  | remove (wredId : ObjectId) (npu : SaiStatus)
  | attributeSet (wredId : ObjectId) (attr : WredAttr) (env : WredSetEnv)
  | queueWredProfileSet (queueId oid : ObjectId) (vendor npu : SaiStatus)
  | queueCreate (portId : ObjectId) (queueType : QueueType) (env : CreateEnv)
  | queueRemove (queueId : ObjectId) (npu : SaiStatus)

def WredCall.run (s : WredState) : WredCall → WredState × SaiStatus
  | .create attrs env => qosWredCreate s attrs env
  | .remove wredId npu => qosWredRemove s wredId npu
  | .attributeSet wredId attr env => qosWredAttributeSet s wredId attr env
  | .queueWredProfileSet queueId oid vendor npu => qosQueueWredProfileSet s queueId oid vendor npu
  | .queueCreate portId queueType env =>
    let (qos, status) := qosQueueCreate s.qos portId queueType env
    ({ s with qos := qos }, status)
  | .queueRemove queueId npu =>
    let (qos, status) := qosQueueRemove s.qos queueId npu
    ({ s with qos := qos }, status)

def WredCall.step (s : WredState) (call : WredCall) : WredState := (call.run s).1

end SaiCommon
