import SaiCommon.Qos.State

namespace SaiCommon

/-- The parent id stored in a queue or scheduler group node. -/
def qosChildParentIdGet (s : QosState) (childId : ObjectId) : Option ObjectId :=
  match childId.objType with
  | .queue => (s.queueTree.get childId).map fun q => q.parentSchedGroupId
  | .schedulerGroup => (s.schedGroupTree.get childId).map fun g => g.hqosInfo.parentSchedGroupId
  | _ => none

def qosIsChildObjValid (childId : ObjectId) : Bool :=
  childId.objType = .queue || childId.objType = .schedulerGroup

/-- One turn of the loop of `sai_qos_sched_group_child_list_validate`. -/
def qosSchedGroupChildValidate (s : QosState) (sgId : ObjectId) (isAdd : Bool) (childId : ObjectId) : SaiStatus :=
  if qosIsChildObjValid childId = false then .invalidParameter
  else match qosChildParentIdGet s childId with
    | none => .invalidObjectId
    | some childParentId =>
      if isAdd then
        if childParentId = sgId then .itemAlreadyExists
        else if childParentId ≠ nullObjectId then .objectInUse
        else .success
      else if childParentId = nullObjectId then .invalidParameter
      else if childParentId ≠ sgId then .invalidParameter
      else .success

def qosSchedGroupChildrenValidate (s : QosState) (sgId : ObjectId) (isAdd : Bool) :
    List ObjectId → SaiStatus
  | [] => .success
  | childId :: rest =>
    match qosSchedGroupChildValidate s sgId isAdd childId with
    | .success => qosSchedGroupChildrenValidate s sgId isAdd rest
    | error => error

def qosSchedGroupChildListValidate (s : QosState) (sgId : ObjectId)
    (childObjects : List ObjectId) (isAdd : Bool) : SaiStatus :=
  if sgId.objType ≠ .schedulerGroup then .invalidParameter
  else if childObjects.length = 0 then .invalidParameter
  else qosSchedGroupChildrenValidate s sgId isAdd childObjects

/-- The parent's side of one child: the glue goes to the back of the list of
the child's kind or leaves it, and the count follows. -/
def HierarchyInfo.childUpdate (info : HierarchyInfo) (childId : ObjectId) (isAdd : Bool) : HierarchyInfo :=
  match childId.objType, isAdd with
  | .queue, true =>
    { info with
      childQueueList := info.childQueueList ++ [childId]
      childCount := info.childCount + 1 }
  | .queue, false =>
    { info with
      childQueueList := info.childQueueList.erase childId
      childCount := info.childCount - 1 }
  | _, true =>
    { info with
      childSchedGroupList := info.childSchedGroupList ++ [childId]
      childCount := info.childCount + 1 }
  | _, false =>
    { info with
      childSchedGroupList := info.childSchedGroupList.erase childId
      childCount := info.childCount - 1 }

/-- The child's side: its node names the parent or nothing. -/
def qosChildParentIdSet (s : QosState) (childId parentId : ObjectId) : QosState :=
  match childId.objType with
  | .queue =>
    { s with queueTree := s.queueTree.modify childId fun q =>
        { q with parentSchedGroupId := parentId } }
  | .schedulerGroup =>
    { s with schedGroupTree := s.schedGroupTree.modify childId fun g =>
        { g with hqosInfo := { g.hqosInfo with parentSchedGroupId := parentId } } }
  | _ => s

/-- Both sides of one child of an accepted list. -/
def qosSchedGroupAndChildNodeUpdate (s : QosState) (sgId childId : ObjectId) (isAdd : Bool) : QosState :=
  let s := qosChildParentIdSet s childId (if isAdd then sgId else nullObjectId)
  { s with schedGroupTree := s.schedGroupTree.modify sgId fun g =>
      { g with hqosInfo := g.hqosInfo.childUpdate childId isAdd } }

def qosSchedGroupAndChildNodesLoop (sgId : ObjectId) (isAdd : Bool) :
    List ObjectId → QosState → QosState × SaiStatus
  | [], s => (s, .success)
  | childId :: rest, s =>
    match childId.objType with
    | .queue =>
      match s.queueTree.get childId with
      | none => (s, .invalidObjectId)
      | some _ =>
        qosSchedGroupAndChildNodesLoop sgId isAdd rest
          (qosSchedGroupAndChildNodeUpdate s sgId childId isAdd)
    | .schedulerGroup =>
      match s.schedGroupTree.get childId with
      | none => (s, .invalidObjectId)
      | some _ =>
        qosSchedGroupAndChildNodesLoop sgId isAdd rest
          (qosSchedGroupAndChildNodeUpdate s sgId childId isAdd)
    | _ => (s, .invalidParameter)

/-- `none` is the failed assertion on a missing parent group. -/
def qosSchedGroupAndChildNodesUpdate (s : QosState) (sgId : ObjectId)
    (childObjects : List ObjectId) (isAdd : Bool) : Option (QosState × SaiStatus) :=
  match s.schedGroupTree.get sgId with
  | none => none
  | some _ => some (qosSchedGroupAndChildNodesLoop sgId isAdd childObjects s)

/-- `npu` is the answer of the NPU's `add_child_to_group`. On an error the
children it did add are taken out of the hardware again; the database is not
touched. -/
def addChildObjectToGroup (s : QosState) (sgId : ObjectId) (childObjects : List ObjectId)
    (npu : SaiStatus) : Option (QosState × SaiStatus) :=
  match qosSchedGroupChildListValidate s sgId childObjects true with
  | .success =>
    match npu with
    | .success => qosSchedGroupAndChildNodesUpdate s sgId childObjects true
    | error => some (s, error)
  | error => some (s, error)

def removeChildObjectFromGroup (s : QosState) (sgId : ObjectId) (childObjects : List ObjectId)
    (npu : SaiStatus) : Option (QosState × SaiStatus) :=
  match qosSchedGroupChildListValidate s sgId childObjects false with
  | .success =>
    match npu with
    | .success => qosSchedGroupAndChildNodesUpdate s sgId childObjects false
    | error => some (s, error)
  | error => some (s, error)

inductive HierarchyCall
  | addChild (sgId : ObjectId) (childObjects : List ObjectId) (npu : SaiStatus)
  | removeChild (sgId : ObjectId) (childObjects : List ObjectId) (npu : SaiStatus)
deriving DecidableEq

def HierarchyCall.run (s : QosState) : HierarchyCall → Option (QosState × SaiStatus)
  | .addChild sgId childObjects npu => addChildObjectToGroup s sgId childObjects npu
  | .removeChild sgId childObjects npu => removeChildObjectFromGroup s sgId childObjects npu

end SaiCommon
