import SaiCommon.Qos.Policer

namespace SaiCommon

inductive AclStage
  | ingress
  | egress
  | ingressPreL2
  | ingressPostL3
  | other (value : Nat)
deriving DecidableEq

/-- The field ids of a rule that the code tells apart; `value` are all the
fields matched by a plain value under a mask. -/
inductive AclFieldId
  | inPort
  | outPort
  | srcPort
  | dstPort
  | inPorts
  | outPorts
  | udf (index : Nat)
  | value (id : Nat)
deriving DecidableEq

/-- The action ids that the code tells apart; `object` and `value` are all the
others with an object id or a plain value as parameter. -/
inductive AclActionId
  | counter
  | setPolicer
  | ingressSamplePacket
  | egressSamplePacket
  | setCpuQueue
  | mirrorIngress
  | mirrorEgress
  | redirectList
  | object (id : Nat)
  | value (id : Nat)
deriving DecidableEq

/-- Match data and mask of a field. The code reads the members that the type of
the field selects; a zeroed list has no elements. -/
structure AclFieldValue where
  data : Nat := 0
  mask : Nat := 0
  oid : ObjectId := nullObjectId
  objList : List ObjectId := []
  u8Data : List UInt8 := []
  u8Mask : List UInt8 := []
deriving DecidableEq

structure AclParameter where
  value : Nat := 0
  oid : ObjectId := nullObjectId
  objList : List ObjectId := []
deriving DecidableEq

structure AclUdfField where
  udfAttrIndex : Nat
  udfGroupId : ObjectId
  udfNpuId : Nat
deriving DecidableEq

/-- A filter of a rule; `udfField` is none while it is zeroed. -/
structure AclFilter where
  field : AclFieldId
  enable : Bool
  fieldValue : AclFieldValue
  udfField : Option AclUdfField
deriving DecidableEq

structure AclAction where
  action : AclActionId
  enable : Bool
  parameter : AclParameter
deriving DecidableEq

structure AclRule where
  tableId : ObjectId
  aclRulePriority : Nat
  aclRuleState : Bool
  filterList : List AclFilter
  actionList : List AclAction
  counterId : ObjectId
  policerId : ObjectId
  ingressSamplePacketId : ObjectId
  egressSamplePacketId : ObjectId
deriving DecidableEq

/-- A table node. `node` tells allocations apart: a pointer to a freed node is
no pointer to a later table with the same id. `npuTable` says that
`npu_table_info` is set. -/
structure AclTable where
  node : Nat
  tableId : ObjectId
  aclStage : AclStage
  aclTablePriority : Nat
  tableSize : Nat
  tableGroupId : ObjectId
  virtualGroupCreate : Bool
  udfFieldList : List AclUdfField
  npuTable : Bool
  ruleHead : List ObjectId
  ruleCount : Nat
  numCounters : Nat
deriving DecidableEq

inductive AclCounterType
  | bytes
  | packets
  | bytesPackets
deriving DecidableEq

structure AclCounter where
  tableId : ObjectId
  counterType : AclCounterType
deriving DecidableEq

/-- The ACL database, with the table ids in use and the number of table nodes
allocated so far, and the policer database that rules link to. -/
structure AclState where
  tableTree : KeyTree ObjectId AclTable
  ruleTree : KeyTree ObjectId AclRule
  counterTree : KeyTree ObjectId AclCounter
  tableInUse : Nat → Bool
  allocated : Nat
  qos : PolicerState

structure AclPlatform where
  /-- `SAI_ACL_TABLE_ID_MAX` -/
  tableIdMax : Nat
  /-- `SAI_ACL_RULE_DEFAULT_ADMIN_STATE` -/
  defaultAdminState : Bool
  /-- `sai_get_type_from_npu_object` on a policer id -/
  policerMode : ObjectId → PolicerMode

/-- What the port, mirror and UDF modules answer, and the allocator while the
value of an attribute is copied. -/
structure AclLookups where
  portValid : ObjectId → Bool
  mirrorValid : ObjectId → Bool
  udfGroupStatus : ObjectId → SaiStatus
  udfHwId : ObjectId → SaiStatus × Nat
  listAlloc : Bool
  valueAlloc : Nat → Bool

inductive AclRuleAttr
  | tableId (id : ObjectId)
  | priority (value : Nat)
  | adminState (state : Bool)
  | field (id : AclFieldId) (enable : Bool) (value : AclFieldValue)
  | action (id : AclActionId) (enable : Bool) (parameter : AclParameter)
  | unknown (id : Nat)
  | outOfRange (id : Nat)
deriving DecidableEq

inductive AclAttrId
  | tableId
  | priority
  | adminState
  | field (id : AclFieldId)
  | action (id : AclActionId)
  | unknown (id : Nat)
  | outOfRange (id : Nat)
deriving DecidableEq

def AclRuleAttr.id : AclRuleAttr → AclAttrId
  | .tableId _ => .tableId
  | .priority _ => .priority
  | .adminState _ => .adminState
  | .field id _ _ => .field id
  | .action id _ _ => .action id
  | .unknown id => .unknown id
  | .outOfRange id => .outOfRange id

/-- `std_dll_insert` of a rule: before the first one that the comparator puts
behind it. -/
def aclRuleInsertSorted (priorityOf : ObjectId → Nat) (id : ObjectId) : List ObjectId → List ObjectId
  | [] => [id]
  | head :: rest =>
    if priorityOf id < priorityOf head then id :: head :: rest
    else head :: aclRuleInsertSorted priorityOf id rest

theorem aclRuleInsertSorted_perm (priorityOf : ObjectId → Nat) (id : ObjectId) (l : List ObjectId) :
    (aclRuleInsertSorted priorityOf id l).Perm (id :: l) := by
  induction l with
  | nil => exact List.Perm.refl _
  | cons head rest ih =>
    unfold aclRuleInsertSorted
    split
    · exact List.Perm.refl _
    · exact (ih.cons head).trans (List.Perm.swap id head rest)

end SaiCommon
