import SaiCommon.Lib.KeyTree
import SaiCommon.Base

namespace SaiCommon

inductive UdfGroupType
  | generic
  | hash
  | other (value : Int)
deriving DecidableEq

inductive UdfBase
  | l2
  | l3
  | l4
  | other (value : Int)
deriving DecidableEq

structure UdfGroup where
  type : UdfGroupType
  length : Nat
  udfList : List ObjectId
  udfCount : Nat
deriving DecidableEq

/-- A UDF; the pointer to its group is the id of the group, a hash mask that is
NULL is none. -/
structure Udf where
  matchObjId : ObjectId
  udfGroup : Option ObjectId
  base : UdfBase
  offset : BitVec 16
  hashMask : Option (List (BitVec 8))
deriving DecidableEq

structure UdfState where
  udfGroupTree : KeyTree ObjectId UdfGroup
  udfObjTree : KeyTree ObjectId Udf

/-- The columns of an attribute table that `sai_attribute_validate` reads. -/
structure AttributeEntry where
  mandatoryInCreate : Bool
  validForCreate : Bool
  validForSet : Bool
deriving DecidableEq

/-- An indexed code at the position of its attribute. -/
def SaiStatus.indexed (index : Nat) : SaiStatus → SaiStatus
  | .invalidAttribute _ => .invalidAttribute index
  | .invalidAttrValue _ => .invalidAttrValue index
  | .attrNotImplemented _ => .attrNotImplemented index
  | .unknownAttribute _ => .unknownAttribute index
  | .attrNotSupported _ => .attrNotSupported index
  | status => status

inductive UdfGroupAttr
  | type (value : UdfGroupType)
  | length (value : BitVec 16)
  | udfList (value : List ObjectId)
  | other
deriving DecidableEq

structure UdfGroupCreateEnv where
  /-- `dn_sai_udf_attr_list_validate` -/
  validate : SaiStatus
  allocOk : Bool
  npu : SaiStatus
  hwId : Nat
  insertOk : Bool

structure UdfRemoveEnv where
  npu : SaiStatus
  /-- The insertion that puts the node back after the NPU has refused. -/
  insertOk : Bool

/-- `dn_sai_udf_group_init` -/
def UdfGroup.init : UdfGroup := ⟨.generic, 0, [], 0⟩

def udfGroupTypeSet (group : UdfGroup) : UdfGroupType → Except SaiStatus UdfGroup
  | .other _ => .error (.invalidAttrValue 0)
  | value => .ok { group with type := value }

def udfGroupLengthSet (group : UdfGroup) (value : BitVec 16) : Except SaiStatus UdfGroup :=
  if value = 0 then .error (.invalidAttrValue 0) else .ok { group with length := value.toNat }

def udfGroupAttrSetOne (group : UdfGroup) : UdfGroupAttr → Except SaiStatus UdfGroup
  | .type value => udfGroupTypeSet group value
  | .length value => udfGroupLengthSet group value
  | .udfList _ => .error (.invalidAttribute 0)
  | .other => .error (.unknownAttribute 0)

def udfGroupAttrSet (index : Nat) (group : UdfGroup) : List UdfGroupAttr → Except SaiStatus UdfGroup
  | [] => .ok group
  | attr :: rest =>
    match udfGroupAttrSetOne group attr with
    | .error status => .error (status.indexed index)
    | .ok next => udfGroupAttrSet (index + 1) next rest

section
variable (s : UdfState)

/-- `std_rbtree_insert` into the tree of groups, which an id can enter once. -/
def UdfState.groupInserted (groupId : ObjectId) (group : UdfGroup) (insertOk : Bool) : UdfState :=
  if insertOk = true ∧ s.udfGroupTree.get groupId = none then
    { s with udfGroupTree := s.udfGroupTree.put groupId group }
  else s

/-- A failed insertion is logged, and the call goes on to return SUCCESS with
the id. -/
def udfGroupCreate (attrs : List UdfGroupAttr) (env : UdfGroupCreateEnv) : UdfState × Except SaiStatus ObjectId :=
  if env.validate ≠ .success then (s, .error env.validate)
  else if env.allocOk = false then (s, .error .noMemory)
  else match udfGroupAttrSet 0 .init attrs with
    | .error status => (s, .error status)
    | .ok group =>
      match env.npu with
      | .success =>
        let groupId : ObjectId := ⟨.udfGroup, env.hwId⟩
        (s.groupInserted groupId group env.insertOk, .ok groupId)
      | error => (s, .error error)

/-- Whatever happens behind the check of the object type, the call returns
SUCCESS. -/
def udfGroupRemove (groupId : ObjectId) (env : UdfRemoveEnv) : UdfState × SaiStatus :=
  if groupId.objType ≠ .udfGroup then (s, .invalidObjectType)
  else match s.udfGroupTree.get groupId with
    | none => (s, .success)
    | some group =>
      if group.udfCount ≠ 0 then (s, .success)
      else
        let removed : UdfState := { s with udfGroupTree := s.udfGroupTree.del groupId }
        match env.npu with
        | .success => (removed, .success)
        | _ => (removed.groupInserted groupId group env.insertOk, .success)

end

end SaiCommon
