import SaiCommon.Udf.Group

namespace SaiCommon

/-- A hash mask without bytes stands for one that is NULL too. -/
inductive UdfAttr
  | matchId (value : ObjectId)
  | groupId (value : ObjectId)
  | base (value : UdfBase)
  | offset (value : BitVec 16)
  | hashMask (value : List (BitVec 8))
  | other
deriving DecidableEq

inductive UdfAttrKind
  | matchId
  | groupId
  | base
  | offset
  | hashMask
deriving DecidableEq

def UdfAttr.kind : UdfAttr → Option UdfAttrKind
  | .matchId _ => some .matchId
  | .groupId _ => some .groupId
  | .base _ => some .base
  | .offset _ => some .offset
  | .hashMask _ => some .hashMask
  | .other => none

def udfAttrTable : UdfAttrKind → AttributeEntry
  | .matchId => ⟨true, true, false⟩
  | .groupId => ⟨true, true, false⟩
  | .base => ⟨false, true, true⟩
  | .offset => ⟨true, true, true⟩
  | .hashMask => ⟨false, true, true⟩

structure UdfCreateEnv where
  /-- `dn_sai_udf_attr_list_validate` -/
  validate : SaiStatus
  allocOk : Bool
  maskAllocOk : Bool
  npu : SaiStatus
  hwId : Nat
  insertOk : Bool

structure UdfSetEnv where
  /-- `dn_sai_udf_attr_list_validate` -/
  validate : SaiStatus
  maskAllocOk : Bool
  npu : SaiStatus

inductive UdfOperation
  | create
  | set
deriving DecidableEq

section
variable (groups : KeyTree ObjectId UdfGroup)

/-- `p_udf_group` -/
def Udf.group (udf : Udf) : Option UdfGroup := udf.udfGroup.bind groups.get

/-- Without a group the source reads through a NULL pointer. -/
def udfDefaultHashMaskFill (udf : Udf) (allocOk : Bool) : Except SaiStatus Udf :=
  match udf.group groups with
  | none => .error .failure
  | some group =>
    if group.type ≠ .hash then .ok udf
    else if allocOk = false then .error .noMemory
    else .ok { udf with hashMask := some (List.replicate group.length 255) }

def udfHashMaskSet (udf : Udf) (mask : List (BitVec 8)) (allocOk : Bool) : Except SaiStatus Udf :=
  match udf.group groups with
  | none => .error .failure
  | some group =>
    if group.type ≠ .hash then .error (.invalidAttribute 0)
    else if mask.length = 0 then .error (.invalidAttrValue 0)
    else if group.length ≠ mask.length then .error (.invalidAttrValue 0)
    else if udf.hashMask = none ∧ allocOk = false then .error .noMemory
    else .ok { udf with hashMask := some mask }

def udfMatchIdSet (udf : Udf) (value : ObjectId) : Except SaiStatus Udf :=
  if value.objType ≠ .udfMatch then .error (.invalidAttrValue 0) else .ok { udf with matchObjId := value }

def udfGroupIdSet (udf : Udf) (value : ObjectId) : Except SaiStatus Udf :=
  if value.objType ≠ .udfGroup then .error (.invalidAttrValue 0)
  else if groups.get value = none then .error .invalidObjectId
  else .ok { udf with udfGroup := some value }

def udfBaseSet (udf : Udf) : UdfBase → Except SaiStatus Udf
  | .other _ => .error (.invalidAttrValue 0)
  | value => .ok { udf with base := value }

/-- One attribute of the loop of `dn_sai_udf_attr_set`; a hash mask is kept for
the end. -/
def udfAttrSetOne (udf : Udf) : UdfAttr → Except SaiStatus Udf
  | .matchId value => udfMatchIdSet udf value
  | .groupId value => udfGroupIdSet groups udf value
  | .base value => udfBaseSet udf value
  | .offset value => .ok { udf with offset := value }
  | .hashMask _ => .ok udf
  | .other => .error (.unknownAttribute 0)

def udfAttrSetLoop (index : Nat) (udf : Udf) : List UdfAttr → Except SaiStatus Udf
  | [] => .ok udf
  | attr :: rest =>
    match udfAttrSetOne groups udf attr with
    | .error status => .error (status.indexed index)
    | .ok next => udfAttrSetLoop (index + 1) next rest

/-- The last hash mask of the list with its position. -/
def udfHashMaskAttr (index : Nat) : List UdfAttr → Option (Nat × List (BitVec 8))
  | [] => none
  | .hashMask value :: rest => (udfHashMaskAttr (index + 1) rest).or (some (index, value))
  | _ :: rest => udfHashMaskAttr (index + 1) rest

def udfAttrSet (udf : Udf) (attrs : List UdfAttr) (operation : UdfOperation) (maskAllocOk : Bool) :
    Except SaiStatus Udf :=
  match udfAttrSetLoop groups 0 udf attrs with
  | .error status => .error status
  | .ok udf =>
    match udfHashMaskAttr 0 attrs with
    | some (index, mask) => (udfHashMaskSet groups udf mask maskAllocOk).mapError (SaiStatus.indexed index)
    | none =>
      match operation with
      | .create => udfDefaultHashMaskFill groups udf maskAllocOk
      | .set => .ok udf

end

def Udf.init : Udf := ⟨nullObjectId, none, .l2, 0, none⟩

section
variable (s : UdfState)

/-- `dn_sai_udf_group_udf_list_update` for a UDF that joins its group. -/
def UdfState.udfListAdd (udfId : ObjectId) (udf : Udf) : UdfState :=
  match udf.udfGroup with
  | none => s
  | some groupId =>
    { s with udfGroupTree := s.udfGroupTree.modify groupId fun group =>
        { group with udfList := group.udfList ++ [udfId], udfCount := group.udfCount + 1 } }

/-- `dn_sai_udf_group_udf_list_update` for a UDF that leaves its group. -/
def UdfState.udfListRemove (udfId : ObjectId) (udf : Udf) : UdfState :=
  match udf.udfGroup with
  | none => s
  | some groupId =>
    { s with udfGroupTree := s.udfGroupTree.modify groupId fun group =>
        { group with udfList := group.udfList.erase udfId, udfCount := group.udfCount - 1 } }

/-- A failed insertion is logged, and the call goes on to return SUCCESS with
the id. -/
def udfCreate (attrs : List UdfAttr) (env : UdfCreateEnv) : UdfState × Except SaiStatus ObjectId :=
  if env.validate ≠ .success then (s, .error env.validate)
  else if env.allocOk = false then (s, .error .noMemory)
  else match udfAttrSet s.udfGroupTree .init attrs .create env.maskAllocOk with
    | .error status => (s, .error status)
    | .ok udf =>
      match env.npu with
      | .success =>
        let udfId : ObjectId := ⟨.udf, env.hwId⟩
        if env.insertOk = true ∧ s.udfObjTree.get udfId = none then
          (({ s with udfObjTree := s.udfObjTree.put udfId udf }).udfListAdd udfId udf, .ok udfId)
        else (s, .ok udfId)
      | error => (s, .error error)

/-- The node is out of the tree while the NPU is asked. -/
def udfRemove (udfId : ObjectId) (env : UdfRemoveEnv) : UdfState × SaiStatus :=
  if udfId.objType ≠ .udf then (s, .invalidObjectType)
  else match s.udfObjTree.get udfId with
    | none => (s, .invalidObjectId)
    | some udf =>
      let removed : UdfState := { s with udfObjTree := s.udfObjTree.del udfId }
      match env.npu with
      | .success => (removed.udfListRemove udfId udf, .success)
      | error => (if env.insertOk = true then s else removed, error)

/-- The attribute is set in a copy of the UDF, which shares the memory of its
hash mask with the original. -/
def udfSetAttribute (udfId : ObjectId) (attr : UdfAttr) (env : UdfSetEnv) : UdfState × SaiStatus :=
  if udfId.objType ≠ .udf then (s, .invalidObjectType)
  else if env.validate ≠ .success then (s, env.validate)
  else match s.udfObjTree.get udfId with
    | none => (s, .invalidObjectId)
    | some udf =>
      match udfAttrSet s.udfGroupTree udf [attr] .set env.maskAllocOk with
      | .error status => (s, status)
      | .ok changed =>
        match env.npu with
        | .success => ({ s with udfObjTree := s.udfObjTree.put udfId changed }, .success)
        | error =>
          let shared : Udf := { udf with hashMask := if udf.hashMask = none then none else changed.hashMask }
          ({ s with udfObjTree := s.udfObjTree.put udfId shared }, error)

end

end SaiCommon
