import SaiCommon.Udf.Group

namespace SaiCommon

/-- The hash attributes of the switch, in the order of `dn_switch_hash_attr_id`;
each has its own slot of `hash_obj_types`. -/
inductive SwitchHashAttr
  | ecmpHash
  | lagHash
  | ecmpHashIpv4
  | ecmpHashIpv4InIpv4
  | ecmpHashIpv6
  | lagHashIpv4
  | lagHashIpv4InIpv4
  | lagHashIpv6
deriving DecidableEq

def switchHashAttrs : List SwitchHashAttr :=
  [.ecmpHash, .lagHash, .ecmpHashIpv4, .ecmpHashIpv4InIpv4, .ecmpHashIpv6, .lagHashIpv4, .lagHashIpv4InIpv4,
    .lagHashIpv6]

theorem mem_switchHashAttrs (attr : SwitchHashAttr) : attr ∈ switchHashAttrs := by
  cases attr <;> decide

structure HashFields where
  nativeFields : List Int
  udfGroups : List ObjectId
deriving DecidableEq

structure HashObject where
  fields : HashFields
  refCount : Int
deriving DecidableEq

/-- The hash database; `npuFields` is what the NPU was last told for each
attribute. -/
structure HashState where
  hashObjTree : KeyTree ObjectId HashObject
  hashIndexBitmap : Nat → Bool
  hashObjTypes : SwitchHashAttr → Option ObjectId
  npuFields : SwitchHashAttr → Option HashFields

inductive HashAttr
  | nativeFieldList (value : List Int)
  | udfGroupList (value : List ObjectId)
  | other
deriving DecidableEq

def maxHashIndex : Nat := 256

/-- `std_find_first_bit` on the bitmap, in which a free index is set. -/
def hashFreeIndex (bitmap : Nat → Bool) : Option Nat := (List.range maxHashIndex).find? bitmap

section
variable (groupType : ObjectId → Option UdfGroupType)

/-- `dn_sai_hash_udf_group_list_validate`; a group that is not found has no type. -/
def hashUdfGroupListValidate (groups : List ObjectId) : Bool :=
  groups.all fun groupId => decide (groupId.objType = .udfGroup ∧ groupType groupId = some .hash)

def hashNativeFieldListSet (object : HashObject) (fields : List Int) (allocOk : Bool) : Except SaiStatus HashObject :=
  if fields ≠ [] ∧ allocOk = false then .error .noMemory
  else .ok { object with fields := { object.fields with nativeFields := fields } }

def hashUdfGroupListSet (object : HashObject) (groups : List ObjectId) (allocOk : Bool) :
    Except SaiStatus HashObject :=
  if groups ≠ [] ∧ hashUdfGroupListValidate groupType groups = false then .error (.invalidAttrValue 0)
  else if groups ≠ [] ∧ allocOk = false then .error .noMemory
  else .ok { object with fields := { object.fields with udfGroups := groups } }

def hashAttrSetOne (object : HashObject) (allocOk : Bool) : HashAttr → Except SaiStatus HashObject
  | .nativeFieldList value => hashNativeFieldListSet object value allocOk
  | .udfGroupList value => hashUdfGroupListSet groupType object value allocOk
  | .other => .ok object

/-- `allocOk` says whether the list at an index of the attribute list can be
copied. -/
def hashAttrSet (allocOk : Nat → Bool) (index : Nat) (object : HashObject) : List HashAttr →
    Except SaiStatus HashObject
  | [] => .ok object
  | attr :: rest =>
    match hashAttrSetOne groupType object (allocOk index) attr with
    | .error status => .error (status.indexed index)
    | .ok next => hashAttrSet allocOk (index + 1) next rest

end

def HashObject.zero : HashObject := ⟨⟨[], []⟩, 0⟩

structure HashCreateEnv where
  nodeAllocOk : Bool
  groupType : ObjectId → Option UdfGroupType
  allocOk : Nat → Bool
  insertOk : Bool

section
variable (s : HashState)

/-- The section of `dn_sai_hash_obj_create` between the lock and the unlock. The
result of the insertion is only logged. -/
def hashObjCreateLocked (index : Nat) (attrs : List HashAttr) (env : HashCreateEnv) : HashState × SaiStatus :=
  match hashAttrSet env.groupType env.allocOk 0 .zero attrs with
  | .error status => (s, status)
  | .ok object =>
    if env.insertOk = true ∧ s.hashObjTree.get ⟨.hash, index⟩ = none then
      ({ s with hashObjTree := s.hashObjTree.put ⟨.hash, index⟩ object }, .success)
    else (s, .success)

/-- `STD_BIT_ARRAY_CLR` and `STD_BIT_ARRAY_SET` -/
def HashState.setFree (index : Nat) (free : Bool) : HashState :=
  { s with hashIndexBitmap := Function.update s.hashIndexBitmap index free }

/-- `validate` is the answer of `dn_sai_hash_attr_list_validate`. -/
def hashObjCreate (attrs : List HashAttr) (validate : SaiStatus) (env : HashCreateEnv) :
    HashState × Except SaiStatus ObjectId :=
  if validate ≠ .success then (s, .error validate)
  else match hashFreeIndex s.hashIndexBitmap with
    | none => (s, .error .insufficientResources)
    | some index =>
      if env.nodeAllocOk = false then (s, .error .noMemory)
      else match hashObjCreateLocked s index attrs env with
        | (s, .success) => (s.setFree index false, .ok ⟨.hash, index⟩)
        | (s, error) => (s, .error error)

def hashObjRemove (hashObjId : ObjectId) : HashState × SaiStatus :=
  if hashObjId.objType ≠ .hash then (s, .invalidObjectType)
  else match s.hashObjTree.get hashObjId with
    | none => (s, .invalidObjectId)
    | some object =>
      if object.refCount ≠ 0 then (s, .objectInUse)
      else (({ s with hashObjTree := s.hashObjTree.del hashObjId } : HashState).setFree hashObjId.npuObjectId true,
        .success)

def HashState.npuSet (attr : SwitchHashAttr) (fields : HashFields) : HashState :=
  { s with npuFields := Function.update s.npuFields attr (some fields) }

end

def HashFields.withAttr (fields : HashFields) : HashAttr → HashFields
  | .nativeFieldList value => { fields with nativeFields := value }
  | .udfGroupList value => { fields with udfGroups := value }
  | .other => fields

/-- The first loop of `dn_sai_hash_obj_set_in_hw`: the new fields go to every
attribute that the object is assigned to until the NPU refuses. The result has
the attributes that were set, and the status, which nothing initialises. -/
def hashSetLoop (hashObjId : ObjectId) (fields : HashFields) (npu : SwitchHashAttr → SaiStatus) (s : HashState)
    (status : SaiStatus) (done : List SwitchHashAttr) : List SwitchHashAttr →
    HashState × SaiStatus × List SwitchHashAttr
  | [] => (s, status, done)
  | attr :: rest =>
    if s.hashObjTypes attr = some hashObjId then
      match npu attr with
      | .success => hashSetLoop hashObjId fields npu (s.npuSet attr fields) .success (done ++ [attr]) rest
      | error => (s, error, done)
    else hashSetLoop hashObjId fields npu s status done rest

/-- The second loop, which tells the NPU the old fields again. -/
def hashResetLoop (fields : HashFields) (undo : SwitchHashAttr → SaiStatus) (s : HashState) :
    List SwitchHashAttr → HashState
  | [] => s
  | attr :: rest =>
    if undo attr = .success then hashResetLoop fields undo (s.npuSet attr fields) rest
    else hashResetLoop fields undo s rest

structure HashSetEnv where
  /-- `dn_sai_hash_attr_list_validate` -/
  validate : SaiStatus
  groupType : ObjectId → Option UdfGroupType
  allocOk : Bool
  npu : SwitchHashAttr → SaiStatus
  /-- The NPU's answer when the old fields are set again. -/
  undo : SwitchHashAttr → SaiStatus
  /-- What is in the status variable before it is written. -/
  uninitialised : SaiStatus

section
variable (s : HashState)

def hashObjSetInHw (hashObjId : ObjectId) (object : HashObject) (attr : HashAttr) (env : HashSetEnv) :
    HashState × SaiStatus :=
  if attr = .other then (s, .unknownAttribute 0)
  else
    let (t, status, done) :=
      hashSetLoop hashObjId (object.fields.withAttr attr) env.npu s env.uninitialised [] switchHashAttrs
    if status = .success then (t, status)
    else (hashResetLoop object.fields env.undo t done, status)

/-- The check of a UDF group list before anything is set. -/
def HashAttr.invalidGroups (groupType : ObjectId → Option UdfGroupType) : HashAttr → Bool
  | .udfGroupList groups => !hashUdfGroupListValidate groupType groups
  | _ => false

/-- `dn_sai_hash_obj_set_attr`; on an invalid UDF group list the source returns
without giving the lock back. -/
def hashObjSetAttr (hashObjId : ObjectId) (attr : HashAttr) (env : HashSetEnv) : HashState × SaiStatus :=
  if hashObjId.objType ≠ .hash then (s, .invalidObjectType)
  else if env.validate ≠ .success then (s, env.validate)
  else match s.hashObjTree.get hashObjId with
    | none => (s, .invalidObjectId)
    | some object =>
      if attr.invalidGroups env.groupType = true then (s, .invalidAttrValue 0)
      else
        let (t, status) := if object.refCount ≠ 0 then hashObjSetInHw s hashObjId object attr env else (s, .success)
        if status ≠ .success then (t, status)
        else match hashAttrSet env.groupType (fun _ => env.allocOk) 0 object [attr] with
          | .error status => (t, status)
          | .ok changed => ({ t with hashObjTree := t.hashObjTree.put hashObjId changed }, .success)

/-- The fields of the object that is to be assigned, or none for NULL. -/
def HashState.assigned (hashObjId : Option ObjectId) : HashFields :=
  match hashObjId.bind s.hashObjTree.get with
  | none => ⟨[], []⟩
  | some object => object.fields

def HashState.addRef (hashObjId : Option ObjectId) (change : Int) : HashState :=
  match hashObjId with
  | none => s
  | some hashObjId =>
    { s with hashObjTree := s.hashObjTree.modify hashObjId fun object =>
        { object with refCount := object.refCount + change } }

/-- `dn_sai_switch_hash_attr_set` from the call to the NPU on. -/
def switchHashAttrSetLocked (attr : SwitchHashAttr) (hashObjId : Option ObjectId) (npu : SaiStatus) :
    HashState × SaiStatus :=
  match npu with
  | .success =>
    let t := (s.npuSet attr (s.assigned hashObjId)).addRef (s.hashObjTypes attr) (-1)
    (({ t with hashObjTypes := Function.update t.hashObjTypes attr hashObjId }).addRef hashObjId 1, .success)
  | error => (s, error)

/-- `dn_sai_switch_hash_attr_set`; on an id of another type the source returns
without giving the lock back. -/
def switchHashAttrSet (attr : SwitchHashAttr) (hashObjId : ObjectId) (npu : SaiStatus) : HashState × SaiStatus :=
  if hashObjId = nullObjectId then switchHashAttrSetLocked s attr none npu
  else if hashObjId.objType ≠ .hash then (s, .invalidObjectType)
  else if s.hashObjTree.get hashObjId = none then (s, .invalidObjectId)
  else switchHashAttrSetLocked s attr (some hashObjId) npu

end

end SaiCommon
