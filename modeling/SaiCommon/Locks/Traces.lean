import SaiCommon.Lib.Locks
import SaiCommon.References.Names
import SaiCommon.Switching.Lag

namespace SaiCommon
open Locks

inductive Mutex
  | mirror
  | hash
  | lag
  | udf
  | acl
deriving DecidableEq

abbrev LockTrace := List (Op Mutex)

/-- A call on an id, whose type is checked before the lock; the body has one way
out, behind which stands the unlock. -/
def typedLocks (m : Mutex) (type : ObjectType) (id : ObjectId) : LockTrace :=
  if id.objType ≠ type then [] else within m []

section Mirror

def mirrorSessionCreateLocks : LockTrace := within .mirror []

def mirrorSessionRemoveLocks (sessionId : ObjectId) : LockTrace := typedLocks .mirror .mirrorSession sessionId

def mirrorSessionPortAddLocks (sessionId : ObjectId) : LockTrace := typedLocks .mirror .mirrorSession sessionId

def mirrorSessionPortRemoveLocks (sessionId : ObjectId) : LockTrace := typedLocks .mirror .mirrorSession sessionId

def mirrorSessionAttributeSetLocks (sessionId : ObjectId) : LockTrace := typedLocks .mirror .mirrorSession sessionId

def mirrorSessionAttributeGetLocks (sessionId : ObjectId) : LockTrace := typedLocks .mirror .mirrorSession sessionId

/-- `sai_mirror_is_valid_mirror_session`: for a session that is not stored the
source returns before the unlock. -/
def mirrorIsValidMirrorSessionLocks (valid : Bool) : LockTrace :=
  .lock .mirror :: if valid = false then [] else [.unlock .mirror]

variable (isPortValid : ObjectId → Bool) (order : KeyRank MirrorSessionPerPort) (portId : ObjectId)
  (direction : MirrorDirection) (env : MirrorPortEnv)

def mirrorPortAddSessionLocks (s : MirrorState) (index : Nat) (sessionId : ObjectId) : LockTrace :=
  if (⟨sessionId, direction⟩ : MirrorSessionPerPort) ∈ s.portSessions portId then []
  else mirrorSessionPortAddLocks sessionId ++
    match mirrorSessionPortAdd s isPortValid sessionId portId direction (env.add index) with
    | (_, .success) =>
      if env.callocOk index = true ∧ env.insertOk index = false then mirrorSessionPortRemoveLocks sessionId else []
    | _ => []

def mirrorPortAddLoopLocks (s : MirrorState) (index : Nat) : List ObjectId → LockTrace
  | [] => []
  | sessionId :: rest =>
    mirrorPortAddSessionLocks isPortValid portId direction env s index sessionId ++
      match mirrorPortAddSession s isPortValid order portId direction env index sessionId with
      | (s, .success) => mirrorPortAddLoopLocks s (index + 1) rest
      | _ => []

def mirrorPortVisitLocks (sessions : List ObjectId) (node : MirrorSessionPerPort) : LockTrace :=
  if node.mirrorDirection ≠ direction then []
  else if node.sessionId ∈ sessions then []
  else mirrorSessionPortRemoveLocks node.sessionId

def mirrorRemoveMirrorPerPortLocks (s : MirrorState) (sessions : List ObjectId) : LockTrace :=
  let tree := s.portSessions portId
  let visit := mirrorPortVisit isPortValid portId direction sessions env
  (order.walk SaiStatus.success (fun p : MirrorState × LockTrace => p.1.portSessions portId)
    (fun node p => (((visit node p.1).1, p.2 ++ mirrorPortVisitLocks direction sessions node), (visit node p.1).2))
    tree.length tree.head? (s, [])).1.2

/-- `sai_mirror_handle_per_port`, which takes no lock itself. -/
def mirrorHandlePerPortLocks (s : MirrorState) (sessions : List ObjectId) : LockTrace :=
  if env.portNodeOk = false then []
  else if s.portTrees.get portId = none ∧ env.portTreeOk = false then []
  else
    let s := s.putPortTree portId (s.portSessions portId)
    mirrorPortAddLoopLocks isPortValid order portId direction env s 0 sessions ++
      match mirrorPortAddLoop isPortValid order portId direction env s 0 sessions with
      | (s, .success) => mirrorRemoveMirrorPerPortLocks isPortValid order portId direction env s sessions
      | _ => []

end Mirror

section Udf

def udfCreateLocks (env : UdfCreateEnv) : LockTrace :=
  if env.validate ≠ .success then [] else if env.allocOk = false then [] else within .udf []

def udfRemoveLocks (udfId : ObjectId) : LockTrace := typedLocks .udf .udf udfId

def udfSetAttributeLocks (udfId : ObjectId) (env : UdfSetEnv) : LockTrace :=
  if udfId.objType ≠ .udf then [] else if env.validate ≠ .success then [] else within .udf []

def udfGetAttributeLocks (udfId : ObjectId) : LockTrace := typedLocks .udf .udf udfId

def udfMatchCreateLocks (validate : SaiStatus) : LockTrace := if validate ≠ .success then [] else within .udf []

def udfMatchRemoveLocks (udfMatchId : ObjectId) : LockTrace := typedLocks .udf .udfMatch udfMatchId

def udfMatchGetAttributeLocks (udfMatchId : ObjectId) : LockTrace := typedLocks .udf .udfMatch udfMatchId

def udfGroupCreateLocks (env : UdfGroupCreateEnv) : LockTrace :=
  if env.validate ≠ .success then [] else if env.allocOk = false then [] else within .udf []

def udfGroupRemoveLocks (groupId : ObjectId) : LockTrace := typedLocks .udf .udfGroup groupId

def udfGroupGetAttributeLocks (groupId : ObjectId) : LockTrace := typedLocks .udf .udfGroup groupId

def udfGroupHwIdGetLocks (groupId : ObjectId) : LockTrace := typedLocks .udf .udfGroup groupId

def udfGroupTypeGetLocks (groupId : ObjectId) : LockTrace := typedLocks .udf .udfGroup groupId

end Udf

section Hash
variable (groupType : ObjectId → Option UdfGroupType)

/-- `dn_sai_hash_udf_group_list_validate`, which asks until a group is wrong. -/
def hashUdfGroupListValidateLocks : List ObjectId → LockTrace
  | [] => []
  | groupId :: rest =>
    if groupId.objType ≠ .udfGroup then []
    else udfGroupTypeGetLocks groupId ++
      if groupType groupId = some .hash then hashUdfGroupListValidateLocks rest else []

def hashAttrSetOneLocks : HashAttr → LockTrace
  | .udfGroupList groups => if groups = [] then [] else hashUdfGroupListValidateLocks groupType groups
  | _ => []

def hashAttrSetLocks (allocOk : Nat → Bool) (index : Nat) (object : HashObject) : List HashAttr → LockTrace
  | [] => []
  | attr :: rest =>
    hashAttrSetOneLocks groupType attr ++
      match hashAttrSetOne groupType object (allocOk index) attr with
      | .error _ => []
      | .ok next => hashAttrSetLocks allocOk (index + 1) next rest

variable (s : HashState)

def hashObjCreateLocks (attrs : List HashAttr) (validate : SaiStatus) (env : HashCreateEnv) : LockTrace :=
  if validate ≠ .success then []
  else match hashFreeIndex s.hashIndexBitmap with
    | none => []
    | some _ =>
      if env.nodeAllocOk = false then []
      else within .hash (hashAttrSetLocks env.groupType env.allocOk 0 .zero attrs)

def hashObjRemoveLocks (hashObjId : ObjectId) : LockTrace := typedLocks .hash .hash hashObjId

/-- The list is validated before anything is set; an invalid one ends the call
before the unlock. -/
def HashAttr.validateLocks (groupType : ObjectId → Option UdfGroupType) : HashAttr → LockTrace
  | .udfGroupList groups => hashUdfGroupListValidateLocks groupType groups
  | _ => []

def hashObjSetAttrLocks (hashObjId : ObjectId) (attr : HashAttr) (env : HashSetEnv) : LockTrace :=
  if hashObjId.objType ≠ .hash then []
  else if env.validate ≠ .success then []
  else .lock .hash :: match s.hashObjTree.get hashObjId with
    | none => [.unlock .hash]
    | some object =>
      attr.validateLocks env.groupType ++
        if attr.invalidGroups env.groupType = true then []
        else
          let status := if object.refCount ≠ 0 then (hashObjSetInHw s hashObjId object attr env).2 else .success
          if status ≠ .success then [.unlock .hash]
          else hashAttrSetLocks env.groupType (fun _ => env.allocOk) 0 object [attr] ++ [.unlock .hash]

def hashObjGetAttrLocks (hashObjId : ObjectId) (validate : SaiStatus) : LockTrace :=
  if hashObjId.objType ≠ .hash then [] else if validate ≠ .success then [] else within .hash []

/-- `dn_sai_switch_hash_attr_set`: for an id of another type the source returns
before the unlock. -/
def switchHashAttrSetLocks (hashObjId : ObjectId) : LockTrace :=
  .lock .hash ::
    if hashObjId = nullObjectId then [.unlock .hash]
    else if hashObjId.objType ≠ .hash then []
    else if s.hashObjTree.get hashObjId = none then [.unlock .hash]
    else [.unlock .hash]

def switchHashAttrGetLocks : LockTrace := within .hash []

end Hash

section Acl
variable (platform : AclPlatform) (lookups : AclLookups) (s : AclState)

def aclTablePopulateLoopLocks (table : AclTable) : List AclTableAttr → LockTrace
  | [] => []
  | attr :: rest =>
    (match attr with
      | .udfField _ groupId => udfGroupHwIdGetLocks groupId
      | _ => []) ++
    match aclTablePopulateAttr lookups table attr with
    | .error _ => []
    | .ok next => aclTablePopulateLoopLocks next rest

/-- The fields of a table are populated under the lock. -/
def createAclTableLocks (attrs : List AclTableAttr) (allocOk : Bool) (env : AclTableCreateEnv) : LockTrace :=
  match createAclTableBegin s lookups attrs allocOk with
  | .success =>
    within .acl (if env.lookups.listAlloc = false then []
      else aclTablePopulateLoopLocks env.lookups (.zero s.allocated) attrs)
  | _ => []

def deleteAclTableLocks (tableId : ObjectId) : LockTrace := typedLocks .acl .aclTable tableId

def getAclTableLocks (tableId : ObjectId) (attrCount : Nat) : LockTrace :=
  if attrCount = 0 then [] else typedLocks .acl .aclTable tableId

def createAclCounterLocks (attrs : List AclCounterAttr) (allocOk : Bool) : LockTrace :=
  if attrs = [] then [] else if allocOk = false then [] else within .acl []

def deleteAclCounterLocks (counterId : ObjectId) : LockTrace := typedLocks .acl .aclCounter counterId

def setAclCntrLocks (counterId : ObjectId) : LockTrace := typedLocks .acl .aclCounter counterId

def getAclCntrLocks (counterId : ObjectId) (attrCount : Nat) : LockTrace :=
  if attrCount = 0 then [] else typedLocks .acl .aclCounter counterId

def aclMirrorListLocks : List ObjectId → LockTrace
  | [] => []
  | sessionId :: rest =>
    mirrorIsValidMirrorSessionLocks (lookups.mirrorValid sessionId) ++
      if lookups.mirrorValid sessionId then aclMirrorListLocks rest else []

def aclActionPopulateLocks (id : AclActionId) (enable : Bool) (list : List ObjectId) : LockTrace :=
  if aclMirrorAction id = false then []
  else if enable = false then []
  else if list.any fun oid => aclValidateActionObjectType id oid ≠ .success then []
  else aclMirrorListLocks lookups list

/-- The group's hardware id is asked for when the value of the field was good. -/
def aclFilterPopulateLocks (index : Nat) (table : AclTable) (id : AclFieldId) (enable : Bool)
    (value : AclFieldValue) : LockTrace :=
  match aclFilterPopulateAttrType lookups index (aclStoredField table id) enable value with
  | .error _ => []
  | .ok _ =>
    match aclStoredField table id with
    | .udf udfIndex =>
      if aclTableFindUdfGroupId table udfIndex = nullObjectId then []
      else udfGroupHwIdGetLocks (aclTableFindUdfGroupId table udfIndex)
    | _ => []

def aclRulePopulateAttrLocks (index : Nat) (table : AclTable) : AclRuleAttr → LockTrace
  | .field id enable value => aclFilterPopulateLocks lookups index table id enable value
  | .action id enable parameter => aclActionPopulateLocks lookups id enable parameter.objList
  | _ => []

def aclRulePopulateLoopLocks (table : AclTable) (index : Nat) (rule : AclRule) : List AclRuleAttr → LockTrace
  | [] => []
  | attr :: rest =>
    aclRulePopulateAttrLocks lookups index table attr ++
      match aclRulePopulateAttr lookups index platform table rule attr with
      | .error _ => []
      | .ok next => aclRulePopulateLoopLocks table (index + 1) next rest

def aclRulePopulateLocks (table : AclTable) (attrs : List AclRuleAttr) : LockTrace :=
  if lookups.listAlloc = false then [] else aclRulePopulateLoopLocks platform lookups table 0 .zero attrs

def createAclRuleLocks (attrs : List AclRuleAttr) (allocOk : Bool) (env : AclRuleCreateEnv) : LockTrace :=
  match createAclRuleBegin s attrs allocOk with
  | .error _ => []
  | .ok table => within .acl (aclRulePopulateLocks platform env.lookups (s.deref table) attrs)

def deleteAclRuleLocks (ruleId : ObjectId) : LockTrace := typedLocks .acl .aclEntry ruleId

/-- The ways out of `sai_set_acl_rule`, the assertion that the table is there
left aside. -/
def setAclRuleLocks (ruleId : ObjectId) (attr : AclRuleAttr) (env : AclRuleSetEnv) : LockTrace :=
  if ruleId.objType ≠ .aclEntry then []
  else match aclCheckRuleLoop 0 [attr] with
    | .success =>
      .lock .acl :: match s.ruleTree.get ruleId with
        | none => [.unlock .acl]
        | some present =>
          match s.tableTree.get present.tableId with
          | none => [.unlock .acl]
          | some table =>
            if env.allocOk = false then [.unlock .acl]
            else aclRulePopulateLocks platform env.lookups table [attr] ++ [.unlock .acl]
    | _ => []

def getAclRuleLocks (ruleId : ObjectId) (attrCount : Nat) : LockTrace :=
  if ruleId.objType ≠ .aclEntry then []
  else if attrCount = 0 then []
  else .lock .acl :: match s.ruleTree.get ruleId with
    | none => [.unlock .acl]
    | some _ => [.unlock .acl]

end Acl

section Lag
variable (s : LagState)

def lagRifCallbackRegisterLocks : LockTrace := [.lock .lag, .unlock .lag]

def l2CreateLagLocks (env : LagCreateEnv) : LockTrace :=
  .lock .lag :: match (s.npuLagCreate env.create).2 with
    | .error _ => [.unlock .lag]
    | .ok _ => [.unlock .lag]

def l2RemoveLagLocks (lagId : ObjectId) : LockTrace :=
  .lock .lag :: match s.lagTree.get lagId with
    | none => [.unlock .lag]
    | some rifId => if rifId.objType = .routerInterface then [.unlock .lag] else [.unlock .lag]

/-- The loop that locks is left by `break` only. -/
def l2AddPortsToLagLocks (ports : List ObjectId) : LockTrace :=
  if ports.all s.portValid = false then [] else within .lag []

/-- `status` is what the NPU and the callback answered. -/
def l2RemovePortsFromLagLocks (lagId : ObjectId) (ports : List ObjectId) (status : SaiStatus) : LockTrace :=
  if ports.all s.portValid = false then []
  else .lock .lag ::
    if s.isLagCreated lagId = false then [.unlock .lag]
    else if (ports.all fun port => s.isPortLagMember lagId port) = false then [.unlock .lag]
    else if status ≠ .success then [.unlock .lag]
    else [.unlock .lag]

def l2SetLagAttributeLocks (lagId : ObjectId) : LockTrace :=
  .lock .lag :: if s.isLagCreated lagId = false then [.unlock .lag] else [.unlock .lag]

/-- `sai_l2_get_lag_attribute` takes no lock, but gives it back when the LAG is
not there. -/
def l2GetLagAttributeLocks (lagId : ObjectId) : LockTrace := if s.isLagCreated lagId = false then [.unlock .lag] else []

def LagState.portValidate (lagId portId : ObjectId) : SaiStatus :=
  if lagId.objType ≠ .lag then .invalidObjectType
  else if portId.objType ≠ .port then .invalidObjectType
  else if s.portValid portId = false then .invalidObjectId
  else if s.isLagCreated lagId = false then .itemNotFound
  else if s.isPortLagMember lagId portId = false then .invalidPortMember
  else .success

def l2LagPortModeSetLocks (lagId portId : ObjectId) : LockTrace :=
  .lock .lag :: if s.portValidate lagId portId ≠ .success then [.unlock .lag] else [.unlock .lag]

def l2LagPortModeGetLocks (lagId portId : ObjectId) (modeNull : Bool) : LockTrace :=
  if modeNull = true then [] else l2LagPortModeSetLocks s lagId portId

def l2CreateLagMemberLocks (attrs : List LagMemberAttr) : LockTrace :=
  match lagMemberAttributesLoop ⟨none, none, none, none⟩ attrs with
  | .error _ => []
  | .ok parse => if parse.lag = none ∨ parse.portId = none then [] else within .lag []

def l2RemoveLagMemberLocks : LockTrace := within .lag []

/-- The lock is given back between the lookup of the member and the rest;
`found` is the node that the cache finds under the member id. -/
def l2SetLagMemberAttributeLocks (found : Option LagPortNode) : LockTrace :=
  within .lag [] ++ if found = none then [] else within .lag []

def l2GetLagMemberAttributeLocks (found : Option LagPortNode) : LockTrace :=
  within .lag [] ++ if found = none then [] else within .lag []

end Lag
end SaiCommon
