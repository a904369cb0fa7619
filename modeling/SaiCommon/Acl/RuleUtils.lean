import SaiCommon.Acl.State

namespace SaiCommon

/-- `sai_acl_portlist_attr`, which are also the fields with an object list. -/
def aclPortlistAttr : AclFieldId → Bool
  | .inPorts => true
  | .outPorts => true
  | _ => false

def aclPortAttr : AclFieldId → Bool
  | .inPort => true
  | .outPort => true
  | _ => false

def aclObjectListActionAttr : AclActionId → Bool
  | .mirrorIngress => true
  | .mirrorEgress => true
  | .redirectList => true
  | _ => false

def aclValidateFieldObjectType (id : AclFieldId) (oid : ObjectId) : SaiStatus :=
  match id with
  | .srcPort => if oid.objType ≠ .port ∧ oid.objType ≠ .lag then .invalidObjectType else .success
  | .dstPort => if oid.objType ≠ .port ∧ oid.objType ≠ .lag then .invalidObjectType else .success
  | .inPort => if oid.objType ≠ .port then .invalidObjectType else .success
  | .outPort => if oid.objType ≠ .port then .invalidObjectType else .success
  | .inPorts => if oid.objType ≠ .port then .invalidObjectType else .success
  | .outPorts => if oid.objType ≠ .port then .invalidObjectType else .success
  | _ => .success

def aclValidateActionObjectType (id : AclActionId) (oid : ObjectId) : SaiStatus :=
  match id with
  | .counter => if oid.objType ≠ .aclCounter then .invalidObjectType else .success
  | .setPolicer => if oid.objType ≠ .policer then .invalidObjectType else .success
  | .ingressSamplePacket => if oid.objType ≠ .samplePacket then .invalidObjectType else .success
  | .egressSamplePacket => if oid.objType ≠ .samplePacket then .invalidObjectType else .success
  | .setCpuQueue => if oid.objType ≠ .queue then .invalidObjectType else .success
  | .mirrorIngress => if oid.objType ≠ .mirrorSession then .invalidObjectType else .success
  | .mirrorEgress => if oid.objType ≠ .mirrorSession then .invalidObjectType else .success
  | _ => .success

section Populate
variable (lookups : AclLookups) (index : Nat)

/-- `sai_acl_rule_filter_populate_object_list`: a disabled list is not read. -/
def aclFilterPopulateObjectList (id : AclFieldId) (enable : Bool) (list : List ObjectId) :
    Except SaiStatus AclFieldValue :=
  if enable = false then .ok {}
  else if list = [] then .error (.invalidAttrValue 0)
  else if list.any fun oid => aclValidateFieldObjectType id oid ≠ .success then .error .invalidObjectType
  else if list.all lookups.portValid = false then .error .invalidObjectId
  else if lookups.valueAlloc index = false then .error .noMemory
  else .ok { objList := list }

def aclFilterPopulateU8List (enable : Bool) (value : AclFieldValue) : Except SaiStatus AclFieldValue :=
  if enable = false then .ok {}
  else if value.u8Data = [] ∨ value.u8Mask = [] then .error (.invalidAttrValue 0)
  else if lookups.valueAlloc index = false then .error .noMemory
  else .ok { u8Data := value.u8Data, u8Mask := value.u8Mask }

/-- `sai_acl_rule_filter_populate_attr_obj_id`: the type check leaves ports and
LAGs only. A disabled object is stored as it is. -/
def aclFilterPopulateObjId (id : AclFieldId) (enable : Bool) (oid : ObjectId) : Except SaiStatus AclFieldValue :=
  if enable = false then .ok { oid := oid }
  else match aclValidateFieldObjectType id oid with
    | .success =>
      if oid.objType = .port ∧ aclPortAttr id = true ∧ lookups.portValid oid = false then
        .error .invalidObjectId
      else .ok { oid := oid }
    | error => .error error

def aclFilterPopulateAttrType (id : AclFieldId) (enable : Bool) (value : AclFieldValue) :
    Except SaiStatus AclFieldValue :=
  match id with
  | .inPorts => aclFilterPopulateObjectList lookups index id enable value.objList
  | .outPorts => aclFilterPopulateObjectList lookups index id enable value.objList
  | .udf _ => aclFilterPopulateU8List lookups index enable value
  | .value _ => .ok { data := value.data, mask := value.mask }
  | id => aclFilterPopulateObjId lookups id enable value.oid

def aclTableFindUdfGroupId (table : AclTable) (udfIndex : Nat) : ObjectId :=
  match table.udfFieldList.find? fun udf => udf.udfAttrIndex == udfIndex with
  | some udf => udf.udfGroupId
  | none => nullObjectId

/-- `sai_acl_rule_udf_filter_populate`: the group comes from the table. -/
def aclUdfFilterPopulate (table : AclTable) (udfIndex : Nat) : Except SaiStatus AclUdfField :=
  let udfGroupId := aclTableFindUdfGroupId table udfIndex
  if udfGroupId = nullObjectId then .error (.invalidAttribute 0)
  else match lookups.udfHwId udfGroupId with
    | (.success, udfNpuId) => .ok ⟨udfIndex, udfGroupId, udfNpuId⟩
    | (error, _) => .error error

/-- The field a filter is stored under: in an ingress table OUT_PORT stands for
DST_PORT. -/
def aclStoredField (table : AclTable) (id : AclFieldId) : AclFieldId :=
  if id = .outPort ∧ table.aclStage = .ingress then .dstPort else id

/-- The part of `sai_acl_rule_populate` for one field. -/
def aclFilterPopulate (table : AclTable) (id : AclFieldId) (enable : Bool) (value : AclFieldValue) :
    Except SaiStatus AclFilter :=
  let field := aclStoredField table id
  match aclFilterPopulateAttrType lookups index field enable value with
  | .error status => .error (indexedRetVal status index)
  | .ok stored =>
    match field with
    | .udf udfIndex =>
      match aclUdfFilterPopulate lookups table udfIndex with
      | .error status => .error (indexedRetVal status index)
      | .ok udfField => .ok ⟨field, enable, stored, some udfField⟩
    | _ => .ok ⟨field, enable, stored, none⟩

def aclActionPopulateObjectList (id : AclActionId) (enable : Bool) (list : List ObjectId) :
    Except SaiStatus AclParameter :=
  if enable = false then .ok {}
  else if list = [] then .error (.invalidAttrValue 0)
  else if list.any fun oid => aclValidateActionObjectType id oid ≠ .success then .error .invalidObjectType
  else if (id = .mirrorIngress ∨ id = .mirrorEgress) ∧ list.all lookups.mirrorValid = false then
    .error (.invalidAttrValue 0)
  else if id = .redirectList ∧ list.all lookups.portValid = false then .error (.invalidAttrValue 0)
  else if lookups.valueAlloc index = false then .error .noMemory
  else .ok { objList := list }

def aclActionPopulateObjId (id : AclActionId) (enable : Bool) (oid : ObjectId) : Except SaiStatus AclParameter :=
  if enable = false then .ok { oid := oid }
  else match aclValidateActionObjectType id oid with
    | .success => .ok { oid := oid }
    | error => .error error

def aclActionPopulateAttrType (id : AclActionId) (enable : Bool) (parameter : AclParameter) :
    Except SaiStatus AclParameter :=
  match id with
  | .value _ => .ok { value := parameter.value }
  | .mirrorIngress => aclActionPopulateObjectList lookups index id enable parameter.objList
  | .mirrorEgress => aclActionPopulateObjectList lookups index id enable parameter.objList
  | .redirectList => aclActionPopulateObjectList lookups index id enable parameter.objList
  | id => aclActionPopulateObjId id enable parameter.oid

/-- What an action writes beside the action list: the counter, the policer or
a samplepacket session of the rule, when it is enabled. -/
def aclActionEffect (platform : AclPlatform) (rule : AclRule) (id : AclActionId) (enable : Bool)
    (oid : ObjectId) : Except SaiStatus AclRule :=
  if enable = false then .ok rule
  else match id with
    | .counter =>
      if oid = nullObjectId then .error (.invalidAttrValue index) else .ok { rule with counterId := oid }
    | .ingressSamplePacket =>
      if oid = nullObjectId then .error (.invalidAttrValue index)
      else .ok { rule with ingressSamplePacketId := oid }
    | .egressSamplePacket =>
      if oid = nullObjectId then .error (.invalidAttrValue index)
      else .ok { rule with egressSamplePacketId := oid }
    | .setPolicer =>
      if oid = nullObjectId then .error (.invalidAttrValue index)
      else if platform.policerMode oid ≠ .srTcm ∧ platform.policerMode oid ≠ .trTcm then
        .error (.invalidAttrValue index)
      else .ok { rule with policerId := oid }
    | _ => .ok rule

/-- The body of the loop of `sai_acl_rule_populate`. -/
def aclRulePopulateAttr (platform : AclPlatform) (table : AclTable) (rule : AclRule) :
    AclRuleAttr → Except SaiStatus AclRule
  | .field id enable value =>
    match aclFilterPopulate lookups index table id enable value with
    | .error status => .error status
    | .ok filter => .ok { rule with filterList := rule.filterList ++ [filter] }
  | .action id enable parameter =>
    match aclActionPopulateAttrType lookups index id enable parameter with
    | .error status => .error (indexedRetVal status index)
    | .ok stored =>
      match aclActionEffect index platform rule id enable parameter.oid with
      | .error status => .error status
      | .ok next => .ok { next with actionList := rule.actionList ++ [⟨id, enable, stored⟩] }
  | .tableId id => .ok { rule with tableId := id }
  | .priority value => .ok { rule with aclRulePriority := value }
  | .adminState state => .ok { rule with aclRuleState := state }
  | .unknown _ => .error (.unknownAttribute index)
  | .outOfRange _ => .error (.unknownAttribute index)

end Populate

def aclRulePopulateLoop (lookups : AclLookups) (platform : AclPlatform) (table : AclTable) (index : Nat)
    (rule : AclRule) : List AclRuleAttr → Except SaiStatus AclRule
  | [] => .ok rule
  | attr :: rest =>
    match aclRulePopulateAttr lookups index platform table rule attr with
    | .error status => .error status
    | .ok next => aclRulePopulateLoop lookups platform table (index + 1) next rest

def AclRule.zero : AclRule where
  tableId := nullObjectId
  aclRulePriority := 0
  aclRuleState := false
  filterList := []
  actionList := []
  counterId := nullObjectId
  policerId := nullObjectId
  ingressSamplePacketId := nullObjectId
  egressSamplePacketId := nullObjectId

def AclRuleAttr.isAdminState : AclRuleAttr → Bool
  | .adminState _ => true
  | _ => false

def aclRulePopulate (lookups : AclLookups) (platform : AclPlatform) (table : AclTable)
    (attrs : List AclRuleAttr) : Except SaiStatus AclRule :=
  if lookups.listAlloc = false then .error .noMemory
  else match aclRulePopulateLoop lookups platform table 0 .zero attrs with
    | .error status => .error status
    | .ok rule =>
      if attrs.any AclRuleAttr.isAdminState then .ok rule
      else .ok { rule with aclRuleState := platform.defaultAdminState }

theorem aclActionEffect_frame {index : Nat} {platform : AclPlatform} {rule next : AclRule} {id : AclActionId}
    {enable : Bool} {oid : ObjectId} (ok : aclActionEffect index platform rule id enable oid = .ok next) :
    next.tableId = rule.tableId ∧ next.filterList = rule.filterList := by
  unfold aclActionEffect at ok
  split at ok
  · cases ok
    exact ⟨rfl, rfl⟩
  split at ok
  · split at ok
    · cases ok
    · cases ok
      exact ⟨rfl, rfl⟩
  · split at ok
    · cases ok
    · cases ok
      exact ⟨rfl, rfl⟩
  · split at ok
    · cases ok
    · cases ok
      exact ⟨rfl, rfl⟩
  · split at ok
    · cases ok
    split at ok
    · cases ok
    · cases ok
      exact ⟨rfl, rfl⟩
  · cases ok
    exact ⟨rfl, rfl⟩

/-- What every attribute keeps, along the rest of the list, holds of a populated rule. -/
theorem aclRulePopulate_runs {lookups : AclLookups} {platform : AclPlatform} {table : AclTable}
    {attrs : List AclRuleAttr} {next : AclRule} {p : List AclRuleAttr → AclRule → Prop} (zero : p attrs .zero)
    (step : ∀ index rule attr rest next, p (attr :: rest) rule →
      aclRulePopulateAttr lookups index platform table rule attr = .ok next → p rest next)
    (state : ∀ rule state, p [] rule → p [] { rule with aclRuleState := state })
    (ok : aclRulePopulate lookups platform table attrs = .ok next) : p [] next := by
  have loop : ∀ index rule last, p attrs rule →
    aclRulePopulateLoop lookups platform table index rule attrs = .ok last →
      p [] last := by
    clear zero ok
    induction attrs with
    | nil =>
      intro index rule last holds populated
      cases populated
      exact holds
    | cons attr rest ih =>
      intro index rule last holds populated
      unfold aclRulePopulateLoop at populated
      split at populated
      · cases populated
      rename_i made
      exact ih _ _ _ (step _ _ _ _ _ holds made) populated
  unfold aclRulePopulate at ok
  split at ok
  · cases ok
  split at ok
  · cases ok
  rename_i populated
  have holds := loop _ _ _ zero populated
  split at ok
  · cases ok
    exact holds
  · cases ok
    exact state _ _ holds

/-- The index of the first of `attrs` with the id, the first index being `index`. -/
def aclRuleDuplicate (id : AclAttrId) (index : Nat) : List AclRuleAttr → Option Nat
  | [] => none
  | attr :: rest => if id = attr.id then some index else aclRuleDuplicate id (index + 1) rest

def aclCheckRuleLoop (index : Nat) : List AclRuleAttr → SaiStatus
  | [] => .success
  | attr :: rest =>
    match attr with
    | .outOfRange _ => .invalidAttribute index
    | attr =>
      match aclRuleDuplicate attr.id (index + 1) rest with
      | none => aclCheckRuleLoop (index + 1) rest
      | some duplicate => .invalidAttribute duplicate

def AclRuleAttr.isField : AclRuleAttr → Bool
  | .field _ _ _ => true
  | _ => false

/-- The table id in the list, NULL when there is none; `id` is the one found so far. -/
def aclRuleTableId (id : ObjectId) : List AclRuleAttr → ObjectId
  | [] => id
  | .tableId next :: rest => aclRuleTableId next rest
  | _ :: rest => aclRuleTableId id rest

def aclValidateCreateRule (s : AclState) (rule : AclRule) : SaiStatus :=
  if rule.tableId = nullObjectId then .mandatoryAttributeMissing
  else if rule.counterId = nullObjectId then .success
  else match s.counterTree.get rule.counterId with
    | none => .invalidObjectId
    | some counter => if counter.tableId ≠ rule.tableId then .invalidObjectId else .success

def aclValidateSetRule (s : AclState) (modify given : AclRule) : SaiStatus :=
  if modify.tableId ≠ nullObjectId ∧ modify.tableId ≠ given.tableId then .attrNotSupported 0
  else if modify.counterId = nullObjectId ∨ modify.counterId = given.counterId then .success
  else match s.counterTree.get modify.counterId with
    | none => .invalidObjectId
    | some counter => if counter.tableId ≠ given.tableId then .invalidObjectId else .success

end SaiCommon
