import SaiCommon.Acl.RuleUpdate
import SaiCommon.Lib.Blocks

namespace SaiCommon
open Blocks

inductive AclListKey
  | field (id : AclFieldId)
  | action (id : AclActionId)
deriving DecidableEq

inductive AclListKind
  | objects
  | bytes
  | plain
deriving DecidableEq

/-- `sai_acl_object_list_field_attr`, `sai_acl_rule_udf_field_attr_range` and
`sai_acl_object_list_action_attr`. -/
def AclListKey.kind : AclListKey → AclListKind
  | .field (.udf _) => .bytes
  | .field id => if aclPortlistAttr id then .objects else .plain
  | .action id => if aclObjectListActionAttr id then .objects else .plain

/-- A filter or an action with its lists in memory; `plain` are the members of
its match data and mask or of its parameter that are no lists. -/
structure MemEntry where
  key : AclListKey
  enable : Bool
  plain : AclFieldValue := {}
  objList : Cell := {}
  u8Data : Cell := {}
  u8Mask : Cell := {}
deriving DecidableEq

/-- A rule, of which only its filters and actions are kept. `filterListFreed` says
that the array of its filters was freed. -/
structure MemRule where
  filterList : List MemEntry := []
  filterListFreed : Bool := false
  actionList : List MemEntry := []
deriving DecidableEq

structure AclMem where
  bytes : Mem UInt8
  oids : Mem ObjectId

/-- Which calls of calloc for lists find memory. -/
structure AclGrants where
  bytes : Nat → Bool
  oids : Nat → Bool

section Populate
variable (grants : AclGrants) (mem : AclMem)

/-- The copies of the lists of the caller in `sai_acl_rule_filter_populate_object_list`,
`sai_acl_rule_filter_populate_u8_list` and `sai_acl_rule_action_populate_object_list`. -/
def memPlace (entry : MemEntry) (value : AclFieldValue) : Except Fault (AclMem × Option MemEntry) :=
  match entry.key.kind with
  | .plain => .ok (mem, some { entry with plain := value })
  | .objects =>
    match calloc mem.oids grants.oids nullObjectId value.objList.length with
    | (oids, none) => .ok ({ mem with oids := oids }, none)
    | (oids, some address) =>
      match store oids (some address) value.objList with
      | .error fault => .error fault
      | .ok oids => .ok ({ mem with oids := oids },
        some { entry with objList := ⟨value.objList.length, some address⟩ })
  | .bytes =>
    match callocPair mem.bytes grants.bytes 0 value.u8Data.length value.u8Mask.length with
    | .error fault => .error fault
    | .ok (bytes, none) => .ok ({ mem with bytes := bytes }, none)
    | .ok (bytes, some (data, mask)) =>
      match store bytes (some data) value.u8Data with
      | .error fault => .error fault
      | .ok bytes =>
        match store bytes (some mask) value.u8Mask with
        | .error fault => .error fault
        | .ok bytes => .ok ({ mem with bytes := bytes }, some { entry with
            u8Data := ⟨value.u8Data.length, some data⟩
            u8Mask := ⟨value.u8Mask.length, some mask⟩ })

/-- The part of `sai_acl_rule_populate` for one attribute: `checked` is what the checks
of the populate helpers leave of its value, `late` the status of what follows them.
The lists are lost when that fails. -/
def memEntryPopulate (key : AclListKey) (enable : Bool) (checked : Except SaiStatus AclFieldValue) (late : SaiStatus) :
    Except Fault (AclMem × Except SaiStatus MemEntry) :=
  match checked with
  | .error status => .ok (mem, .error status)
  | .ok value =>
    match if enable = false ∧ key.kind ≠ .plain then .ok (mem, some { key := key, enable := enable })
      else memPlace grants mem { key := key, enable := enable } value with
    | .error fault => .error fault
    | .ok (mem, none) => .ok (mem, .error .noMemory)
    | .ok (mem, some entry) =>
      match late with
      | .success => .ok (mem, .ok entry)
      | error => .ok (mem, .error error)

end Populate

structure AclPopulateEnv where
  lookups : AclLookups
  platform : AclPlatform
  table : AclTable
  grants : AclGrants

/-- The checks of the populate helpers, apart from the allocation of lists. -/
def AclPopulateEnv.checks (env : AclPopulateEnv) : AclLookups :=
  { env.lookups with valueAlloc := fun _ => true }

/-- The members of a parameter in those of a match data. -/
def AclParameter.fieldValue (parameter : AclParameter) : AclFieldValue :=
  { data := parameter.value, oid := parameter.oid, objList := parameter.objList }

def errorOf {α : Type} : Except SaiStatus α → SaiStatus
  | .error status => status
  | .ok _ => .success

section Attr
variable (env : AclPopulateEnv) (index : Nat) (mem : AclMem)

/-- For a UDF field the group is looked up last. -/
def aclUdfFilterStatus : AclFieldId → SaiStatus
  | .udf udfIndex => indexedRetVal (errorOf (aclUdfFilterPopulate env.lookups env.table udfIndex)) index
  | _ => .success

def memFilterPopulate (id : AclFieldId) (enable : Bool) (value : AclFieldValue) :
    Except Fault (AclMem × Except SaiStatus MemEntry) :=
  let field := aclStoredField env.table id
  memEntryPopulate env.grants mem (.field field) enable
    ((aclFilterPopulateAttrType env.checks index field enable value).mapError fun status => indexedRetVal status index)
    (aclUdfFilterStatus env index field)

def memActionPopulate (id : AclActionId) (enable : Bool) (parameter : AclParameter) :
    Except Fault (AclMem × Except SaiStatus MemEntry) :=
  memEntryPopulate env.grants mem (.action id) enable
    (((aclActionPopulateAttrType env.checks index id enable parameter).map AclParameter.fieldValue).mapError
      fun status => indexedRetVal status index)
    (errorOf (aclActionEffect index env.platform .zero id enable parameter.oid))

/-- The body of the loop of `sai_acl_rule_populate`. -/
def memRulePopulateAttr (rule : MemRule) : AclRuleAttr → Except Fault (AclMem × Except SaiStatus MemRule)
  | .field id enable value =>
    match memFilterPopulate env index mem id enable value with
    | .error fault => .error fault
    | .ok (mem, .error status) => .ok (mem, .error status)
    | .ok (mem, .ok filter) => .ok (mem, .ok { rule with filterList := rule.filterList ++ [filter] })
  | .action id enable parameter =>
    match memActionPopulate env index mem id enable parameter with
    | .error fault => .error fault
    | .ok (mem, .error status) => .ok (mem, .error status)
    | .ok (mem, .ok action) => .ok (mem, .ok { rule with actionList := rule.actionList ++ [action] })
  | .tableId _ => .ok (mem, .ok rule)
  | .priority _ => .ok (mem, .ok rule)
  | .adminState _ => .ok (mem, .ok rule)
  | .unknown _ => .ok (mem, .error (.unknownAttribute index))
  | .outOfRange _ => .ok (mem, .error (.unknownAttribute index))

end Attr

/-- The counts of a rule are set last: the lists of a rule that could not be
populated are lost. -/
def memRulePopulateLoop (env : AclPopulateEnv) (index : Nat) (mem : AclMem) (rule : MemRule) :
    List AclRuleAttr → Except Fault (AclMem × Except SaiStatus MemRule)
  | [] => .ok (mem, .ok rule)
  | attr :: rest =>
    match memRulePopulateAttr env index mem rule attr with
    | .error fault => .error fault
    | .ok (mem, .error status) => .ok (mem, .error status)
    | .ok (mem, .ok rule) => memRulePopulateLoop env (index + 1) mem rule rest

def memRulePopulate (env : AclPopulateEnv) (mem : AclMem) (attrs : List AclRuleAttr) :
    Except Fault (AclMem × Except SaiStatus MemRule) :=
  if env.lookups.listAlloc = false then .ok (mem, .error .noMemory)
  else memRulePopulateLoop env 0 mem {} attrs

def memFreeEntry (mem : AclMem) (entry : MemEntry) : Except Fault AclMem :=
  match entry.key.kind with
  | .plain => .ok mem
  | .objects =>
    match free mem.oids entry.objList.list with
    | .error fault => .error fault
    | .ok oids => .ok { mem with oids := oids }
  | .bytes =>
    match free mem.bytes entry.u8Data.list with
    | .error fault => .error fault
    | .ok bytes =>
      match free bytes entry.u8Mask.list with
      | .error fault => .error fault
      | .ok bytes => .ok { mem with bytes := bytes }

def memFreeEntries (mem : AclMem) : List MemEntry → Except Fault AclMem
  | [] => .ok mem
  | entry :: rest =>
    match memFreeEntry mem entry with
    | .error fault => .error fault
    | .ok mem => memFreeEntries mem rest

def memRuleFree (mem : AclMem) (rule : MemRule) : Except Fault AclMem :=
  if rule.filterListFreed then .error .freed
  else match memFreeEntries mem rule.filterList with
    | .error fault => .error fault
    | .ok mem => memFreeEntries mem rule.actionList

def memRuleCopyEntry (grants : AclGrants) (mem : AclMem) (src : MemEntry) :
    Except Fault (AclMem × Except SaiStatus MemEntry) :=
  match src.key.kind with
  | .plain => .ok (mem, .ok { key := src.key, enable := src.enable, plain := src.plain })
  | .objects =>
    if src.objList.list = none ∧ src.objList.count ≠ 0 then .ok (mem, .error .failure)
    else match calloc mem.oids grants.oids nullObjectId src.objList.count with
      | (oids, none) => .ok ({ mem with oids := oids }, .error .noMemory)
      | (oids, some address) =>
        match memcpy oids (some address) src.objList.list src.objList.count with
        | .error fault => .error fault
        | .ok oids => .ok ({ mem with oids := oids },
            .ok { key := src.key, enable := src.enable, objList := ⟨src.objList.count, some address⟩ })
  | .bytes =>
    if src.u8Data.list = none ∧ src.u8Data.count ≠ 0 ∨ src.u8Mask.list = none ∧ src.u8Mask.count ≠ 0 then
      .ok (mem, .error .failure)
    else match callocPair mem.bytes grants.bytes 0 src.u8Data.count src.u8Mask.count with
      | .error fault => .error fault
      | .ok (bytes, none) => .ok ({ mem with bytes := bytes }, .error .noMemory)
      | .ok (bytes, some (data, mask)) =>
        match memcpy bytes (some data) src.u8Data.list src.u8Data.count with
        | .error fault => .error fault
        | .ok bytes =>
          match memcpy bytes (some mask) src.u8Mask.list src.u8Mask.count with
          | .error fault => .error fault
          | .ok bytes => .ok ({ mem with bytes := bytes }, .ok { key := src.key, enable := src.enable,
                                                                 u8Data := ⟨src.u8Data.count, some data⟩,
                                                                 u8Mask := ⟨src.u8Mask.count, some mask⟩ })

def memRuleCopyEntries (grants : AclGrants) (mem : AclMem) :
    List MemEntry → Except Fault (AclMem × Except SaiStatus (List MemEntry))
  | [] => .ok (mem, .ok [])
  | src :: rest =>
    match memRuleCopyEntry grants mem src with
    | .error fault => .error fault
    | .ok (mem, .error status) => .ok (mem, .error status)
    | .ok (mem, .ok entry) =>
      match memRuleCopyEntries grants mem rest with
      | .error fault => .error fault
      | .ok (mem, .error status) => .ok (mem, .error status)
      | .ok (mem, .ok entries) => .ok (mem, .ok (entry :: entries))

end SaiCommon
