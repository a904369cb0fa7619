import SaiCommon.Acl.Counter
import SaiCommon.Acl.RuleUtils

namespace SaiCommon

/-- What a set finds about a filter or an action of the scratch rule: the
stored rule has it unchanged, has it with another value, or lacks it. -/
inductive AclMark
  | same
  | change
  | new
deriving DecidableEq

/-- `sai_acl_check_filter_change`. Object lists are compared by their
addresses, and those of a copy differ. -/
def aclCheckFilterChange (given scan : AclFilter) : Bool :=
  scan.enable ≠ given.enable ||
    match scan.field with
    | .udf _ => scan.fieldValue.u8Data ≠ given.fieldValue.u8Data ||
        scan.fieldValue.u8Mask ≠ given.fieldValue.u8Mask
    | .inPorts => true
    | .outPorts => true
    | _ => scan.fieldValue ≠ given.fieldValue

def aclCheckActionChange (given scan : AclAction) : Bool :=
  scan.enable ≠ given.enable || aclObjectListActionAttr scan.action || scan.parameter ≠ given.parameter

/-- The filter loop of `sai_acl_rule_set_field_action`, for one scanned filter. -/
def aclFilterMark (given : List AclFilter) (scan : AclFilter) : AclMark :=
  match given.find? fun filter => filter.field == scan.field with
  | none => .new
  | some filter => if aclCheckFilterChange filter scan then .change else .same

/-- The action loop of `sai_acl_rule_set_field_action`, for one scanned action. -/
def aclActionMark (given : List AclAction) (scan : AclAction) : AclMark :=
  match given.find? fun action => action.action == scan.action with
  | none => .new
  | some action => if aclCheckActionChange action scan then .change else .same

/-- What the world outside answers to the update of a stored rule; `beyond` is
the memory behind a list that is read past its end. -/
structure AclUpdateEnv where
  alloc : Bool
  attachCntr : SaiStatus
  detachCntr : SaiStatus
  beyond : Nat → UInt8

def readBytes (beyond : Nat → UInt8) (count : Nat) (list : List UInt8) : List UInt8 :=
  (List.range count).map fun i => list.getD i (beyond i)

/-- `sai_acl_rule_update_object_list`: the new destination list. -/
def aclRuleUpdateObjectList (env : AclUpdateEnv) (src dst : List ObjectId) (srcAction : Bool) :
    Except SaiStatus (List ObjectId) :=
  if dst ≠ [] then
    if srcAction = false then .ok []
    else if src ≠ [] ∧ src.length ≠ dst.length then
      if env.alloc = false then .error .noMemory else .ok src
    else if src.length = dst.length then .ok src
    else .ok dst
  else if srcAction = true ∧ src ≠ [] then
    if env.alloc = false then .error .noMemory else .ok src
  else .ok []

/-- `sai_acl_rule_update_byte_list`: data and mask are both cut or read to the
length of the new data. A destination with one empty list only has no memory
for that list. -/
def aclRuleUpdateByteList (env : AclUpdateEnv) (src dst : AclFieldValue) (srcAction : Bool) :
    Except SaiStatus AclFieldValue :=
  let copied : AclFieldValue :=
    { dst with u8Data := src.u8Data, u8Mask := readBytes env.beyond src.u8Data.length src.u8Mask }
  if dst.u8Data ≠ [] ∨ dst.u8Mask ≠ [] then
    if dst.u8Data = [] ∨ dst.u8Mask = [] then .error .failure
    else if srcAction = false then .ok { dst with u8Data := [], u8Mask := [] }
    else if src.u8Data ≠ [] ∧ src.u8Data.length ≠ dst.u8Data.length then
      if env.alloc = false then .error .noMemory else .ok copied
    else if src.u8Data.length = dst.u8Data.length ∧ src.u8Data.length = dst.u8Mask.length then .ok copied
    else .ok dst
  else if srcAction = true ∧ src.u8Data ≠ [] then
    if env.alloc = false then .error .noMemory else .ok copied
  else .ok { dst with u8Data := [], u8Mask := [] }

/-- A changed filter of `sai_acl_rule_update_field_action`. The enable state
is written before the lists are. -/
def aclFilterUpdate (env : AclUpdateEnv) (scan given : AclFilter) : AclFilter × SaiStatus :=
  if aclPortlistAttr given.field then
    match aclRuleUpdateObjectList env scan.fieldValue.objList given.fieldValue.objList scan.enable with
    | .error status => ({ given with enable := scan.enable }, status)
    | .ok objList =>
      ({ given with enable := scan.enable, fieldValue := { given.fieldValue with objList := objList } },
        .success)
  else match given.field with
    | .udf _ =>
      match aclRuleUpdateByteList env scan.fieldValue given.fieldValue scan.enable with
      | .error status => ({ given with enable := scan.enable }, status)
      | .ok value => ({ given with enable := scan.enable, fieldValue := value }, .success)
    | _ => (scan, .success)

def aclFilterListUpdate (env : AclUpdateEnv) (scan : AclFilter) : List AclFilter → List AclFilter × SaiStatus
  | [] => ([], .success)
  | given :: rest =>
    if given.field = scan.field then
      let (next, status) := aclFilterUpdate env scan given
      (next :: rest, status)
    else
      let (next, status) := aclFilterListUpdate env scan rest
      (given :: next, status)

/-- A new filter of `sai_acl_rule_update_new_fields`: of a filter with lists
only the field, the enable state and the lists are taken over. -/
def aclFilterNew (env : AclUpdateEnv) (scan : AclFilter) : Except SaiStatus AclFilter :=
  if aclPortlistAttr scan.field then
    match aclRuleUpdateObjectList env scan.fieldValue.objList [] scan.enable with
    | .error status => .error status
    | .ok objList => .ok ⟨scan.field, scan.enable, { objList := objList }, none⟩
  else match scan.field with
    | .udf _ =>
      match aclRuleUpdateByteList env scan.fieldValue {} scan.enable with
      | .error status => .error status
      | .ok value => .ok ⟨scan.field, scan.enable, value, none⟩
    | _ => .ok scan

def aclRuleUpdateCounterAction (s : AclState) (env : AclUpdateEnv) (scan given : AclRule)
    (counterAction : Bool) : AclRule × SaiStatus :=
  if counterAction = false then
    if given.counterId ≠ nullObjectId then
      match detachCntrFromAclRule s given env.detachCntr with
      | .success => ({ given with counterId := nullObjectId }, .success)
      | error => (given, error)
    else (given, .success)
  else if given.counterId ≠ nullObjectId then
    if scan.counterId ≠ given.counterId then
      match detachCntrFromAclRule s given env.detachCntr with
      | .success =>
        let next := { given with counterId := scan.counterId }
        (next, attachCntrToAclRule s next env.attachCntr)
      | error => (given, error)
    else (given, .success)
  else
    let next := { given with counterId := scan.counterId }
    (next, attachCntrToAclRule s next env.attachCntr)

/-- A changed action that is no counter action. -/
def aclActionUpdate (env : AclUpdateEnv) (scan given : AclAction) : AclAction × SaiStatus :=
  if aclObjectListActionAttr given.action then
    match aclRuleUpdateObjectList env scan.parameter.objList given.parameter.objList scan.enable with
    | .error status => ({ given with enable := scan.enable }, status)
    | .ok objList =>
      ({ given with enable := scan.enable, parameter := { given.parameter with objList := objList } },
        .success)
  else (scan, .success)

def aclActionListUpdate (env : AclUpdateEnv) (scan : AclAction) : List AclAction → List AclAction × SaiStatus
  | [] => ([], .success)
  | given :: rest =>
    if given.action = scan.action then
      let (next, status) := aclActionUpdate env scan given
      (next :: rest, status)
    else
      let (next, status) := aclActionListUpdate env scan rest
      (given :: next, status)

def aclActionNew (env : AclUpdateEnv) (scan : AclAction) : Except SaiStatus AclAction :=
  if aclObjectListActionAttr scan.action then
    match aclRuleUpdateObjectList env scan.parameter.objList [] scan.enable with
    | .error status => .error status
    | .ok objList => .ok ⟨scan.action, scan.enable, { objList := objList }⟩
  else .ok scan

def aclFilterChangeLoop (env : AclUpdateEnv) (marks : AclFilter → AclMark) (given : AclRule) :
    List AclFilter → AclRule × SaiStatus
  | [] => (given, .success)
  | scan :: rest =>
    if marks scan = .change then
      match aclFilterListUpdate env scan given.filterList with
      | (next, .success) => aclFilterChangeLoop env marks { given with filterList := next } rest
      | (next, error) => ({ given with filterList := next }, error)
    else aclFilterChangeLoop env marks given rest

/-- The change loop over the scanned actions. The counter is moved before its
action is written. -/
def aclActionChangeLoop (s : AclState) (env : AclUpdateEnv) (marks : AclAction → AclMark) (modify given : AclRule) :
    List AclAction → AclRule × SaiStatus
  | [] => (given, .success)
  | scan :: rest =>
    if marks scan = .change then
      match if scan.action = .counter then aclRuleUpdateCounterAction s env modify given scan.enable
        else (given, .success) with
      | (given, .success) =>
        match aclActionListUpdate env scan given.actionList with
        | (next, .success) => aclActionChangeLoop s env marks modify { given with actionList := next } rest
        | (next, error) => ({ given with actionList := next }, error)
      | (given, error) => (given, error)
    else aclActionChangeLoop s env marks modify given rest

/-- `sai_acl_rule_update_new_fields`: the new filters are put behind the old
ones when all of them could be made. -/
def aclNewFilters (env : AclUpdateEnv) (marks : AclFilter → AclMark) :
    List AclFilter → Except SaiStatus (List AclFilter)
  | [] => .ok []
  | scan :: rest =>
    if marks scan = .new then
      match aclFilterNew env scan with
      | .error status => .error status
      | .ok filter =>
        match aclNewFilters env marks rest with
        | .error status => .error status
        | .ok filters => .ok (filter :: filters)
    else aclNewFilters env marks rest

def aclRuleUpdateNewFields (env : AclUpdateEnv) (marks : AclFilter → AclMark) (modify given : AclRule) :
    AclRule × SaiStatus :=
  if env.alloc = false then (given, .noMemory)
  else match aclNewFilters env marks modify.filterList with
    | .error status => (given, status)
    | .ok filters => ({ given with filterList := given.filterList ++ filters }, .success)

/-- `sai_acl_rule_update_new_actions`. A counter that was moved stays moved
when a later action fails. -/
def aclNewActions (s : AclState) (env : AclUpdateEnv) (marks : AclAction → AclMark) (modify given : AclRule) :
    List AclAction → AclRule × Except SaiStatus (List AclAction)
  | [] => (given, .ok [])
  | scan :: rest =>
    if marks scan = .new then
      match aclActionNew env scan with
      | .error status => (given, .error status)
      | .ok action =>
        match if scan.action = .counter then aclRuleUpdateCounterAction s env modify given scan.enable
          else (given, .success) with
        | (given, .success) =>
          match aclNewActions s env marks modify given rest with
          | (given, .error status) => (given, .error status)
          | (given, .ok actions) => (given, .ok (action :: actions))
        | (given, error) => (given, .error error)
    else aclNewActions s env marks modify given rest

def aclRuleUpdateNewActions (s : AclState) (env : AclUpdateEnv) (marks : AclAction → AclMark)
    (modify given : AclRule) : AclRule × SaiStatus :=
  if env.alloc = false then (given, .noMemory)
  else match aclNewActions s env marks modify given modify.actionList with
    | (given, .error status) => (given, status)
    | (given, .ok actions) => ({ given with actionList := given.actionList ++ actions }, .success)

/-- `sai_acl_rule_update_field_action`: first what changes, then what is new.
A set carries one attribute, so that filters and actions are never both new. -/
def aclRuleUpdateFieldAction (s : AclState) (env : AclUpdateEnv) (modify given : AclRule) : AclRule × SaiStatus :=
  let filterMark := aclFilterMark given.filterList
  let actionMark := aclActionMark given.actionList
  match aclFilterChangeLoop env filterMark given modify.filterList with
  | (given, .success) =>
    match aclActionChangeLoop s env actionMark modify given modify.actionList with
    | (given, .success) =>
      match if modify.filterList.any fun scan => filterMark scan = .new then
          aclRuleUpdateNewFields env filterMark modify given else (given, .success) with
      | (given, .success) =>
        if modify.actionList.any fun scan => actionMark scan = .new then
          aclRuleUpdateNewActions s env actionMark modify given
        else (given, .success)
      | (given, error) => (given, error)
    | (given, error) => (given, error)
  | (given, error) => (given, error)

/-- `sai_acl_rule_update` after a set that the NPU accepted. A failed update of
the fields and actions is not reported. -/
def aclRuleUpdate (s : AclState) (platform : AclPlatform) (env : AclUpdateEnv) (modify given : AclRule) : AclRule :=
  let stateChange := modify.aclRuleState ≠ platform.defaultAdminState ∧ modify.aclRuleState ≠ given.aclRuleState
  let next := { given with
    aclRulePriority := modify.aclRulePriority
    aclRuleState := if stateChange then modify.aclRuleState else given.aclRuleState }
  (aclRuleUpdateFieldAction s env modify next).1

end SaiCommon
