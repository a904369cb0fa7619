import SaiCommon.Acl.State

namespace SaiCommon

/-- A table attribute; `field` are the fields that name no UDF group. -/
inductive AclTableAttr
  | stage (stage : AclStage)
  | priority (value : Nat)
  | size (value : Nat)
  | groupId (id : ObjectId)
  | field (id : Nat)
  | udfField (index : Nat) (groupId : ObjectId)
  | unknown (id : Nat)
  | outOfRange (id : Nat)
deriving DecidableEq

inductive AclTableAttrId
  | stage
  | priority
  | size
  | groupId
  | field (id : Nat)
  | udfField (index : Nat)
  | unknown (id : Nat)
  | outOfRange (id : Nat)
deriving DecidableEq

def AclTableAttr.id : AclTableAttr → AclTableAttrId
  | .stage _ => .stage
  | .priority _ => .priority
  | .size _ => .size
  | .groupId _ => .groupId
  | .field id => .field id
  | .udfField index _ => .udfField index
  | .unknown id => .unknown id
  | .outOfRange id => .outOfRange id

def aclValidStage : AclStage → Bool
  | .other _ => false
  | _ => true

/-- `sai_acl_table_same_priority`: some stored table of the stage has the priority. -/
def aclTableSamePriority (s : AclState) (priority : Nat) (stage : AclStage) : Bool :=
  0 < s.tableTree.tally fun _ table => table.aclTablePriority == priority && table.aclStage == stage

def aclTableGroupIdExist (s : AclState) (groupId : ObjectId) (stage : AclStage) : Bool :=
  0 < s.tableTree.tally fun _ table => table.tableGroupId == groupId && table.aclStage == stage

/-- The first loop over the attributes: the stage is needed for the checks of
the second. -/
def aclTableStageLoop (index : Nat) (stage : Option AclStage) :
    List AclTableAttr → Except SaiStatus (Option AclStage)
  | [] => .ok stage
  | .stage value :: rest =>
    if aclValidStage value = false then .error (.invalidAttrValue index)
    else aclTableStageLoop (index + 1) (some value) rest
  | _ :: rest => aclTableStageLoop (index + 1) stage rest

/-- The checks of one attribute. Without a stage in the list `table_stage` has
no value; such a list is refused in the end, whatever is found here. -/
def aclTableValidateAttr (s : AclState) (lookups : AclLookups) (stage : AclStage) (index : Nat) :
    AclTableAttr → SaiStatus
  | .stage _ => .success
  | .priority value => if aclTableSamePriority s value stage then .invalidAttrValue index else .success
  | .size _ => .success
  | .groupId id =>
    if id.objType ≠ .aclTableGroup then .invalidAttrValue index
    else if aclTableGroupIdExist s id stage = false then .invalidAttrValue index
    else .success
  | .field _ => .success
  | .udfField _ groupId =>
    if groupId.objType ≠ .udfGroup then .invalidAttrValue index
    else indexedRetVal (lookups.udfGroupStatus groupId) index
  | .unknown _ => .unknownAttribute index
  | .outOfRange _ => .invalidAttribute index

/-- The index of the first of `attrs` with the id, the first index being `index`. -/
def aclTableDuplicate (id : AclTableAttrId) (index : Nat) : List AclTableAttr → Option Nat
  | [] => none
  | attr :: rest => if id = attr.id then some index else aclTableDuplicate id (index + 1) rest

def aclTableValidateLoop (s : AclState) (lookups : AclLookups) (stage : AclStage) (index : Nat) :
    List AclTableAttr → SaiStatus
  | [] => .success
  | attr :: rest =>
    match aclTableValidateAttr s lookups stage index attr with
    | .success =>
      match aclTableDuplicate attr.id (index + 1) rest with
      | none => aclTableValidateLoop s lookups stage (index + 1) rest
      | some duplicate => .invalidAttribute duplicate
    | error => error

def AclTableAttr.isPriority : AclTableAttr → Bool
  | .priority _ => true
  | _ => false

def AclTableAttr.isField : AclTableAttr → Bool
  | .field _ => true
  | .udfField _ _ => true
  | _ => false

def aclTableValidateAttributes (s : AclState) (lookups : AclLookups) (attrs : List AclTableAttr) : SaiStatus :=
  match aclTableStageLoop 0 none attrs with
  | .error status => status
  | .ok stage =>
    match aclTableValidateLoop s lookups (stage.getD .ingress) 0 attrs with
    | .success =>
      if stage.isNone then .mandatoryAttributeMissing
      else if attrs.any AclTableAttr.isPriority = false then .mandatoryAttributeMissing
      else if attrs.any AclTableAttr.isField = false then .mandatoryAttributeMissing
      else .success
    | error => error

def AclTable.zero (node : Nat) : AclTable where
  node := node
  tableId := nullObjectId
  aclStage := .ingress
  aclTablePriority := 0
  tableSize := 0
  tableGroupId := nullObjectId
  virtualGroupCreate := false
  udfFieldList := []
  npuTable := false
  ruleHead := []
  ruleCount := 0
  numCounters := 0

def aclTablePopulateAttr (lookups : AclLookups) (table : AclTable) : AclTableAttr → Except SaiStatus AclTable
  | .stage value => .ok { table with aclStage := value }
  | .priority value => .ok { table with aclTablePriority := value }
  | .size value => .ok { table with tableSize := value }
  | .groupId id => .ok { table with tableGroupId := id, virtualGroupCreate := true }
  | .udfField index groupId =>
    match lookups.udfHwId groupId with
    | (.success, udfNpuId) =>
      .ok { table with udfFieldList := table.udfFieldList ++ [⟨index, groupId, udfNpuId⟩] }
    | (error, _) => .error error
  | _ => .ok table

def aclTablePopulateLoop (lookups : AclLookups) (table : AclTable) : List AclTableAttr → Except SaiStatus AclTable
  | [] => .ok table
  | attr :: rest =>
    match aclTablePopulateAttr lookups table attr with
    | .error status => .error status
    | .ok next => aclTablePopulateLoop lookups next rest

def aclTablePopulate (lookups : AclLookups) (table : AclTable) (attrs : List AclTableAttr) :
    Except SaiStatus AclTable :=
  if lookups.listAlloc = false then .error .noMemory else aclTablePopulateLoop lookups table attrs

theorem aclTablePopulate_frame {lookups : AclLookups} {table next : AclTable} {attrs : List AclTableAttr}
    (ok : aclTablePopulate lookups table attrs = .ok next) : next.node = table.node ∧
      next.ruleHead = table.ruleHead ∧ next.ruleCount = table.ruleCount ∧ next.numCounters = table.numCounters := by
  have loop : ∀ table, aclTablePopulateLoop lookups table attrs = .ok next → next.node = table.node ∧
      next.ruleHead = table.ruleHead ∧ next.ruleCount = table.ruleCount ∧ next.numCounters = table.numCounters := by
    clear ok
    induction attrs with
    | nil =>
      intro table populated
      cases populated
      exact ⟨rfl, rfl, rfl, rfl⟩
    | cons attr rest ih =>
      intro table populated
      unfold aclTablePopulateLoop at populated
      split at populated
      · cases populated
      rename_i made
      obtain ⟨node, head, count, counters⟩ := ih _ populated
      rw [node, head, count, counters]
      unfold aclTablePopulateAttr at made
      split at made
      case h_5 =>
        split at made
        · cases made
          exact ⟨rfl, rfl, rfl, rfl⟩
        · cases made
      all_goals
        cases made
        exact ⟨rfl, rfl, rfl, rfl⟩
  unfold aclTablePopulate at ok
  split at ok
  · cases ok
  · exact loop table ok

def aclTableIdAlloc (platform : AclPlatform) (s : AclState) : Option Nat :=
  ((List.range platform.tableIdMax).map (· + 1)).find? fun id => !s.tableInUse id

def AclState.markTableId (s : AclState) (number : Nat) (inUse : Bool) : AclState :=
  { s with tableInUse := Function.update s.tableInUse number inUse }

structure AclTableCreateEnv where
  lookups : AclLookups
  validateField : SaiStatus
  npuCreate : SaiStatus
  treeOk : Bool

def AclTable.needsNpuTable (table : AclTable) : Bool :=
  table.tableSize ≠ 0 || (table.tableGroupId ≠ nullObjectId && table.virtualGroupCreate)

def AclTable.withId (table : AclTable) (number : Nat) : AclTable :=
  { table with
    tableId := ⟨.aclTable, number⟩
    tableGroupId := if table.virtualGroupCreate then table.tableGroupId else ⟨.aclTableGroup, number⟩ }

def createAclTableLocked (platform : AclPlatform) (s : AclState) (attrs : List AclTableAttr)
    (env : AclTableCreateEnv) : AclState × SaiStatus :=
  let node := s.allocated
  let s := { s with allocated := node + 1 }
  match aclTablePopulate env.lookups (.zero node) attrs with
  | .error status => (s, status)
  | .ok table =>
    match env.validateField with
    | .success =>
      match aclTableIdAlloc platform s with
      | none => (s, .tableFull)
      | some number =>
        let table := table.withId number
        match if table.needsNpuTable then env.npuCreate else .success with
        | .success =>
          match env.treeOk, s.tableTree.get table.tableId with
          | true, none =>
            ({ s.markTableId number true with
              tableTree := s.tableTree.put table.tableId { table with npuTable := table.needsNpuTable } }, .success)
          | _, _ => (s.markTableId number false, .failure)
        | error => (s.markTableId number false, error)
    | error => (s, error)

/-- The table leaves the tree before the NPU is asked and is inserted again
when that refuses. -/
def deleteAclTable (s : AclState) (tableId : ObjectId) (npu : SaiStatus) : AclState × SaiStatus :=
  if tableId.objType ≠ .aclTable then (s, .invalidObjectType)
  else match s.tableTree.get tableId with
    | none => (s, .invalidObjectId)
    | some table =>
      if 0 < table.ruleCount then (s, .objectInUse)
      else if 0 < table.numCounters then (s, .objectInUse)
      else match npu with
        | .success =>
          ({ s.markTableId tableId.npuObjectId false with tableTree := s.tableTree.del tableId }, .success)
        | error => ({ s with tableTree := (s.tableTree.del tableId).put tableId table }, error)

end SaiCommon
