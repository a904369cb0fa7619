import SaiCommon.Acl.State

namespace SaiCommon

inductive AclCounterAttr
  | tableId (id : ObjectId)
  | enablePacketCount (enable : Bool)
  | enableByteCount (enable : Bool)
  | packets
  | bytes
  | outOfRange (id : Nat)
deriving DecidableEq

inductive AclCounterAttrId
  | tableId
  | enablePacketCount
  | enableByteCount
  | packets
  | bytes
  | outOfRange (id : Nat)
deriving DecidableEq

def AclCounterAttr.id : AclCounterAttr → AclCounterAttrId
  | .tableId _ => .tableId
  | .enablePacketCount _ => .enablePacketCount
  | .enableByteCount _ => .enableByteCount
  | .packets => .packets
  | .bytes => .bytes
  | .outOfRange id => .outOfRange id

structure AclCounterParse where
  tableId : ObjectId := nullObjectId
  packetCount : Bool := false
  byteCount : Bool := false
  byteAttr : Bool := false
  invalidAttrCnt : Nat := 0
deriving DecidableEq

def aclCntrPopulateAttr (index : Nat) (parse : AclCounterParse) : AclCounterAttr → Except SaiStatus AclCounterParse
  | .tableId id => .ok { parse with tableId := id }
  | .enablePacketCount enable => .ok { parse with packetCount := parse.packetCount || enable }
  | .enableByteCount true => .ok { parse with byteAttr := true, byteCount := true }
  | .enableByteCount false => .ok { parse with byteAttr := true, invalidAttrCnt := index }
  | .packets => .error (.invalidAttribute index)
  | .bytes => .error (.invalidAttribute index)
  | .outOfRange _ => .error (.invalidAttribute index)

def aclCntrDuplicate (id : AclCounterAttrId) (index : Nat) : List AclCounterAttr → Option Nat
  | [] => none
  | attr :: rest => if id = attr.id then some index else aclCntrDuplicate id (index + 1) rest

def aclCntrPopulateLoop (index : Nat) (parse : AclCounterParse) :
    List AclCounterAttr → Except SaiStatus AclCounterParse
  | [] => .ok parse
  | attr :: rest =>
    match aclCntrPopulateAttr index parse attr with
    | .error status => .error status
    | .ok next =>
      match aclCntrDuplicate attr.id (index + 1) rest with
      | none => aclCntrPopulateLoop (index + 1) next rest
      | some duplicate => .error (.invalidAttribute duplicate)

def aclCntrPopulate (attrs : List AclCounterAttr) : Except SaiStatus AclCounter :=
  match aclCntrPopulateLoop 0 {} attrs with
  | .error status => .error status
  | .ok parse =>
    if parse.packetCount && parse.byteCount then .ok ⟨parse.tableId, .bytesPackets⟩
    else if parse.packetCount then .ok ⟨parse.tableId, .packets⟩
    else if parse.byteAttr && !parse.byteCount then .error (.invalidAttrValue parse.invalidAttrCnt)
    else .ok ⟨parse.tableId, .bytes⟩

structure AclCounterCreateEnv where
  allocOk : Bool
  npuTableCreate : SaiStatus
  npu : SaiStatus
  npuObjectId : Nat
  treeOk : Bool
deriving DecidableEq

def createAclCounter (s : AclState) (attrs : List AclCounterAttr) (env : AclCounterCreateEnv) :
    AclState × SaiStatus :=
  if attrs = [] then (s, .invalidParameter)
  else if env.allocOk = false then (s, .noMemory)
  else match aclCntrPopulate attrs with
    | .error status => (s, status)
    | .ok counter =>
      if counter.tableId = nullObjectId then (s, .mandatoryAttributeMissing)
      else match s.tableTree.get counter.tableId with
        | none => (s, .invalidObjectId)
        | some table =>
          match if table.npuTable then .success else env.npuTableCreate with
          | .success =>
            -- The table stays in the NPU when a later step fails.
            let s := { s with tableTree := s.tableTree.put counter.tableId { table with npuTable := true } }
            match env.npu with
            | .success =>
              let counterId : ObjectId := ⟨.aclCounter, env.npuObjectId⟩
              match env.treeOk, s.counterTree.get counterId with
              | true, none =>
                ({ s with
                  tableTree := s.tableTree.modify counter.tableId fun table =>
                    { table with numCounters := table.numCounters + 1 }
                  counterTree := s.counterTree.put counterId counter }, .success)
              | _, _ => (s, .failure)
            | error => (s, error)
          | error => (s, error)

theorem createAclCounter_cases (s : AclState) (attrs : List AclCounterAttr) (env : AclCounterCreateEnv) :
    (createAclCounter s attrs env).1 = s ∨ ∃ counter table t, s.tableTree.get counter.tableId = some table ∧
      t = { s with tableTree := s.tableTree.put counter.tableId { table with npuTable := true } } ∧
      ((createAclCounter s attrs env).1 = t ∨ ∃ counterId, t.counterTree.get counterId = none ∧
        (createAclCounter s attrs env).1 = { t with
          tableTree := t.tableTree.modify counter.tableId fun table =>
            { table with numCounters := table.numCounters + 1 }
          counterTree := t.counterTree.put counterId counter }) := by
  unfold createAclCounter
  split
  · exact .inl rfl
  split
  · exact .inl rfl
  split
  · exact .inl rfl
  rename_i counter _
  split
  · exact .inl rfl
  split
  · exact .inl rfl
  rename_i table stored
  split
  · refine .inr ⟨counter, table, _, stored, rfl, ?_⟩
    dsimp only
    split
    · split
      · rename_i fresh
        exact .inr ⟨_, fresh, rfl⟩
      · exact .inl rfl
    · exact .inl rfl
  · exact .inl rfl

/-- The NPU keeps `shared_count`, the number of rules a counter is attached to. -/
def deleteAclCounter (s : AclState) (counterId : ObjectId) (sharedCount : Nat) (npu : SaiStatus) :
    AclState × SaiStatus :=
  if counterId.objType ≠ .aclCounter then (s, .invalidObjectType)
  else match s.counterTree.get counterId with
    | none => (s, .invalidObjectId)
    | some counter =>
      if sharedCount ≠ 0 then (s, .objectInUse)
      else match npu with
        | .success =>
          ({ s with
            tableTree := s.tableTree.modify counter.tableId fun table =>
              { table with numCounters := table.numCounters - 1 }
            counterTree := s.counterTree.del counterId }, .success)
        | error => (s, error)

def attachCntrToAclRule (s : AclState) (rule : AclRule) (npu : SaiStatus) : SaiStatus :=
  match s.counterTree.get rule.counterId with
  | none => .invalidObjectId
  | some _ => npu

def detachCntrFromAclRule (s : AclState) (rule : AclRule) (npu : SaiStatus) : SaiStatus :=
  match s.counterTree.get rule.counterId with
  | none => .invalidObjectId
  | some counter => if counter.tableId ≠ rule.tableId then .failure else npu

end SaiCommon
