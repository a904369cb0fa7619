import SaiCommon.Acl.RuleMemory

namespace SaiCommon
open Blocks

def memCheckChange (mem : AclMem) (given scan : MemEntry) : Except Fault Bool :=
  let change : Bool := scan.enable ≠ given.enable
  match scan.key.kind with
  | .bytes =>
    if scan.u8Data.count ≠ given.u8Data.count ∨ scan.u8Mask.count ≠ given.u8Mask.count then .ok true
    else match memcmp mem.bytes scan.u8Data.list given.u8Data.list scan.u8Data.count with
      | .error fault => .error fault
      | .ok true => .ok true
      | .ok false =>
        match memcmp mem.bytes scan.u8Mask.list given.u8Mask.list scan.u8Mask.count with
        | .error fault => .error fault
        | .ok differ => .ok (change || differ)
  | _ => .ok (change || scan.objList ≠ given.objList || scan.plain ≠ given.plain)

def memEntryOf (key : AclListKey) (entries : List MemEntry) : Option MemEntry :=
  entries.find? fun entry => entry.key == key

/-- The loops of `sai_acl_rule_set_field_action`, for one scanned filter or action. -/
def memEntryMark (mem : AclMem) (given : List MemEntry) (scan : MemEntry) : Except Fault AclMark :=
  match memEntryOf scan.key given with
  | none => .ok .new
  | some entry =>
    match memCheckChange mem entry scan with
    | .error fault => .error fault
    | .ok change => .ok (if change then .change else .same)

def memEntryMarks (mem : AclMem) (given : List MemEntry) : List MemEntry → Except Fault (List (MemEntry × AclMark))
  | [] => .ok []
  | scan :: rest =>
    match memEntryMark mem given scan with
    | .error fault => .error fault
    | .ok mark =>
      match memEntryMarks mem given rest with
      | .error fault => .error fault
      | .ok marks => .ok ((scan, mark) :: marks)

/-- `sai_acl_rule_update_byte_list`: the count of the new data is used for the
mask too. -/
def memRuleUpdateByteList (m : Mem UInt8) (grants : Nat → Bool) (srcData srcMask dstData dstMask : Cell)
    (srcAction : Bool) : Except Fault (Mem UInt8 × (Cell × Cell) × SaiStatus) :=
  let byteCnt := srcData.count
  if dstData.count ≠ 0 ∨ dstMask.count ≠ 0 then
    if dstData.list = none ∨ dstMask.list = none then .ok (m, (dstData, dstMask), .failure)
    else if srcAction = false then
      match free m dstData.list with
      | .error fault => .error fault
      | .ok m =>
        match free m dstMask.list with
        | .error fault => .error fault
        | .ok m => .ok (m, ({}, {}), .success)
    else if srcData.count ≠ 0 ∧ srcData.count ≠ dstData.count then
      match callocPair m grants 0 byteCnt byteCnt with
      | .error fault => .error fault
      | .ok (m, none) => .ok (m, (dstData, dstMask), .noMemory)
      | .ok (m, some (byteDataList, byteMaskList)) =>
        match free m dstData.list with
        | .error fault => .error fault
        | .ok m =>
          match free m dstMask.list with
          | .error fault => .error fault
          | .ok m =>
            match memcpy m (some byteDataList) srcData.list byteCnt with
            | .error fault => .error fault
            | .ok m =>
              match memcpy m (some byteMaskList) srcMask.list byteCnt with
              | .error fault => .error fault
              | .ok m => .ok (m, (⟨byteCnt, some byteDataList⟩, ⟨byteCnt, some byteMaskList⟩), .success)
    else if srcData.count = dstData.count ∧ srcData.count = dstMask.count then
      match memcpy m dstData.list srcData.list byteCnt with
      | .error fault => .error fault
      | .ok m =>
        match memcpy m dstMask.list srcMask.list byteCnt with
        | .error fault => .error fault
        | .ok m => .ok (m, (dstData, dstMask), .success)
    else .ok (m, (dstData, dstMask), .success)
  else match free m dstData.list with
    | .error fault => .error fault
    | .ok m =>
      match free m dstMask.list with
      | .error fault => .error fault
      | .ok m =>
        if srcAction = true ∧ srcData.count ≠ 0 then
          match callocPair m grants 0 byteCnt byteCnt with
          | .error fault => .error fault
          | .ok (m, none) => .ok (m, ({}, {}), .noMemory)
          | .ok (m, some (byteDataList, byteMaskList)) =>
            match memcpy m (some byteDataList) srcData.list byteCnt with
            | .error fault => .error fault
            | .ok m =>
              match memcpy m (some byteMaskList) srcMask.list byteCnt with
              | .error fault => .error fault
              | .ok m => .ok (m, (⟨byteCnt, some byteDataList⟩, ⟨byteCnt, some byteMaskList⟩), .success)
        else .ok (m, ({}, {}), .success)

def memRuleUpdateObjectList (m : Mem ObjectId) (grants : Nat → Bool) (src dst : Cell) (srcAction : Bool) :
    Except Fault (Mem ObjectId × Cell × SaiStatus) :=
  let objectCnt := src.count
  if dst.count ≠ 0 then
    if dst.list = none then .ok (m, dst, .failure)
    else if srcAction = false then
      match free m dst.list with
      | .error fault => .error fault
      | .ok m => .ok (m, {}, .success)
    else if src.count ≠ 0 ∧ src.count ≠ dst.count then
      match calloc m grants nullObjectId objectCnt with
      | (m, none) => .ok (m, dst, .noMemory)
      | (m, some objectList) =>
        match free m dst.list with
        | .error fault => .error fault
        | .ok m =>
          match memcpy m (some objectList) src.list objectCnt with
          | .error fault => .error fault
          | .ok m => .ok (m, ⟨objectCnt, some objectList⟩, .success)
    else if src.count = dst.count then
      match memcpy m dst.list src.list objectCnt with
      | .error fault => .error fault
      | .ok m => .ok (m, dst, .success)
    else .ok (m, dst, .success)
  else match free m dst.list with
    | .error fault => .error fault
    | .ok m =>
      if srcAction = true ∧ src.count ≠ 0 then
        match calloc m grants nullObjectId objectCnt with
        | (m, none) => .ok (m, {}, .noMemory)
        | (m, some objectList) =>
          match memcpy m (some objectList) src.list objectCnt with
          | .error fault => .error fault
          | .ok m => .ok (m, ⟨objectCnt, some objectList⟩, .success)
      else .ok (m, {}, .success)

/-- Write the lists of `scan` to an entry whose key and enable state are those of
`scan` already. -/
def memEntryLists (grants : AclGrants) (mem : AclMem) (scan given : MemEntry) :
    Except Fault (AclMem × MemEntry × SaiStatus) :=
  match given.key.kind with
  | .plain => .ok (mem, { key := scan.key, enable := scan.enable, plain := scan.plain }, .success)
  | .objects =>
    match memRuleUpdateObjectList mem.oids grants.oids scan.objList given.objList scan.enable with
    | .error fault => .error fault
    | .ok (oids, objList, status) => .ok ({ mem with oids := oids }, { given with objList := objList }, status)
  | .bytes =>
    match memRuleUpdateByteList mem.bytes grants.bytes scan.u8Data scan.u8Mask given.u8Data given.u8Mask
      scan.enable with
    | .error fault => .error fault
    | .ok (bytes, (u8Data, u8Mask), status) =>
      .ok ({ mem with bytes := bytes }, { given with u8Data := u8Data, u8Mask := u8Mask }, status)

/-- The change of the first stored filter or action with the key of `scan`. -/
def memEntryUpdate (grants : AclGrants) (mem : AclMem) (scan : MemEntry) :
    List MemEntry → Except Fault (AclMem × List MemEntry × SaiStatus)
  | [] => .ok (mem, [], .success)
  | given :: rest =>
    if given.key = scan.key then
      match memEntryLists grants mem scan { given with enable := scan.enable } with
      | .error fault => .error fault
      | .ok (mem, next, status) => .ok (mem, next :: rest, status)
    else
      match memEntryUpdate grants mem scan rest with
      | .error fault => .error fault
      | .ok (mem, next, status) => .ok (mem, given :: next, status)

/-- What the update of a stored rule meets: whether there is memory for the new
arrays and lists, and the answer to the move of a counter. -/
structure AclUpdateMemEnv where
  filterListAlloc : Bool
  actionListAlloc : Bool
  grants : AclGrants
  counter : SaiStatus

def AclUpdateMemEnv.moved (env : AclUpdateMemEnv) (scan : MemEntry) : SaiStatus :=
  if scan.key = .action .counter then env.counter else .success

/-- The change loops over the scanned filters and over the scanned actions. -/
def memChangeLoop (env : AclUpdateMemEnv) (mem : AclMem) (given : List MemEntry) :
    List (MemEntry × AclMark) → Except Fault (AclMem × List MemEntry × SaiStatus)
  | [] => .ok (mem, given, .success)
  | (scan, mark) :: rest =>
    if mark = .change then
      match env.moved scan with
      | .success =>
        match memEntryUpdate env.grants mem scan given with
        | .error fault => .error fault
        | .ok (mem, next, .success) => memChangeLoop env mem next rest
        | .ok (mem, next, error) => .ok (mem, next, error)
      | error => .ok (mem, given, error)
    else memChangeLoop env mem given rest

/-- The new filters of `sai_acl_rule_update_new_fields` and the new actions of
`sai_acl_rule_update_new_actions`. -/
def memNewEntries (env : AclUpdateMemEnv) (mem : AclMem) :
    List (MemEntry × AclMark) → Except Fault (AclMem × Except SaiStatus (List MemEntry))
  | [] => .ok (mem, .ok [])
  | (scan, mark) :: rest =>
    if mark = .new then
      match memEntryLists env.grants mem scan { key := scan.key, enable := scan.enable } with
      | .error fault => .error fault
      | .ok (mem, entry, .success) =>
        match env.moved scan with
        | .success =>
          match memNewEntries env mem rest with
          | .error fault => .error fault
          | .ok (mem, .error status) => .ok (mem, .error status)
          | .ok (mem, .ok entries) => .ok (mem, .ok (entry :: entries))
        | error => .ok (mem, .error error)
      | .ok (mem, _, error) => .ok (mem, .error error)
    else memNewEntries env mem rest

/-- `sai_acl_rule_update_new_fields` and `sai_acl_rule_update_new_actions`: `alloc` tells
whether there is memory for the new array. -/
def memUpdateNew (env : AclUpdateMemEnv) (alloc : Bool) (mem : AclMem) (given : List MemEntry)
    (scans : List (MemEntry × AclMark)) : Except Fault (AclMem × List MemEntry × SaiStatus) :=
  if (scans.any fun scan => scan.2 = .new) = false then .ok (mem, given, .success)
  else if alloc = false then .ok (mem, given, .noMemory)
  else match memNewEntries env mem scans with
    | .error fault => .error fault
    | .ok (mem, .error status) => .ok (mem, given, status)
    | .ok (mem, .ok entries) => .ok (mem, given ++ entries, .success)

/-- `sai_acl_rule_update_field_action`. When new actions fail after new fields,
the filters are freed and stay in the rule. -/
def memRuleUpdateFieldAction (env : AclUpdateMemEnv) (mem : AclMem) (given : MemRule)
    (filters actions : List (MemEntry × AclMark)) : Except Fault (AclMem × MemRule × SaiStatus) :=
  match memChangeLoop env mem given.filterList filters with
  | .error fault => .error fault
  | .ok (mem, filterList, .success) =>
    match memChangeLoop env mem given.actionList actions with
    | .error fault => .error fault
    | .ok (mem, actionList, .success) =>
      match memUpdateNew env env.filterListAlloc mem filterList filters with
      | .error fault => .error fault
      | .ok (mem, filterList, .success) =>
        match memUpdateNew env env.actionListAlloc mem actionList actions with
        | .error fault => .error fault
        | .ok (mem, actionList, .success) =>
          .ok (mem, { given with filterList := filterList, actionList := actionList }, .success)
        | .ok (mem, actionList, error) =>
          .ok (mem, ⟨filterList, filters.any fun scan => scan.2 = .new, actionList⟩, error)
      | .ok (mem, filterList, error) =>
        .ok (mem, { given with filterList := filterList, actionList := actionList }, error)
    | .ok (mem, actionList, error) =>
      .ok (mem, { given with filterList := filterList, actionList := actionList }, error)
  | .ok (mem, filterList, error) => .ok (mem, { given with filterList := filterList }, error)

structure AclSetMemEnv where
  populate : AclPopulateEnv
  /-- the checks of the new value against the rule -/
  validate : SaiStatus
  copyListAlloc : Bool
  copyGrants : AclGrants
  npuCopy : SaiStatus
  npu : SaiStatus
  update : AclUpdateMemEnv
  /-- the samplepacket and policer of the rule -/
  users : SaiStatus

/-- `sai_acl_rule_copy` to a zeroed rule, with what of the copy is freed later:
the counts are set when all lists are copied. -/
def memRuleCopy (env : AclSetMemEnv) (mem : AclMem) (src : MemRule) : Except Fault (AclMem × MemRule × SaiStatus) :=
  if src.filterListFreed then .error .freed
  else if env.copyListAlloc = false then .ok (mem, {}, .noMemory)
  else match memRuleCopyEntries env.copyGrants mem src.filterList with
    | .error fault => .error fault
    | .ok (mem, .error status) => .ok (mem, {}, status)
    | .ok (mem, .ok filters) =>
      match memRuleCopyEntries env.copyGrants mem src.actionList with
      | .error fault => .error fault
      | .ok (mem, .error status) => .ok (mem, {}, status)
      | .ok (mem, .ok actions) => .ok (mem, { filterList := filters, actionList := actions }, env.npuCopy)

/-- The part of `sai_acl_rule_scan_and_mod` before its scratch copy is freed. -/
def memRuleScan (env : AclSetMemEnv) (mem : AclMem) (modify given : MemRule) :
    Except Fault (AclMem × MemRule × MemRule × SaiStatus) :=
  match memRuleCopy env mem given with
  | .error fault => .error fault
  | .ok (mem, compare, .success) =>
    match memEntryMarks mem compare.filterList modify.filterList with
    | .error fault => .error fault
    | .ok filters =>
      match memEntryMarks mem compare.actionList modify.actionList with
      | .error fault => .error fault
      | .ok actions =>
        match env.npu with
        | .success =>
          match memRuleUpdateFieldAction env.update mem given filters actions with
          | .error fault => .error fault
          | .ok (mem, given, _) => .ok (mem, compare, given, .success)
        | error => .ok (mem, compare, given, error)
  | .ok (mem, compare, error) => .ok (mem, compare, given, error)

def memRuleScanAndMod (env : AclSetMemEnv) (mem : AclMem) (modify given : MemRule) :
    Except Fault (AclMem × MemRule × SaiStatus) :=
  match memRuleScan env mem modify given with
  | .error fault => .error fault
  | .ok (mem, compare, given, status) =>
    match memRuleFree mem compare with
    | .error fault => .error fault
    | .ok mem => .ok (mem, given, status)

def memRuleCheckAndScan (env : AclSetMemEnv) (mem : AclMem) (modify given : MemRule) :
    Except Fault (AclMem × MemRule × SaiStatus) :=
  match env.validate with
  | .success => memRuleScanAndMod env mem modify given
  | error => .ok (mem, given, error)

structure AclMemState where
  mem : AclMem
  rules : List MemRule

/-- `sai_create_acl_rule`. `begin_` are the steps before the rule is populated,
`install` those after it. -/
def memCreateAclRule (s : AclMemState) (attrs : List AclRuleAttr) (env : AclPopulateEnv)
    (begin_ install : SaiStatus) : Except Fault (AclMemState × SaiStatus) :=
  match aclCheckRuleLoop 0 attrs with
  | .success =>
    match begin_ with
    | .success =>
      match memRulePopulate env s.mem attrs with
      | .error fault => .error fault
      | .ok (mem, .error status) => .ok ({ s with mem := mem }, status)
      | .ok (mem, .ok rule) =>
        match install with
        | .success => .ok (⟨mem, s.rules ++ [rule]⟩, .success)
        | error =>
          match memRuleFree mem rule with
          | .error fault => .error fault
          | .ok mem => .ok ({ s with mem := mem }, error)
    | error => .ok (s, error)
  | error => .ok (s, error)

/-- `sai_delete_acl_rule` of a rule that the steps before its removal let go. -/
def memDeleteAclRule (s : AclMemState) (index : Nat) (status : SaiStatus) : Except Fault (AclMemState × SaiStatus) :=
  match s.rules[index]? with
  | none => .ok (s, .invalidObjectId)
  | some rule =>
    match status with
    | .success =>
      match memRuleFree s.mem rule with
      | .error fault => .error fault
      | .ok mem => .ok (⟨mem, s.rules.eraseIdx index⟩, .success)
    | error => .ok (s, error)

def memSetAclRule (s : AclMemState) (index : Nat) (attr : AclRuleAttr) (env : AclSetMemEnv) :
    Except Fault (AclMemState × SaiStatus) :=
  match aclCheckRuleLoop 0 [attr] with
  | .success =>
    match s.rules[index]? with
    | none => .ok (s, .invalidObjectId)
    | some present =>
      match memRulePopulate env.populate s.mem [attr] with
      | .error fault => .error fault
      | .ok (mem, .error status) => .ok ({ s with mem := mem }, status)
      | .ok (mem, .ok modify) =>
        match memRuleCheckAndScan env mem modify present with
        | .error fault => .error fault
        | .ok (mem, present, status) =>
          match memRuleFree mem modify with
          | .error fault => .error fault
          | .ok mem =>
            .ok (⟨mem, s.rules.set index present⟩, if status = .success then env.users else status)
  | error => .ok (s, error)

end SaiCommon
