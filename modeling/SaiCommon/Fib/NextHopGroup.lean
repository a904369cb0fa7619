import SaiCommon.Fib.State

namespace SaiCommon

inductive NhGroupAttr
  | type (groupType : NhGroupType)
  | nextHopList (nextHopIds : List ObjectId)
  | nextHopCount
  | other
deriving DecidableEq

/-- `ap_next_hop_node`: the entries written so far, from index 0 on, with the
number of entries that were allocated. The others are still NULL. -/
structure NhArray where
  allocated : Nat
  nodes : List NhRef
  /-- An entry past the allocated ones was read or written. -/
  overrun : Bool
deriving DecidableEq

def NhArray.write (array : NhArray) (index : Nat) (ref : NhRef) : NhArray :=
  { array with
    nodes := if index < array.nodes.length then array.nodes.set index ref else array.nodes ++ [ref]
    overrun := array.overrun || decide (array.allocated ≤ index) }

def NhArray.read (array : NhArray) (count : Nat) : NhArray :=
  { array with overrun := array.overrun || decide (array.allocated < count) }

/-- Which of the two allocations succeeds at which index of a list. -/
structure NhLinkEnv where
  groupLink : Nat → Bool
  nhLink : Nat → Bool

/-- `sai_fib_is_nh_group_size_valid`; the sum is a 32-bit one. -/
def fibIsNhGroupSizeValid (s : FibState) (group : NhGroup) (nextHopCount : Nat) : Bool :=
  (group.nhCount + nextHopCount) % 2 ^ 32 ≤ s.maxEcmpPaths

section Links

/-- `sai_fib_nh_add_group_link_node` and `sai_fib_nh_group_add_nh_link_node`
differ in the list only. -/
def fibAddLinkNode {A : Type} [DecidableEq A] (list : WtList A) (self : A) (allocOk : Bool) : Option (WtList A) :=
  if list.has self then some (list.incr self)
  else if allocOk then some (list.append self 1)
  else none

def fibNhAddGroupLinkNode (s : FibState) (ref : NhRef) (group : GroupPtr) (allocOk : Bool) : Option FibState :=
  match s.nhTree.get ref with
  | none => none
  | some node =>
    match fibAddLinkNode node.nhGroupList group allocOk with
    | none => none
    | some list => some (s.modifyNh ref fun node => { node with nhGroupList := list })

def fibNhGroupAddNhLinkNode (s : FibState) (group : GroupPtr) (ref : NhRef) (allocOk : Bool) : Option FibState :=
  match s.groups.get group with
  | none => none
  | some node =>
    match fibAddLinkNode node.nhList ref allocOk with
    | none => none
    | some list => some (s.modifyGroup group fun node => { node with nhList := list })

def fibNhRemoveGroupLinkNode (s : FibState) (ref : NhRef) (group : GroupPtr) : FibState :=
  s.modifyNh ref fun node => { node with nhGroupList := node.nhGroupList.decr group }

def fibNhFindAndRemoveGroupNode (s : FibState) (ref : NhRef) (group : GroupPtr) : FibState :=
  match s.nhTree.get ref with
  | none => s
  | some node => if node.nhGroupList.has group then fibNhRemoveGroupLinkNode s ref group else s

def fibNhGroupRemoveNhLinkNode (s : FibState) (group : GroupPtr) (ref : NhRef) : FibState :=
  s.modifyGroup group fun node => { node with nhList := node.nhList.decr ref }

def fibNhGroupFindAndRemoveNhNode (s : FibState) (group : GroupPtr) (ref : NhRef) : FibState :=
  match s.groups.get group with
  | none => s
  | some node =>
    if node.nhList.has ref then
      (fibNhGroupRemoveNhLinkNode s group ref).modifyGroup group fun node =>
        { node with nhCount := node.nhCount - 1 }
    else s

def fibNhGroupRemoveFromLists (s : FibState) (group : GroupPtr) : List NhRef → FibState
  | [] => s
  | ref :: rest =>
    fibNhGroupRemoveFromLists
      (fibNhGroupFindAndRemoveNhNode (fibNhFindAndRemoveGroupNode s ref group) group ref) group rest

/-- The loop of `sai_fib_nh_group_add_in_lists`, with the index it stopped at. -/
def fibNhGroupAddLoop (group : GroupPtr) (env : NhLinkEnv) (s : FibState) (nhIndex : Nat) :
    List NhRef → FibState × Nat
  | [] => (s, nhIndex)
  | ref :: rest =>
    match fibNhAddGroupLinkNode s ref group (env.groupLink nhIndex) with
    | none => (s, nhIndex)
    | some linked =>
      match fibNhGroupAddNhLinkNode linked group ref (env.nhLink nhIndex) with
      | none => (fibNhRemoveGroupLinkNode linked ref group, nhIndex)
      | some both =>
        let counted := both.modifyGroup group fun node => { node with nhCount := node.nhCount + 1 }
        fibNhGroupAddLoop group env counted (nhIndex + 1) rest

/-- A loop that stopped at index 0 counts as a success. -/
def fibNhGroupAddInLists (s : FibState) (group : GroupPtr) (nextHops : List NhRef) (env : NhLinkEnv) :
    FibState × SaiStatus :=
  let (t, nhIndex) := fibNhGroupAddLoop group env s 0 nextHops
  if nhIndex ≠ 0 ∧ nhIndex ≠ nextHops.length then
    (fibNhGroupRemoveFromLists t group (nextHops.take nhIndex), .noMemory)
  else (t, .success)

/-- The loop of `sai_fib_nh_group_remove_all_nh`, over a copy of the list. -/
def fibNhGroupRemoveAllLoop (s : FibState) (group : GroupPtr) : List NhRef → FibState
  | [] => s
  | ref :: rest =>
    let unlisted := s.modifyGroup group fun node => { node with nhList := (node.nhList.setWeight ref 1).decr ref }
    let unlinked := unlisted.modifyNh ref fun node =>
      if node.nhGroupList.has group then
        { node with nhGroupList := (node.nhGroupList.setWeight group 1).decr group }
      else node
    fibNhGroupRemoveAllLoop unlinked group rest

def fibNhGroupRemoveAllNh (s : FibState) (group : GroupPtr) : FibState :=
  match s.groups.get group with
  | none => s
  | some node =>
    (fibNhGroupRemoveAllLoop s group (node.nhList.map WtLink.self)).modifyGroup group fun node =>
      { node with nhCount := 0 }

end Links

section Npu

/-- The NPU's group becomes the first `nhCount` entries of the array. -/
def npuNhGroupCreate (s : FibState) (group : GroupPtr) (nhCount : Nat) (array : NhArray) (npu : SaiStatus) :
    FibState × NhArray :=
  let fault := s.npuGroups.fault || decide (array.nodes.length < nhCount)
  let members := if npu = .success then s.npuGroups.members.put group (array.nodes.take nhCount)
    else s.npuGroups.members
  ({ s with npuGroups := ⟨members, fault⟩ }, array.read nhCount)

def npuNhGroupRemove (s : FibState) (group : GroupPtr) : FibState :=
  { s with npuGroups := { s.npuGroups with members := s.npuGroups.members.del group } }

def npuAddNhToGroup (s : FibState) (group : GroupPtr) (nextHops : List NhRef) (npu : SaiStatus) : FibState :=
  if npu = .success then
    { s with npuGroups := { s.npuGroups with
      members := s.npuGroups.members.modify group fun held => held ++ nextHops } }
  else s

/-- Whether the NPU's group holds every entry, repetitions included. -/
def npuGroupHolds (s : FibState) (group : GroupPtr) (nextHops : List NhRef) : Bool :=
  match s.npuGroups.members.get group with
  | none => false
  | some held => ∀ ref ∈ nextHops, nextHops.count ref ≤ held.count ref

def npuRemoveNhFromGroup (s : FibState) (group : GroupPtr) (nextHops : List NhRef) (npu : SaiStatus) : FibState :=
  let fault := s.npuGroups.fault || !npuGroupHolds s group nextHops
  let members := if npu = .success then s.npuGroups.members.modify group fun held => held.diff nextHops
    else s.npuGroups.members
  { s with npuGroups := ⟨members, fault⟩ }

end Npu

def fibNextHopIdCheck (s : FibState) (group : NhGroup) (nextHopId : ObjectId) (isRemove : Bool) :
    Except SaiStatus NhRef :=
  if nextHopId.objType ≠ .nextHop then .error .invalidObjectType
  else match fibNextHopNodeGetFromId s nextHopId with
    | none => .error .invalidObjectId
    | some ref => if isRemove ∧ group.nhList.has ref = false then .error .invalidObjectId else .ok ref

def fibNextHopFillLoop (s : FibState) (group : NhGroup) (isRemove : Bool) (nhIndex : Nat) (array : NhArray) :
    List ObjectId → NhArray × SaiStatus
  | [] => (array, .success)
  | nextHopId :: rest =>
    match fibNextHopIdCheck s group nextHopId isRemove with
    | .error error => (array, error)
    | .ok ref => fibNextHopFillLoop s group isRemove (nhIndex + 1) (array.write nhIndex ref) rest

def fibNextHopFillFromNhIdList (s : FibState) (group : NhGroup) (nextHopIds : List ObjectId)
    (array : NhArray) (isRemove : Bool) : NhArray × SaiStatus :=
  if nextHopIds = [] then (array, .invalidParameter)
  else fibNextHopFillLoop s group isRemove 0 array nextHopIds

def fibNextHopGroupNextHopListSet (s : FibState) (group : GroupPtr) (nextHopIds : List ObjectId)
    (array : NhArray) (env : NhLinkEnv) : FibState × NhArray × SaiStatus :=
  match s.groups.get group with
  | none => (s, array, .failure)
  | some node =>
    if fibIsNhGroupSizeValid s node nextHopIds.length = false then (s, array, .insufficientResources)
    else match fibNextHopFillFromNhIdList s node nextHopIds array false with
      | (filled, .success) =>
        let (t, status) := fibNhGroupAddInLists s group (filled.nodes.take nextHopIds.length) env
        (t, filled, status)
      | (filled, error) => (s, filled, error)

def fibNextHopGroupTypeSet (s : FibState) (group : GroupPtr) (groupType : NhGroupType) : FibState × SaiStatus :=
  if groupType = .ecmp then (s.modifyGroup group fun node => { node with groupType := groupType }, .success)
  else (s, .invalidAttrValue 0)

def fibNextHopGroupAttrSet (s : FibState) (group : GroupPtr) (array : NhArray) (env : NhLinkEnv) :
    NhGroupAttr → FibState × NhArray × SaiStatus
  | .type groupType =>
    let (t, status) := fibNextHopGroupTypeSet s group groupType
    (t, array, status)
  | .nextHopList nextHopIds => fibNextHopGroupNextHopListSet s group nextHopIds array env
  | .nextHopCount => (s, array, .invalidAttribute 0)
  | .other => (s, array, .unknownAttribute 0)

def fibNextHopGroupInfoLoop (group : GroupPtr) (env : Nat → NhLinkEnv) (s : FibState) (array : NhArray)
    (attrIndex : Nat) : List NhGroupAttr → FibState × NhArray × SaiStatus
  | [] => (s, array, .success)
  | attr :: rest =>
    match fibNextHopGroupAttrSet s group array (env attrIndex) attr with
    | (t, next, .success) => fibNextHopGroupInfoLoop group env t next (attrIndex + 1) rest
    | (t, next, error) => (t, next, fibAttrStatusCodeGet error attrIndex)

def NhGroupAttr.isType : NhGroupAttr → Bool
  | .type _ => true
  | _ => false

def NhGroupAttr.isNextHopList : NhGroupAttr → Bool
  | .nextHopList _ => true
  | _ => false

def fibNextHopGroupInfoFill (s : FibState) (group : GroupPtr) (attrs : List NhGroupAttr) (array : NhArray)
    (env : Nat → NhLinkEnv) : FibState × NhArray × SaiStatus :=
  if attrs = [] then (s, array, .invalidParameter)
  else match fibNextHopGroupInfoLoop group env s array 0 attrs with
    | (t, filled, .success) =>
      if attrs.any NhGroupAttr.isType = false ∨ attrs.any NhGroupAttr.isNextHopList = false then
        (t, filled, .mandatoryAttributeMissing)
      else (t, filled, .success)
    | (t, filled, error) => (t, filled, error)

def fibNhGroupNodeInit : NhGroup where
  groupId := nullObjectId
  groupType := .other 0
  nhCount := 0
  refCount := 0
  nhList := []

structure NhGroupCreateEnv where
  links : Nat → NhLinkEnv
  npu : SaiStatus
  npuObjectId : Nat
  treeOk : Bool

def fibNhGroupCount (s : FibState) (group : GroupPtr) : Nat :=
  match s.groups.get group with
  | none => 0
  | some node => node.nhCount

def fibNhGroupEmpty (s : FibState) (group : GroupPtr) : FibState :=
  if fibNhGroupCount s group ≠ 0 then fibNhGroupRemoveAllNh s group else s

def fibNhGroupNodeFree (s : FibState) (group : GroupPtr) : FibState :=
  { s with groups := s.groups.del group }

/-- The locked part of `sai_fib_next_hop_group_create`. A tree that refuses the
new group takes it out of the NPU, and the status stays a success. -/
def fibNextHopGroupCreateLocked (s : FibState) (group : GroupPtr) (array : NhArray)
    (attrs : List NhGroupAttr) (env : NhGroupCreateEnv) : FibState × NhArray × SaiStatus :=
  let allocated := { s with groups := s.groups.put group fibNhGroupNodeInit }
  match fibNextHopGroupInfoFill allocated group attrs array env.links with
  | (t, filled, .success) =>
    let (called, read) := npuNhGroupCreate t group (fibNhGroupCount t group) filled env.npu
    match env.npu with
    | .success =>
      let groupId : ObjectId := ⟨.nextHopGroup, env.npuObjectId⟩
      let named := called.modifyGroup group fun node => { node with groupId := groupId }
      match env.treeOk, named.nhGroupTree.get groupId with
      | true, none => ({ named with nhGroupTree := named.nhGroupTree.put groupId group }, read, .success)
      | _, _ => (npuNhGroupRemove named group, read, .success)
    | error => (fibNhGroupNodeFree (fibNhGroupEmpty called group) group, read, error)
  | (t, filled, error) => (fibNhGroupNodeFree (fibNhGroupEmpty t group) group, filled, error)

structure NhGroupAllocEnv where
  node : Option GroupPtr
  listOk : Bool
deriving DecidableEq

/-- A node that is handed out is not in use. -/
def fibNhGroupNodeAlloc (s : FibState) (alloc : Option GroupPtr) : Option GroupPtr :=
  match alloc with
  | none => none
  | some group =>
    match s.groups.get group with
    | none => some group
    | some _ => none

def fibNhListAlloc (s : FibState) : NhArray := ⟨s.maxEcmpPaths, [], false⟩

def fibNextHopGroupCreate (s : FibState) (attrs : List NhGroupAttr) (alloc : NhGroupAllocEnv)
    (env : NhGroupCreateEnv) : FibState × SaiStatus :=
  match fibNhGroupNodeAlloc s alloc.node with
  | none => (s, .noMemory)
  | some group =>
    if alloc.listOk = false then (s, .noMemory)
    else
      let (t, _, status) := fibNextHopGroupCreateLocked s group (fibNhListAlloc s) attrs env
      (t, status)

def fibNextHopGroupRemove (s : FibState) (groupId : ObjectId) (npu : SaiStatus) : FibState × SaiStatus :=
  if groupId.objType ≠ .nextHopGroup then (s, .invalidObjectType)
  else match fibNextHopGroupGet s groupId with
    | none => (s, .invalidObjectId)
    | some group =>
      match s.groups.get group with
      | none => (s, .invalidObjectId)
      | some node =>
        if node.refCount ≠ 0 then (s, .objectInUse)
        else match npu with
          | .success =>
            let emptied := fibNhGroupEmpty (npuNhGroupRemove s group) group
            let unnamed := { emptied with nhGroupTree := emptied.nhGroupTree.del node.groupId }
            (fibNhGroupNodeFree unnamed group, .success)
          | error => (s, error)

structure NhGroupAddEnv where
  links : NhLinkEnv
  npu : SaiStatus

def fibNextHopAddToGroupLocked (s : FibState) (groupId : ObjectId) (nextHopIds : List ObjectId)
    (array : NhArray) (env : NhGroupAddEnv) : FibState × NhArray × SaiStatus :=
  match fibNextHopGroupGet s groupId with
  | none => (s, array, .invalidObjectId)
  | some group =>
    match s.groups.get group with
    | none => (s, array, .invalidObjectId)
    | some node =>
      if fibIsNhGroupSizeValid s node nextHopIds.length = false then (s, array, .insufficientResources)
      else match fibNextHopFillFromNhIdList s node nextHopIds array false with
        | (filled, .success) =>
          let nextHops := filled.nodes.take nextHopIds.length
          match fibNhGroupAddInLists s group nextHops env.links with
          | (t, .success) =>
            let called := npuAddNhToGroup t group nextHops env.npu
            match env.npu with
            | .success => (called, filled, .success)
            | error => (fibNhGroupRemoveFromLists called group nextHops, filled, error)
          | (t, error) => (t, filled, error)
        | (filled, error) => (s, filled, error)

def fibNextHopAddToGroup (s : FibState) (groupId : ObjectId) (nextHopIds : List ObjectId) (listOk : Bool)
    (env : NhGroupAddEnv) : FibState × SaiStatus :=
  if groupId.objType ≠ .nextHopGroup then (s, .invalidObjectType)
  else if listOk = false then (s, .noMemory)
  else
    let (t, _, status) := fibNextHopAddToGroupLocked s groupId nextHopIds (fibNhListAlloc s) env
    (t, status)

/-- There is no check of the count against the limit here. -/
def fibNextHopRemoveFromGroupLocked (s : FibState) (groupId : ObjectId) (nextHopIds : List ObjectId)
    (array : NhArray) (npu : SaiStatus) : FibState × NhArray × SaiStatus :=
  match fibNextHopGroupGet s groupId with
  | none => (s, array, .invalidObjectId)
  | some group =>
    match s.groups.get group with
    | none => (s, array, .invalidObjectId)
    | some node =>
      match fibNextHopFillFromNhIdList s node nextHopIds array true with
      | (filled, .success) =>
        let nextHops := filled.nodes.take nextHopIds.length
        let called := npuRemoveNhFromGroup s group nextHops npu
        match npu with
        | .success => (fibNhGroupRemoveFromLists called group nextHops, filled, .success)
        | error => (called, filled, error)
      | (filled, error) => (s, filled, error)

def fibNextHopRemoveFromGroup (s : FibState) (groupId : ObjectId) (nextHopIds : List ObjectId)
    (listOk : Bool) (npu : SaiStatus) : FibState × SaiStatus :=
  if groupId.objType ≠ .nextHopGroup then (s, .invalidObjectType)
  else if listOk = false then (s, .noMemory)
  else
    let (t, _, status) := fibNextHopRemoveFromGroupLocked s groupId nextHopIds (fibNhListAlloc s) npu
    (t, status)

def fibNextHopGroupAttributeSet (s : FibState) : FibState × SaiStatus := (s, .notImplemented)

end SaiCommon
