import SaiCommon.Qos.Buffer
import SaiCommon.Hostif.TrapGroup

namespace SaiCommon

/-- The attribute list after a get, its status, and `attr_idx` where its loop ended. -/
structure GetResult (A : Type) where
  attrs : List A
  status : SaiStatus
  attrIdx : Nat

/-- The position that an indexed status names. -/
def SaiStatus.position : SaiStatus → Option Nat
  | .invalidAttribute index => some index
  | .invalidAttrValue index => some index
  | .attrNotImplemented index => some index
  | .unknownAttribute index => some index
  | .attrNotSupported index => some index
  | _ => none

/-- The loop of a get: each entry is read in its place, up to the first error. -/
def getLoop {A : Type} (read : Nat → A → A × SaiStatus) : Nat → List A → GetResult A
  | attrIdx, [] => ⟨[], .success, attrIdx⟩
  | attrIdx, attr :: rest =>
    match read attrIdx attr with
    | (next, .success) => { getLoop read (attrIdx + 1) rest with
        attrs := next :: (getLoop read (attrIdx + 1) rest).attrs }
    | (next, status) => ⟨next :: rest, status, attrIdx⟩

/-- What is asked of a get that comes as far as its loop: `stored` is the entry with the object's own value. -/
structure GetRight {A : Type} (supplied : A → Bool) (stored : A → Option A) (before : List A)
    (result : GetResult A) : Prop where
  answered : result.status = .success → List.Forall₂ (fun attr next => stored attr = some next) before result.attrs
  missing : ∀ done attr rest, before = done ++ attr :: rest → (∀ earlier ∈ done, supplied earlier = true) →
    supplied attr = false → result.attrIdx = done.length ∧ result.status.position = some done.length ∧
      result.attrs.drop (done.length + 1) = rest

/-- The first entry that is not supplied is reached, and refused under its position. -/
def GetMissesNamed {A : Type} (read : Nat → A → A × SaiStatus) (supplied : A → Bool) (attrs : List A) : Prop :=
  ∀ done attr rest, attrs = done ++ attr :: rest → (∀ earlier ∈ done, supplied earlier = true) →
    supplied attr = false → (∀ earlier ∈ done, (read 0 earlier).2 = .success) ∧
      (read done.length attr).2.position = some done.length

section Loop
variable {A : Type} {read : Nat → A → A × SaiStatus} {supplied : A → Bool} {stored : A → Option A}

theorem getLoop_cons_ok {attrIdx : Nat} {attr : A} {rest : List A} (ok : (read attrIdx attr).2 = .success) :
    getLoop read attrIdx (attr :: rest) = { getLoop read (attrIdx + 1) rest with
      attrs := (read attrIdx attr).1 :: (getLoop read (attrIdx + 1) rest).attrs } := by
  rw [getLoop]
  cases answer : read attrIdx attr with
  | mk next status =>
    rw [answer] at ok
    cases ok
    rfl

theorem getLoop_cons_error {attrIdx : Nat} {attr : A} {rest : List A} (error : (read attrIdx attr).2 ≠ .success) :
    getLoop read attrIdx (attr :: rest) = ⟨(read attrIdx attr).1 :: rest, (read attrIdx attr).2, attrIdx⟩ := by
  rw [getLoop]
  cases answer : read attrIdx attr with
  | mk next status =>
    rw [answer] at error
    cases status <;> first | exact (error rfl).elim | rfl

theorem getLoop_le (attrs : List A) (attrIdx : Nat) : attrIdx ≤ (getLoop read attrIdx attrs).attrIdx := by
  induction attrs generalizing attrIdx with
  | nil => exact le_rfl
  | cons attr rest ih =>
    by_cases ok : (read attrIdx attr).2 = .success
    · rw [getLoop_cons_ok ok]
      exact (Nat.le_succ attrIdx).trans (ih _)
    · rw [getLoop_cons_error ok]

theorem getLoop_stops (even : ∀ i j attr, supplied attr = true → (read i attr).2 = (read j attr).2)
    {done : List A} (good : ∀ earlier ∈ done, supplied earlier = true) {attr : A} (rest : List A) (attrIdx : Nat) :
    ((∀ earlier ∈ done, (read 0 earlier).2 = .success) ∧ (read (attrIdx + done.length) attr).2 ≠ .success →
      (getLoop read attrIdx (done ++ attr :: rest)).attrIdx = attrIdx + done.length ∧
      (getLoop read attrIdx (done ++ attr :: rest)).status = (read (attrIdx + done.length) attr).2 ∧
      (getLoop read attrIdx (done ++ attr :: rest)).attrs.drop (done.length + 1) = rest) ∧
    ((getLoop read attrIdx (done ++ attr :: rest)).attrIdx = attrIdx + done.length →
      (getLoop read attrIdx (done ++ attr :: rest)).status ≠ .success →
      (∀ earlier ∈ done, (read 0 earlier).2 = .success) ∧
      (getLoop read attrIdx (done ++ attr :: rest)).status = (read (attrIdx + done.length) attr).2) := by
  induction done generalizing attrIdx with
  | nil =>
    rw [List.nil_append]
    by_cases ok : (read attrIdx attr).2 = .success
    · rw [getLoop_cons_ok ok]
      refine ⟨fun both => (both.2 ok).elim, fun stops => ?_⟩
      have later := @getLoop_le A read rest (attrIdx + 1)
      have same : (getLoop read (attrIdx + 1) rest).attrIdx = attrIdx := stops
      omega
    · rw [getLoop_cons_error ok]
      exact ⟨fun _ => ⟨rfl, rfl, rfl⟩, fun _ _ => ⟨fun _ member => (List.not_mem_nil member).elim, rfl⟩⟩
  | cons first done ih =>
    have place : attrIdx + (first :: done).length = attrIdx + 1 + done.length := by
      rw [List.length_cons]
      omega
    have step := even attrIdx 0 first (good first (List.mem_cons_self ..))
    have rest := ih (fun earlier member => good earlier (List.mem_cons_of_mem _ member)) (attrIdx + 1)
    rw [List.cons_append, place, List.forall_mem_cons]
    by_cases ok : (read 0 first).2 = .success
    · rw [getLoop_cons_ok (step.trans ok)]
      refine ⟨fun both => rest.1 ⟨both.1.2, both.2⟩, fun stops error => ?_⟩
      obtain ⟨all, same⟩ := rest.2 stops error
      exact ⟨⟨ok, all⟩, same⟩
    · refine ⟨fun both => (ok both.1.1).elim, fun stops _ => ?_⟩
      rw [getLoop_cons_error (fun same => ok (step.symm.trans same))] at stops
      have same : attrIdx = attrIdx + 1 + done.length := stops
      omega

theorem exists_first_missing (supplied : A → Bool) (attrs : List A) : (∀ attr ∈ attrs, supplied attr = true) ∨
    ∃ done attr rest, attrs = done ++ attr :: rest ∧ (∀ earlier ∈ done, supplied earlier = true) ∧
      supplied attr = false := by
  cases found : attrs.find? fun attr => !supplied attr with
  | none => exact .inl fun attr member => by simpa using List.find?_eq_none.mp found attr member
  | some attr =>
    obtain ⟨bad, done, rest, split, good⟩ := List.find?_eq_some_iff_append.mp found
    exact .inr ⟨done, attr, rest, split, by simpa using good, by simpa using bad⟩

/-- A get over a list is right when it stops at the first entry that it has no branch for. -/
theorem getLoop_right_iff (even : ∀ i j attr, supplied attr = true → (read i attr).2 = (read j attr).2)
    (honest : ∀ i attr, supplied attr = true → (read i attr).2 = .success → stored attr = some (read i attr).1)
    (attrs : List A) : GetRight supplied stored attrs (getLoop read 0 attrs) ↔
    GetMissesNamed read supplied attrs := by
  constructor
  · intro right done attr rest split good bad
    subst split
    obtain ⟨stops, named, _⟩ := right.missing done attr rest rfl good bad
    have error : (getLoop read 0 (done ++ attr :: rest)).status ≠ .success := by
      intro same
      rw [same] at named
      cases named
    obtain ⟨all, same⟩ := (getLoop_stops even good rest 0).2 (stops.trans (Nat.zero_add _).symm) error
    rw [Nat.zero_add] at same
    rw [same] at named
    exact ⟨all, named⟩
  · intro named
    have missing : ∀ done attr rest, attrs = done ++ attr :: rest →
      (∀ earlier ∈ done, supplied earlier = true) →
        supplied attr = false → (getLoop read 0 attrs).attrIdx = done.length ∧
          (getLoop read 0 attrs).status.position = some done.length ∧
          (getLoop read 0 attrs).attrs.drop (done.length + 1) = rest := by
      intro done attr rest split good bad
      obtain ⟨all, position⟩ := named done attr rest split good bad
      subst split
      have ends := (@getLoop_stops _ read _ even done good attr rest 0).1
      rw [Nat.zero_add] at ends
      obtain ⟨stops, same, later⟩ := ends ⟨all, fun same => by rw [same] at position; cases position⟩
      rw [same]
      exact ⟨stops, position, later⟩
    refine ⟨fun success => ?_, missing⟩
    have all : ∀ attr ∈ attrs, supplied attr = true := by
      rcases exists_first_missing supplied attrs with all | ⟨done, attr, rest, split, good, bad⟩
      · exact all
      · obtain ⟨_, position, _⟩ := missing done attr rest split good bad
        rw [success] at position
        cases position
    clear named missing
    suffices general : ∀ attrIdx, (getLoop read attrIdx attrs).status = .success →
        List.Forall₂ (fun attr next => stored attr = some next) attrs (getLoop read attrIdx attrs).attrs from
      general 0 success
    clear success
    induction attrs with
    | nil => exact fun _ _ => .nil
    | cons attr rest ih =>
      intro attrIdx success
      have good := all attr (List.mem_cons_self ..)
      by_cases ok : (read attrIdx attr).2 = .success
      · rw [getLoop_cons_ok ok] at success ⊢
        exact .cons (honest attrIdx attr good ok)
          (ih (fun other member => all other (List.mem_cons_of_mem _ member)) (attrIdx + 1) success)
      · rw [getLoop_cons_error ok] at success
        exact (ok success).elim

end Loop

section Gets

inductive PgAttr
  | bufferProfile (oid : ObjectId)
  | unknown
deriving DecidableEq

def PgAttr.supplied (attr : PgAttr) : Bool := attr ≠ .unknown

def PriorityGroup.stored (node : PriorityGroup) : PgAttr → Option PgAttr
  | .bufferProfile _ => some (.bufferProfile node.bufferProfileId)
  | .unknown => none

/-- `attr_list->value.oid = ...` -/
def pgAttrListPut (profileId : ObjectId) : List PgAttr → List PgAttr
  | .bufferProfile _ :: rest => .bufferProfile profileId :: rest
  | attrs => attrs

/-- The loop of `sai_qos_pg_attr_get`: the entries from `attrIdx` on, and the whole list. -/
def qosPgAttrGetLoop (node : PriorityGroup) : Nat → List PgAttr → List PgAttr → SaiStatus → GetResult PgAttr
  | attrIdx, [], attrList, saiRc => ⟨attrList, saiRc, attrIdx⟩
  | attrIdx, .bufferProfile _ :: rest, attrList, _ =>
    qosPgAttrGetLoop node (attrIdx + 1) rest (pgAttrListPut node.bufferProfileId attrList) .success
  | attrIdx, .unknown :: _, attrList, _ => ⟨attrList, .unknownAttribute attrIdx, attrIdx⟩

/-- `sai_qos_pg_attr_get`; `uninit` is what `sai_rc` has before it is written. -/
def qosPgAttrGet (s : QosState) (pgId : ObjectId) (attrs : List PgAttr) (uninit : SaiStatus) : GetResult PgAttr :=
  match s.pgTree.get pgId with
  | none => ⟨attrs, .invalidObjectId, 0⟩
  | some node => qosPgAttrGetLoop node 0 attrs attrs uninit

def TrapGroupAttr.supplied : TrapGroupAttr → Bool
  | .adminState _ => true
  | .queue _ => true
  | _ => false

def TrapGroup.stored (group : TrapGroup) : TrapGroupAttr → Option TrapGroupAttr
  | .adminState _ => some (.adminState group.adminState)
  | .prio _ => some (.prio group.groupPrio)
  | .queue _ => some (.queue group.cpuQueue)
  | .policer _ => some (.policer group.policerId)
  | .other _ => none

def TrapGroup.read (group : TrapGroup) (_ : Nat) : TrapGroupAttr → TrapGroupAttr × SaiStatus
  | .adminState _ => (.adminState group.adminState, .success)
  | .queue _ => (.queue group.cpuQueue, .success)
  | attr => (attr, .success)

/-- `dn_sai_hostif_validate_trapgroup_attrlist` of a get, which neither looks at `valid_in_set` nor at the
count of the mandatory attributes. -/
def validateTrapgroupGet (platform : HostifPlatform) (npuValidate : TrapGroupAttr → SaiStatus)
    (attrs : List TrapGroupAttr) : SaiStatus :=
  if attrs = [] then .invalidParameter
  else match platform.duplicateAttr (attrs.map TrapGroupAttr.attrId) with
    | some dupIndex => .invalidAttribute dupIndex
    | none =>
      match validateTrapgroupLoop npuValidate .create 0 0 attrs with
      | .error error => error
      | .ok _ => .success

def getHostifTrapGroup (platform : HostifPlatform) (s : HostifState) (npuValidate : TrapGroupAttr → SaiStatus)
    (groupId : ObjectId) (attrs : List TrapGroupAttr) : GetResult TrapGroupAttr :=
  match validateTrapgroupGet platform npuValidate attrs with
  | .success =>
    match s.trapGroupTree.get groupId with
    | none => ⟨attrs, .invalidObjectId, 0⟩
    | some group => getLoop group.read 0 attrs
  | status => ⟨attrs, status, 0⟩

/-- An entry of a trap's get; a port list has the count that the caller's memory is for. -/
inductive TrapGetAttr
  | packetAction (value : PacketAction)
  | trapPriority (value : Nat)
  | trapChannel
  | fd
  | portList (count : Nat) (list : List ObjectId)
  | trapGroup (value : ObjectId)
  | other
deriving DecidableEq

def TrapGetAttr.supplied (attr : TrapGetAttr) : Bool := attr ≠ .trapChannel ∧ attr ≠ .fd ∧ attr ≠ .other

def Trap.stored (trap : Trap) : TrapGetAttr → Option TrapGetAttr
  | .packetAction _ => some (.packetAction trap.trapAction)
  | .trapPriority _ => some (.trapPriority trap.trapPrio)
  | .trapGroup _ => some (.trapGroup trap.trapGroup)
  | .portList _ list => some (.portList trap.portList.length (trap.portList ++ list.drop trap.portList.length))
  | _ => none

/-- `dn_sai_hostif_validate_trap` of a get -/
def validateTrapGet (npuValidate : TrapGetAttr → SaiStatus) (trapId : HostifTrapId)
    (attr : TrapGetAttr) : SaiStatus :=
  if isValidTrapId trapId = false then .invalidParameter
  else match attr with
    | .other => .unknownAttribute 0
    | _ => npuValidate attr

/-- SAI_STATUS_BUFFER_OVERFLOW -/
def statusBufferOverflow : SaiStatus := .other (-8)

def Trap.read (trap : Trap) (npuValidate : TrapGetAttr → SaiStatus) (trapId : HostifTrapId) (_ : Nat)
    (attr : TrapGetAttr) : TrapGetAttr × SaiStatus :=
  match validateTrapGet npuValidate trapId attr with
  | .success =>
    match attr with
    | .packetAction _ => (.packetAction trap.trapAction, .success)
    | .trapPriority _ => (.trapPriority trap.trapPrio, .success)
    | .trapGroup _ => (.trapGroup trap.trapGroup, .success)
    | .portList count list =>
      if count < trap.portList.length then (.portList trap.portList.length list, statusBufferOverflow)
      else (.portList trap.portList.length (trap.portList ++ list.drop trap.portList.length), .success)
    | _ => (attr, .success)
  | status => (attr, status)

def getHostifTrap (s : HostifState) (npuValidate : TrapGetAttr → SaiStatus) (trapId : HostifTrapId)
    (attrs : List TrapGetAttr) : GetResult TrapGetAttr :=
  if attrs = [] then ⟨attrs, .invalidParameter, 0⟩
  else match s.trapTree.get trapId with
    | none => ⟨attrs, .itemNotFound, 0⟩
    | some trap => getLoop (trap.read npuValidate trapId) 0 attrs

def BufferPoolAttr.supplied (attr : BufferPoolAttr) : Bool := attr ≠ .unknown

def BufferPool.stored (pool : BufferPool) : BufferPoolAttr → Option BufferPoolAttr
  | .type _ => some (.type pool.poolType)
  | .size _ => some (.size pool.size)
  | .thMode _ => some (.thMode pool.thresholdMode)
  | .sharedSize _ => some (.sharedSize pool.sharedSize)
  | .unknown => none

/-- An entry of `sai_qos_read_buffer_pool_node` -/
def BufferPool.read (pool : BufferPool) (attrIdx : Nat) : BufferPoolAttr → BufferPoolAttr × SaiStatus
  | .type _ => (.type pool.poolType, .success)
  | .size _ => (.size pool.size, .success)
  | .thMode _ => (.thMode pool.thresholdMode, .success)
  | .sharedSize _ => (.sharedSize pool.sharedSize, .success)
  | .unknown => (.unknown, .unknownAttribute attrIdx)

def qosBufferPoolAttrGet (s : QosState) (poolId : ObjectId) (attrs : List BufferPoolAttr) (vendor : SaiStatus) :
    GetResult BufferPoolAttr :=
  match qosBufferPoolAttributesValidate attrs vendor with
  | .success =>
    match s.bufferPoolTree.get poolId with
    | none => ⟨attrs, .itemNotFound, 0⟩
    | some pool => getLoop pool.read 0 attrs
  | status => ⟨attrs, status, 0⟩

def BufferProfileAttr.supplied (attr : BufferProfileAttr) : Bool := attr ≠ .unknown

/-- The threshold mode of a profile is its own, or its pool's. -/
def BufferProfile.mode (s : QosState) (profile : BufferProfile) : Option BufferThresholdMode :=
  if profile.profileThEnable then some profile.thresholdMode
  else (s.bufferPoolTree.get profile.bufferPoolId).map BufferPool.thresholdMode

def BufferProfile.stored (s : QosState) (profile : BufferProfile) : BufferProfileAttr → Option BufferProfileAttr
  | .poolId _ => some (.poolId profile.bufferPoolId)
  | .bufferSize _ => some (.bufferSize profile.size)
  | .thMode _ => (profile.mode s).map .thMode
  | .sharedDynamicTh _ => some (.sharedDynamicTh profile.dynamicTh)
  | .sharedStaticTh _ => some (.sharedStaticTh profile.staticTh)
  | .xoffTh _ => some (.xoffTh profile.xoffTh)
  | .xonTh _ => some (.xonTh profile.xonTh)
  | .unknown => none

/-- An entry of `sai_qos_read_buffer_profile_node` -/
def BufferProfile.read (s : QosState) (profile : BufferProfile) (attrIdx : Nat) :
    BufferProfileAttr → BufferProfileAttr × SaiStatus
  | .poolId _ => (.poolId profile.bufferPoolId, .success)
  | .bufferSize _ => (.bufferSize profile.size, .success)
  | .thMode mode =>
    if profile.profileThEnable then (.thMode profile.thresholdMode, .success)
    else match s.bufferPoolTree.get profile.bufferPoolId with
      | none => (.thMode mode, .failure)
      | some pool => (.thMode pool.thresholdMode, .success)
  | .sharedDynamicTh _ => (.sharedDynamicTh profile.dynamicTh, .success)
  | .sharedStaticTh _ => (.sharedStaticTh profile.staticTh, .success)
  | .xoffTh _ => (.xoffTh profile.xoffTh, .success)
  | .xonTh _ => (.xonTh profile.xonTh, .success)
  | .unknown => (.unknown, .unknownAttribute attrIdx)

def qosBufferProfileAttrGet (s : QosState) (profileId : ObjectId) (attrs : List BufferProfileAttr)
    (vendor : SaiStatus) : GetResult BufferProfileAttr :=
  match qosBufferProfileAttributesValidate s attrs false vendor with
  | .success =>
    match s.bufferProfileTree.get profileId with
    | none => ⟨attrs, .itemNotFound, 0⟩
    | some profile => getLoop (profile.read s) 0 attrs
  | status => ⟨attrs, status, 0⟩

/-- What is asked of a get: `found` is the object, when the checks before the loop pass. -/
structure GetAnswers {A O : Type} (found : Option O) (supplied : A → Bool) (stored : O → A → Option A)
    (before : List A) (result : GetResult A) : Prop where
  reads : ∀ object, found = some object → GetRight supplied (stored object) before result
  leaves : found = none → result.attrs = before

end Gets

theorem getAnswers_iff {A O : Type} {found : Option O} {supplied : A → Bool} {stored : O → A → Option A}
    {read : O → Nat → A → A × SaiStatus} {before : List A} {result : GetResult A}
    (even : ∀ object i j attr, supplied attr = true → (read object i attr).2 = (read object j attr).2)
    (honest : ∀ object i attr, supplied attr = true → (read object i attr).2 = .success →
      stored object attr = some (read object i attr).1)
    (loops : ∀ object, found = some object → result = getLoop (read object) 0 before)
    (leaves : found = none → result.attrs = before) :
    GetAnswers found supplied stored before result ↔
      ∀ object, found = some object → GetMissesNamed (read object) supplied before := by
  constructor
  · intro right object is
    have reads := right.reads object is
    rw [loops object is] at reads
    exact (getLoop_right_iff (even object) (honest object) before).mp reads
  · intro named
    refine ⟨fun object is => ?_, leaves⟩
    rw [loops object is]
    exact (getLoop_right_iff (even object) (honest object) before).mpr (named object is)

theorem BufferPool.read_named (pool : BufferPool) (attrs : List BufferPoolAttr) :
    GetMissesNamed pool.read BufferPoolAttr.supplied attrs := by
  intro done attr rest _ good bad
  refine ⟨fun earlier member => ?_, ?_⟩
  · have known := good earlier member
    cases earlier <;> first | rfl | cases known
  · cases attr <;> first | rfl | cases bad

theorem BufferProfile.read_ok_iff (s : QosState) (profile : BufferProfile) (i : Nat) {attr : BufferProfileAttr}
    (known : attr.supplied = true) :
    (profile.read s i attr).2 = .success ↔ ∀ mode, attr = .thMode mode → profile.mode s ≠ none := by
  cases attr with
  | unknown => cases known
  | thMode mode =>
    unfold BufferProfile.read BufferProfile.mode
    cases profile.profileThEnable with
    | true => simp
    | false => cases s.bufferPoolTree.get profile.bufferPoolId <;> simp
  | _ => exact iff_of_true rfl fun mode same => by cases same

theorem BufferProfile.read_stored (s : QosState) (profile : BufferProfile) (i : Nat) {attr : BufferProfileAttr}
    (ok : (profile.read s i attr).2 = .success) : profile.stored s attr = some (profile.read s i attr).1 := by
  cases attr with
  | unknown => cases ok
  | thMode mode =>
    unfold BufferProfile.read at ok ⊢
    unfold BufferProfile.stored BufferProfile.mode
    dsimp only at ok ⊢
    cases enabled : profile.profileThEnable with
    | true => rfl
    | false =>
      rw [enabled] at ok
      cases found : s.bufferPoolTree.get profile.bufferPoolId with
      | none =>
        rw [found] at ok
        cases ok
      | some pool => rfl
  | _ => rfl

theorem Trap.read_ok_iff (trap : Trap) (npuValidate : TrapGetAttr → SaiStatus) (trapId : HostifTrapId) (i : Nat)
    (attr : TrapGetAttr) : (trap.read npuValidate trapId i attr).2 = .success ↔
      validateTrapGet npuValidate trapId attr = .success ∧
        ∀ count list, attr = .portList count list → trap.portList.length ≤ count := by
  unfold Trap.read
  cases checked : validateTrapGet npuValidate trapId attr with
  | success =>
    rw [and_iff_right rfl]
    cases attr with
    | portList count list =>
      dsimp only
      split
      · rename_i short
        refine iff_of_false (fun same => by cases same) fun fits => ?_
        have enough := fits count list rfl
        omega
      · rename_i enough
        refine iff_of_true rfl fun _ _ same => ?_
        cases same
        exact Nat.le_of_not_lt enough
    | _ => exact iff_of_true rfl fun _ _ same => by cases same
  | _ => exact iff_of_false (fun same => by cases same) fun both => by cases both.1

theorem Trap.read_stored (trap : Trap) (npuValidate : TrapGetAttr → SaiStatus) (trapId : HostifTrapId) (i : Nat)
    {attr : TrapGetAttr} (known : attr.supplied = true) (ok : (trap.read npuValidate trapId i attr).2 = .success) :
    trap.stored attr = some (trap.read npuValidate trapId i attr).1 := by
  have fits := (trap.read_ok_iff npuValidate trapId i attr).mp ok
  unfold Trap.read
  rw [fits.1]
  cases attr with
  | portList count list =>
    dsimp only
    rw [if_neg (Nat.not_lt.mpr (fits.2 count list rfl))]
    rfl
  | trapChannel => cases known
  | fd => cases known
  | other => cases known
  | _ => rfl

theorem Trap.read_missing (trap : Trap) (npuValidate : TrapGetAttr → SaiStatus) (trapId : HostifTrapId) (i : Nat)
    {attr : TrapGetAttr} (missing : attr.supplied = false) :
    (trap.read npuValidate trapId i attr).2 = validateTrapGet npuValidate trapId attr := by
  unfold Trap.read
  cases validateTrapGet npuValidate trapId attr with
  | success => cases attr <;> first | rfl | cases missing
  | _ => rfl

theorem pgAttrListPut_tail (profileId : ObjectId) (list : List PgAttr) :
    (pgAttrListPut profileId list).tail = list.tail := by
  rcases list with _ | ⟨_ | _, _⟩ <;> rfl

theorem qosPgAttrGetLoop_supplied (node : PriorityGroup) {attrs : List PgAttr}
    (good : ∀ attr ∈ attrs, attr.supplied = true) (list : List PgAttr) (attrIdx : Nat) (rc : SaiStatus)
    (some : attrs ≠ []) : (qosPgAttrGetLoop node attrIdx attrs list rc).status = .success ∧
      (qosPgAttrGetLoop node attrIdx attrs list rc).attrs = pgAttrListPut node.bufferProfileId list := by
  induction attrs generalizing list attrIdx rc with
  | nil => exact (some rfl).elim
  | cons attr rest ih =>
    cases attr with
    | unknown => cases good .unknown (List.mem_cons_self ..)
    | bufferProfile oid =>
      unfold qosPgAttrGetLoop
      by_cases last : rest = []
      · rw [last]
        exact ⟨rfl, rfl⟩
      · have later := ih (fun other member => good other (List.mem_cons_of_mem _ member))
          (pgAttrListPut node.bufferProfileId list) (attrIdx + 1) .success last
        refine ⟨later.1, later.2.trans ?_⟩
        rcases list with _ | ⟨_ | _, _⟩ <;> rfl

theorem qosPgAttrGetLoop_missing (node : PriorityGroup) {done : List PgAttr}
    (good : ∀ attr ∈ done, attr.supplied = true) (rest list : List PgAttr) (attrIdx : Nat) (rc : SaiStatus) :
    (qosPgAttrGetLoop node attrIdx (done ++ .unknown :: rest) list rc).attrIdx = attrIdx + done.length ∧
      (qosPgAttrGetLoop node attrIdx (done ++ .unknown :: rest) list rc).status =
        .unknownAttribute (attrIdx + done.length) ∧
      (qosPgAttrGetLoop node attrIdx (done ++ .unknown :: rest) list rc).attrs.tail = list.tail := by
  induction done generalizing list attrIdx rc with
  | nil => exact ⟨rfl, rfl, rfl⟩
  | cons attr done ih =>
    cases attr with
    | unknown => cases good .unknown (List.mem_cons_self ..)
    | bufferProfile oid =>
      have later := ih (fun other member => good other (List.mem_cons_of_mem _ member))
        (pgAttrListPut node.bufferProfileId list) (attrIdx + 1) .success
      rw [show attrIdx + 1 + done.length = attrIdx + (done.length + 1) by omega, pgAttrListPut_tail] at later
      exact later

theorem PgAttr.missing_iff (attr : PgAttr) : attr.supplied = false ↔ attr = .unknown := by
  cases attr <;> simp [PgAttr.supplied]

theorem qosPgAttrGet_answers_iff (s : QosState) (pgId : ObjectId) (attrs : List PgAttr) (uninit : SaiStatus) :
    GetAnswers (s.pgTree.get pgId) PgAttr.supplied PriorityGroup.stored attrs (qosPgAttrGet s pgId attrs uninit) ↔
      ∀ node, s.pgTree.get pgId = some node → (∀ attr ∈ attrs, attr.supplied = true) →
        ∀ attr ∈ attrs.tail, attr = .bufferProfile node.bufferProfileId := by
  have answers : ∀ node : PriorityGroup, (∀ attr ∈ attrs, attr.supplied = true) →
      (List.Forall₂ (fun attr next => node.stored attr = some next) attrs
        (pgAttrListPut node.bufferProfileId attrs) ↔
        ∀ attr ∈ attrs.tail, attr = .bufferProfile node.bufferProfileId) := by
    intro node good
    rcases attrs with _ | ⟨_ | _, rest⟩
    · exact iff_of_true .nil fun _ member => (List.not_mem_nil member).elim
    · rw [pgAttrListPut, List.forall₂_cons, and_iff_right (by rfl), List.forall₂_same]
      refine forall₂_congr fun attr member => ?_
      cases attr with
      | unknown => cases good .unknown (List.mem_cons_of_mem _ member)
      | bufferProfile oid => simp [PriorityGroup.stored, eq_comm]
    · cases good .unknown (List.mem_cons_self ..)
  unfold qosPgAttrGet
  cases found : s.pgTree.get pgId with
  | none => exact iff_of_true ⟨fun _ same => (by cases same), fun _ => rfl⟩ fun _ same => by cases same
  | some node =>
    dsimp only
    constructor
    · intro right node' same good attr member
      cases same
      have nonempty : attrs ≠ [] := by
        rintro rfl
        cases member
      obtain ⟨success, written⟩ := qosPgAttrGetLoop_supplied node good attrs 0 uninit nonempty
      have held := (right.reads node rfl).answered success
      rw [written] at held
      exact (answers node good).mp held attr member
    · intro held
      refine ⟨fun node' same => ?_, fun none => by cases none⟩
      cases same
      refine ⟨fun success => ?_, fun done attr rest split good bad => ?_⟩
      · rcases exists_first_missing PgAttr.supplied attrs with good | ⟨done, attr, rest, split, good, bad⟩
        · by_cases nonempty : attrs = []
          · subst nonempty
            exact .nil
          · rw [(qosPgAttrGetLoop_supplied node good attrs 0 uninit nonempty).2]
            exact (answers node good).mpr (held node rfl good)
        · rw [(PgAttr.missing_iff attr).mp bad] at split
          have ends := (qosPgAttrGetLoop_missing node good rest attrs 0 uninit).2.1
          rw [← split, success] at ends
          cases ends
      · rw [(PgAttr.missing_iff attr).mp bad] at split
        obtain ⟨stops, status, same⟩ := qosPgAttrGetLoop_missing node good rest attrs 0 uninit
        rw [← split, Nat.zero_add] at stops
        rw [← split, Nat.zero_add] at status
        rw [← split] at same
        refine ⟨stops, by rw [status]; rfl, ?_⟩
        rw [← List.drop_tail, same, split, List.drop_tail]
        simp

theorem TrapGroup.read_success (group : TrapGroup) (i : Nat) (attr : TrapGroupAttr) :
    (group.read i attr).2 = .success := by
  cases attr <;> rfl

theorem TrapGroup.read_even (group : TrapGroup) (i j : Nat) (attr : TrapGroupAttr) (_ : attr.supplied = true) :
    (group.read i attr).2 = (group.read j attr).2 :=
  (group.read_success i attr).trans (group.read_success j attr).symm

theorem TrapGroup.read_stored (group : TrapGroup) (i : Nat) (attr : TrapGroupAttr) (known : attr.supplied = true)
    (_ : (group.read i attr).2 = .success) : group.stored attr = some (group.read i attr).1 := by
  cases attr <;> first | rfl | cases known

theorem Trap.read_even (trap : Trap) (npuValidate : TrapGetAttr → SaiStatus) (trapId : HostifTrapId) (i j : Nat)
    (attr : TrapGetAttr) (_ : attr.supplied = true) :
    (trap.read npuValidate trapId i attr).2 = (trap.read npuValidate trapId j attr).2 := rfl

theorem BufferPool.read_even (pool : BufferPool) (i j : Nat) (attr : BufferPoolAttr) (known : attr.supplied = true) :
    (pool.read i attr).2 = (pool.read j attr).2 := by
  cases attr <;> first | rfl | cases known

theorem BufferPool.read_stored (pool : BufferPool) (i : Nat) (attr : BufferPoolAttr) (known : attr.supplied = true)
    (_ : (pool.read i attr).2 = .success) : pool.stored attr = some (pool.read i attr).1 := by
  cases attr <;> first | rfl | cases known

theorem BufferProfile.read_even (s : QosState) (profile : BufferProfile) (i j : Nat) (attr : BufferProfileAttr)
    (known : attr.supplied = true) : (profile.read s i attr).2 = (profile.read s j attr).2 := by
  cases attr <;> first | rfl | cases known

theorem BufferProfileAttr.missing_iff (attr : BufferProfileAttr) : attr.supplied = false ↔ attr = .unknown := by
  cases attr <;> simp [BufferProfileAttr.supplied]

theorem BufferProfile.read_named_iff (s : QosState) (profile : BufferProfile) (attrs : List BufferProfileAttr) :
    GetMissesNamed (profile.read s) BufferProfileAttr.supplied attrs ↔
      ∀ done mode rest, attrs = done ++ .thMode mode :: rest → .unknown ∉ done → .unknown ∈ rest →
        profile.mode s ≠ none := by
  have known : ∀ {list : List BufferProfileAttr}, .unknown ∉ list → ∀ attr ∈ list, attr.supplied = true := by
    intro list absent attr member
    cases supplied : attr.supplied with
    | true => rfl
    | false => exact (absent ((BufferProfileAttr.missing_iff attr).mp supplied ▸ member)).elim
  constructor
  · intro named done mode rest split absent later
    obtain ⟨between, last, rfl, first⟩ := List.eq_append_cons_of_mem later
    have good : ∀ attr ∈ done ++ BufferProfileAttr.thMode mode :: between, attr.supplied = true :=
      known (by simp [absent, first])
    have reads := (named _ .unknown last (by rw [split]; simp) good rfl).1 (.thMode mode) (by simp)
    exact (profile.read_ok_iff s 0 rfl).mp reads mode rfl
  · intro moded done attr rest split good bad
    rw [(BufferProfileAttr.missing_iff attr).mp bad] at split ⊢
    have absent : BufferProfileAttr.unknown ∉ done := fun member => by cases good _ member
    refine ⟨fun earlier member => ?_, rfl⟩
    rw [profile.read_ok_iff s 0 (good earlier member)]
    rintro mode rfl
    obtain ⟨before, after, cut⟩ := List.append_of_mem member
    rw [cut, List.append_assoc] at split
    exact moded before mode (after ++ .unknown :: rest) split
      (fun early => absent (cut ▸ List.mem_append_left _ early)) (List.mem_append_right _ (List.mem_cons_self ..))

/-- A priority group's get writes all entries into the first; a trap group's and a trap's pass over attributes
that their validation admits. -/
theorem attrGets_answer_iff (s : QosState) (h : HostifState) (platform : HostifPlatform) (vendor uninit : SaiStatus)
    (npuGroup : TrapGroupAttr → SaiStatus) (npuTrap : TrapGetAttr → SaiStatus)
    (pgId groupId poolId profileId : ObjectId) (trapId : HostifTrapId) (pgAttrs : List PgAttr)
    (groupAttrs : List TrapGroupAttr) (trapAttrs : List TrapGetAttr) (poolAttrs : List BufferPoolAttr)
    (profileAttrs : List BufferProfileAttr) :
    (GetAnswers (s.pgTree.get pgId) PgAttr.supplied PriorityGroup.stored pgAttrs
      (qosPgAttrGet s pgId pgAttrs uninit) ↔
      ∀ node, s.pgTree.get pgId = some node → (∀ attr ∈ pgAttrs, attr.supplied = true) →
        ∀ attr ∈ pgAttrs.tail, attr = .bufferProfile node.bufferProfileId) ∧
    (GetAnswers
        (if validateTrapgroupGet platform npuGroup groupAttrs = .success then h.trapGroupTree.get groupId else none)
        TrapGroupAttr.supplied TrapGroup.stored groupAttrs
        (getHostifTrapGroup platform h npuGroup groupId groupAttrs) ↔
      (validateTrapgroupGet platform npuGroup groupAttrs = .success → h.trapGroupTree.get groupId ≠ none →
        ∀ attr ∈ groupAttrs, attr.supplied = true)) ∧
    (GetAnswers (if trapAttrs = [] then none else h.trapTree.get trapId)
        TrapGetAttr.supplied Trap.stored trapAttrs (getHostifTrap h npuTrap trapId trapAttrs) ↔
      ∀ trap, h.trapTree.get trapId = some trap → ∀ done attr rest, trapAttrs = done ++ attr :: rest →
        (∀ earlier ∈ done, earlier.supplied = true) → attr.supplied = false →
        (∀ earlier ∈ done, validateTrapGet npuTrap trapId earlier = .success ∧
          ∀ count list, earlier = .portList count list → trap.portList.length ≤ count) ∧
        (validateTrapGet npuTrap trapId attr).position = some done.length) ∧
    GetAnswers
        (if qosBufferPoolAttributesValidate poolAttrs vendor = .success then s.bufferPoolTree.get poolId else none)
        BufferPoolAttr.supplied BufferPool.stored poolAttrs (qosBufferPoolAttrGet s poolId poolAttrs vendor) ∧
    (GetAnswers
        (if qosBufferProfileAttributesValidate s profileAttrs false vendor = .success
          then s.bufferProfileTree.get profileId else none)
        BufferProfileAttr.supplied (BufferProfile.stored s) profileAttrs
        (qosBufferProfileAttrGet s profileId profileAttrs vendor) ↔
      (qosBufferProfileAttributesValidate s profileAttrs false vendor = .success →
        ∀ profile, s.bufferProfileTree.get profileId = some profile → ∀ done mode rest,
          profileAttrs = done ++ .thMode mode :: rest → .unknown ∉ done → .unknown ∈ rest →
            profile.mode s ≠ none)) := by
  refine ⟨qosPgAttrGet_answers_iff s pgId pgAttrs uninit, ?_, ?_, ?_, ?_⟩
  · rw [getAnswers_iff TrapGroup.read_even TrapGroup.read_stored ?_ ?_]
    · constructor
      · intro named checked held attr member
        obtain ⟨group, found⟩ := Option.ne_none_iff_exists'.mp held
        rcases exists_first_missing TrapGroupAttr.supplied groupAttrs with
          all | ⟨done, first, rest, split, good, bad⟩
        · exact all attr member
        · have position := (named group ((if_pos checked).trans found) done first rest split good bad).2
          rw [TrapGroup.read_success] at position
          cases position
      · intro all group found done attr rest split good bad
        rw [Option.ite_none_right_eq_some] at found
        have supplied := all found.1 (by rw [found.2]; simp) attr (by rw [split]; simp)
        rw [bad] at supplied
        cases supplied
    all_goals
      intros
      unfold getHostifTrapGroup
      cases checked : validateTrapgroupGet platform npuGroup groupAttrs <;>
        cases found : h.trapGroupTree.get groupId <;> simp_all
  · rw [getAnswers_iff (fun trap => Trap.read_even trap npuTrap trapId)
      (fun trap i _ => trap.read_stored npuTrap trapId i) ?_ ?_]
    · unfold GetMissesNamed
      simp only [Option.ite_none_left_eq_some, Trap.read_ok_iff]
      constructor
      · intro named trap found done attr rest split good bad
        rw [← trap.read_missing npuTrap trapId done.length bad]
        exact named trap ⟨by rw [split]; simp, found⟩ done attr rest split good bad
      · intro named trap found done attr rest split good bad
        rw [trap.read_missing npuTrap trapId done.length bad]
        exact named trap found.2 done attr rest split good bad
    all_goals
      intros
      unfold getHostifTrap
      by_cases empty : trapAttrs = [] <;> cases found : h.trapTree.get trapId <;> simp_all
  · rw [getAnswers_iff BufferPool.read_even BufferPool.read_stored ?_ ?_]
    · exact fun pool _ => pool.read_named poolAttrs
    all_goals
      intros
      unfold qosBufferPoolAttrGet
      cases checked : qosBufferPoolAttributesValidate poolAttrs vendor <;>
        cases found : s.bufferPoolTree.get poolId <;> simp_all
  · rw [getAnswers_iff (BufferProfile.read_even s) (fun profile i _ _ => profile.read_stored s i) ?_ ?_]
    · simp only [BufferProfile.read_named_iff, Option.ite_none_right_eq_some, and_imp]
      exact ⟨fun named checked profile found => named profile checked found,
        fun named profile checked found => named checked profile found⟩
    all_goals
      intros
      unfold qosBufferProfileAttrGet
      cases checked : qosBufferProfileAttributesValidate s profileAttrs false vendor <;>
        cases found : s.bufferProfileTree.get profileId <;> simp_all

/-- Two entries of a priority group's get: the second keeps what the caller had in it. -/
theorem attrGets_not_answered :
    ∃ s : QosState, s.pgTree.get ⟨.priorityGroup, 7⟩ = some ⟨⟨.port, 1⟩, ⟨.bufferProfile, 9⟩⟩ ∧
      ¬ GetAnswers (s.pgTree.get ⟨.priorityGroup, 7⟩) PgAttr.supplied PriorityGroup.stored
        [.bufferProfile nullObjectId, .bufferProfile nullObjectId]
        (qosPgAttrGet s
          ⟨.priorityGroup, 7⟩ [.bufferProfile nullObjectId, .bufferProfile nullObjectId] .success) := by
  refine ⟨⟨∅, ∅,
    (∅ : KeyTree ObjectId PriorityGroup).put ⟨.priorityGroup, 7⟩ ⟨⟨.port, 1⟩, ⟨.bufferProfile, 9⟩⟩,
    ∅, ∅, ∅, ∅, nullObjectId⟩, by decide, fun right => ?_⟩
  have answered := (right.reads ⟨⟨.port, 1⟩, ⟨.bufferProfile, 9⟩⟩ (by decide)).answered (by decide)
  revert answered
  decide

end SaiCommon
