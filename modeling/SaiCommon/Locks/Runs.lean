import SaiCommon.Locks.AclSections
import SaiCommon.Switching.LagMembers

namespace SaiCommon

variable {lookups : AclLookups} {attr : AclRuleAttr} {table : AclTable} {attrs : List AclRuleAttr}

open Locks

structure LockedModules where
  names : ReferenceState
  lag : LagState

/-- The calls that change nothing that is stored. -/
inductive ReadCall
  | mirrorSessionAttributeGet (sessionId : ObjectId)
  | mirrorIsValidMirrorSession (sessionId : ObjectId)
  | udfGetAttribute (udfId : ObjectId)
  | udfMatchCreate (validate : SaiStatus)
  | udfMatchRemove (udfMatchId : ObjectId)
  | udfMatchGetAttribute (udfMatchId : ObjectId)
  | udfGroupGetAttribute (groupId : ObjectId)
  | udfGroupHwIdGet (groupId : ObjectId)
  | udfGroupTypeGet (groupId : ObjectId)
  | hashObjGetAttr (hashObjId : ObjectId) (validate : SaiStatus)
  | switchHashAttrGet
  | getAclTable (tableId : ObjectId) (attrCount : Nat)
  | setAclCntr (counterId : ObjectId)
  | getAclCntr (counterId : ObjectId) (attrCount : Nat)
  | getAclRule (ruleId : ObjectId) (attrCount : Nat)
  | l2GetLagAttribute (lagId : ObjectId)
  | l2LagPortModeSet (lagId portId : ObjectId)
  | l2LagPortModeGet (lagId portId : ObjectId) (modeNull : Bool)
  | l2GetLagMemberAttribute (found : Option LagPortNode)

inductive LockedCall
  | names (call : ReferenceCall)
  | lag (call : LagCall)
  | setLagMemberAttribute (found : Option LagPortNode) (attr : LagMemberAttr) (npu : SaiStatus)
  | read (call : ReadCall)

section
variable (platform : AclPlatform) (order : KeyRank MirrorSessionPerPort)

def AclCall.locks (s : AclState) : AclCall → LockTrace
  | .createTable attrs lookups allocOk env => createAclTableLocks lookups s attrs allocOk env
  | .deleteTable tableId _ => deleteAclTableLocks tableId
  | .createCounter attrs env => createAclCounterLocks attrs env.allocOk
  | .deleteCounter counterId _ _ => deleteAclCounterLocks counterId
  | .createRule attrs allocOk env => createAclRuleLocks platform s attrs allocOk env
  | .deleteRule ruleId _ => deleteAclRuleLocks ruleId
  | .setRule ruleId attr env => setAclRuleLocks platform s ruleId attr env

def MirrorEvent.locks (s : MirrorState) : MirrorEvent → LockTrace
  | .sessionCreate _ _ _ => mirrorSessionCreateLocks
  | .sessionRemove sessionId _ => mirrorSessionRemoveLocks sessionId
  | .handlePerPort isPortValid portId direction sessions env =>
    mirrorHandlePerPortLocks isPortValid order portId direction env s sessions

def UdfEvent.locks : UdfEvent → LockTrace
  | .groupCreate _ env => udfGroupCreateLocks env
  | .groupRemove groupId _ => udfGroupRemoveLocks groupId
  | .create _ env => udfCreateLocks env
  | .remove udfId _ => udfRemoveLocks udfId
  | .set udfId _ env => udfSetAttributeLocks udfId env

def HashEvent.locks (s : HashState) : HashEvent → LockTrace
  | .create attrs validate env => hashObjCreateLocks s attrs validate env
  | .remove hashObjId => hashObjRemoveLocks hashObjId
  | .setAttr hashObjId attr env => hashObjSetAttrLocks s hashObjId attr env
  | .switchAttrSet _ hashObjId _ => switchHashAttrSetLocks s hashObjId

def ReferenceCall.locks (s : ReferenceState) : ReferenceCall → LockTrace
  | .acl call => (s.answered call).locks platform s.acl
  | .mirror event => event.locks order s.mirror
  | .mirrorSet _ sessionId _ _ => mirrorSessionAttributeSetLocks sessionId
  | .udf event => event.locks
  | .hash event => (s.answeredHash event).locks s.hash

/-- The port module and the RIFs of LAGs change without the lock. -/
def LagCall.locks (s : LagState) : LagCall → LockTrace
  | .createLag _ env => l2CreateLagLocks s env
  | .removeLag lagId _ => l2RemoveLagLocks s lagId
  | .setAttribute lagId _ _ => l2SetLagAttributeLocks s lagId
  | .addPorts _ ports _ => l2AddPortsToLagLocks s ports
  | .removePorts lagId ports npu rifDel =>
    l2RemovePortsFromLagLocks s lagId ports (l2RemovePortsFromLag s lagId ports npu rifDel).2
  | .createMember attrs _ => l2CreateLagMemberLocks attrs
  | .removeMember _ _ _ _ => l2RemoveLagMemberLocks
  | .portsChange _ _ => []
  | .updateRifId _ _ => []
  | .registerCallback _ => lagRifCallbackRegisterLocks

def ReadCall.locks (s : LockedModules) : ReadCall → LockTrace
  | .mirrorSessionAttributeGet sessionId => mirrorSessionAttributeGetLocks sessionId
  | .mirrorIsValidMirrorSession sessionId =>
    mirrorIsValidMirrorSessionLocks (s.names.mirror.mirrorSessionsTree.get sessionId).isSome
  | .udfGetAttribute udfId => udfGetAttributeLocks udfId
  | .udfMatchCreate validate => udfMatchCreateLocks validate
  | .udfMatchRemove udfMatchId => udfMatchRemoveLocks udfMatchId
  | .udfMatchGetAttribute udfMatchId => udfMatchGetAttributeLocks udfMatchId
  | .udfGroupGetAttribute groupId => udfGroupGetAttributeLocks groupId
  | .udfGroupHwIdGet groupId => udfGroupHwIdGetLocks groupId
  | .udfGroupTypeGet groupId => udfGroupTypeGetLocks groupId
  | .hashObjGetAttr hashObjId validate => hashObjGetAttrLocks hashObjId validate
  | .switchHashAttrGet => switchHashAttrGetLocks
  | .getAclTable tableId attrCount => getAclTableLocks tableId attrCount
  | .setAclCntr counterId => setAclCntrLocks counterId
  | .getAclCntr counterId attrCount => getAclCntrLocks counterId attrCount
  | .getAclRule ruleId attrCount => getAclRuleLocks s.names.acl ruleId attrCount
  | .l2GetLagAttribute lagId => l2GetLagAttributeLocks s.lag lagId
  | .l2LagPortModeSet lagId portId => l2LagPortModeSetLocks s.lag lagId portId
  | .l2LagPortModeGet lagId portId modeNull => l2LagPortModeGetLocks s.lag lagId portId modeNull
  | .l2GetLagMemberAttribute found => l2GetLagMemberAttributeLocks found

def LockedCall.locks (s : LockedModules) : LockedCall → LockTrace
  | .names call => call.locks platform order s.names
  | .lag call => call.locks s.lag
  | .setLagMemberAttribute found _ _ => l2SetLagMemberAttributeLocks found
  | .read call => call.locks s

/-- `sai_l2_set_lag_member_attribute` on the node that the cache finds. -/
def LagState.setMemberAttribute (s : LagState) (found : Option LagPortNode) (npu : SaiStatus) :
    LagMemberAttr → LagState × SaiStatus
  | .egressDisable value =>
    match found with
    | none => (s, .itemNotFound)
    | some node => s.portFlagSet node.lagId node.portId false value npu
  | .ingressDisable value =>
    match found with
    | none => (s, .itemNotFound)
    | some node => s.portFlagSet node.lagId node.portId true value npu
  | .other => (s, if found = none then .itemNotFound else .unknownAttribute 0)
  | _ => (s, if found = none then .itemNotFound else .invalidAttribute 0)

def LockedCall.act (s : LockedModules) : LockedCall → LockedModules
  | .names call => { s with names := call.step platform order s.names }
  | .lag call => { s with lag := call.step s.lag }
  | .setLagMemberAttribute found attr npu => { s with lag := (s.lag.setMemberAttribute found npu attr).1 }
  | .read _ => s

/-- The modules with the flags of their locks; there are none when a call waits
for ever, and no later one is served. -/
structure LockedSystem where
  modules : LockedModules
  held : Option (Mutex → Bool)

def LockedCall.step (s : LockedSystem) (call : LockedCall) : LockedSystem :=
  match s.held with
  | none => s
  | some held =>
    match Locks.run held (call.locks platform order s.modules) with
    | none => { s with held := none }
    | some held => { modules := call.act platform order s.modules, held := some held }

/-- The ACL calls come to no session that is not stored. -/
def AclCall.Careful (s : AclState) : AclCall → Prop
  | .createRule attrs allocOk env =>
    ∀ table, createAclRuleBegin s attrs allocOk = .ok table → env.lookups.listAlloc = true →
      aclRuleMirrorsLive platform env.lookups (s.deref table) 0 .zero attrs
  | .setRule ruleId attr env =>
    ∀ present table, ruleId.objType = .aclEntry → aclCheckRuleLoop 0 [attr] = .success →
      s.ruleTree.get ruleId = some present → s.tableTree.get present.tableId = some table →
      env.allocOk = true → env.lookups.listAlloc = true → attr.MirrorsLive env.lookups
  | _ => True

/-- A hash object gets valid UDF groups, the switch a hash object or none. -/
def HashEvent.Careful (s : HashState) : HashEvent → Prop
  | .setAttr hashObjId attr env =>
    hashObjId.objType = .hash → env.validate = .success → s.hashObjTree.get hashObjId ≠ none →
      attr.invalidGroups env.groupType = false
  | .switchAttrSet _ hashObjId _ => hashObjId = nullObjectId ∨ hashObjId.objType = .hash
  | _ => True

/-- The session that is asked for is stored, and the LAG whose attributes are
read is there. -/
def ReadCall.Careful (s : LockedModules) : ReadCall → Prop
  | .mirrorIsValidMirrorSession sessionId => s.names.mirror.mirrorSessionsTree.get sessionId ≠ none
  | .l2GetLagAttribute lagId => s.lag.isLagCreated lagId = true
  | _ => True

def LockedCall.Careful (s : LockedModules) : LockedCall → Prop
  | .names (.acl call) => (s.names.answered call).Careful platform s.names.acl
  | .names (.hash event) => (s.names.answeredHash event).Careful s.names.hash
  | .read call => call.Careful s
  | _ => True

end

section
variable {platform : AclPlatform} {order : KeyRank MirrorSessionPerPort} {s : LockedSystem}

theorem within_populate_given : GivenBack (within .acl (aclRulePopulateLocks platform lookups table attrs)) ↔
      (lookups.listAlloc = true → aclRuleMirrorsLive platform lookups table 0 .zero attrs) := by
  unfold aclRulePopulateLocks
  cases lists : lookups.listAlloc with
  | false => exact ⟨fun _ same => (by cases same), fun _ => GivenBack.within Mutex.acl⟩
  | true =>
    rw [if_neg (by decide)]
    have noMirror : Function.update free Mutex.acl true .mirror = false := rfl
    have noUdf : Function.update free Mutex.acl true .udf = false := rfl
    have opened (rest : LockTrace) : owned free (within Mutex.acl rest)
        = (owned (Function.update free Mutex.acl true) rest).bind fun next => owned next [.unlock .acl] := by
      unfold within
      dsimp only [List.cons_append, owned]
      rw [if_neg (by decide)]
      exact owned_append _ _ _
    have result := opened (aclRulePopulateLoopLocks platform lookups table 0 .zero attrs)
    rcases aclRulePopulateLoopLocks_owned platform lookups noMirror noUdf table attrs 0 .zero with
      ⟨live, same⟩ | ⟨dead, left⟩
    · refine ⟨fun _ _ => live, fun _ => ?_⟩
      unfold GivenBack
      rw [result, same]
      exact (opened []).symm.trans (GivenBack.within Mutex.acl)
    · refine ⟨fun given => absurd given ?_, fun good => absurd (good rfl) dead⟩
      rw [left] at result
      exact not_givenBack (result.trans rfl) (m := .mirror) rfl

theorem aclRuleMirrorsLive_one :
    aclRuleMirrorsLive platform lookups table 0 .zero [attr] ↔ attr.MirrorsLive lookups := by
  unfold aclRuleMirrorsLive
  split
  · rw [and_true]
  · unfold aclRuleMirrorsLive
    rw [and_true]

theorem createAclRuleLocks_given {s : AclState} {allocOk : Bool} {env : AclRuleCreateEnv} :
    GivenBack (createAclRuleLocks platform s attrs allocOk env) ↔
      (AclCall.createRule attrs allocOk env).Careful platform s := by
  unfold createAclRuleLocks AclCall.Careful
  dsimp only
  cases began : createAclRuleBegin s attrs allocOk with
  | error status => exact ⟨fun _ table isOk => (by cases isOk), fun _ => .nil⟩
  | ok table =>
    refine within_populate_given.trans ⟨fun live other isIt => ?_, fun live => live table rfl⟩
    cases isIt
    exact live

/-- The last way out of `sai_set_acl_rule`. -/
theorem setAclRuleLocks_given {s : AclState} {ruleId : ObjectId} {env : AclRuleSetEnv} :
    GivenBack (setAclRuleLocks platform s ruleId attr env) ↔
    (AclCall.setRule ruleId attr env).Careful platform s := by
  unfold setAclRuleLocks AclCall.Careful
  dsimp only
  by_cases kind : ruleId.objType = .aclEntry
  · rw [if_neg (not_not.mpr kind)]
    split
    · rename_i checked
      cases stored : s.ruleTree.get ruleId with
      | none => exact ⟨fun _ present table _ _ isIt => (by cases isIt), fun _ => given_pair .acl⟩
      | some present =>
        dsimp only
        cases found : s.tableTree.get present.tableId with
        | none =>
          refine ⟨fun _ other table _ _ isIt isTable => ?_, fun _ => given_pair .acl⟩
          cases isIt
          rw [found] at isTable
          cases isTable
        | some table =>
          dsimp only
          cases alloc : env.allocOk with
          | false => exact ⟨fun _ _ _ _ _ _ _ isTrue => (by cases isTrue), fun _ => given_pair .acl⟩
          | true =>
            rw [if_neg (by decide)]
            have inner : GivenBack (within .acl (aclRulePopulateLocks platform env.lookups table [attr])) ↔
                (env.lookups.listAlloc = true → attr.MirrorsLive env.lookups) := by
              rw [within_populate_given, aclRuleMirrorsLive_one]
            refine inner.trans ⟨fun live other otherTable _ _ isIt isTable _ => ?_, fun live => ?_⟩
            · cases isIt
              rw [found] at isTable
              cases isTable
              exact live
            · exact live present table kind checked rfl found rfl
    · rename_i failed
      exact ⟨fun _ _ _ _ checked => absurd checked failed, fun _ => .nil⟩
  · rw [if_pos kind]
    exact ⟨fun _ _ _ isRule => absurd isRule kind, fun _ => .nil⟩

theorem AclCall.locks_given {s : AclState} {call : AclCall} :
    GivenBack (call.locks platform s) ↔ call.Careful platform s := by
  cases call with
  | createTable attrs lookups allocOk env => exact iff_of_true (createAclTableLocks_given s attrs allocOk env) trivial
  | deleteTable tableId npu => exact iff_of_true (typedLocks_given _ _ _) trivial
  | createCounter attrs env => exact iff_of_true (given_unless (given_unless (GivenBack.within _))) trivial
  | deleteCounter counterId sharedCount npu => exact iff_of_true (typedLocks_given _ _ _) trivial
  | createRule attrs allocOk env => exact createAclRuleLocks_given
  | deleteRule ruleId env => exact iff_of_true (typedLocks_given _ _ _) trivial
  | setRule ruleId attr env => exact setAclRuleLocks_given

theorem MirrorEvent.locks_given (s : MirrorState) (event : MirrorEvent) : GivenBack (event.locks order s) := by
  cases event with
  | sessionCreate lookups attrs env => exact GivenBack.within _
  | sessionRemove sessionId npu => exact typedLocks_given _ _ _
  | handlePerPort isPortValid portId direction sessions env =>
    exact mirrorHandlePerPortLocks_given isPortValid order portId direction env s sessions

theorem UdfEvent.locks_given (event : UdfEvent) : GivenBack event.locks := by
  cases event with
  | groupCreate attrs env => exact given_unless (given_unless (GivenBack.within _))
  | groupRemove groupId env => exact typedLocks_given _ _ _
  | create attrs env => exact given_unless (given_unless (GivenBack.within _))
  | remove udfId env => exact typedLocks_given _ _ _
  | set udfId attr env => exact given_unless (given_unless (GivenBack.within _))

theorem HashEvent.locks_given {s : HashState} {event : HashEvent} : GivenBack (event.locks s) ↔ event.Careful s := by
  cases event with
  | create attrs validate env => exact iff_of_true (hashObjCreateLocks_given s attrs validate env) trivial
  | remove hashObjId => exact iff_of_true (typedLocks_given _ _ _) trivial
  | setAttr hashObjId attr env => exact hashObjSetAttrLocks_given s
  | switchAttrSet attr hashObjId npu => exact switchHashAttrSetLocks_given s

theorem LagCall.locks_given (s : LagState) (call : LagCall) : GivenBack (call.locks s) := by
  have pair := given_pair .lag
  cases call with
  | createLag attrs env =>
    unfold LagCall.locks l2CreateLagLocks
    dsimp only
    split
    · exact pair
    · exact pair
  | removeLag lagId npu =>
    unfold LagCall.locks l2RemoveLagLocks
    dsimp only
    split
    · exact pair
    · rw [ite_self]
      exact pair
  | setAttribute lagId attr env =>
    unfold LagCall.locks l2SetLagAttributeLocks
    dsimp only
    rw [ite_self]
    exact pair
  | addPorts lagId ports env => exact given_unless (GivenBack.within _)
  | removePorts lagId ports npu rifDel =>
    unfold LagCall.locks l2RemovePortsFromLagLocks
    refine given_unless ?_
    rw [ite_self, ite_self, ite_self]
    exact pair
  | createMember attrs env =>
    unfold LagCall.locks l2CreateLagMemberLocks
    dsimp only
    split
    · exact .nil
    · exact given_unless (GivenBack.within _)
  | removeMember memberId found npu rifDel => exact GivenBack.within _
  | portsChange valid fwdMode => exact .nil
  | updateRifId lagId rifId => exact .nil
  | registerCallback registered => exact pair

theorem l2LagMemberAttributeLocks_given (found : Option LagPortNode) :
    GivenBack (l2SetLagMemberAttributeLocks found) :=
  GivenBack.append (GivenBack.within _) (given_unless (GivenBack.within _))

theorem l2LagPortModeSetLocks_given (s : LagState) (lagId portId : ObjectId) :
    GivenBack (l2LagPortModeSetLocks s lagId portId) := by
  unfold l2LagPortModeSetLocks
  rw [ite_self]
  exact given_pair .lag

theorem ReadCall.locks_given {s : LockedModules} {call : ReadCall} : GivenBack (call.locks s) ↔ call.Careful s := by
  cases call with
  | mirrorIsValidMirrorSession sessionId =>
    unfold ReadCall.locks ReadCall.Careful mirrorIsValidMirrorSessionLocks
    dsimp only
    cases stored : s.names.mirror.mirrorSessionsTree.get sessionId with
    | none =>
      refine ⟨fun given => absurd given ?_, fun there => absurd rfl there⟩
      have left : owned free [Op.lock Mutex.mirror] = some (Function.update free Mutex.mirror true) := rfl
      exact not_givenBack left (Function.update_self _ _ _)
    | some session => exact ⟨fun _ => Option.some_ne_none session, fun _ => given_pair .mirror⟩
  | l2GetLagAttribute lagId =>
    unfold ReadCall.locks ReadCall.Careful l2GetLagAttributeLocks
    dsimp only
    cases created : s.lag.isLagCreated lagId with
    | false => exact ⟨fun given => (by cases given), fun isTrue => (by cases isTrue)⟩
    | true => exact ⟨fun _ => rfl, fun _ => .nil⟩
  | getAclRule ruleId attrCount =>
    refine iff_of_true (given_unless (given_unless ?_)) trivial
    split
    · exact given_pair .acl
    · exact given_pair .acl
  | l2LagPortModeSet lagId portId => exact iff_of_true (l2LagPortModeSetLocks_given s.lag lagId portId) trivial
  | l2LagPortModeGet lagId portId modeNull =>
    exact iff_of_true (given_unless (l2LagPortModeSetLocks_given s.lag lagId portId)) trivial
  | l2GetLagMemberAttribute found => exact iff_of_true (l2LagMemberAttributeLocks_given found) trivial
  | switchHashAttrGet => exact iff_of_true (GivenBack.within _) trivial
  | udfMatchCreate validate => exact iff_of_true (given_unless (GivenBack.within _)) trivial
  | hashObjGetAttr hashObjId validate => exact iff_of_true (given_unless (given_unless (GivenBack.within _))) trivial
  | getAclTable tableId attrCount => exact iff_of_true (given_unless (typedLocks_given _ _ _)) trivial
  | getAclCntr counterId attrCount => exact iff_of_true (given_unless (typedLocks_given _ _ _)) trivial
  | mirrorSessionAttributeGet sessionId => exact iff_of_true (typedLocks_given _ _ _) trivial
  | udfGetAttribute udfId => exact iff_of_true (typedLocks_given _ _ _) trivial
  | udfMatchRemove udfMatchId => exact iff_of_true (typedLocks_given _ _ _) trivial
  | udfMatchGetAttribute udfMatchId => exact iff_of_true (typedLocks_given _ _ _) trivial
  | udfGroupGetAttribute groupId => exact iff_of_true (typedLocks_given _ _ _) trivial
  | udfGroupHwIdGet groupId => exact iff_of_true (typedLocks_given _ _ _) trivial
  | udfGroupTypeGet groupId => exact iff_of_true (typedLocks_given _ _ _) trivial
  | setAclCntr counterId => exact iff_of_true (typedLocks_given _ _ _) trivial

theorem LockedCall.locks_given {s : LockedModules} {call : LockedCall} :
    GivenBack (call.locks platform order s) ↔ call.Careful platform s := by
  cases call with
  | names call =>
    cases call with
    | acl call => exact AclCall.locks_given
    | mirror event => exact iff_of_true (event.locks_given s.names.mirror) trivial
    | mirrorSet lookups sessionId attr npu => exact iff_of_true (typedLocks_given _ _ _) trivial
    | udf event => exact iff_of_true event.locks_given trivial
    | hash event => exact HashEvent.locks_given
  | lag call => exact iff_of_true (call.locks_given s.lag) trivial
  | setLagMemberAttribute found attr npu => exact iff_of_true (l2LagMemberAttributeLocks_given found) trivial
  | read call => exact ReadCall.locks_given

/-- In every run of careful calls each lock is free when a call begins, and a
further call gives back what it takes, takes nothing twice and gives back nothing
else exactly when it is careful; a careful one does not wait. -/
theorem locks_given_back (reach : Runs.Reach (fun s : LockedSystem => s.held = some free)
      (Runs.guarded (fun s call => LockedCall.Careful platform s.modules call) (LockedCall.step platform order)) s) :
    s.held = some free ∧ ∀ call : LockedCall,
      (call.Careful platform s.modules ↔ GivenBack (call.locks platform order s.modules)) ∧
      (call.Careful platform s.modules → (call.step platform order s).held = some free) := by
  have served (s : LockedSystem) (call : LockedCall) (isFree : s.held = some free)
      (careful : call.Careful platform s.modules) : (call.step platform order s).held = some free := by
    unfold LockedCall.step
    rw [isFree]
    dsimp only
    rw [(LockedCall.locks_given.mpr careful).run]
  have isFree : s.held = some free := by
    refine reach.invariant (fun s => s.held = some free) (fun _ fresh => fresh) fun s call t isFree moved => ?_
    rw [moved.2]
    exact served s call isFree moved.1
  exact ⟨isFree, fun call => ⟨LockedCall.locks_given.symm, served s call isFree⟩⟩

end

def lockedStart : LockedSystem := ⟨⟨referenceStart, lagSample⟩, some free⟩

def lockedRun : List LockedCall := referenceRun.map .names

theorem lockedRun_given_back :
    (lockedRun.foldl (LockedCall.step aclSamplePlatform mirrorSessionRank) lockedStart).held = some free ∧
      ∀ call : LockedCall, (call.Careful aclSamplePlatform
            (lockedRun.foldl (LockedCall.step aclSamplePlatform mirrorSessionRank) lockedStart).modules ↔
          GivenBack (call.locks aclSamplePlatform mirrorSessionRank
            (lockedRun.foldl (LockedCall.step aclSamplePlatform mirrorSessionRank) lockedStart).modules)) ∧
        (call.Careful aclSamplePlatform
            (lockedRun.foldl (LockedCall.step aclSamplePlatform mirrorSessionRank) lockedStart).modules →
          (call.step aclSamplePlatform mirrorSessionRank
            (lockedRun.foldl (LockedCall.step aclSamplePlatform mirrorSessionRank) lockedStart)).held = some free) := by
  refine locks_given_back (Runs.Reach.run (.start rfl) ⟨trivial, trivial, trivial, trivial, ?_, trivial⟩)
  intro table began _
  cases began
  exact ⟨trivial, trivial, fun _ _ _ oid member => (by cases List.mem_singleton.mp member; rfl), trivial⟩

/-- Asking once for a session that is not stored blocks every later call of the
mirror module. -/
theorem locks_not_given_back : ¬ ∀ platform order s, Runs.Reach (fun s : LockedSystem => s.held = some free)
        (Runs.guarded (fun _ _ => True) (LockedCall.step platform order)) s → s.held = some free := by
  intro all
  have reached : Runs.Reach (fun s : LockedSystem => s.held = some free)
      (Runs.guarded (fun _ _ => True) (LockedCall.step aclSamplePlatform mirrorSessionRank))
      ([.read (.mirrorIsValidMirrorSession ⟨.mirrorSession, 1⟩), .names (.mirror mirrorCreate)].foldl
        (LockedCall.step aclSamplePlatform mirrorSessionRank) lockedStart) :=
    Runs.Reach.run (.start rfl) (Runs.allowedRun_of_forall (fun _ _ => trivial) _ _)
  cases all _ _ _ reached

end SaiCommon
