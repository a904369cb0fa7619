import SaiCommon.References.AclNames
import SaiCommon.References.Named
import SaiCommon.Hash.Interleaving

namespace SaiCommon

/-- The modules whose objects name mirror sessions and UDF groups, and the two
that have these. -/
structure ReferenceState where
  acl : AclState
  mirror : MirrorState
  udf : UdfState
  hash : HashState

section
variable (s : ReferenceState)

def ReferenceState.LiveSession (sessionId : ObjectId) : Prop := s.mirror.mirrorSessionsTree.get sessionId ≠ none

def ReferenceState.LiveGroup (type : UdfGroupType) (groupId : ObjectId) : Prop := s.udf.groupType groupId = some type

/-- `sai_mirror_is_valid_mirror_session`, `sai_acl_table_udf_field_validate` and
`dn_sai_udf_group_hw_id_get` on what is stored. -/
def ReferenceState.answers (lookups : AclLookups) : AclLookups :=
  { lookups with
    mirrorValid := fun id => (s.mirror.mirrorSessionsTree.get id).isSome
    udfGroupStatus := fun id =>
      match s.udf.groupType id with
      | none => .invalidAttrValue 0
      | some .generic => .success
      | some _ => .attrNotSupported 0
    udfHwId := fun id =>
      if id.objType ≠ .udfGroup then (.invalidObjectType, (lookups.udfHwId id).2)
      else if s.udf.groupType id = none then (.invalidObjectId, (lookups.udfHwId id).2)
      else lookups.udfHwId id }

/-- The ACL call with the other modules' answers of this state. -/
def ReferenceState.answered : AclCall → AclCall
  | .createTable attrs lookups allocOk env =>
    .createTable attrs (s.answers lookups) allocOk { env with lookups := s.answers env.lookups }
  | .createRule attrs allocOk env => .createRule attrs allocOk { env with lookups := s.answers env.lookups }
  | .setRule ruleId attr env => .setRule ruleId attr { env with lookups := s.answers env.lookups }
  | call => call

def ReferenceState.answeredHash : HashEvent → HashEvent
  | .create attrs validate env => .create attrs validate { env with groupType := s.udf.groupType }
  | .setAttr hashObjId attr env => .setAttr hashObjId attr { env with groupType := s.udf.groupType }
  | event => event

def ReferenceState.NamesSession (sessionId : ObjectId) : Prop :=
  ∃ ruleId rule, s.acl.ruleTree.get ruleId = some rule ∧ ∃ action ∈ rule.actionList,
    aclMirrorAction action.action = true ∧ action.enable = true ∧ sessionId ∈ action.parameter.objList

def ReferenceState.NamesGroup (groupId : ObjectId) : Prop :=
  (∃ tableId table, s.acl.tableTree.get tableId = some table ∧
    ∃ udf ∈ table.udfFieldList, udf.udfGroupId = groupId) ∨
  (∃ ruleId rule, s.acl.ruleTree.get ruleId = some rule ∧
    ∃ filter ∈ rule.filterList, ∃ udf, filter.udfField = some udf ∧ udf.udfGroupId = groupId) ∨
  ∃ hashObjId object, s.hash.hashObjTree.get hashObjId = some object ∧ groupId ∈ object.fields.udfGroups

/-- Whatever is named is stored, and a group is of the type its user requires. -/
structure ReferencesLive : Prop where
  sessions : ∀ sessionId, s.NamesSession sessionId → s.LiveSession sessionId
  tables : ∀ tableId table, s.acl.tableTree.get tableId = some table →
    ∀ udf ∈ table.udfFieldList, s.LiveGroup .generic udf.udfGroupId
  rules : ∀ ruleId rule, s.acl.ruleTree.get ruleId = some rule →
    ∀ filter ∈ rule.filterList, ∀ udf, filter.udfField = some udf → s.LiveGroup .generic udf.udfGroupId
  hashes : ∀ hashObjId object, s.hash.hashObjTree.get hashObjId = some object →
    ∀ groupId ∈ object.fields.udfGroups, s.LiveGroup .hash groupId

end

inductive ReferenceCall
  | acl (call : AclCall)
  | mirror (event : MirrorEvent)
  | mirrorSet (lookups : MirrorLookups) (sessionId : ObjectId) (attr : MirrorAttr) (npu : SaiStatus)
  | udf (event : UdfEvent)
  | hash (event : HashEvent)

section
variable (platform : AclPlatform) (order : KeyRank MirrorSessionPerPort)

def ReferenceCall.step (s : ReferenceState) : ReferenceCall → ReferenceState
  | .acl call => { s with acl := ((s.answered call).run platform s.acl).1 }
  | .mirror event => { s with mirror := event.step order s.mirror }
  | .mirrorSet lookups sessionId attr npu =>
    { s with mirror := (mirrorSessionAttributeSet s.mirror lookups sessionId attr npu).1 }
  | .udf event => { s with udf := event.step s.udf }
  | .hash event => { s with hash := (s.answeredHash event).step s.hash }

def ReferenceCall.Removes (s : ReferenceState) : ReferenceCall → Prop
  | .mirror (.sessionRemove sessionId npu) =>
    (mirrorSessionRemove s.mirror sessionId npu).2 = .success →
      s.mirror.mirrorSessionsTree.get sessionId ≠ none ∧
        (mirrorSessionRemove s.mirror sessionId npu).1.mirrorSessionsTree.get sessionId = none
  | .udf (.groupRemove groupId env) =>
    (udfGroupRemove s.udf groupId env).2 = .success →
      s.udf.udfGroupTree.get groupId ≠ none ∧ (udfGroupRemove s.udf groupId env).1.udfGroupTree.get groupId = none
  | _ => True

/-- No rule mirrors to a session whose removal goes through, and a group that is
to be removed is stored, has no UDF, is not named and does not come back. -/
def ReferenceCall.Unnamed (s : ReferenceState) : ReferenceCall → Prop
  | .mirror (.sessionRemove sessionId npu) =>
    ∀ session, s.mirror.mirrorSessionsTree.get sessionId = some session → sessionId.objType = .mirrorSession →
      session.sourcePortsTree = ∅ → npu = .success → ¬ s.NamesSession sessionId
  | .udf (.groupRemove groupId env) =>
    groupId.objType = .udfGroup → (∃ group, s.udf.udfGroupTree.get groupId = some group ∧ group.udfCount = 0) ∧
      (env.npu = .success ∨ env.insertOk = false) ∧ ¬ s.NamesGroup groupId
  | _ => True

/-- No table, no rule, and hash objects without UDF groups. -/
structure ReferenceFresh (s : ReferenceState) : Prop where
  noTables : s.acl.tableTree = ∅
  noRules : s.acl.ruleTree = ∅
  noGroups : ∀ hashObjId object, s.hash.hashObjTree.get hashObjId = some object → object.fields.udfGroups = []

/-- The invariant of the runs: the lists of disabled mirror actions are empty. -/
structure ReferencesKept (s : ReferenceState) : Prop where
  acl : AclNames s.LiveSession (s.LiveGroup .generic) s.acl
  hash : HashNames (s.LiveGroup .hash) s.hash

end

section
variable {platform : AclPlatform} {order : KeyRank MirrorSessionPerPort} {s t : ReferenceState}

theorem ReferencesKept.live (kept : ReferencesKept s) : ReferencesLive s := by
  refine ⟨fun sessionId named => ?_, kept.acl.tables, fun ruleId rule stored =>
    (kept.acl.rules ruleId rule stored).filters,
    kept.hash⟩
  obtain ⟨ruleId, rule, stored, action, member, isMirror, _, listed⟩ := named
  exact ((kept.acl.rules ruleId rule stored).actions action member isMirror).2 sessionId listed

theorem ReferenceFresh.kept (fresh : ReferenceFresh s) : ReferencesKept s := by
  refine ⟨⟨fun k table stored => ?_, fun k rule stored => ?_⟩, fun k object stored groupId member => ?_⟩
  · rw [fresh.noTables, KeyTree.get_empty] at stored
    cases stored
  · rw [fresh.noRules, KeyTree.get_empty] at stored
    cases stored
  · rw [fresh.noGroups k object stored] at member
    exact absurd member List.not_mem_nil

theorem ReferenceState.answers_tell (lookups : AclLookups) :
    (s.answers lookups).Tell s.LiveSession (s.LiveGroup .generic) := by
  constructor
  · intro id valid
    exact Option.isSome_iff_ne_none.mp valid
  · intro id valid
    unfold ReferenceState.answers at valid
    dsimp only at valid
    unfold ReferenceState.LiveGroup
    split at valid
    · cases valid
    · assumption
    · cases valid

section
variable (kept : ReferencesKept s)
include kept

theorem ReferencesKept.aclStep (call : AclCall) :
    ReferencesKept ((ReferenceCall.acl call).step platform order s) := by
  refine ⟨?_, kept.hash⟩
  cases call with
  | createTable attrs lookups allocOk env => exact kept.acl.createTable (s.answers_tell lookups) attrs allocOk _
  | deleteTable tableId npu => exact kept.acl.deleteTable tableId npu
  | createCounter attrs env => exact kept.acl.createCounter attrs env
  | deleteCounter counterId sharedCount npu => exact kept.acl.deleteCounter counterId sharedCount npu
  | createRule attrs allocOk env => exact kept.acl.createRule (s.answers_tell env.lookups) attrs allocOk
  | deleteRule ruleId env => exact kept.acl.deleteRule ruleId env
  | setRule ruleId attr env => exact kept.acl.setRule (s.answers_tell env.lookups) ruleId attr

theorem ReferencesKept.move (acl : t.acl = s.acl) (hash : t.hash = s.hash)
    (sessions : ∀ sessionId, s.NamesSession sessionId → s.LiveSession sessionId → t.LiveSession sessionId)
    (groups : ∀ type groupId, s.NamesGroup groupId → s.LiveGroup type groupId → t.LiveGroup type groupId) :
    ReferencesKept t := by
  constructor
  · rw [acl]
    refine kept.acl.mono (fun tableId table stored names udf member => ?_) fun ruleId rule stored well => ⟨?_, ?_⟩
    · exact groups .generic _ (.inl ⟨tableId, table, stored, udf, member, rfl⟩) (names udf member)
    · intro filter member udf isUdf
      exact groups .generic _ (.inr (.inl ⟨ruleId, rule, stored, filter, member, udf, isUdf, rfl⟩))
        (well.filters filter member udf isUdf)
    · intro action member isMirror
      obtain ⟨empty, named⟩ := well.actions action member isMirror
      refine ⟨empty, fun id listed => ?_⟩
      cases on : action.enable with
      | false =>
        rw [empty on] at listed
        exact absurd listed List.not_mem_nil
      | true => exact sessions id ⟨ruleId, rule, stored, action, member, isMirror, on, listed⟩ (named id listed)
  · rw [hash]
    intro hashObjId object stored groupId member
    exact groups .hash _ (.inr (.inr ⟨hashObjId, object, stored, member⟩))
      (kept.hash hashObjId object stored groupId member)

theorem ReferencesKept.mirrorStep (event : MirrorEvent) (unnamed : (ReferenceCall.mirror event).Unnamed s) :
    ReferencesKept ((ReferenceCall.mirror event).step platform order s) := by
  refine kept.move rfl rfl (fun sessionId named live => ?_) fun _ _ _ live => live
  unfold ReferenceState.LiveSession at live ⊢
  cases event with
  | sessionCreate lookups attrs env => exact mirrorSessionCreate_sessions lookups attrs env live
  | sessionRemove removedId npu =>
    rcases mirrorSessionRemove_sessions s.mirror removedId npu with
      ⟨same, _⟩ | ⟨⟨session, stored, kind, sources, accepted⟩, removed⟩
    · unfold ReferenceCall.step MirrorEvent.step MirrorEvent.run
      dsimp only
      rw [same]
      exact live
    · unfold ReferenceCall.step MirrorEvent.step MirrorEvent.run
      dsimp only
      rw [removed, KeyTree.get_del]
      split
      · rename_i here
        rw [here] at named
        exact absurd named (unnamed session stored kind sources accepted)
      · exact live
  | handlePerPort isPortValid portId direction sessions env =>
    exact (not_congr (mirrorHandlePerPort_sessions isPortValid order portId direction sessions env sessionId)).mpr live

theorem ReferencesKept.udfStep (event : UdfEvent) (unnamed : (ReferenceCall.udf event).Unnamed s) :
    ReferencesKept ((ReferenceCall.udf event).step platform order s) := by
  refine kept.move rfl rfl (fun _ _ live => live) fun type groupId named live => ?_
  unfold ReferenceState.LiveGroup at live ⊢
  cases event with
  | groupCreate attrs env => exact udfGroupCreate_types attrs env live
  | groupRemove removedId env =>
    unfold ReferenceCall.step UdfEvent.step
    dsimp only
    by_cases kind : removedId.objType = .udfGroup
    · obtain ⟨⟨group, stored, unused⟩, gone, noName⟩ := unnamed kind
      rw [udfGroupRemove_unused kind stored unused env]
      dsimp only
      split
      · exact live
      unfold UdfState.groupType at live ⊢
      dsimp only
      rw [KeyTree.get_del]
      split
      · rename_i here
        rw [here] at named
        exact absurd named noName
      · exact live
    · unfold udfGroupRemove
      rw [if_pos kind]
      exact live
  | create attrs env => exact (udfCreate_types attrs env groupId).trans live
  | remove udfId env => exact (udfRemove_types udfId env groupId).trans live
  | set udfId attr env => exact (udfSetAttribute_types udfId attr env groupId).trans live

theorem ReferencesKept.hashStep (event : HashEvent) :
    ReferencesKept ((ReferenceCall.hash event).step platform order s) := by
  refine ⟨kept.acl, ?_⟩
  cases event with
  | create attrs validate env =>
    have tell : ∀ groupId, s.udf.groupType groupId = some .hash → s.LiveGroup .hash groupId := fun _ typed => typed
    change HashNames _ (hashObjCreate s.hash attrs validate { env with groupType := s.udf.groupType }).1
    exact HashNames.create kept.hash tell attrs validate
  | remove hashObjId => exact kept.hash.remove hashObjId
  | setAttr hashObjId attr env =>
    have tell : ∀ groupId, s.udf.groupType groupId = some .hash → s.LiveGroup .hash groupId := fun _ typed => typed
    change HashNames _ (hashObjSetAttr s.hash hashObjId attr { env with groupType := s.udf.groupType }).1
    exact HashNames.setAttr kept.hash tell hashObjId attr
  | switchAttrSet attr hashObjId npu => exact kept.hash.switchAttrSet attr hashObjId npu

theorem ReferencesKept.step (call : ReferenceCall) (unnamed : call.Unnamed s) :
    ReferencesKept (call.step platform order s) := by
  cases call with
  | acl call => exact kept.aclStep call
  | mirror event => exact kept.mirrorStep event unnamed
  | mirrorSet lookups sessionId attr npu =>
    refine kept.move rfl rfl (fun id _ live => ?_) fun _ _ _ live => live
    exact (not_congr (mirrorSessionAttributeSet_sessions lookups sessionId attr npu id)).mpr live
  | udf event => exact kept.udfStep event unnamed
  | hash event => exact kept.hashStep event

end

theorem ReferenceCall.removes_of_unnamed {call : ReferenceCall} (unnamed : call.Unnamed s) : call.Removes s := by
  cases call with
  | mirror event =>
    cases event with
    | sessionRemove sessionId npu =>
      intro ok
      rcases mirrorSessionRemove_sessions s.mirror sessionId npu with
        ⟨_, failed⟩ | ⟨⟨session, stored, _⟩, removed⟩
      · exact absurd ok failed
      · rw [stored, removed]
        exact ⟨Option.some_ne_none session, KeyTree.get_del_self _ _⟩
    | sessionCreate lookups attrs env => trivial
    | handlePerPort isPortValid portId direction sessions env => trivial
  | udf event =>
    cases event with
    | groupRemove groupId env =>
      intro ok
      by_cases kind : groupId.objType = .udfGroup
      · obtain ⟨⟨group, stored, unused⟩, gone, _⟩ := unnamed kind
        rw [stored, udfGroupRemove_unused kind stored unused env, if_neg]
        · exact ⟨Option.some_ne_none group, KeyTree.get_del_self _ _⟩
        · rintro ⟨refused, again⟩
          rcases gone with accepted | lost
          · exact refused accepted
          · rw [again] at lost
            cases lost
      · unfold udfGroupRemove at ok
        rw [if_pos kind] at ok
        cases ok
    | groupCreate attrs env => trivial
    | create attrs env => trivial
    | remove udfId env => trivial
    | set udfId attr env => trivial
  | acl call => trivial
  | mirrorSet lookups sessionId attr npu => trivial
  | hash event => trivial

theorem ReferenceCall.unnamed_of_live {call : ReferenceCall}
    (after : ReferencesLive (call.step platform order s)) (removes : call.Removes s) : call.Unnamed s := by
  cases call with
  | mirror event =>
    cases event with
    | sessionRemove sessionId npu =>
      intro session stored kind noSources accepted named
      have gone : (mirrorSessionRemove s.mirror sessionId npu).1.mirrorSessionsTree.get sessionId = none := by
        unfold mirrorSessionRemove
        rw [if_neg (not_not.mpr kind), stored]
        dsimp only
        rw [if_neg (not_not.mpr noSources), accepted]
        exact KeyTree.get_del_self _ _
      exact after.sessions sessionId named gone
    | sessionCreate lookups attrs env => trivial
    | handlePerPort isPortValid portId direction sessions env => trivial
  | udf event =>
    cases event with
    | groupRemove groupId env =>
      intro kind
      have success : (udfGroupRemove s.udf groupId env).2 = .success := by
        unfold udfGroupRemove
        rw [if_neg (not_not.mpr kind)]
        split
        · rfl
        split
        · rfl
        dsimp only
        split
        · rfl
        · rfl
      obtain ⟨there, gone⟩ := removes success
      obtain ⟨group, stored⟩ := Option.ne_none_iff_exists'.mp there
      have unused : group.udfCount = 0 := by
        by_contra used
        unfold udfGroupRemove at gone
        rw [if_neg (not_not.mpr kind), stored] at gone
        dsimp only at gone
        rw [if_pos used, stored] at gone
        cases gone
      refine ⟨⟨group, stored, unused⟩, ?_, ?_⟩
      · by_contra back
        rw [not_or, Bool.not_eq_false] at back
        rw [udfGroupRemove_unused kind stored unused env, if_pos back, stored] at gone
        cases gone
      · have dead (type : UdfGroupType) :
          ¬ ((ReferenceCall.udf (.groupRemove groupId env)).step platform order s).LiveGroup
            type groupId := by
          intro alive
          unfold ReferenceState.LiveGroup ReferenceCall.step UdfEvent.step UdfState.groupType at alive
          dsimp only at alive
          rw [gone] at alive
          cases alive
        rintro (⟨tableId, table, has, udf, member, isIt⟩ |
          ⟨ruleId, rule, has, filter, member, udf, isUdf, isIt⟩ |
          ⟨hashObjId, object, has, member⟩)
        · have alive := after.tables tableId table has udf member
          rw [isIt] at alive
          exact dead _ alive
        · have alive := after.rules ruleId rule has filter member udf isUdf
          rw [isIt] at alive
          exact dead _ alive
        · exact dead _ (after.hashes hashObjId object has groupId member)
    | groupCreate attrs env => trivial
    | create attrs env => trivial
    | remove udfId env => trivial
    | set udfId attr env => trivial
  | acl call => trivial
  | mirrorSet lookups sessionId attr npu => trivial
  | hash event => trivial

/-- Along every run that removes only what nobody names, whatever is named is
stored, and a further call keeps that and removes what it says it removes exactly
when it is of this kind. -/
theorem references_live (reach : Runs.Reach ReferenceFresh
      (Runs.guarded (fun s call => ReferenceCall.Unnamed s call) (ReferenceCall.step platform order)) s) :
    ReferencesLive s ∧
      ∀ call : ReferenceCall, call.Unnamed s ↔ ReferencesLive (call.step platform order s) ∧ call.Removes s := by
  have kept : ReferencesKept s := by
    refine reach.invariant ReferencesKept (fun _ fresh => fresh.kept) fun s call t kept moved => ?_
    rw [moved.2]
    exact kept.step call moved.1
  refine ⟨kept.live, fun call => ⟨fun unnamed => ?_, fun after => ?_⟩⟩
  · exact ⟨(kept.step call unnamed).live, ReferenceCall.removes_of_unnamed unnamed⟩
  · exact ReferenceCall.unnamed_of_live after.1 after.2

end

def referenceStart : ReferenceState :=
  ⟨aclSampleSystem.db, mirrorStart, udfStart, hashStart⟩

theorem referenceStart_fresh : ReferenceFresh referenceStart :=
  ⟨rfl, rfl, fun _ _ stored => (by cases stored)⟩

/-- A session to which a rule mirrors, and a UDF group that a hash object has. -/
def referenceRun : List ReferenceCall :=
  [.mirror mirrorCreate, .udf (.groupCreate [.type .hash, .length 2] ⟨.success, true, .success, 1, true⟩),
    .hash (.create [.udfGroupList [⟨.udfGroup, 1⟩]] .success hashCreateEnv),
    .acl (.createTable aclSampleTable aclSampleLookups true aclSampleTableEnv),
    .acl (.createRule [.tableId ⟨.aclTable, 1⟩, .field (.value 0) true { data := 1, mask := 1 },
      .action .mirrorIngress true { objList := [⟨.mirrorSession, 1⟩] }] true aclSampleRuleEnv)]

theorem referenceRun_live :
    ReferencesLive (referenceRun.foldl (ReferenceCall.step aclSamplePlatform mirrorSessionRank) referenceStart) ∧
      ∀ call : ReferenceCall,
        call.Unnamed (referenceRun.foldl (ReferenceCall.step aclSamplePlatform mirrorSessionRank) referenceStart) ↔
          ReferencesLive (call.step aclSamplePlatform mirrorSessionRank
            (referenceRun.foldl (ReferenceCall.step aclSamplePlatform mirrorSessionRank) referenceStart)) ∧
          call.Removes (referenceRun.foldl (ReferenceCall.step aclSamplePlatform mirrorSessionRank) referenceStart) :=
  references_live
    (Runs.Reach.run (.start referenceStart_fresh) ⟨trivial, trivial, trivial, trivial, trivial, trivial⟩)

/-- A session to which a rule mirrors can be removed, and the removal of a group
that does not exist returns SUCCESS. -/
theorem references_not_live : (¬ ∀ platform order s, Runs.Reach ReferenceFresh
        (Runs.guarded (fun _ _ => True) (ReferenceCall.step platform order)) s → ReferencesLive s) ∧
    ¬ ∀ platform order s, Runs.Reach ReferenceFresh
        (Runs.guarded (fun _ _ => True) (ReferenceCall.step platform order)) s →
          ∀ call : ReferenceCall, call.Removes s := by
  constructor
  · intro all
    have reached : Runs.Reach ReferenceFresh
        (Runs.guarded (fun _ _ => True) (ReferenceCall.step aclSamplePlatform mirrorSessionRank))
        ((referenceRun ++ [ReferenceCall.mirror (.sessionRemove ⟨.mirrorSession, 1⟩ .success)]).foldl
          (ReferenceCall.step aclSamplePlatform mirrorSessionRank) referenceStart) :=
      Runs.Reach.run (.start referenceStart_fresh) (Runs.allowedRun_of_forall (fun _ _ => trivial) _ _)
    have live := (all _ _ _ reached).sessions ⟨.mirrorSession, 1⟩ ⟨⟨.aclEntry, 7⟩, _, rfl,
      ⟨.mirrorIngress, true, { objList := [⟨.mirrorSession, 1⟩] }⟩, List.mem_cons_self, rfl, rfl, by decide⟩
    unfold ReferenceState.LiveSession at live
    revert live
    decide
  · intro all
    have there := (all aclSamplePlatform mirrorSessionRank _ (.start referenceStart_fresh)
      (.udf (.groupRemove ⟨.udfGroup, 1⟩ ⟨.success, true⟩)) rfl).1
    exact there rfl

end SaiCommon
