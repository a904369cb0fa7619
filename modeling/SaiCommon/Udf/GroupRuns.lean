import SaiCommon.Udf.GroupLists

namespace SaiCommon

open KeyTree

variable {groupId udfId : ObjectId} {env : UdfRemoveEnv} {udf : Udf} {s : UdfState}

section Keep

theorem Udf.group_modify {groups : KeyTree ObjectId UdfGroup} {g : UdfGroup → UdfGroup}
    (keep : ∀ group, (g group).type = group.type ∧ (g group).length = group.length)
    {mask : Option (List (BitVec 8))} (masked : ∃ group, udf.group groups = some group ∧ UdfMasked group mask) :
    ∃ group, udf.group (groups.modify groupId g) = some group ∧ UdfMasked group mask := by
  obtain ⟨group, found, hash, generic⟩ := masked
  obtain ⟨k, name, stored⟩ := Option.bind_eq_some_iff.mp found
  unfold Udf.group
  rw [name, Option.bind_some, get_modify, stored]
  split
  · obtain ⟨type, length⟩ := keep group
    refine ⟨g group, rfl, fun isHash => ?_, fun isGeneric => ?_⟩
    · obtain ⟨bytes, same, long⟩ := hash (type.symm.trans isHash)
      exact ⟨bytes, same, long.trans length.symm⟩
    · exact generic (type.symm.trans isGeneric)
  · exact ⟨group, rfl, hash, generic⟩

theorem UdfGroupsExact.groupOf_of_absent (absent : s.udfObjTree.get udfId = none) : s.groupOf udfId = none := by
  unfold UdfState.groupOf Attached.nameIn
  rw [absent]
  rfl

theorem UdfGroupsExact.join (exact : UdfGroupsExact s)
    (absent : s.udfObjTree.get udfId = none) (name : udf.udfGroup = some groupId)
    (masked : ∃ group, udf.group s.udfGroupTree = some group ∧ UdfMasked group udf.hashMask) :
    UdfGroupsExact (({ s with udfObjTree := s.udfObjTree.put udfId udf } : UdfState).udfListAdd udfId udf) := by
  unfold UdfState.udfListAdd
  rw [name]
  dsimp only
  have grouped := masked
  obtain ⟨group, found, _⟩ := grouped
  unfold Udf.group at found
  rw [name, Option.bind_some] at found
  refine ⟨?_, fun k other stored => ?_, fun k other stored => ?_⟩
  · have held : ∀ k, some groupId = some k → s.lists k ≠ none := by
      intro k same
      cases same
      unfold UdfState.lists Attached.ofTree
      rw [found]
      exact Option.some_ne_none _
    have moved := exact.listed.move udfId (some groupId) held
    rw [groupOf_of_absent absent] at moved
    refine moved.congr (fun k => ?_) fun k => ?_
    · exact Attached.ofTree_modify (g := fun l => l ++ [udfId]) (fun group => rfl) k
    · unfold UdfState.groupOf
      rw [← name]
      exact Attached.nameIn_put udfId udf k
  · dsimp only at stored
    rw [get_modify] at stored
    split at stored
    · obtain ⟨old, before, rfl⟩ := Option.map_eq_some_iff.mp stored
      dsimp only
      rw [exact.counted k old before, List.length_append]
      rfl
    · exact exact.counted k other stored
  · dsimp only at stored ⊢
    refine Udf.group_modify ?_ ?_
    · exact fun group => ⟨rfl, rfl⟩
    · rw [get_put] at stored
      split at stored
      · cases stored
        exact masked
      · exact exact.masked k other stored

theorem UdfGroupsExact.leave (exact : UdfGroupsExact s) (stored : s.udfObjTree.get udfId = some udf) :
    UdfGroupsExact (({ s with udfObjTree := s.udfObjTree.del udfId } : UdfState).udfListRemove udfId udf) := by
  obtain ⟨group, found, _⟩ := exact.masked udfId udf stored
  obtain ⟨groupId, name, here⟩ := Option.bind_eq_some_iff.mp found
  have named : s.groupOf udfId = some groupId := by
    unfold UdfState.groupOf Attached.nameIn
    rw [stored]
    exact name
  unfold UdfState.udfListRemove
  rw [name]
  dsimp only
  refine ⟨?_, fun k other there => ?_, fun k other there => ?_⟩
  · have moved := exact.listed.move udfId none fun k isIt => by cases isIt
    rw [named] at moved
    refine moved.congr (fun k => ?_) fun k => ?_
    · exact Attached.ofTree_modify (g := fun l => l.erase udfId) (fun group => rfl) k
    · unfold UdfState.groupOf Attached.nameIn
      dsimp only
      rw [get_del, Function.update_apply]
      split
      · rfl
      · rfl
  · dsimp only at there
    rw [get_modify] at there
    split at there
    · rename_i same
      obtain ⟨old, before, rfl⟩ := Option.map_eq_some_iff.mp there
      have list : s.lists k = some old.udfList := by
        unfold UdfState.lists Attached.ofTree
        rw [before]
        rfl
      have member := exact.listed.mem_of_named list (same ▸ named)
      dsimp only
      rw [exact.counted k old before, List.length_erase_of_mem member]
    · exact exact.counted k other there
  · dsimp only at there ⊢
    refine Udf.group_modify ?_ ?_
    · exact fun group => ⟨rfl, rfl⟩
    · exact exact.masked k other (get_of_del there)

theorem UdfGroupsExact.rewrite (exact : UdfGroupsExact s) {changed : Udf}
    (stored : s.udfObjTree.get udfId = some udf) (same : changed.udfGroup = udf.udfGroup)
    (mask : changed.hashMask = udf.hashMask ∨
      ∃ group, udf.group s.udfGroupTree = some group ∧ UdfMasked group changed.hashMask) :
    UdfGroupsExact { s with udfObjTree := s.udfObjTree.put udfId changed } := by
  refine ⟨exact.listed.congr (fun _ => rfl) (Attached.nameIn_put_keep stored same), exact.counted,
    fun k other there => ?_⟩
  dsimp only at there ⊢
  rw [get_put] at there
  split at there
  · cases there
    rw [Udf.group_congr same]
    rcases mask with kept | masked
    · rw [kept]
      exact exact.masked udfId udf stored
    · exact masked
  · exact exact.masked k other there

end Keep

section Calls

theorem udfCreate_cases {attrs : List UdfAttr} {env : UdfCreateEnv}
    (inserted : (UdfEvent.create attrs env).inserted s) :
    (∃ status, udfCreate s attrs env = (s, .error status)) ∨
      ∃ udf, udfAttrSet s.udfGroupTree .init attrs .create env.maskAllocOk = .ok udf ∧ udfCreate s attrs env =
          (({ s with udfObjTree := s.udfObjTree.put ⟨.udf, env.hwId⟩ udf } : UdfState).udfListAdd
            ⟨.udf, env.hwId⟩ udf,
            .ok ⟨.udf, env.hwId⟩) := by
  unfold udfCreate
  split
  · exact .inl ⟨_, rfl⟩
  split
  · exact .inl ⟨_, rfl⟩
  split
  · exact .inl ⟨_, rfl⟩
  rename_i udf filled
  split
  · refine .inr ⟨udf, filled, ?_⟩
    unfold UdfEvent.inserted at inserted
    dsimp only at inserted ⊢
    rw [if_pos inserted]
  · exact .inl ⟨_, rfl⟩

theorem udfRemove_cases (inserted : (UdfEvent.remove udfId env).inserted s) :
    (udfRemove s udfId env).2 ≠ .success ∧ (udfRemove s udfId env).1 = s ∨
      ∃ udf, s.udfObjTree.get udfId = some udf ∧ udfRemove s udfId env =
        (({ s with udfObjTree := s.udfObjTree.del udfId } : UdfState).udfListRemove udfId udf, .success) := by
  unfold udfRemove
  split
  · exact .inl ⟨fun same => (by cases same), rfl⟩
  split
  · exact .inl ⟨fun same => (by cases same), rfl⟩
  rename_i udf stored
  dsimp only
  split
  · exact .inr ⟨udf, stored, rfl⟩
  · rename_i refused
    exact .inl ⟨refused, if_pos (inserted refused)⟩

theorem udfSetAttribute_exact (exact : UdfGroupsExact s) {attr : UdfAttr} {env : UdfSetEnv}
    (ordered : (UdfEvent.set udfId attr env).ordered s) : UdfGroupsExact (udfSetAttribute s udfId attr env).1 := by
  unfold udfSetAttribute
  split
  · exact exact
  split
  · exact exact
  rename_i valid
  obtain ⟨kind, isKind, settable⟩ := ordered (not_not.mp valid)
  split
  · exact exact
  rename_i udf stored
  split
  · exact exact
  rename_i changed set
  obtain ⟨same, mask⟩ := udfAttrSet_set isKind settable set
  split
  · exact exact.rewrite stored same mask
  refine exact.rewrite stored rfl ?_
  dsimp only
  split
  · rename_i bare
    exact .inl bare.symm
  · exact mask

theorem UdfGroupsExact.step (exact : UdfGroupsExact s) (event : UdfEvent) (ordered : event.ordered s)
    (inserted : event.inserted s) : UdfGroupsExact (event.step s) := by
  cases event with
  | groupCreate attrs env =>
    dsimp only [UdfEvent.step]
    rcases udfGroupCreate_cases inserted with ⟨status, failed⟩ | ⟨group, filled, created⟩
    · rw [failed]
      exact exact
    · rw [created]
      obtain ⟨list, count⟩ := udfGroupAttrSet_keeps attrs 0 .init group filled
      exact exact.groupPut inserted.2 list count
  | groupRemove groupId env => exact udfGroupRemove_exact exact groupId env
  | create attrs env =>
    dsimp only [UdfEvent.step]
    rcases udfCreate_cases inserted with ⟨status, failed⟩ | ⟨udf, filled, created⟩
    · rw [failed]
      exact exact
    rw [created]
    obtain ⟨group, found, masked⟩ := udfAttrSet_create filled
    obtain ⟨groupId, name, _⟩ := Option.bind_eq_some_iff.mp found
    exact exact.join inserted.2 name ⟨group, found, masked⟩
  | remove udfId env =>
    dsimp only [UdfEvent.step]
    rcases udfRemove_cases inserted with ⟨_, same⟩ | ⟨udf, stored, removed⟩
    · rw [same]
      exact exact
    · rw [removed]
      exact exact.leave stored
  | set udfId attr env => exact udfSetAttribute_exact exact ordered

theorem UdfState.udfListAdd_objs (udfId : ObjectId) (udf : Udf) :
    (s.udfListAdd udfId udf).udfObjTree = s.udfObjTree := by
  unfold udfListAdd
  split
  · rfl
  · rfl

theorem UdfState.udfListRemove_objs (udfId : ObjectId) (udf : Udf) :
    (s.udfListRemove udfId udf).udfObjTree = s.udfObjTree := by
  unfold udfListRemove
  split
  · rfl
  · rfl

theorem udfGroupRemove_answered
    (answered : (UdfEvent.groupRemove groupId env).answered s) : (UdfEvent.groupRemove groupId env).Exact s := by
  unfold UdfEvent.Exact
  dsimp only
  by_cases kind : groupId.objType = .udfGroup
  swap
  · unfold udfGroupRemove
    rw [if_pos kind]
    exact iff_of_false (fun same => by cases same) fun both => both.1 both.2
  rcases answered with other | ⟨⟨group, stored, unused⟩, gone⟩
  · exact absurd kind other
  have present : s.udfGroupTree.get groupId ≠ none := by
    rw [stored]
    exact Option.some_ne_none group
  have removed : ¬ (env.npu ≠ .success ∧ env.insertOk = true) := by
    rintro ⟨refused, again⟩
    rcases gone with accepted | lost
    · exact refused accepted
    · rw [again] at lost
      cases lost
  rw [udfGroupRemove_unused kind stored unused]
  refine iff_of_true rfl ⟨present, ?_⟩
  dsimp only
  rw [if_neg removed]
  exact get_del_self _ _

theorem UdfEvent.exact_of_answered (event : UdfEvent) (inserted : event.inserted s) (answered : event.answered s) :
    event.Exact s := by
  cases event with
  | groupCreate attrs env =>
    unfold UdfEvent.Exact
    dsimp only
    rcases udfGroupCreate_cases inserted with ⟨status, failed⟩ | ⟨group, _, created⟩
    · rw [failed]
    · rw [created]
      exact ⟨inserted.2, group, rfl⟩
  | groupRemove groupId env => exact udfGroupRemove_answered answered
  | create attrs env =>
    unfold UdfEvent.Exact
    dsimp only
    rcases udfCreate_cases inserted with ⟨status, failed⟩ | ⟨udf, _, created⟩
    · rw [failed]
    · rw [created]
      exact ⟨inserted.2, udf, UdfState.udfListAdd_objs _ _⟩
  | remove udfId env =>
    unfold UdfEvent.Exact
    dsimp only
    rcases udfRemove_cases inserted with ⟨failed, same⟩ | ⟨udf, stored, removed⟩
    · rw [same]
      exact iff_of_false failed fun both => both.1 both.2
    rw [removed]
    refine iff_of_true rfl ⟨?_, ?_⟩
    · rw [stored]
      exact Option.some_ne_none udf
    · dsimp only
      rw [UdfState.udfListRemove_objs]
      exact get_del_self _ _
  | set udfId attr env => trivial

end Calls

structure UdfFresh (s : UdfState) : Prop where
  noGroups : s.udfGroupTree = ∅
  noUdfs : s.udfObjTree = ∅

theorem UdfFresh.exact (fresh : UdfFresh s) : UdfGroupsExact s := by
  refine ⟨Attached.of_empty (fun k => ?_) (fun k => ?_), fun k group stored => ?_, fun k udf stored => ?_⟩
  · unfold UdfState.lists Attached.ofTree
    rw [fresh.noGroups, get_empty]
    rfl
  · unfold UdfState.groupOf Attached.nameIn
    rw [fresh.noUdfs, get_empty]
    rfl
  · rw [fresh.noGroups, get_empty] at stored
    cases stored
  · rw [fresh.noUdfs, get_empty] at stored
    cases stored

/-- As long as no tree insertion fails the groups list exactly their UDFs, and
SUCCESS is exact for all but the removals of a group that is used, is not there
or that the NPU keeps. -/
theorem udfGroups_exact (reach : Runs.Reach UdfFresh
      (Runs.guarded (fun s event => UdfEvent.ordered s event ∧ UdfEvent.inserted s event) UdfEvent.step) s) :
    UdfGroupsExact s ∧
      ∀ event : UdfEvent, event.ordered s → event.inserted s → event.answered s → event.Exact s := by
  refine ⟨?_, fun event _ inserted answered => event.exact_of_answered inserted answered⟩
  refine reach.invariant UdfGroupsExact (fun _ fresh => fresh.exact) ?_
  intro s event t exact moved
  rw [moved.2]
  exact exact.step event moved.1.1 moved.1.2

def udfStart : UdfState := ⟨∅, ∅⟩

def udfRun : List UdfEvent :=
  [.groupCreate [.type .hash, .length 2] ⟨.success, true, .success, 1, true⟩,
    .create [.matchId ⟨.udfMatch, 1⟩, .groupId ⟨.udfGroup, 1⟩, .offset 0]
    ⟨.success, true, true, .success, 1, true⟩,
    .set ⟨.udf, 1⟩ (.hashMask [255, 15]) ⟨.success, true, .success⟩]

theorem udfRun_reach : Runs.Reach UdfFresh
      (Runs.guarded (fun s event => UdfEvent.ordered s event ∧ UdfEvent.inserted s event) UdfEvent.step)
      (udfRun.foldl UdfEvent.step udfStart) :=
  Runs.Reach.run (.start ⟨rfl, rfl⟩) ⟨⟨trivial, rfl, rfl⟩, ⟨trivial, rfl, by decide⟩,
    ⟨fun _ => ⟨.hashMask, rfl, rfl⟩, trivial⟩, trivial⟩

theorem udfGroups_exact_sample :
    ((udfRun.foldl UdfEvent.step udfStart).udfObjTree.get ⟨.udf, 1⟩).bind Udf.hashMask = some [255, 15] ∧
    UdfGroupsExact (udfRun.foldl UdfEvent.step udfStart) ∧
      ∀ event : UdfEvent, event.ordered (udfRun.foldl UdfEvent.step udfStart) →
        event.inserted (udfRun.foldl UdfEvent.step udfStart) →
        event.answered (udfRun.foldl UdfEvent.step udfStart) →
        event.Exact (udfRun.foldl UdfEvent.step udfStart) :=
  ⟨by decide, udfGroups_exact udfRun_reach⟩

/-- The removal of a group that has a UDF returns SUCCESS. -/
theorem udfGroups_not_exact : ¬ ∀ s, Runs.Reach UdfFresh (Runs.guarded UdfEvent.ordered UdfEvent.step) s →
      UdfGroupsExact s ∧ ∀ event : UdfEvent, event.ordered s → event.Exact s := by
  intro all
  have reached := udfRun_reach.mono (fun _ fresh => fresh)
    (fun s event t moved => (⟨moved.1.1, moved.2⟩ : Runs.guarded UdfEvent.ordered UdfEvent.step s event t))
  have exact := (all _ reached).2 (.groupRemove ⟨.udfGroup, 1⟩ ⟨.success, true⟩) trivial
  unfold UdfEvent.Exact at exact
  have gone := (exact.mp (by decide)).2
  revert gone
  decide

end SaiCommon
