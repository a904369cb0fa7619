import SaiCommon.Qos.BufferAttachment
import SaiCommon.Qos.Wred

namespace SaiCommon

open KeyTree

variable {wredId : ObjectId} {s t : WredState}

def wredOf (s : WredState) (queueId : ObjectId) : Option ObjectId :=
  Attached.nameIn s.qos.queueTree (fun queue => queue.wredId.nonNull) queueId

def wredParamsOf (s : WredState) (wredId : ObjectId) : Option WredParams :=
  (s.wredTree.get wredId).map Wred.params

/-- The links between WREDs and queues, and what the NPU has been told about them. -/
structure WredConsistent (s : WredState) : Prop where
  nullKey : s.wredTree.get nullObjectId = none
  lists : Attached (Attached.ofTree s.wredTree Wred.queueList) (wredOf s)
  objects : s.npu.isHwObject = true → ∀ wredId params, wredParamsOf s wredId = some params →
    s.npu.objects.get wredId = some params
  given : ∀ queueId wredId params, wredOf s queueId = some wredId → wredParamsOf s wredId = some params →
    ∃ last, s.npu.queues.get queueId = some (wredId, last) ∧ (s.npu.isHwObject = false → last = params)

section Walk
variable {new old : WredParams} {users recover : Nat → SaiStatus}

theorem wredUpdateQueueLoop_spec (list : List ObjectId) :
    ∀ (count : Nat) (npu after : WredNpu) (status : SaiStatus) (done : Nat),
      wredUpdateQueueLoop wredId new users count list npu = (after, status, done) →
      ∃ served ≤ list.length, done = count + served ∧ (status = .success → served = list.length) ∧
        after = { npu with queues := after.queues } ∧
        ∀ q, after.queues.get q = if q ∈ list.take served then some (wredId, new) else npu.queues.get q := by
  induction list with
  | nil =>
    intro count npu after status done run
    cases run
    exact ⟨0, Nat.le_refl 0, rfl, fun _ => rfl, rfl, fun q => by simp⟩
  | cons queueId rest ih =>
    intro count npu after status done run
    unfold wredUpdateQueueLoop at run
    split at run
    · obtain ⟨served, few, counted, all, same, queues⟩ := ih _ _ _ _ _ run
      refine ⟨served + 1, Nat.succ_le_succ few, by omega, fun ok => by rw [all ok, List.length_cons], ?_, ?_⟩
      · rw [same]
        rfl
      · intro q
        rw [queues q, List.take_succ_cons]
        unfold WredNpu.onQueueSet
        simp only [if_true, get_put, List.mem_cons]
        by_cases here : q = queueId
        · simp only [here, true_or, if_true, ite_self]
        · simp only [here, false_or, if_false]
    · rename_i error
      cases run
      exact ⟨0, Nat.zero_le _, rfl, fun ok => absurd ok error, rfl, fun q => by simp⟩

variable (wredId old) in
theorem wredQueueListErrorRecovery_spec (recovers : ∀ i, recover i = .success) (list : List ObjectId) :
    ∀ (index count : Nat) (npu : WredNpu), wredQueueListErrorRecovery wredId old recover index count list npu =
        { npu with queues := (wredQueueListErrorRecovery wredId old recover index count list npu).queues } ∧
      ∀ q, (wredQueueListErrorRecovery wredId old recover index count list npu).queues.get q =
        if q ∈ list.take count then some (wredId, old) else npu.queues.get q := by
  induction list with
  | nil =>
    intro index count npu
    cases count with
    | zero => exact ⟨rfl, fun q => by simp [wredQueueListErrorRecovery]⟩
    | succ count => exact ⟨rfl, fun q => by simp [wredQueueListErrorRecovery]⟩
  | cons queueId rest ih =>
    intro index count npu
    cases count with
    | zero => exact ⟨rfl, fun q => by simp [wredQueueListErrorRecovery]⟩
    | succ count =>
      unfold wredQueueListErrorRecovery
      rw [recovers index]
      obtain ⟨same, queues⟩ := ih (index + 1) count (npu.onQueueSet queueId wredId old true)
      refine ⟨?_, fun q => ?_⟩
      · simp only
        rw [same]
        rfl
      · simp only
        rw [queues q, List.take_succ_cons]
        unfold WredNpu.onQueueSet
        simp only [if_true, get_put, List.mem_cons]
        by_cases here : q = queueId
        · simp only [here, true_or, if_true, ite_self]
        · simp only [here, false_or, if_false]

theorem wredUpdateQueueList_cases {wred : Wred} {env : WredSetEnv} {after : WredNpu}
    {status : SaiStatus} (recovers : ∀ i, env.recover i = .success) (stored : s.wredTree.get wredId = some wred)
    (before : ∀ q ∈ wred.queueList, s.npu.queues.get q = some (wredId, wred.params))
    (run : wredUpdateQueueList s wredId new env = (after, status)) : after = { s.npu with queues := after.queues } ∧
    (status = .success ∧ (∀ q, after.queues.get q =
        if q ∈ wred.queueList then some (wredId, new) else s.npu.queues.get q) ∨
      status ≠ .success ∧ after.queues = s.npu.queues) := by
  unfold wredUpdateQueueList at run
  rw [stored] at run
  simp only at run
  generalize walked : wredUpdateQueueLoop wredId new env.users 0 wred.queueList s.npu = result at run
  obtain ⟨npu, outcome, done⟩ := result
  obtain ⟨served, _, counted, all, same, queues⟩ := wredUpdateQueueLoop_spec _ _ _ _ _ _ walked
  split at run
  · rename_i equal
    cases equal
    cases run
    refine ⟨same, Or.inl ⟨rfl, fun q => ?_⟩⟩
    rw [queues q, all rfl, List.take_length]
  rename_i error equal
  cases equal
  cases run
  obtain ⟨sameBack, back⟩ := wredQueueListErrorRecovery_spec wredId wred.params
    recovers wred.queueList 0 done npu
  refine ⟨?_, Or.inr ⟨error, ?_⟩⟩
  · rw [sameBack, same]
  · ext q : 1
    rw [back q, queues q]
    have whole : done = served := by omega
    rw [whole]
    by_cases inPrefix : q ∈ wred.queueList.take served
    · rw [if_pos inPrefix, before q (List.mem_of_mem_take inPrefix)]
    · rw [if_neg inPrefix, if_neg inPrefix]

end Walk

section Set
variable {attr : WredAttr} {env : WredSetEnv} {status : SaiStatus}

theorem wredParse_one {bufSize : BitVec 32} {vendor : SaiStatus} {params new : WredParams}
    (parsed : wredParseUpdateAttributes bufSize [attr] vendor params = (new, .success)) :
    qosWredAttrSet params attr = (new, .success) := by
  unfold wredParseUpdateAttributes at parsed
  split at parsed
  · cases written : qosWredAttrSet params attr with
    | mk next outcome =>
      simp only [wredParseAttributesLoop, written] at parsed
      cases outcome with
      | success =>
        obtain ⟨rfl, _⟩ := Prod.mk.inj parsed
        rfl
      | _ =>
        obtain ⟨_, refused⟩ := Prod.mk.inj parsed
        cases refused
  · rename_i error
    obtain ⟨_, refused⟩ := Prod.mk.inj parsed
    exact absurd refused error

theorem WredConsistent.given_list (consistent : WredConsistent s) {wred : Wred}
    (soft : s.npu.isHwObject = false) (stored : s.wredTree.get wredId = some wred) :
    ∀ q ∈ wred.queueList, s.npu.queues.get q = some (wredId, wred.params) := by
  intro q member
  have listed : Attached.ofTree s.wredTree Wred.queueList wredId = some wred.queueList := by
    unfold Attached.ofTree
    rw [stored, Option.map_some]
  have named := consistent.lists.named_of_mem listed member
  have params : wredParamsOf s wredId = some wred.params := by
    unfold wredParamsOf
    rw [stored, Option.map_some]
  obtain ⟨last, told, same⟩ := consistent.given q wredId wred.params named params
  rw [told, same soft]

/-- A WRED set leaves the nodes and what the queues work by as they were, or it
gives the node and each of its queues the new parameters. -/
theorem qosWredAttributeSet_cases (consistent : WredConsistent s) (recovers : ∀ i, env.recover i = .success)
    (run : qosWredAttributeSet s wredId attr env = (t, status)) :
    status ≠ .success ∧ t.wredTree = s.wredTree ∧ t.qos = s.qos ∧ t.npu.isHwObject = s.npu.isHwObject ∧
      t.npu.queues = s.npu.queues ∧ (s.npu.isHwObject = true → t.npu.objects = s.npu.objects) ∨
    status = .success ∧ ∃ wred new, s.wredTree.get wredId = some wred ∧
      qosWredAttrSet wred.params attr = (new, .success) ∧ t.qos = s.qos ∧
      t.wredTree = s.wredTree.put wredId { wred with params := new } ∧
      t.npu.isHwObject = s.npu.isHwObject ∧ t.npu.objects = s.npu.objects.put wredId new ∧
      ∀ q, t.npu.queues.get q = if s.npu.isHwObject = false ∧ q ∈ wred.queueList
        then some (wredId, new) else s.npu.queues.get q := by
  unfold qosWredAttributeSet at run
  split at run
  · cases run
    exact Or.inl ⟨by simp, rfl, rfl, rfl, rfl, fun _ => rfl⟩
  split at run
  · cases run
    exact Or.inl ⟨by simp, rfl, rfl, rfl, rfl, fun _ => rfl⟩
  rename_i wred stored
  split at run
  · rename_i new parsed
    have written := wredParse_one parsed
    split at run
    · cases hard : s.npu.isHwObject with
      | true =>
        simp only [hard, if_true, written] at run
        cases run
        refine Or.inr ⟨rfl, wred, new, stored, written, rfl, rfl, hard, rfl, fun q => ?_⟩
        rw [if_neg fun both => by cases both.1]
        rfl
      | false =>
        simp only [hard, if_neg Bool.false_ne_true, written] at run
        generalize updated : wredUpdateQueueList { s with npu := s.npu.attrSet wredId new } wredId new env =
          result at run
        obtain ⟨npu, outcome⟩ := result
        have before := consistent.given_list hard stored
        obtain ⟨same, cases⟩ := wredUpdateQueueList_cases
          (s := { s with npu := s.npu.attrSet wredId new }) recovers stored before updated
        rcases cases with ⟨rfl, queues⟩ | ⟨error, queues⟩
        · cases run
          refine Or.inr ⟨rfl, wred, new, stored, written, rfl, rfl, ?_, ?_, fun q => ?_⟩
          · rw [same]
            exact hard
          · rw [same]
            rfl
          · rw [queues q]
            simp only [true_and]
            rfl
        · split at run
          · rename_i equal
            cases equal
            exact absurd rfl error
          cases run
          refine Or.inl ⟨error, rfl, rfl, ?_, ?_, fun ok => by cases ok⟩
          · rw [same]
            exact hard
          · rw [queues]
            rfl
    · rename_i error
      cases run
      exact Or.inl ⟨error, rfl, rfl, rfl, rfl, fun _ => rfl⟩
  · rename_i error equal
    cases run
    exact Or.inl ⟨error, rfl, rfl, rfl, rfl, fun _ => rfl⟩

theorem WredConsistent.attributeSet (consistent : WredConsistent s) (wredId : ObjectId) (attr : WredAttr)
    (env : WredSetEnv) (recovers : ∀ i, env.recover i = .success) :
    WredConsistent (qosWredAttributeSet s wredId attr env).1 := by
  generalize run : qosWredAttributeSet s wredId attr env = result
  obtain ⟨t, status⟩ := result
  rcases qosWredAttributeSet_cases consistent recovers run with
    ⟨_, tree, qos, hard, queues, objects⟩ | ⟨_, wred, new, stored, _, qos, tree, hard, objects, queues⟩
  · have params : ∀ k, wredParamsOf t k = wredParamsOf s k := fun k => by unfold wredParamsOf; rw [tree]
    have names : ∀ q, wredOf t q = wredOf s q := fun q => by unfold wredOf; rw [qos]
    constructor
    · simp only [tree]
      exact consistent.nullKey
    · simp only [tree]
      exact consistent.lists.congr (fun _ => rfl) names
    · intro isHard k p found
      simp only [hard] at isHard
      rw [params] at found
      simp only [objects isHard]
      exact consistent.objects isHard k p found
    · intro q k p named found
      rw [names] at named
      rw [params] at found
      simp only [queues, hard]
      exact consistent.given q k p named found
  · have names : ∀ q, wredOf t q = wredOf s q := fun q => by unfold wredOf; rw [qos]
    have listed : Attached.ofTree s.wredTree Wred.queueList wredId = some wred.queueList := by
      unfold Attached.ofTree
      rw [stored, Option.map_some]
    constructor
    · simp only [tree, get_put]
      split
      · rename_i null
        rw [← null, consistent.nullKey] at stored
        cases stored
      · exact consistent.nullKey
    · refine consistent.lists.congr (fun k => ?_) names
      simp only [tree]
      refine Attached.ofTree_put_keep stored ?_ k
      rfl
    · intro isHard k p found
      simp only [hard] at isHard
      unfold wredParamsOf at found
      simp only [tree, objects, get_put] at found ⊢
      by_cases same : k = wredId
      · rw [if_pos same] at found ⊢
        exact found
      · rw [if_neg same] at found ⊢
        exact consistent.objects isHard k p found
    · intro q k p named found
      rw [names] at named
      unfold wredParamsOf at found
      simp only [tree, get_put] at found
      rw [queues q]
      simp only [hard]
      split at found
      · rename_i same
        cases found
        rw [same] at named
        have member := consistent.lists.mem_of_named listed named
        cases isHard : s.npu.isHwObject with
        | true =>
          rw [if_neg fun both => by cases both.1]
          obtain ⟨last, told, _⟩ := consistent.given q wredId wred.params named (by
            unfold wredParamsOf
            rw [stored, Option.map_some])
          exact ⟨last, same ▸ told, fun soft => by cases soft⟩
        | false =>
          rw [if_pos ⟨rfl, member⟩]
          exact ⟨new, by rw [same], fun _ => rfl⟩
      · rename_i other
        have apart : ¬ (s.npu.isHwObject = false ∧ q ∈ wred.queueList) := by
          rintro ⟨_, member⟩
          have isIt := consistent.lists.named_of_mem listed member
          rw [named] at isIt
          exact other (Option.some.inj isIt)
        rw [if_neg apart]
        exact consistent.given q k p named found

end Set

section Link
variable {queueId oid : ObjectId}

def wredRelease (tree : KeyTree ObjectId Wred) (queueId old : ObjectId) : KeyTree ObjectId Wred :=
  if old ≠ nullObjectId then tree.modify old fun wred => wred.unlink queueId else tree

def wredRelink (tree : KeyTree ObjectId Wred) (queueId old new : ObjectId) : KeyTree ObjectId Wred :=
  if new ≠ nullObjectId then (wredRelease tree queueId old).modify new fun wred => wred.link queueId
  else wredRelease tree queueId old

theorem wredRelink_params (tree : KeyTree ObjectId Wred) (queueId old new k : ObjectId) :
    ((wredRelink tree queueId old new).get k).map Wred.params = (tree.get k).map Wred.params := by
  have released : ((wredRelease tree queueId old).get k).map Wred.params = (tree.get k).map Wred.params := by
    unfold wredRelease
    split
    · exact map_get_modify (fun wred => wred.params_unlink queueId) k
    · rfl
  rw [← released]
  unfold wredRelink
  split
  · exact map_get_modify (fun wred => wred.params_link queueId) k
  · rfl

theorem ofTree_wredRelink (tree : KeyTree ObjectId Wred) (queueId old new k : ObjectId) :
    Attached.ofTree (wredRelink tree queueId old new) Wred.queueList k =
      Attached.take (Attached.release (Attached.ofTree tree Wred.queueList) queueId old.nonNull) queueId
        new.nonNull k := by
  have released : Attached.ofTree (wredRelease tree queueId old) Wred.queueList =
      Attached.release (Attached.ofTree tree Wred.queueList) queueId old.nonNull := by
    funext j
    unfold wredRelease ObjectId.nonNull
    by_cases null : old = nullObjectId
    · rw [if_neg (not_not_intro null), if_pos null]
      rfl
    · rw [if_pos null, if_neg null]
      refine Attached.ofTree_modify (fun wred => ?_) j
      rfl
  rw [← released]
  unfold wredRelink ObjectId.nonNull
  by_cases null : new = nullObjectId
  · rw [if_neg (not_not_intro null), if_pos null]
    rfl
  · rw [if_pos null, if_neg null]
    refine Attached.ofTree_modify (fun wred => ?_) k
    rfl

theorem qosQueueWredProfileSet_cases (queueId oid : ObjectId) (vendor npu : SaiStatus) :
    (qosQueueWredProfileSet s queueId oid vendor npu).1 = s ∨
    ∃ queue params, s.qos.queueTree.get queueId = some queue ∧
      (oid ≠ nullObjectId → wredParamsOf s oid = some params) ∧
      (qosQueueWredProfileSet s queueId oid vendor npu).1 =
        { qos := { s.qos with queueTree := s.qos.queueTree.put queueId { queue with wredId := oid } }
          wredTree := wredRelink s.wredTree queueId queue.wredId oid
          npu := s.npu.onQueueSet queueId (if oid ≠ nullObjectId then oid else queue.wredId) params
            (decide (oid ≠ nullObjectId)) } := by
  unfold qosQueueWredProfileSet
  split
  · exact Or.inl rfl
  split
  · exact Or.inl rfl
  rename_i queue stored
  split
  · split
    · exact Or.inl rfl
    rename_i differ
    unfold qosWredSetOnQueue
    rw [stored]
    simp only
    by_cases unicast : queue.queueType ≠ .unicast
    · rw [if_pos unicast]
      exact Or.inl rfl
    rw [if_neg unicast]
    by_cases foreign : oid ≠ nullObjectId ∧ oid.objType ≠ .wred
    · rw [if_pos foreign]
      exact Or.inl rfl
    rw [if_neg foreign]
    simp only [decide_eq_true_eq]
    cases found : s.wredTree.get (if oid ≠ nullObjectId then oid else queue.wredId) with
    | none => exact Or.inl rfl
    | some wred =>
      simp only
      cases npu with
      | success =>
        refine Or.inr ⟨queue, wred.params, rfl, fun notNull => ?_, ?_⟩
        · rw [if_pos notNull] at found
          unfold wredParamsOf
          rw [found, Option.map_some]
        · simp only [wredQueueNodeUpdate]
          by_cases null : oid = nullObjectId
          · have linked : queue.wredId ≠ nullObjectId := null ▸ differ
            simp only [null, ne_eq, not_true_eq_false, decide_false, if_false, Bool.false_eq_true,
              wredRelink, wredRelease, linked, not_false_eq_true, if_true, WredState.mk.injEq, and_true]
            rw [modify_of_get (get_put_self _ _ _), put_put]
          · simp only [null, ne_eq, not_false_eq_true, decide_true, if_true, wredRelink, wredRelease,
              WredState.mk.injEq, and_true]
            rw [modify_of_get (get_put_self _ _ _), put_put]
      | _ => exact Or.inl rfl
  · exact Or.inl rfl

theorem WredConsistent.queueWredProfileSet (consistent : WredConsistent s) (queueId oid : ObjectId)
    (vendor npu : SaiStatus) : WredConsistent (qosQueueWredProfileSet s queueId oid vendor npu).1 := by
  rcases qosQueueWredProfileSet_cases (s := s) queueId oid vendor npu with
    same | ⟨queue, params, stored, found, moved⟩
  · rw [same]
    exact consistent
  · rw [moved]
    have named : wredOf s queueId = queue.wredId.nonNull := by
      unfold wredOf Attached.nameIn
      rw [stored, Option.bind_some]
    have params_same : ∀ k, ((wredRelink s.wredTree queueId queue.wredId oid).get k).map Wred.params =
        wredParamsOf s k := wredRelink_params s.wredTree queueId queue.wredId oid
    have names : ∀ q, Attached.nameIn (s.qos.queueTree.put queueId { queue with wredId := oid })
        (fun queue => queue.wredId.nonNull) q = Function.update (wredOf s) queueId oid.nonNull q :=
      Attached.nameIn_put queueId { queue with wredId := oid }
    constructor
    · have null := params_same nullObjectId
      unfold wredParamsOf at null
      rw [consistent.nullKey] at null
      exact Option.map_eq_none_iff.mp null
    · have held : ∀ k, oid.nonNull = some k → Attached.ofTree s.wredTree Wred.queueList k ≠ none := by
        intro k isIt
        obtain ⟨rfl, notNull⟩ := ObjectId.nonNull_eq_some.mp isIt
        obtain ⟨wred, there, _⟩ := Option.map_eq_some_iff.mp (found notNull)
        unfold Attached.ofTree
        rw [there]
        exact Option.some_ne_none _
      have relinked := consistent.lists.move queueId oid.nonNull held
      refine relinked.congr (fun k => ?_) names
      rw [named]
      exact ofTree_wredRelink s.wredTree queueId queue.wredId oid k
    · intro hard k p there
      exact consistent.objects hard k p ((params_same k).symm.trans there)
    · intro q k p name there
      have before : wredParamsOf s k = some p := (params_same k).symm.trans there
      have name : Function.update (wredOf s) queueId oid.nonNull q = some k := (names q).symm.trans name
      by_cases same : q = queueId
      · rw [same, Function.update_self] at name
        obtain ⟨rfl, notNull⟩ := ObjectId.nonNull_eq_some.mp name
        have told : params = p := Option.some.inj ((found notNull).symm.trans before)
        refine ⟨params, ?_, fun _ => told⟩
        rw [same]
        simp only [WredNpu.onQueueSet, ne_eq, notNull, not_false_eq_true, decide_true, if_true,
          get_put_self]
      · rw [Function.update_of_ne same] at name
        obtain ⟨last, told, soft⟩ := consistent.given q k p name before
        refine ⟨last, ?_, soft⟩
        simp only [WredNpu.onQueueSet]
        split
        · rw [get_put_ne same]
          exact told
        · rw [get_del_ne same]
          exact told

end Link

section Calls

theorem WredConsistent.create (consistent : WredConsistent s) (attrs : List WredAttr) (env : CreateEnv) :
    WredConsistent (qosWredCreate s attrs env).1 := by
  unfold qosWredCreate
  split
  · exact consistent
  split
  · rename_i params _
    split
    · simp only
      split
      · rename_i absent
        have notNull : (⟨.wred, env.npuObjectId⟩ : ObjectId) ≠ nullObjectId :=
          ne_nullObjectId ObjectType.noConfusion
        have noList : Attached.ofTree s.wredTree Wred.queueList ⟨.wred, env.npuObjectId⟩ = none := by
          unfold Attached.ofTree
          rw [absent]
          rfl
        constructor
        · simp only
          rw [get_put_ne notNull.symm]
          exact consistent.nullKey
        · refine (consistent.lists.insert noList).congr (fun k => ?_) fun _ => rfl
          exact Attached.ofTree_put k
        · intro hard k p found
          unfold wredParamsOf at found
          simp only [WredNpu.attrSet, get_put] at found ⊢
          by_cases same : k = ⟨.wred, env.npuObjectId⟩
          · rw [if_pos same] at found ⊢
            exact found
          · rw [if_neg same] at found ⊢
            exact consistent.objects hard k p found
        · intro q k p named found
          have other : k ≠ ⟨.wred, env.npuObjectId⟩ := by
            rintro rfl
            exact consistent.lists.unnamed_of_absent noList q named
          unfold wredParamsOf at found
          simp only [get_put, if_neg other] at found
          exact consistent.given q k p named found
      · exact consistent
    · exact consistent
  · exact consistent

theorem qosWredRemove_cases (s : WredState) (wredId : ObjectId) (npu : SaiStatus) :
    (qosWredRemove s wredId npu).2 ≠ .success ∧ (qosWredRemove s wredId npu).1 = s ∨
    (qosWredRemove s wredId npu).2 = .success ∧
    ∃ wred, s.wredTree.get wredId = some wred ∧ wred.queueList = [] ∧
      (qosWredRemove s wredId npu).1 =
        { s with
          wredTree := s.wredTree.del wredId
          npu := { s.npu with objects := s.npu.objects.del wredId } } := by
  unfold qosWredRemove
  split
  · exact Or.inl ⟨by simp, rfl⟩
  split
  · exact Or.inl ⟨by simp, rfl⟩
  rename_i wred stored
  split
  · exact Or.inl ⟨by simp, rfl⟩
  rename_i empty
  split
  · exact Or.inr ⟨rfl, wred, stored, not_not.mp empty, rfl⟩
  · rename_i error
    exact Or.inl ⟨error, rfl⟩

theorem WredConsistent.remove (consistent : WredConsistent s) (wredId : ObjectId) (npu : SaiStatus) :
    WredConsistent (qosWredRemove s wredId npu).1 := by
  rcases qosWredRemove_cases s wredId npu with
    ⟨_, same⟩ | ⟨_, wred, stored, empty, removed⟩
  · rw [same]
    exact consistent
  · rw [removed]
    have noQueue : Attached.ofTree s.wredTree Wred.queueList wredId = some [] := by
      unfold Attached.ofTree
      rw [stored, Option.map_some, empty]
    have kept : ∀ k p, ((s.wredTree.del wredId).get k).map Wred.params = some p →
        k ≠ wredId ∧ wredParamsOf s k = some p := by
      intro k p found
      rw [get_del] at found
      split at found
      · cases found
      · rename_i other
        exact ⟨other, found⟩
    constructor
    · exact get_del_none consistent.nullKey
    · refine (consistent.lists.erase noQueue).congr (fun k => ?_) fun _ => rfl
      exact Attached.ofTree_del k
    · intro hard k p found
      obtain ⟨other, before⟩ := kept k p found
      simp only
      rw [get_del_ne other]
      exact consistent.objects hard k p before
    · intro q k p named found
      obtain ⟨_, before⟩ := kept k p found
      exact consistent.given q k p named before

theorem WredConsistent.queues (consistent : WredConsistent s) {qos : QosState}
    (names : ∀ q, wredOf { s with qos := qos } q = wredOf s q) : WredConsistent { s with qos := qos } := by
  refine ⟨consistent.nullKey, consistent.lists.congr (fun _ => rfl) names, consistent.objects, ?_⟩
  intro q k p named found
  rw [names] at named
  exact consistent.given q k p named found

theorem qosPortQueueListUpdate_queues (s : QosState) (queueId : ObjectId) (node : Queue) (isAdd : Bool) :
    (qosPortQueueListUpdate s queueId node isAdd).1.queueTree = s.queueTree := by
  unfold qosPortQueueListUpdate
  split <;> rfl

theorem WredConsistent.queueCreate (consistent : WredConsistent s) (portId : ObjectId) (queueType : QueueType)
    (env : CreateEnv) : WredConsistent { s with qos := (qosQueueCreate s.qos portId queueType env).1 } := by
  refine consistent.queues fun q => ?_
  unfold wredOf qosQueueCreate
  simp only
  split
  · rfl
  split
  · have queues := qosPortQueueListUpdate_queues s.qos ⟨.queue, env.npuObjectId⟩
      (qosQueueNodeInit portId queueType) true
    split
    · rename_i t listed
      rw [listed] at queues
      simp only at queues
      split
      · rename_i absent
        rw [queues] at absent
        simp only [queues]
        refine Attached.nameIn_put_unnamed ?_ ?_ q
        · unfold Attached.nameIn
          rw [absent]
          rfl
        · rfl
      · rfl
    · rfl
  · rfl

theorem WredConsistent.queueRemove (consistent : WredConsistent s) (queueId : ObjectId) (npu : SaiStatus) :
    WredConsistent { s with qos := (qosQueueRemove s.qos queueId npu).1 } := by
  refine consistent.queues fun q => ?_
  unfold wredOf qosQueueRemove
  simp only
  split
  · rfl
  split
  · rfl
  rename_i node stored
  split
  · rfl
  rename_i idle
  split
  · simp only [qosPortQueueListUpdate_queues]
    refine Attached.nameIn_del_unnamed ?_ q
    have null : node.wredId = nullObjectId := by
      by_contra named
      refine idle ?_
      unfold qosQueueIsInUse
      simp only [ne_eq, named, not_false_eq_true, decide_true, Bool.true_or]
    unfold Attached.nameIn
    rw [stored, Option.bind_some, null]
    rfl
  · rfl

def WredCall.recovers : WredCall → Prop
  | .attributeSet _ _ env => ∀ i, env.recover i = .success
  | _ => True

theorem WredConsistent.run (consistent : WredConsistent s) (call : WredCall) (recovers : call.recovers) :
    WredConsistent (call.run s).1 := by
  cases call with
  | create attrs env => exact consistent.create attrs env
  | remove wredId npu => exact consistent.remove wredId npu
  | attributeSet wredId attr env => exact consistent.attributeSet wredId attr env recovers
  | queueWredProfileSet queueId oid vendor npu => exact consistent.queueWredProfileSet queueId oid vendor npu
  | queueCreate portId queueType env => exact consistent.queueCreate portId queueType env
  | queueRemove queueId npu => exact consistent.queueRemove queueId npu

structure WredFresh (s : WredState) : Prop where
  wreds : s.wredTree = ∅
  queues : ∀ id node, s.qos.queueTree.get id = some node → node.wredId = nullObjectId

theorem WredFresh.consistent (fresh : WredFresh s) : WredConsistent s := by
  have absent : ∀ k, s.wredTree.get k = none := fun k => by rw [fresh.wreds, get_empty]
  have noParams : ∀ k, wredParamsOf s k = none := fun k => by unfold wredParamsOf; rw [absent k]; rfl
  refine ⟨absent _, Attached.of_empty (fun k => ?_) (fun q => ?_), ?_, ?_⟩
  · unfold Attached.ofTree
    rw [absent k]
    rfl
  · refine Attached.nameIn_eq_none fun node stored => ?_
    rw [fresh.queues q node stored]
    rfl
  · intro _ k p found
    rw [noParams k] at found
    cases found
  · intro q k p _ found
    rw [noParams k] at found
    cases found

end Calls

/-- The links between WREDs and live queues, on both sides. -/
structure WredLinksExact (s : WredState) : Prop where
  linked : ∀ wredId wred, s.wredTree.get wredId = some wred → ∀ queueId,
    wred.queueList.count queueId =
      if (s.qos.queueTree.get queueId).map Queue.wredId = some wredId then 1 else 0
  live : ∀ queueId queue, s.qos.queueTree.get queueId = some queue → queue.wredId ≠ nullObjectId →
    s.wredTree.get queue.wredId ≠ none

/-- The NPU works every queue of a stored WRED by the stored parameters. -/
def WredNpuExact (s : WredState) : Prop :=
  ∀ wredId wred, s.wredTree.get wredId = some wred → ∀ queueId ∈ wred.queueList,
    s.npu.queueParams queueId = some wred.params

theorem wredOf_eq_some {queueId : ObjectId} (notNull : wredId ≠ nullObjectId) :
    wredOf s queueId = some wredId ↔ (s.qos.queueTree.get queueId).map Queue.wredId = some wredId := by
  unfold wredOf Attached.nameIn
  cases s.qos.queueTree.get queueId with
  | none => exact Iff.rfl
  | some queue =>
    rw [Option.bind_some, Option.map_some, ObjectId.nonNull_eq_some, Option.some.injEq]
    exact and_iff_left notNull

theorem WredConsistent.linksExact (consistent : WredConsistent s) : WredLinksExact s := by
  constructor
  · intro wredId wred stored queueId
    have notNull : wredId ≠ nullObjectId := by
      rintro rfl
      rw [consistent.nullKey] at stored
      cases stored
    have listed : Attached.ofTree s.wredTree Wred.queueList wredId = some wred.queueList := by
      unfold Attached.ofTree
      rw [stored, Option.map_some]
    rw [consistent.lists.once wredId _ listed queueId]
    simp only [wredOf_eq_some notNull]
  · intro queueId queue stored notNull absent
    have named : wredOf s queueId = some queue.wredId := by
      unfold wredOf Attached.nameIn
      rw [stored, Option.bind_some]
      exact if_neg notNull
    refine consistent.lists.held queueId queue.wredId named ?_
    unfold Attached.ofTree
    rw [absent]
    rfl

theorem WredConsistent.npuExact (consistent : WredConsistent s) : WredNpuExact s := by
  intro wredId wred stored queueId member
  have listed : Attached.ofTree s.wredTree Wred.queueList wredId = some wred.queueList := by
    unfold Attached.ofTree
    rw [stored, Option.map_some]
  have params : wredParamsOf s wredId = some wred.params := by
    unfold wredParamsOf
    rw [stored, Option.map_some]
  have named := consistent.lists.named_of_mem listed member
  obtain ⟨last, told, soft⟩ := consistent.given queueId wredId wred.params named params
  unfold WredNpu.queueParams
  rw [told, Option.bind_some]
  cases hard : s.npu.isHwObject with
  | true => exact consistent.objects hard wredId wred.params params
  | false =>
    rw [soft hard]
    rfl

/-- In every run the links are exact, and the NPU works each linked queue by the
stored parameters; a set changes both or neither; a WRED that has been removed is
named by no live queue. -/
theorem wred_consistent {s : WredState}
    (reach : Runs.Reach WredFresh (Runs.guarded (fun _ call => WredCall.recovers call) WredCall.step) s) :
    WredLinksExact s ∧ WredNpuExact s ∧ (∀ wredId attr env t status, (∀ i, env.recover i = .success) →
      qosWredAttributeSet s wredId attr env = (t, status) →
      (status ≠ .success → t.wredTree = s.wredTree ∧ WredNpuExact t) ∧
      (status = .success → ∃ wred new, s.wredTree.get wredId = some wred ∧
        qosWredAttrSet wred.params attr = (new, .success) ∧
        t.wredTree.get wredId = some { wred with params := new } ∧
        ∀ queueId ∈ wred.queueList, t.npu.queueParams queueId = some new)) ∧
    ∀ wredId npu t, qosWredRemove s wredId npu = (t, .success) → t.wredTree.get wredId = none ∧
      ∀ queueId queue, t.qos.queueTree.get queueId = some queue → queue.wredId ≠ wredId := by
  have consistent : WredConsistent s := by
    refine reach.invariant WredConsistent (fun s fresh => fresh.consistent) ?_
    rintro s call t consistent ⟨recovers, rfl⟩
    exact consistent.run call recovers
  refine ⟨consistent.linksExact, consistent.npuExact, ?_, ?_⟩
  · intro wredId attr env t status recovers run
    have after := consistent.attributeSet wredId attr env recovers
    rw [run] at after
    rcases qosWredAttributeSet_cases consistent recovers run with
      ⟨error, tree, _⟩ | ⟨ok, wred, new, stored, written, _, tree, _⟩
    · exact ⟨fun _ => ⟨tree, after.npuExact⟩, fun ok => absurd ok error⟩
    · refine ⟨fun error => absurd ok error, fun _ => ⟨wred, new, stored, written, ?_, ?_⟩⟩
      · rw [tree, get_put_self]
      · intro queueId member
        exact after.npuExact wredId { wred with params := new } (by rw [tree, get_put_self])
          queueId member
  · intro wredId npu t removed
    have after := consistent.remove wredId npu
    rcases qosWredRemove_cases s wredId npu with
      ⟨error, _⟩ | ⟨_, wred, stored, _, gone⟩
    · rw [removed] at error
      exact absurd rfl error
    · rw [removed] at after gone
      have absent : t.wredTree.get wredId = none := by
        rw [show t = _ from gone]
        exact get_del_self _ _
      refine ⟨absent, fun queueId queue there isIt => ?_⟩
      have notNull : queue.wredId ≠ nullObjectId := by
        rintro null
        rw [← isIt, null, consistent.nullKey] at stored
        cases stored
      exact after.linksExact.live queueId queue there notNull (isIt ▸ absent)

def wredSample : WredState where
  qos := { bufferUserSample with
    queueTree := (bufferUserSample.queueTree).put ⟨.queue, 2⟩ (qosQueueNodeInit ⟨.port, 1⟩ .unicast) }
  wredTree := ∅
  npu := ⟨false, 4096, ∅, ∅⟩

theorem wredSample_fresh : WredFresh wredSample := by
  refine ⟨rfl, ?_⟩
  intro id node stored
  simp only [wredSample, bufferUserSample, get_put, get_empty] at stored
  split at stored
  · cases Option.some.inj stored
    rfl
  split at stored
  · cases Option.some.inj stored
    rfl
  · cases stored

/-- A WRED on both queues, then a set that the second queue refuses. -/
def wredSampleRun : List WredCall :=
  [.create [.weight 1] ⟨.success, true, .success, 1, true⟩,
    .queueWredProfileSet ⟨.queue, 1⟩ ⟨.wred, 1⟩ .success .success,
    .queueWredProfileSet ⟨.queue, 2⟩ ⟨.wred, 1⟩ .success .success,
    .attributeSet ⟨.wred, 1⟩ (.weight 2)
      ⟨.success, .success, fun i => if i = 1 then .failure else .success, fun _ => .success⟩]

theorem wred_consistent_sample : WredLinksExact (wredSampleRun.foldl WredCall.step wredSample) ∧
    WredNpuExact (wredSampleRun.foldl WredCall.step wredSample) := by
  have reach : Runs.Reach WredFresh (Runs.guarded (fun _ call => WredCall.recovers call) WredCall.step)
      (wredSampleRun.foldl WredCall.step wredSample) :=
    Runs.Reach.run (.start wredSample_fresh) ⟨trivial, trivial, trivial, fun _ => rfl, trivial⟩
  exact ⟨(wred_consistent reach).1, (wred_consistent reach).2.1⟩

end SaiCommon
