import SaiCommon.Lib.Runs
import SaiCommon.Hash.Object

namespace SaiCommon

/-- How far a client's `dn_sai_hash_obj_create` has come: it has chosen an index,
or left the locked section with SUCCESS and not marked the index as used yet. -/
inductive HashCall
  | idle
  | chosen (index : Nat) (attrs : List HashAttr)
  | inserted (index : Nat)

/-- The database and the calls of the clients; `issued` are the ids that were
returned with SUCCESS and not removed since. -/
structure HashSystem (Client : Type) where
  state : HashState
  calls : Client → HashCall
  issued : List ObjectId

inductive HashStep (Client : Type)
  | choose (client : Client) (attrs : List HashAttr)
  | locked (client : Client) (env : HashCreateEnv)
  | mark (client : Client)
  | remove (hashObjId : ObjectId)

variable {Client : Type} [DecidableEq Client]

def HashSystem.setCall (sys : HashSystem Client) (client : Client) (call : HashCall) : HashSystem Client :=
  { sys with calls := Function.update sys.calls client call }

/-- One atomic step; a step that the client's call is not ready for does nothing. -/
def HashStep.step (sys : HashSystem Client) : HashStep Client → HashSystem Client
  | .choose client attrs =>
    match sys.calls client, hashFreeIndex sys.state.hashIndexBitmap with
    | .idle, some index => sys.setCall client (.chosen index attrs)
    | _, _ => sys
  | .locked client env =>
    match sys.calls client with
    | .chosen index attrs =>
      if env.nodeAllocOk = false then sys.setCall client .idle
      else match hashObjCreateLocked sys.state index attrs env with
        | (state, .success) => { sys with state := state }.setCall client (.inserted index)
        | (state, _) => { sys with state := state }.setCall client .idle
    | _ => sys
  | .mark client =>
    match sys.calls client with
    | .inserted index =>
      { sys with
        state := sys.state.setFree index false
        issued := ⟨.hash, index⟩ :: sys.issued }.setCall client .idle
    | _ => sys
  | .remove hashObjId =>
    match hashObjRemove sys.state hashObjId with
    | (state, .success) => { sys with state := state, issued := sys.issued.erase hashObjId }
    | (state, _) => { sys with state := state }

/-- The index of a create is still unused when its locked section comes, and the
insertion succeeds; a removal finds no create of the object before its bitmap
update. -/
def HashStep.kept (sys : HashSystem Client) : HashStep Client → Prop
  | .locked client env => ∀ index attrs object, sys.calls client = .chosen index attrs → env.nodeAllocOk = true →
    hashAttrSet env.groupType env.allocOk 0 .zero attrs = .ok object →
    env.insertOk = true ∧ sys.state.hashObjTree.get ⟨.hash, index⟩ = none
  | .remove hashObjId => hashObjId.objType = .hash → ∀ client, sys.calls client ≠ .inserted hashObjId.npuObjectId
  | _ => True

/-- The ids in use are distinct and stored, and once no call is in progress the
free indices are those that no stored object has. -/
structure HashIdsUnique (sys : HashSystem Client) : Prop where
  distinct : sys.issued.Nodup
  stored : ∀ hashObjId ∈ sys.issued, sys.state.hashObjTree.get hashObjId ≠ none
  bitmap : (∀ client, sys.calls client = .idle) → ∀ index < maxHashIndex,
    (sys.state.hashIndexBitmap index = true ↔ sys.state.hashObjTree.get ⟨.hash, index⟩ = none)

/-- What holds of the calls in progress as well: at most one create is between
the insertion of an object and its bitmap update, and a free index is one that no
stored object has or whose create is there. -/
structure HashIdsKept (sys : HashSystem Client) : Prop where
  distinct : sys.issued.Nodup
  issued : ∀ hashObjId ∈ sys.issued, sys.state.hashObjTree.get hashObjId ≠ none
  typed : ∀ hashObjId, sys.state.hashObjTree.get hashObjId ≠ none → hashObjId.objType = .hash
  single : ∀ c d index, sys.calls c = .inserted index → sys.calls d = .inserted index → c = d
  pending : ∀ c index, sys.calls c = .inserted index →
    sys.state.hashObjTree.get ⟨.hash, index⟩ ≠ none ∧ (⟨.hash, index⟩ : ObjectId) ∉ sys.issued
  bitmap : ∀ index < maxHashIndex, (sys.state.hashIndexBitmap index = true ↔
    sys.state.hashObjTree.get ⟨.hash, index⟩ = none ∨ ∃ c, sys.calls c = .inserted index)

variable {sys : HashSystem Client} {client : Client}

omit [DecidableEq Client] in
theorem hashAttrSet_error {groupType : ObjectId → Option UdfGroupType} {allocOk : Nat → Bool}
    (attrs : List HashAttr) : ∀ index object status,
      hashAttrSet groupType allocOk index object attrs = .error status → status ≠ .success := by
  have one : ∀ object ok attr status, hashAttrSetOne groupType object ok attr = .error status →
      ∀ index, status.indexed index ≠ .success := by
    intro object ok attr status failed index
    cases attr with
    | nativeFieldList value =>
      unfold hashAttrSetOne hashNativeFieldListSet at failed
      dsimp only at failed
      split at failed
      · cases failed
        exact fun same => by cases same
      · cases failed
    | udfGroupList value =>
      unfold hashAttrSetOne hashUdfGroupListSet at failed
      dsimp only at failed
      split at failed
      · cases failed
        exact fun same => by cases same
      split at failed
      · cases failed
        exact fun same => by cases same
      · cases failed
    | other => cases failed
  induction attrs with
  | nil =>
    intro index object status failed
    cases failed
  | cons attr rest ih =>
    intro index object status failed
    unfold hashAttrSet at failed
    split at failed
    · rename_i refused
      cases failed
      exact one object _ attr _ refused index
    · exact ih _ _ status failed

/-- A client's call changes and nothing else does; it was not and is not between
insertion and bitmap update. -/
theorem HashIdsKept.setCall (kept : HashIdsKept sys) {call : HashCall}
    (before : ∀ index, sys.calls client ≠ .inserted index) (after : ∀ index, call ≠ .inserted index) :
    HashIdsKept (sys.setCall client call) := by
  have inserted : ∀ c index, (sys.setCall client call).calls c = .inserted index ↔
    sys.calls c = .inserted index := by
    intro c index
    unfold HashSystem.setCall
    dsimp only
    rw [Function.update_apply]
    split
    · rename_i same
      rw [same]
      exact iff_of_false (after index) (before index)
    · exact Iff.rfl
  refine ⟨kept.distinct, kept.issued, kept.typed, fun c d index first second => ?_, fun c index pending => ?_,
    fun index small => ?_⟩
  · exact kept.single c d index ((inserted c index).mp first) ((inserted d index).mp second)
  · exact kept.pending c index ((inserted c index).mp pending)
  · rw [show (∃ c, (sys.setCall client call).calls c = .inserted index) ↔ ∃ c, sys.calls c = .inserted index from
      exists_congr fun c => inserted c index]
    exact kept.bitmap index small

theorem HashIdsKept.locked (kept : HashIdsKept sys) {index : Nat} {attrs : List HashAttr} {object : HashObject}
    (chosen : sys.calls client = .chosen index attrs) (absent : sys.state.hashObjTree.get ⟨.hash, index⟩ = none) :
    HashIdsKept (({ sys with state := { sys.state with
      hashObjTree := sys.state.hashObjTree.put ⟨.hash, index⟩ object } } : HashSystem Client).setCall client
        (.inserted index)) := by
  have free : ∀ c, sys.calls c ≠ .inserted index := fun c isIt => (kept.pending c index isIt).1 absent
  have calls : ∀ c i, (sys.setCall client (.inserted index)).calls c = .inserted i ↔
      c = client ∧ i = index ∨ sys.calls c = .inserted i := by
    intro c i
    unfold HashSystem.setCall
    dsimp only
    rw [Function.update_apply]
    split
    · rename_i same
      rw [same, chosen, HashCall.inserted.injEq]
      constructor
      · rintro rfl
        exact .inl ⟨rfl, rfl⟩
      · rintro (⟨_, rfl⟩ | isIt)
        · rfl
        · cases isIt
    · rename_i other
      exact (or_iff_right fun both => other both.1).symm
  have unissued : (⟨.hash, index⟩ : ObjectId) ∉ sys.issued := fun member => kept.issued _ member absent
  have present : ∀ k, (sys.state.hashObjTree.put ⟨.hash, index⟩ object).get k = none ↔
      k ≠ ⟨.hash, index⟩ ∧ sys.state.hashObjTree.get k = none := by
    intro k
    rw [KeyTree.get_put]
    split
    · rename_i same
      exact iff_of_false (Option.some_ne_none _) fun both => both.1 same
    · rename_i other
      exact (and_iff_right other).symm
  refine ⟨kept.distinct, fun k member none => ?_, fun k stored => ?_, fun c d i first second => ?_,
    fun c i pending => ?_, fun i small => ?_⟩
  · exact kept.issued k member ((present k).mp none).2
  · by_cases same : k = ⟨.hash, index⟩
    · rw [same]
    · exact kept.typed k fun none => stored ((present k).mpr ⟨same, none⟩)
  · rcases (calls c i).mp first with ⟨rfl, rfl⟩ | first'
    · rcases (calls d i).mp second with ⟨rfl, _⟩ | second'
      · rfl
      · exact absurd second' (free d)
    · rcases (calls d i).mp second with ⟨_, rfl⟩ | second'
      · exact absurd first' (free c)
      · exact kept.single c d i first' second'
  · rcases (calls c i).mp pending with ⟨_, rfl⟩ | before
    · exact ⟨fun none => ((present _).mp none).1 rfl, unissued⟩
    · exact ⟨fun none => (kept.pending c i before).1 ((present _).mp none).2, (kept.pending c i before).2⟩
  · refine (kept.bitmap i small).trans ?_
    by_cases same : i = index
    · rw [same]
      exact iff_of_true (.inl absent) (.inr ⟨client, (calls client index).mpr (.inl ⟨rfl, rfl⟩)⟩)
    refine or_congr ?_ (exists_congr fun c => ?_)
    · refine ((present ⟨.hash, i⟩).trans (and_iff_right ?_)).symm
      intro isIt
      cases isIt
      exact same rfl
    · exact ((calls c i).trans (or_iff_right fun both => same both.2)).symm

theorem HashIdsKept.mark (kept : HashIdsKept sys) {index : Nat} (inserted : sys.calls client = .inserted index) :
    HashIdsKept (({ sys with
      state := sys.state.setFree index false
      issued := ⟨.hash, index⟩ :: sys.issued } : HashSystem Client).setCall client .idle) := by
  obtain ⟨stored, unissued⟩ := kept.pending client index inserted
  have calls : ∀ c i, (sys.setCall client .idle).calls c = .inserted i ↔ c ≠ client ∧
    sys.calls c = .inserted i := by
    intro c i
    unfold HashSystem.setCall
    dsimp only
    rw [Function.update_apply]
    split
    · rename_i same
      exact iff_of_false (fun isIt => by cases isIt) fun both => both.1 same
    · rename_i other
      exact (and_iff_right other).symm
  refine ⟨List.nodup_cons.mpr ⟨unissued, kept.distinct⟩, fun k member => ?_, kept.typed,
    fun c d i first second => ?_,
    fun c i pending => ?_, fun i small => ?_⟩
  · rcases List.mem_cons.mp member with rfl | member
    · exact stored
    · exact kept.issued k member
  · exact kept.single c d i ((calls c i).mp first).2 ((calls d i).mp second).2
  · obtain ⟨other, before⟩ := (calls c i).mp pending
    refine ⟨(kept.pending c i before).1, fun member => ?_⟩
    rcases List.mem_cons.mp member with same | member
    · cases same
      exact other (kept.single c client _ before inserted)
    · exact (kept.pending c i before).2 member
  · change Function.update sys.state.hashIndexBitmap index false i = true ↔ _
    rw [Function.update_apply]
    split
    · rename_i same
      rw [same]
      refine iff_of_false Bool.false_ne_true ?_
      rintro (none | ⟨c, pending⟩)
      · exact stored none
      · obtain ⟨other, before⟩ := (calls c index).mp pending
        exact other (kept.single c client index before inserted)
    · rename_i apart
      refine (kept.bitmap i small).trans (or_congr Iff.rfl (exists_congr fun c => ?_))
      refine ((calls c i).trans (and_iff_right_of_imp ?_)).symm
      rintro before rfl
      rw [inserted] at before
      cases before
      exact apart rfl

omit [DecidableEq Client] in
theorem HashIdsKept.remove (kept : HashIdsKept sys) {hashObjId : ObjectId} (kind : hashObjId.objType = .hash)
    (ended : ∀ c, sys.calls c ≠ .inserted hashObjId.npuObjectId) :
    HashIdsKept ({ sys with
      state := ({ sys.state with hashObjTree := sys.state.hashObjTree.del hashObjId } : HashState).setFree
        hashObjId.npuObjectId true
      issued := sys.issued.erase hashObjId } : HashSystem Client) := by
  have isIt : (⟨.hash, hashObjId.npuObjectId⟩ : ObjectId) = hashObjId := by
    rw [← kind]
  have absent : ∀ k, (sys.state.hashObjTree.del hashObjId).get k = none ↔
      k = hashObjId ∨ sys.state.hashObjTree.get k = none := by
    intro k
    rw [KeyTree.get_del]
    split
    · rename_i same
      exact iff_of_true rfl (.inl same)
    · rename_i other
      exact (or_iff_right other).symm
  refine ⟨kept.distinct.erase hashObjId, fun k member none => ?_, fun k stored => ?_, kept.single,
    fun c i pending => ⟨fun none => ?_, fun member => ?_⟩, fun i small => ?_⟩
  · obtain ⟨other, issued⟩ := kept.distinct.mem_erase_iff.mp member
    rcases (absent k).mp none with same | none
    · exact other same
    · exact kept.issued k issued none
  · exact kept.typed k fun none => stored ((absent k).mpr (.inr none))
  · rcases (absent _).mp none with same | none
    · rw [← same] at ended
      exact ended c pending
    · exact (kept.pending c i pending).1 none
  · exact (kept.pending c i pending).2 (List.mem_of_mem_erase member)
  · change Function.update sys.state.hashIndexBitmap hashObjId.npuObjectId true i = true ↔ _
    rw [Function.update_apply]
    split
    · rename_i same
      rw [same, isIt]
      exact iff_of_true rfl (.inl (KeyTree.get_del_self _ _))
    rename_i apart
    refine (kept.bitmap i small).trans (or_congr ?_ Iff.rfl)
    refine ((absent _).trans (or_iff_right ?_)).symm
    intro same
    rw [← same] at apart
    exact apart rfl

omit [DecidableEq Client] in
theorem hashObjRemove_cases (s : HashState) (hashObjId : ObjectId) :
    (hashObjRemove s hashObjId).2 ≠ .success ∧ (hashObjRemove s hashObjId).1 = s ∨
      hashObjId.objType = .hash ∧ hashObjRemove s hashObjId =
        (({ s with hashObjTree := s.hashObjTree.del hashObjId } : HashState).setFree hashObjId.npuObjectId true,
          .success) := by
  unfold hashObjRemove
  split
  · exact .inl ⟨fun same => (by cases same), rfl⟩
  rename_i kind
  split
  · exact .inl ⟨fun same => (by cases same), rfl⟩
  split
  · exact .inl ⟨fun same => (by cases same), rfl⟩
  · exact .inr ⟨not_not.mp kind, rfl⟩

theorem HashIdsKept.stepLocked (kept : HashIdsKept sys) {env : HashCreateEnv}
    (condition : (HashStep.locked client env).kept sys) : HashIdsKept ((HashStep.locked client env).step sys) := by
  dsimp only [HashStep.step]
  split
  swap
  · exact kept
  rename_i index attrs chosen
  have outside : ∀ i, sys.calls client ≠ .inserted i := by
    intro i isIt
    rw [chosen] at isIt
    cases isIt
  have idle : HashIdsKept (sys.setCall client .idle) := kept.setCall outside fun i isIt => by cases isIt
  split
  · exact idle
  rename_i alloc
  unfold hashObjCreateLocked
  cases set : hashAttrSet env.groupType env.allocOk 0 .zero attrs with
  | error status =>
    dsimp only
    split
    · rename_i result
      cases result
      exact absurd rfl (hashAttrSet_error attrs 0 .zero _ set)
    · rename_i result
      cases result
      exact idle
  | ok object =>
    obtain ⟨inserted, absent⟩ := condition index attrs object chosen ((Bool.not_eq_false _).mp alloc) set
    dsimp only
    rw [if_pos ⟨inserted, absent⟩]
    exact kept.locked chosen absent

theorem HashIdsKept.step (kept : HashIdsKept sys) (step : HashStep Client) (condition : step.kept sys) :
    HashIdsKept (step.step sys) := by
  cases step with
  | choose client attrs =>
    dsimp only [HashStep.step]
    split
    · rename_i index idle _
      refine kept.setCall (fun i isIt => ?_) fun i isIt => by cases isIt
      rw [idle] at isIt
      cases isIt
    · exact kept
  | locked client env => exact kept.stepLocked condition
  | mark client =>
    dsimp only [HashStep.step]
    split
    · rename_i index inserted
      exact kept.mark inserted
    · exact kept
  | remove hashObjId =>
    dsimp only [HashStep.step]
    rcases hashObjRemove_cases sys.state hashObjId with ⟨failed, same⟩ | ⟨kind, removed⟩
    · split
      · rename_i state result
        rw [result] at failed
        exact absurd rfl failed
      · rename_i state status _ result
        rw [result] at same
        dsimp only at same
        rw [same]
        exact kept
    · rw [removed]
      exact kept.remove kind (condition kind)

structure HashIdsFresh (sys : HashSystem Client) : Prop where
  noObjects : sys.state.hashObjTree = ∅
  free : ∀ index < maxHashIndex, sys.state.hashIndexBitmap index = true
  idle : ∀ client, sys.calls client = .idle
  unissued : sys.issued = []

omit [DecidableEq Client] in
theorem HashIdsFresh.kept (fresh : HashIdsFresh sys) : HashIdsKept sys := by
  have notInserted : ∀ c index, sys.calls c ≠ .inserted index := by
    intro c index isIt
    rw [fresh.idle c] at isIt
    cases isIt
  refine ⟨?_, fun k member => ?_, fun k stored => ?_, fun c d index first => absurd first (notInserted c index),
    fun c index pending => absurd pending (notInserted c index), fun index small => ?_⟩
  · rw [fresh.unissued]
    exact List.nodup_nil
  · rw [fresh.unissued] at member
    exact absurd member List.not_mem_nil
  · rw [fresh.noObjects, KeyTree.get_empty] at stored
    exact absurd rfl stored
  · rw [fresh.noObjects, KeyTree.get_empty]
    exact iff_of_true (fresh.free index small) (.inl rfl)

/-- Whatever the interleaving, the ids in use are distinct and stored, and the
bitmap is exact between calls. -/
theorem hashIds_unique
    (reach : Runs.Reach HashIdsFresh (Runs.guarded HashStep.kept HashStep.step) sys) : HashIdsUnique sys := by
  have kept : HashIdsKept sys := by
    refine reach.invariant HashIdsKept (fun _ fresh => fresh.kept) ?_
    intro sys step t kept moved
    rw [moved.2]
    exact kept.step step moved.1
  refine ⟨kept.distinct, kept.issued, fun idle index small => (kept.bitmap index small).trans (or_iff_left ?_)⟩
  rintro ⟨c, inserted⟩
  rw [idle c] at inserted
  cases inserted

def hashSystemStart : HashSystem Bool :=
  ⟨⟨∅, fun _ => true, fun _ => none, fun _ => none⟩, fun _ => .idle, []⟩

theorem hashSystemStart_fresh : HashIdsFresh hashSystemStart := ⟨rfl, fun _ _ => rfl, fun _ => rfl, rfl⟩

def hashCreateEnv : HashCreateEnv := ⟨true, fun _ => none, fun _ => true, true⟩

def hashOneByOne : List (HashStep Bool) :=
  [.choose false [], .locked false hashCreateEnv, .mark false, .choose true [], .locked true hashCreateEnv,
    .mark true]

theorem hashIds_unique_sample : HashIdsUnique (hashOneByOne.foldl HashStep.step hashSystemStart) := by
  refine hashIds_unique (Runs.Reach.run (.start hashSystemStart_fresh)
    ⟨trivial, fun index attrs object chosen _ _ => ?_, trivial, trivial, fun index attrs object chosen _ _ => ?_,
      trivial, trivial⟩)
  · cases (show HashCall.chosen 0 [] = .chosen index attrs from chosen)
    exact ⟨rfl, by decide⟩
  · cases (show HashCall.chosen 1 [] = .chosen index attrs from chosen)
    exact ⟨rfl, by decide⟩

def hashTogether : List (HashStep Bool) :=
  [.choose false [], .choose true [], .locked false hashCreateEnv, .locked true hashCreateEnv, .mark false,
    .mark true]

theorem hashIds_not_unique : ¬ ∀ sys : HashSystem Bool,
      Runs.Reach HashIdsFresh (Runs.guarded (fun _ _ => True) HashStep.step) sys → HashIdsUnique sys := by
  intro all
  have unique := all _ (Runs.Reach.run (.start hashSystemStart_fresh)
    (Runs.allowedRun_of_forall (fun _ _ => trivial) hashSystemStart hashTogether))
  have distinct := unique.distinct
  revert distinct
  decide

end SaiCommon
