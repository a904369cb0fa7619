import SaiCommon.Switching.LagSetOps

namespace SaiCommon

variable {held : Finset ObjectId} {s t u : LagState} {lagId rifId : ObjectId}

/-- The LAG has a RIF, and its callback is registered. -/
structure LagState.RifIs (s : LagState) (lagId rifId : ObjectId) : Prop where
  found : s.lagTree.get lagId = some rifId
  isRif : rifId.objType = .routerInterface
  registered : s.rifCallback = true

def LagState.HasRif (s : LagState) (lagId : ObjectId) : Prop := ∃ rifId, s.RifIs lagId rifId

/-- What the callback has accepted between two states. -/
def LagState.heardSince (s t : LagState) : List LagNotice :=
  (t.told.drop s.told.length).filter fun notice => notice.answer = .success

/-- The members that only the NPU has. -/
def LagState.npuOnly (s : LagState) (lagId : ObjectId) : Finset ObjectId := s.npuMembers lagId \ s.cached lagId

/-- A set that succeeds makes the ports of the list the members, and a RIF was
told of the old members and of the new ones; one that fails changes nothing. -/
structure LagSetRight (s : LagState) (lagId : ObjectId) (ports : List ObjectId) (result : LagState × SaiStatus) :
    Prop where
  success : result.2 = .success → s.Becomes result.1 lagId ports.toFinset
  told : result.2 = .success → s.HasRif lagId → ∃ rifId gone, gone.toFinset = s.cached lagId ∧
    result.1.told = s.told ++ [⟨lagId, rifId, .delPorts, gone, .success⟩,
      ⟨lagId, rifId, .addPorts, ports, .success⟩]
  error : result.2 ≠ .success → s.Same result.1 ∧
    lagRifView (s.cached lagId) (s.heardSince result.1) = s.cached lagId

structure LagUndoSucceeds (env : LagSetEnv) : Prop where
  rif : env.rifUndo = .success
  removed : env.undo.npuRemove = .success
  inserted : ∀ port, env.undo.nodeAdd port = .success
  added : env.undo.npuAdd = .success

/-- The list was set to what the LAG had. -/
def LagState.Unchanged (s : LagState) (lagId : ObjectId) (ports : List ObjectId) : Prop :=
  ports.toFinset = s.cached lagId ∧ s.cached lagId ⊆ s.npuMembers lagId

/-- When a port list is set exactly or not at all, by how the first set ends and
by what the RIF answers. The old list is read from memory that is gone (`stale`),
and the list is set once more at the end. -/
structure LagSetWhen (s : LagState) (lagId : ObjectId) (ports : List ObjectId) (env : LagSetEnv) : Prop where
  notCleared : ¬ LagCleared s lagId env.first → env.last.npuRemove = .success →
    LagFilled s lagId ports env.last ∧ ¬ s.HasRif lagId ∧ s.npuOnly lagId ⊆ ports.toFinset
  notFilled : LagCleared s lagId env.first → ¬ LagFilled s lagId ports env.first →
    (LagFilled s lagId ports env.last → ¬ s.HasRif lagId ∧ s.npuOnly lagId ⊆ ports.toFinset) ∧
      (¬ LagFilled s lagId ports env.last → s.cached lagId = ∅)
  noRif : LagCleared s lagId env.first → LagFilled s lagId ports env.first → ¬ s.HasRif lagId →
    (ports ≠ [] → env.last.npuRemove ≠ .success → s.Unchanged lagId ports) ∧
      (ports = [] ∨ env.last.npuRemove = .success →
        (LagFilled s lagId ports env.last → s.npuOnly lagId ⊆ ports.toFinset) ∧
        (¬ LagFilled s lagId ports env.last → s.cached lagId = ∅ ∧ Disjoint (s.npuMembers lagId) ports.toFinset))
  told : LagCleared s lagId env.first → LagFilled s lagId ports env.first → s.HasRif lagId →
    env.rifDel = .success → env.rifAdd = .success →
    (ports ≠ [] → env.last.npuRemove ≠ .success → s.Unchanged lagId ports) ∧
      (ports = [] ∨ env.last.npuRemove = .success →
        (LagFilled s lagId ports env.last →
          s.npuOnly lagId ⊆ ports.toFinset ∧ env.stale.toFinset = s.cached lagId) ∧
        (¬ LagFilled s lagId ports env.last → s.cached lagId = ∅ ∧ ports = []))
  refused : LagCleared s lagId env.first → LagFilled s lagId ports env.first → s.HasRif lagId →
    ¬ (env.rifDel = .success ∧ env.rifAdd = .success) →
    s.cached lagId = ∅ ∧ env.stale = [] ∧ ¬ LagFilled s lagId ports env.last ∧
        Disjoint (s.npuMembers lagId) ports.toFinset ∨
      s.cached lagId ≠ ∅ ∧ s.Unchanged lagId env.stale ∧ Disjoint (s.npuOnly lagId) ports.toFinset ∧
        env.last.npuRemove ≠ .success ∧
        ∀ port ∈ env.stale, s.portValid port = true ∧ s.isPortPartOfDifferentLag lagId port = false

section Sets
variable {old ports : Finset ObjectId}

theorem joined_sdiff_subset_iff : (held ∪ ports) \ ports ⊆ ports ↔ held ⊆ ports := by
  rw [Finset.union_sdiff_right]
  rw [sdiff_le_iff, sup_idem]

theorem left_joined_iff (same : ports = old) : held \ old ∪ ports = held ↔ old ⊆ held := by
  rw [same, Finset.sdiff_union_self_eq_union, Finset.union_eq_left]

theorem left_emptied_iff (empty : old = ∅) : (held \ old ∪ ports) \ ports = held ↔ Disjoint held ports := by
  rw [empty, Finset.sdiff_empty, Finset.union_sdiff_right, Finset.sdiff_eq_self_iff_disjoint]

theorem left_restored_iff : (held \ old ∪ ports) \ ports ∪ old = held ↔ old ⊆ held ∧
    Disjoint (held \ old) ports := by
  rw [Finset.union_sdiff_right]
  constructor
  · intro same
    refine ⟨?_, Finset.disjoint_left.mpr fun port only listed => ?_⟩
    · rw [← same]
      exact Finset.subset_union_right
    obtain ⟨isHeld, notOld⟩ := Finset.mem_sdiff.mp only
    rw [← same] at isHeld
    rcases Finset.mem_union.mp isHeld with away | isOld
    · exact (Finset.mem_sdiff.mp away).2 listed
    · exact notOld isOld
  · rintro ⟨inside, apart⟩
    rw [Finset.sdiff_eq_self_of_disjoint apart, Finset.sdiff_union_of_subset inside]

end Sets

section Stage
variable {ports : List ObjectId} {members : Finset ObjectId} {env : LagPortListEnv} {told : List LagNotice}

theorem LagState.portListGet_eq_nil : s.portListGet lagId = [] ↔ s.cached lagId = ∅ := by
  unfold LagState.cached
  exact (List.toFinset_eq_empty_iff _).symm

theorem LagState.heardSince_told (isTold : t.told = s.told ++ told) :
    s.heardSince t = told.filter fun notice => notice.answer = .success := by
  unfold LagState.heardSince
  rw [isTold, List.drop_left]

section
variable (becomes : s.BecomesApart u lagId members held)
include becomes

theorem LagState.BecomesApart.withTold (told : List LagNotice) :
    s.BecomesApart { u with told := told } lagId members held :=
  ⟨becomes.cached, becomes.npu, becomes.lagTree, becomes.fwdMode⟩

theorem LagState.BecomesApart.cleared : LagCleared u lagId env ↔ members = ∅ ∨ env.npuRemove = .success := by
  unfold LagCleared
  rw [ne_eq, LagState.portListGet_eq_nil, becomes.members_eq]
  exact or_iff_not_imp_left.symm

theorem LagState.BecomesApart.filled : LagFilled u lagId ports env ↔ LagFilled s lagId ports env := by
  have apart : ∀ port, u.isPortPartOfDifferentLag lagId port = false ↔
      s.isPortPartOfDifferentLag lagId port = false := by
    intro port
    rw [LagState.isPortPartOfDifferentLag_eq_false, LagState.isPortPartOfDifferentLag_eq_false]
    refine forall_congr' fun j => imp_congr_right fun other => ?_
    rw [becomes.cached j, if_neg other]
  constructor
  · exact fun filled =>
      ⟨fun port listed => (apart port).mp (filled.apart port listed), filled.inserted, filled.added⟩
  · exact fun filled =>
      ⟨fun port listed => (apart port).mpr (filled.apart port listed), filled.inserted, filled.added⟩

/-- The set of the list at the end, on a LAG that has `members` by then and the NPU `held`. -/
theorem LagSetRight.last_iff (inNpu : s.npu.get lagId = some (s.npuMembers lagId))
    (created : s.lagTree.get lagId ≠ none) (valid : ∀ port ∈ ports, u.portValid port = true)
    (isTold : u.told = s.told ++ told) :
    LagSetRight s lagId ports (l2LagPortListSet u lagId ports env) ↔
      (members ≠ ∅ → env.npuRemove ≠ .success → members = s.cached lagId ∧ held = s.npuMembers lagId ∧
        lagRifView (s.cached lagId) (told.filter fun notice => notice.answer = .success) = s.cached lagId) ∧
      ((members = ∅ ∨ env.npuRemove = .success) → LagFilled s lagId ports env →
        held \ members ⊆ ports.toFinset ∧ (s.HasRif lagId → ∃ rifId gone, gone.toFinset = s.cached lagId ∧
          told = [⟨lagId, rifId, .delPorts, gone, .success⟩, ⟨lagId, rifId, .addPorts, ports, .success⟩])) ∧
      ((members = ∅ ∨ env.npuRemove = .success) → ¬ LagFilled s lagId ports env →
        s.cached lagId = ∅ ∧ held \ members = s.npuMembers lagId ∧
        lagRifView ∅ (told.filter fun notice => notice.answer = .success) = ∅) := by
  have isCreated : u.lagTree.get lagId ≠ none := by
    rw [becomes.lagTree]
    exact created
  have outTold : (l2LagPortListSet u lagId ports env).1.told = s.told ++ told := by
    rw [l2LagPortListSet_frame]
    exact isTold
  have result := l2LagPortListSet_result becomes.held_eq isCreated valid env
  rw [becomes.cleared, becomes.filled, becomes.members_eq] at result
  generalize l2LagPortListSet u lagId ports env = out at result outTold
  have heard := LagState.heardSince_told outTold
  rcases result with ⟨notCleared, same, error⟩ | ⟨cleared, filled, ok, set⟩ |
    ⟨cleared, notFilled, error, emptied⟩
  · obtain ⟨notEmpty, refused⟩ := not_or.mp notCleared
    constructor
    · intro right
      refine ⟨fun _ _ => ?_, fun is => absurd is notCleared, fun is => absurd is notCleared⟩
      obtain ⟨unchanged, view⟩ := right.error error
      rw [same] at unchanged
      have npu := unchanged.npu lagId
      rw [becomes.held_eq, inNpu] at npu
      rw [heard] at view
      exact ⟨becomes.members_eq.symm.trans (unchanged.cached lagId), Option.some.inj npu, view⟩
    · intro when
      refine ⟨fun ok => absurd ok error, fun ok => absurd ok error, fun _ => ?_⟩
      obtain ⟨back, backNpu, view⟩ := when.1 notEmpty refused
      rw [heard, same]
      rw [back, backNpu] at becomes
      exact ⟨becomes.same inNpu, view⟩
  · have ends := becomes.trans set
    constructor
    · intro right
      refine ⟨fun notEmpty refused => absurd cleared (not_or.mpr ⟨notEmpty, refused⟩), fun _ _ =>
        ⟨?_, fun rif => ?_⟩,
        fun _ notFilled => absurd filled notFilled⟩
      · have npu := ends.held_eq
        rw [(right.success ok).held_eq] at npu
        exact Finset.union_eq_right.mp (Option.some.inj npu).symm
      · obtain ⟨rifId, gone, isOld, both⟩ := right.told ok rif
        rw [outTold] at both
        exact ⟨rifId, gone, isOld, List.append_cancel_left both⟩
    · intro when
      obtain ⟨only, rifTold⟩ := when.2.1 cleared filled
      rw [Finset.union_eq_right.mpr only] at ends
      refine ⟨fun _ => ends, fun _ rif => ?_, fun error => absurd ok error⟩
      obtain ⟨rifId, gone, isOld, both⟩ := rifTold rif
      rw [both] at outTold
      exact ⟨rifId, gone, isOld, outTold⟩
  · have ends := becomes.trans emptied
    constructor
    · intro right
      refine ⟨fun notEmpty refused => absurd cleared (not_or.mpr ⟨notEmpty, refused⟩),
        fun _ filled => absurd filled notFilled, fun _ _ => ?_⟩
      obtain ⟨same, view⟩ := right.error error
      have empty : s.cached lagId = ∅ := (same.cached lagId).symm.trans ends.members_eq
      have npu := same.npu lagId
      rw [ends.held_eq, inNpu] at npu
      rw [heard, empty] at view
      exact ⟨empty, Option.some.inj npu, view⟩
    · intro when
      refine ⟨fun ok => absurd ok error, fun ok => absurd ok error, fun _ => ?_⟩
      obtain ⟨empty, npu, view⟩ := when.2.2 cleared notFilled
      rw [← empty, npu] at ends
      rw [← empty] at view
      rw [heard]
      exact ⟨ends.same inNpu, view⟩

end

end Stage

section Notify
variable {ports stale : List ObjectId} {env : LagSetEnv}

theorem LagState.rifNotify_noRif (noRif : ¬ s.HasRif lagId) (lagOperation : LagOperation) (ports : List ObjectId)
    (status : SaiStatus) : s.rifNotify lagId lagOperation ports status = (s, .success) := by
  unfold LagState.rifNotify
  split
  · rfl
  · rename_i rifId found
    rw [if_neg fun is => noRif ⟨rifId, found, is.1, is.2⟩]

theorem LagState.RifIs.withTold (rif : s.RifIs lagId rifId) (told : List LagNotice) :
    LagState.RifIs { s with told := told } lagId rifId := ⟨rif.found, rif.isRif, rif.registered⟩

theorem LagState.RifIs.notify (rif : s.RifIs lagId rifId) (lagOperation : LagOperation) (ports : List ObjectId)
    (status : SaiStatus) : s.rifNotify lagId lagOperation ports status =
      ({ s with told := s.told ++ [⟨lagId, rifId, lagOperation, ports, status⟩] }, status) := by
  unfold LagState.rifNotify
  rw [rif.found]
  exact if_pos ⟨rif.isRif, rif.registered⟩

theorem l2SetLagNotify_noRif (noRif : ¬ s.HasRif lagId) (ports : List ObjectId) (env : LagSetEnv) :
    l2SetLagNotify s lagId ports env = s := by
  have told : l2SetLagTold s lagId ports env = (s, .success) := by
    unfold l2SetLagTold
    rw [LagState.rifNotify_noRif noRif]
    exact LagState.rifNotify_noRif noRif _ _ _
  unfold l2SetLagNotify
  rw [told]

theorem LagState.RifIs.told (rif : s.RifIs lagId rifId) (ports : List ObjectId) (del : env.rifDel = .success) :
    l2SetLagTold s lagId ports env = ({ s with told := s.told ++
      [⟨lagId, rifId, .delPorts, env.stale, .success⟩, ⟨lagId, rifId, .addPorts, ports, env.rifAdd⟩] },
        env.rifAdd) := by
  unfold l2SetLagTold
  rw [rif.notify, del]
  dsimp only
  rw [(rif.withTold _).notify]
  dsimp only
  rw [List.append_assoc]
  rfl

theorem LagState.RifIs.accepted (rif : s.RifIs lagId rifId) (ports : List ObjectId) (del : env.rifDel = .success)
    (add : env.rifAdd = .success) : l2SetLagNotify s lagId ports env = { s with told := s.told ++
      [⟨lagId, rifId, .delPorts, env.stale, .success⟩, ⟨lagId, rifId, .addPorts, ports, .success⟩] } := by
  unfold l2SetLagNotify
  rw [rif.told ports del, add]

theorem LagState.RifIs.refused (rif : s.RifIs lagId rifId) (ports : List ObjectId)
    (refused : ¬ (env.rifDel = .success ∧ env.rifAdd = .success)) (undo : env.rifUndo = .success) :
    ∃ told before, l2SetLagNotify s lagId ports env =
        (l2LagPortListSet { s with told := s.told ++ told } lagId env.stale env.undo).1 ∧
      (told.filter fun notice => notice.answer = .success) =
        before ++ [⟨lagId, rifId, .addPorts, env.stale, .success⟩] ∧
      (before = [] ∨ before = [⟨lagId, rifId, .delPorts, env.stale, .success⟩]) ∧
      ∀ other gone, told ≠
        [⟨lagId, other, .delPorts, gone, .success⟩, ⟨lagId, other, .addPorts, ports, .success⟩] := by
  by_cases del : env.rifDel = .success
  · have add : env.rifAdd ≠ .success := fun add => refused ⟨del, add⟩
    refine ⟨[⟨lagId, rifId, .delPorts, env.stale, .success⟩, ⟨lagId, rifId, .addPorts, ports, env.rifAdd⟩,
      ⟨lagId, rifId, .addPorts, env.stale, .success⟩], [⟨lagId, rifId, .delPorts, env.stale, .success⟩], ?_,
      by simp [add], .inr rfl, fun _ _ same => Nat.succ_ne_self 2 (congrArg List.length same)⟩
    unfold l2SetLagNotify
    rw [rif.told ports del]
    split
    · rename_i isIt
      exact absurd (congrArg Prod.snd isIt) add
    rename_i isIt
    cases isIt
    rw [(rif.withTold _).notify, undo]
    dsimp only
    rw [List.append_assoc]
    rfl
  · refine ⟨[⟨lagId, rifId, .delPorts, env.stale, env.rifDel⟩,
      ⟨lagId, rifId, .addPorts, env.stale, .success⟩], [], ?_,
      by simp [del], .inl rfl, fun _ _ same => del ?_⟩
    · have told : l2SetLagTold s lagId ports env = ({ s with told := s.told ++
          [⟨lagId, rifId, .delPorts, env.stale, env.rifDel⟩] }, env.rifDel) := by
        unfold l2SetLagTold
        rw [rif.notify]
        split
        · rename_i isIt
          exact absurd (congrArg Prod.snd isIt) del
        rename_i isIt
        cases isIt
        rfl
      unfold l2SetLagNotify
      rw [told]
      split
      · rename_i isIt
        exact absurd (congrArg Prod.snd isIt) del
      rename_i isIt
      cases isIt
      rw [(rif.withTold _).notify, undo]
      dsimp only
      rw [List.append_assoc]
      rfl
    · exact congrArg LagNotice.answer (List.cons.inj same).1

end Notify

section Cases
variable {ports : List ObjectId} {env : LagSetEnv} (inNpu : s.npu.get lagId = some (s.npuMembers lagId))
  (created : s.lagTree.get lagId ≠ none)

section
include inNpu created

theorem LagSetRight.notCleared_iff (valid : ∀ port ∈ ports, s.portValid port = true)
    (notEmpty : s.cached lagId ≠ ∅) :
    LagSetRight s lagId ports (l2LagPortListSet s lagId ports env.last) ↔ (env.last.npuRemove = .success →
      LagFilled s lagId ports env.last ∧ ¬ s.HasRif lagId ∧ s.npuOnly lagId ⊆ ports.toFinset) := by
  have stays : s.BecomesApart s lagId (s.cached lagId) (s.npuMembers lagId) :=
    .of_same inNpu (fun _ => rfl) rfl rfl rfl
  rw [LagSetRight.last_iff stays inNpu created valid (List.append_nil _).symm]
  constructor
  · rintro ⟨_, filled, notFilled⟩ removes
    have isFilled : LagFilled s lagId ports env.last := by
      by_contra is
      exact notEmpty (notFilled (.inr removes) is).1
    obtain ⟨only, rifTold⟩ := filled (.inr removes) isFilled
    refine ⟨isFilled, fun rif => ?_, only⟩
    obtain ⟨_, _, _, both⟩ := rifTold rif
    cases both
  · intro when
    refine ⟨fun _ _ => ⟨rfl, rfl, rfl⟩, fun cleared _ => ?_, fun cleared isNot => ?_⟩
    · obtain ⟨_, noRif, only⟩ := when (cleared.resolve_left notEmpty)
      exact ⟨only, fun rif => absurd rif noRif⟩
    · exact absurd (when (cleared.resolve_left notEmpty)).1 isNot

theorem LagSetRight.notFilled_iff (becomes : s.BecomesApart u lagId ∅ (s.npuOnly lagId))
    (valid : ∀ port ∈ ports, u.portValid port = true) (isTold : u.told = s.told) :
    LagSetRight s lagId ports (l2LagPortListSet u lagId ports env.last) ↔
      (LagFilled s lagId ports env.last → ¬ s.HasRif lagId ∧ s.npuOnly lagId ⊆ ports.toFinset) ∧
        (¬ LagFilled s lagId ports env.last → s.cached lagId = ∅) := by
  rw [LagSetRight.last_iff becomes inNpu created valid (isTold.trans (List.append_nil _).symm), Finset.sdiff_empty]
  constructor
  · rintro ⟨_, filled, notFilled⟩
    refine ⟨fun isFilled => ?_, fun isNot => (notFilled (.inl rfl) isNot).1⟩
    obtain ⟨only, rifTold⟩ := filled (.inl rfl) isFilled
    refine ⟨fun rif => ?_, only⟩
    obtain ⟨_, _, _, both⟩ := rifTold rif
    cases both
  · rintro ⟨filled, notFilled⟩
    refine ⟨fun isNot => absurd rfl isNot, fun _ isFilled => ?_, fun _ isNot => ⟨notFilled isNot, ?_, rfl⟩⟩
    · obtain ⟨noRif, only⟩ := filled isFilled
      exact ⟨only, fun rif => absurd rif noRif⟩
    · unfold LagState.npuOnly
      rw [notFilled isNot, Finset.sdiff_empty]

section
variable (becomes : s.BecomesApart u lagId ports.toFinset (s.npuOnly lagId ∪ ports.toFinset))
  (valid : ∀ port ∈ ports, u.portValid port = true)
include becomes valid

theorem LagSetRight.noRif_iff (isTold : u.told = s.told) (noRif : ¬ s.HasRif lagId) :
    LagSetRight s lagId ports (l2LagPortListSet u lagId ports env.last) ↔
      (ports ≠ [] → env.last.npuRemove ≠ .success → s.Unchanged lagId ports) ∧
        (ports = [] ∨ env.last.npuRemove = .success →
          (LagFilled s lagId ports env.last → s.npuOnly lagId ⊆ ports.toFinset) ∧
          (¬ LagFilled s lagId ports env.last → s.cached lagId = ∅ ∧
            Disjoint (s.npuMembers lagId) ports.toFinset)) := by
  rw [LagSetRight.last_iff becomes inNpu created valid (isTold.trans (List.append_nil _).symm), ne_eq,
    List.toFinset_eq_empty_iff, joined_sdiff_subset_iff]
  constructor
  · rintro ⟨stays, filled, notFilled⟩
    refine ⟨fun notNil refused => ?_, fun cleared => ⟨fun is => (filled cleared is).1, fun isNot => ?_⟩⟩
    · obtain ⟨same, npu, _⟩ := stays notNil refused
      exact ⟨same, (left_joined_iff same).mp npu⟩
    · obtain ⟨empty, npu, _⟩ := notFilled cleared isNot
      exact ⟨empty, (left_emptied_iff empty).mp npu⟩
  · rintro ⟨stays, rest⟩
    refine ⟨fun notNil refused => ?_, fun cleared is => ⟨(rest cleared).1 is, fun rif => absurd rif noRif⟩,
      fun cleared isNot => ?_⟩
    · obtain ⟨same, inside⟩ := stays notNil refused
      exact ⟨same, (left_joined_iff same).mpr inside, rfl⟩
    · obtain ⟨empty, apart⟩ := (rest cleared).2 isNot
      exact ⟨empty, (left_emptied_iff empty).mpr apart, rfl⟩

theorem LagSetRight.told_iff (rif : s.RifIs lagId rifId) (told : u.told = s.told ++
      [⟨lagId, rifId, .delPorts, env.stale, .success⟩, ⟨lagId, rifId, .addPorts, ports, .success⟩]) :
    LagSetRight s lagId ports (l2LagPortListSet u lagId ports env.last) ↔
      (ports ≠ [] → env.last.npuRemove ≠ .success → s.Unchanged lagId ports) ∧
        (ports = [] ∨ env.last.npuRemove = .success →
          (LagFilled s lagId ports env.last →
            s.npuOnly lagId ⊆ ports.toFinset ∧ env.stale.toFinset = s.cached lagId) ∧
          (¬ LagFilled s lagId ports env.last → s.cached lagId = ∅ ∧ ports = [])) := by
  have view : ∀ old, lagRifView old
      (([⟨lagId, rifId, .delPorts, env.stale, .success⟩, ⟨lagId, rifId, .addPorts, ports, .success⟩] :
        List LagNotice).filter fun notice => notice.answer = .success) = old \ env.stale.toFinset ∪ ports.toFinset :=
    fun _ => rfl
  rw [LagSetRight.last_iff becomes inNpu created valid told, ne_eq, List.toFinset_eq_empty_iff, view, view,
    joined_sdiff_subset_iff]
  constructor
  · rintro ⟨stays, filled, notFilled⟩
    refine ⟨fun notNil refused => ?_, fun cleared => ⟨fun is => ?_, fun isNot => ?_⟩⟩
    · obtain ⟨same, npu, _⟩ := stays notNil refused
      exact ⟨same, (left_joined_iff same).mp npu⟩
    · obtain ⟨only, rifTold⟩ := filled cleared is
      obtain ⟨_, gone, old, both⟩ := rifTold ⟨rifId, rif⟩
      cases both
      exact ⟨only, old⟩
    · obtain ⟨empty, _, isView⟩ := notFilled cleared isNot
      rw [Finset.empty_sdiff, Finset.empty_union, List.toFinset_eq_empty_iff] at isView
      exact ⟨empty, isView⟩
  · rintro ⟨stays, rest⟩
    refine ⟨fun notNil refused => ?_, fun cleared is => ?_, fun cleared isNot => ?_⟩
    · obtain ⟨same, inside⟩ := stays notNil refused
      refine ⟨same, (left_joined_iff same).mpr inside, ?_⟩
      rw [same]
      exact Finset.union_eq_right.mpr Finset.sdiff_subset
    · obtain ⟨only, old⟩ := (rest cleared).1 is
      exact ⟨only, fun _ => ⟨rifId, env.stale, old, rfl⟩⟩
    · obtain ⟨empty, isNil⟩ := (rest cleared).2 isNot
      refine ⟨empty, (left_emptied_iff empty).mpr ?_, ?_⟩
      · rw [isNil]
        exact Finset.disjoint_empty_right _
      · rw [isNil, Finset.empty_sdiff]
        rfl

end

end

/-- What the undo leaves: nothing where the old list names an invalid port, else
the old list, or an empty LAG. -/
theorem LagUndoSucceeds.becomes {members : Finset ObjectId} (undo : LagUndoSucceeds env)
    (becomes : s.BecomesApart t lagId members held) (created : s.lagTree.get lagId ≠ none)
    (portValid : t.portValid = s.portValid) :
    (¬ ∀ port ∈ env.stale, s.portValid port = true) ∧ (l2LagPortListSet t lagId env.stale env.undo).1 = t ∨
      (∀ port ∈ env.stale, s.portValid port = true) ∧
        ((∀ port ∈ env.stale, s.isPortPartOfDifferentLag lagId port = false) ∧
            s.BecomesApart (l2LagPortListSet t lagId env.stale env.undo).1 lagId env.stale.toFinset
              (held \ members ∪ env.stale.toFinset) ∨
          (¬ ∀ port ∈ env.stale, s.isPortPartOfDifferentLag lagId port = false) ∧
            s.BecomesApart (l2LagPortListSet t lagId env.stale env.undo).1 lagId ∅ (held \ members)) := by
  by_cases valid : ∀ port ∈ env.stale, s.portValid port = true
  · have isCreated : t.lagTree.get lagId ≠ none := by
      rw [becomes.lagTree]
      exact created
    have result := l2LagPortListSet_result becomes.held_eq isCreated (by rw [portValid]; exact valid) env.undo
    rw [becomes.filled, becomes.members_eq] at result
    refine .inr ⟨valid, ?_⟩
    rcases result with ⟨notCleared, _⟩ | ⟨_, filled, _, set⟩ | ⟨_, notFilled, _, emptied⟩
    · exact absurd (fun _ => undo.removed) notCleared
    · exact .inl ⟨filled.apart, becomes.trans set⟩
    · refine .inr ⟨fun apart => notFilled ⟨apart, fun port _ => undo.inserted port, undo.added⟩,
        becomes.trans emptied⟩
  · refine .inl ⟨valid, ?_⟩
    have refused : env.stale.all t.portValid = false := by
      rw [← Bool.not_eq_true, portValid]
      exact fun all => valid (List.all_eq_true.mp all)
    unfold l2LagPortListSet
    rw [if_pos refused]

include inNpu created in
theorem LagSetRight.refused_iff (undo : LagUndoSucceeds env)
    (becomes : s.BecomesApart t lagId ports.toFinset (s.npuOnly lagId ∪ ports.toFinset))
    (valid : ∀ port ∈ ports, s.portValid port = true) (portValid : t.portValid = s.portValid)
    (rif : s.HasRif lagId) {told before : List LagNotice} (isTold : t.told = s.told ++ told)
    (heard : (told.filter fun notice => notice.answer = .success) =
      before ++ [⟨lagId, rifId, .addPorts, env.stale, .success⟩])
    (shape : before = [] ∨ before = [⟨lagId, rifId, .delPorts, env.stale, .success⟩])
    (notTold : ∀ other gone, told ≠
      [⟨lagId, other, .delPorts, gone, .success⟩, ⟨lagId, other, .addPorts, ports, .success⟩]) :
    LagSetRight s lagId ports
        (l2LagPortListSet (l2LagPortListSet t lagId env.stale env.undo).1 lagId ports env.last) ↔
      s.cached lagId = ∅ ∧ env.stale = [] ∧ ¬ LagFilled s lagId ports env.last ∧
          Disjoint (s.npuMembers lagId) ports.toFinset ∨
        s.cached lagId ≠ ∅ ∧ s.Unchanged lagId env.stale ∧ Disjoint (s.npuOnly lagId) ports.toFinset ∧
          env.last.npuRemove ≠ .success ∧
          ∀ port ∈ env.stale, s.portValid port = true ∧ s.isPortPartOfDifferentLag lagId port = false := by
  have frame := l2LagPortListSet_frame t lagId env.stale env.undo
  have uValid : ∀ port ∈ ports, (l2LagPortListSet t lagId env.stale env.undo).1.portValid port = true := by
    rw [frame]
    intro port listed
    rw [portValid]
    exact valid port listed
  have uTold : (l2LagPortListSet t lagId env.stale env.undo).1.told = s.told ++ told := by
    rw [frame]
    exact isTold
  have left := undo.becomes becomes created portValid
  have view : ∀ old, lagRifView old (before ++ [⟨lagId, rifId, .addPorts, env.stale, .success⟩]) =
      old ∪ env.stale.toFinset := by
    intro old
    rcases shape with rfl | rfl
    · rfl
    · exact Finset.sdiff_union_self_eq_union
  generalize (l2LagPortListSet t lagId env.stale env.undo).1 = u at uValid uTold left
  have split : ∀ members held, s.BecomesApart u lagId members held →
      (LagSetRight s lagId ports (l2LagPortListSet u lagId ports env.last) ↔
        (members ≠ ∅ → env.last.npuRemove ≠ .success → members = s.cached lagId ∧
          held = s.npuMembers lagId ∧
          env.stale.toFinset ⊆ s.cached lagId) ∧
        (members = ∅ ∨ env.last.npuRemove = .success → ¬ LagFilled s lagId ports env.last ∧
          s.cached lagId = ∅ ∧
          held \ members = s.npuMembers lagId ∧ env.stale = [])) := by
    intro members held uBecomes
    rw [LagSetRight.last_iff uBecomes inNpu created uValid uTold, heard, view, view, Finset.union_eq_left,
      Finset.empty_union, List.toFinset_eq_empty_iff]
    constructor
    · rintro ⟨stays, filled, notFilled⟩
      refine ⟨stays, fun cleared => ?_⟩
      have isNot : ¬ LagFilled s lagId ports env.last := by
        intro is
        obtain ⟨other, gone, _, both⟩ := (filled cleared is).2 rif
        exact notTold other gone both
      exact ⟨isNot, notFilled cleared isNot⟩
    · rintro ⟨stays, rest⟩
      exact ⟨stays, fun cleared is => absurd is (rest cleared).1, fun cleared _ => (rest cleared).2⟩
  constructor
  · intro right
    rcases left with ⟨invalid, rfl⟩ | ⟨staleValid, ⟨apart, set⟩ | ⟨_, emptied⟩⟩
    · obtain ⟨stays, rest⟩ := (split _ _ becomes).mp right
      by_cases cleared : ports.toFinset = ∅ ∨ env.last.npuRemove = .success
      · obtain ⟨isNot, empty, npu, isNil⟩ := rest cleared
        exact .inl ⟨empty, isNil, isNot, (left_emptied_iff empty).mp npu⟩
      obtain ⟨notEmpty, refused⟩ := not_or.mp cleared
      obtain ⟨same, _, within⟩ := stays notEmpty refused
      refine absurd (fun port listed => valid port ?_) invalid
      rw [← List.mem_toFinset, same]
      exact within (List.mem_toFinset.mpr listed)
    · obtain ⟨stays, rest⟩ := (split _ _ set).mp right
      by_cases cleared : env.stale.toFinset = ∅ ∨ env.last.npuRemove = .success
      · obtain ⟨isNot, empty, npu, isNil⟩ := rest cleared
        rw [isNil, List.toFinset_nil, Finset.union_empty, Finset.sdiff_empty] at npu
        exact .inl ⟨empty, isNil, isNot, (left_emptied_iff empty).mp npu⟩
      obtain ⟨notEmpty, refused⟩ := not_or.mp cleared
      obtain ⟨same, npu, _⟩ := stays notEmpty refused
      rw [same] at notEmpty npu
      obtain ⟨inside, disjoint⟩ := left_restored_iff.mp npu
      exact .inr ⟨notEmpty, ⟨same, inside⟩, disjoint, refused,
        fun port listed => ⟨staleValid port listed, apart port listed⟩⟩
    · obtain ⟨_, rest⟩ := (split _ _ emptied).mp right
      obtain ⟨isNot, empty, npu, isNil⟩ := rest (.inl rfl)
      rw [Finset.sdiff_empty] at npu
      exact .inl ⟨empty, isNil, isNot, (left_emptied_iff empty).mp npu⟩
  · intro when
    have set : (∀ port ∈ env.stale, s.portValid port = true ∧ s.isPortPartOfDifferentLag lagId port = false) →
        s.BecomesApart u lagId env.stale.toFinset
          ((s.npuOnly lagId ∪ ports.toFinset) \ ports.toFinset ∪ env.stale.toFinset) := by
      intro fit
      rcases left with ⟨invalid, _⟩ | ⟨_, ⟨_, set⟩ | ⟨notApart, _⟩⟩
      · exact absurd (fun port listed => (fit port listed).1) invalid
      · exact set
      · exact absurd (fun port listed => (fit port listed).2) notApart
    rcases when with ⟨empty, isNil, isNot, disjoint⟩ | ⟨notEmpty, ⟨same, inside⟩, disjoint, refused, fit⟩
    · rw [isNil] at set
      refine (split _ _ (set fun _ listed => absurd listed List.not_mem_nil)).mpr
        ⟨fun isNotEmpty => absurd rfl isNotEmpty, fun _ => ⟨isNot, empty, ?_, isNil⟩⟩
      rw [List.toFinset_nil, Finset.union_empty, Finset.sdiff_empty]
      exact (left_emptied_iff empty).mpr disjoint
    · refine (split _ _ (set fit)).mpr ⟨fun _ _ => ⟨same, ?_, ?_⟩, fun cleared => ?_⟩
      · rw [same]
        exact left_restored_iff.mpr ⟨inside, disjoint⟩
      · rw [same]
      · rw [same] at cleared
        rcases cleared with empty | removes
        · exact absurd empty notEmpty
        · exact absurd removes refused

theorem lagSetRight_iff (undo : LagUndoSucceeds env) (inNpu : s.npu.get lagId = some (s.npuMembers lagId))
    (created : s.lagTree.get lagId ≠ none) (valid : ∀ port ∈ ports, s.portValid port = true) :
    LagSetRight s lagId ports (l2SetLagAttribute s lagId (.portList ports) env) ↔ LagSetWhen s lagId ports env := by
  have isCreated : ¬ s.isLagCreated lagId = false := by
    rw [Bool.not_eq_false]
    exact LagState.isLagCreated_iff.mpr created
  have result := l2LagPortListSet_result inNpu created valid env.first
  have frame := l2LagPortListSet_frame s lagId ports env.first
  unfold l2SetLagAttribute
  rw [if_neg isCreated]
  dsimp only
  generalize l2LagPortListSet s lagId ports env.first = first at result frame
  obtain ⟨t, status⟩ := first
  dsimp only at result frame ⊢
  have tValid : t.portValid = s.portValid := by
    rw [frame]
  have tPorts : ∀ port ∈ ports, t.portValid port = true := by
    rw [tValid]
    exact valid
  have tTold : t.told = s.told := by
    rw [frame]
  rcases result with ⟨notCleared, rfl, error⟩ | ⟨cleared, filled, rfl, set⟩ |
    ⟨cleared, notFilled, error, emptied⟩
  · have notEmpty : t.cached lagId ≠ ∅ := by
      intro empty
      exact notCleared fun notNil => absurd (LagState.portListGet_eq_nil.mpr empty) notNil
    have when : LagSetWhen t lagId ports env ↔ (env.last.npuRemove = .success →
        LagFilled t lagId ports env.last ∧ ¬ t.HasRif lagId ∧ t.npuOnly lagId ⊆ ports.toFinset) :=
      ⟨fun is => is.notCleared notCleared, fun is => ⟨fun _ => is, fun cleared => absurd cleared notCleared,
        fun cleared => absurd cleared notCleared, fun cleared => absurd cleared notCleared,
        fun cleared => absurd cleared notCleared⟩⟩
    cases status with
    | success => exact absurd rfl error
    | _ => exact (LagSetRight.notCleared_iff inNpu created valid notEmpty).trans when.symm
  · dsimp only
    by_cases hasRif : s.HasRif lagId
    · obtain ⟨rifId, rif⟩ := hasRif
      have tRif : t.RifIs lagId rifId := by
        rw [frame]
        exact ⟨rif.found, rif.isRif, rif.registered⟩
      by_cases both : env.rifDel = .success ∧ env.rifAdd = .success
      · have notified := tRif.accepted ports both.1 both.2
        rw [tTold] at notified
        rw [notified]
        refine (LagSetRight.told_iff inNpu created (set.withTold (s.told ++ [⟨lagId, rifId, .delPorts, env.stale,
          .success⟩, ⟨lagId, rifId, .addPorts, ports, .success⟩])) tPorts rif rfl).trans ?_
        exact ⟨fun is => ⟨fun notCleared => absurd cleared notCleared, fun _ notFilled => absurd filled notFilled,
          fun _ _ noRif => absurd ⟨rifId, rif⟩ noRif, fun _ _ _ _ _ => is,
          fun _ _ _ refused => absurd both refused⟩, fun is =>
            is.told cleared filled ⟨rifId, rif⟩ both.1 both.2⟩
      · obtain ⟨told, before, notified, heard, shape, notTold⟩ := tRif.refused ports both undo.rif
        rw [tTold] at notified
        rw [notified]
        refine (LagSetRight.refused_iff inNpu created undo (set.withTold (s.told ++ told)) valid tValid
          ⟨rifId, rif⟩ rfl heard shape notTold).trans ?_
        exact ⟨fun is => ⟨fun notCleared => absurd cleared notCleared, fun _ notFilled => absurd filled notFilled,
          fun _ _ noRif => absurd ⟨rifId, rif⟩ noRif, fun _ _ _ del add => absurd ⟨del, add⟩ both,
          fun _ _ _ _ => is⟩, fun is => is.refused cleared filled ⟨rifId, rif⟩ both⟩
    · have noRif : ¬ t.HasRif lagId := by
        rw [frame]
        rintro ⟨rifId, rif⟩
        exact hasRif ⟨rifId, rif.found, rif.isRif, rif.registered⟩
      rw [l2SetLagNotify_noRif noRif, LagSetRight.noRif_iff inNpu created set tPorts tTold hasRif]
      exact ⟨fun is => ⟨fun notCleared => absurd cleared notCleared, fun _ notFilled => absurd filled notFilled,
        fun _ _ _ => is, fun _ _ rif => absurd rif hasRif, fun _ _ rif => absurd rif hasRif⟩,
        fun is => is.noRif cleared filled hasRif⟩
  · have when : LagSetWhen s lagId ports env ↔
        (LagFilled s lagId ports env.last → ¬ s.HasRif lagId ∧ s.npuOnly lagId ⊆ ports.toFinset) ∧
          (¬ LagFilled s lagId ports env.last → s.cached lagId = ∅) :=
      ⟨fun is => is.notFilled cleared notFilled, fun is => ⟨fun notCleared => absurd cleared notCleared,
        fun _ _ => is, fun _ filled => absurd filled notFilled, fun _ filled => absurd filled notFilled,
        fun _ filled => absurd filled notFilled⟩⟩
    cases status with
    | success => exact absurd rfl error
    | _ => exact (LagSetRight.notFilled_iff inNpu created emptied tPorts tTold).trans when.symm

/-- In every reachable state, with undo calls that succeed: a port list is set
exactly or not at all in the cases of `LagSetWhen` and for a LAG or a port that
does not exist. -/
theorem lagSet_exact (run : LagRun s) (undo : LagUndoSucceeds env) :
    LagSetRight s lagId ports (l2SetLagAttribute s lagId (.portList ports) env) ↔
      (s.lagTree.get lagId ≠ none → (∀ port ∈ ports, s.portValid port = true) →
        LagSetWhen s lagId ports env) := by
  have nothing : ∀ error : SaiStatus, error ≠ .success → LagSetRight s lagId ports (s, error) := by
    refine fun _ isError => ⟨fun ok => absurd ok isError, fun ok => absurd ok isError, fun _ => ⟨.refl s, ?_⟩⟩
    rw [LagState.heardSince_told (List.append_nil _).symm]
    rfl
  by_cases created : s.lagTree.get lagId ≠ none
  · by_cases valid : ∀ port ∈ ports, s.portValid port = true
    · obtain ⟨held, isIt⟩ := Option.ne_none_iff_exists'.mp ((run.lags.held lagId).mp created)
      have inNpu : s.npu.get lagId = some (s.npuMembers lagId) := by
        unfold LagState.npuMembers
        rw [isIt]
        rfl
      rw [lagSetRight_iff undo inNpu created valid]
      exact ⟨fun is _ _ => is, fun is => is created valid⟩
    refine iff_of_true ?_ fun _ isValid => absurd isValid valid
    have isCreated : ¬ s.isLagCreated lagId = false := by
      rw [Bool.not_eq_false]
      exact LagState.isLagCreated_iff.mpr created
    have refused : ports.all s.portValid = false := by
      rw [← Bool.not_eq_true]
      exact fun all => valid (List.all_eq_true.mp all)
    have set : ∀ env, l2LagPortListSet s lagId ports env = (s, .invalidParameter) := by
      intro env
      unfold l2LagPortListSet
      rw [if_pos refused]
    unfold l2SetLagAttribute
    rw [if_neg isCreated]
    dsimp only
    rw [set]
    dsimp only
    rw [set]
    exact nothing .invalidParameter SaiStatus.noConfusion
  · refine iff_of_true ?_ fun isCreated => absurd isCreated created
    unfold l2SetLagAttribute
    rw [if_pos (LagState.isLagCreated_eq_false.mpr (not_not.mp created))]
    exact nothing .itemNotFound SaiStatus.noConfusion

end Cases

/-- The NPU answers `npuAdd` to every addition, and all else succeeds. -/
def lagSetSample (npuAdd : SaiStatus) : LagSetEnv where
  first := ⟨.success, fun _ => .success, npuAdd⟩
  stale := [⟨.port, 1⟩]
  rifDel := .success
  rifAdd := .success
  rifUndo := .success
  undo := lagSamplePortList
  last := ⟨.success, fun _ => .success, npuAdd⟩

theorem lagSet_exact_sample :
    LagSetRight lagOneMember ⟨.lag, 1⟩ [⟨.port, 3⟩]
        (l2SetLagAttribute lagOneMember ⟨.lag, 1⟩ (.portList [⟨.port, 3⟩]) (lagSetSample .success)) ↔
      (lagOneMember.lagTree.get ⟨.lag, 1⟩ ≠ none →
        (∀ port ∈ [(⟨.port, 3⟩ : ObjectId)], lagOneMember.portValid port = true) →
        LagSetWhen lagOneMember ⟨.lag, 1⟩ [⟨.port, 3⟩] (lagSetSample .success)) :=
  lagSet_exact lagOneMember_run ⟨rfl, rfl, fun _ => rfl, rfl⟩

/-- The NPU refuses to add port 3, and the LAG has lost port 1. -/
theorem lagSet_not_exact : ¬ ∀ s, LagRun s → ∀ lagId ports env, LagUndoSucceeds env →
    LagSetRight s lagId ports (l2SetLagAttribute s lagId (.portList ports) env) := by
  intro all
  have right := all _ lagOneMember_run ⟨.lag, 1⟩ [⟨.port, 3⟩] (lagSetSample .failure)
    ⟨rfl, rfl, fun _ => rfl, rfl⟩
  have members := (right.error (by decide)).1.cached ⟨.lag, 1⟩
  revert members
  decide

end SaiCommon
