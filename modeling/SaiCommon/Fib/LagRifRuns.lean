import SaiCommon.Fib.LagRifMoves

namespace SaiCommon

section Begin
variable {fib : FibState} {lagId : ObjectId} {steps : List LagStep}

theorem LagOpKept.start (shaped : Shaped steps) (calm : Calm steps) (noAdd : cleared steps = [])
    (leaving : ∀ p ∈ leaves steps, .present p ∈ steps) : LagOpKept fib ⟨lagId, [], steps⟩ where
  shaped := shaped
  fresh _ := rfl
  added _ _ p member := nomatch member
  apart p member := by
    have named : p ∈ cleared steps := member
    rw [noAdd] at named
    cases named
  leaving p member := .inr (leaving p member)
  gone p member := by
    rw [calm.overtold] at member
    cases member
  removing removes := absurd removes calm.removes

def addLoop (ports : List ObjectId) : List LagStep :=
  (ports.flatMap fun port =>
    [.different port, .mode port false, .skipMember port, .node port nullObjectId]) ++ [.npuAdd, .notifyAdded]

theorem addLoop_cons (portId : ObjectId) (ports : List ObjectId) : addLoop (portId :: ports) =
    .different portId :: .mode portId false :: .skipMember portId :: .node portId nullObjectId :: addLoop ports := rfl

section
variable (ports : List ObjectId)

theorem addLoop_adds : .notifyAdded ∈ addLoop ports :=
  List.mem_append_right _ (List.mem_cons_of_mem _ (List.mem_singleton_self _))

theorem addLoop_begun : Begun (addLoop ports) := by
  induction ports with
  | nil => exact ⟨by decide, fun portId => by simp [addLoop]⟩
  | cons portId rest ih =>
    rw [addLoop_cons]
    exact ⟨by simpa using ih.1, fun q => by simpa using ih.2 q⟩

theorem addLoop_shaped : Shaped (addLoop ports) := by
  induction ports with
  | nil => exact ⟨List.mem_singleton_self _, rfl⟩
  | cons portId rest ih =>
    have adds := addLoop_adds rest
    rw [addLoop_cons]
    refine ⟨?_, ?_, ⟨nullObjectId, addLoop rest, rfl⟩, adds, addLoop_begun rest, ih⟩
    · exact List.mem_cons_of_mem _ (List.mem_cons_of_mem _ (List.mem_cons_of_mem _ adds))
    · exact List.mem_cons_of_mem _ (List.mem_cons_of_mem _ adds)

theorem addLoop_cleared : cleared (addLoop ports) = [] := by
  induction ports with
  | nil => rfl
  | cons portId rest ih =>
    rw [addLoop_cons]
    simp [cleared, ih]

theorem addLoop_leaves : leaves (addLoop ports) = [] := by
  induction ports with
  | nil => rfl
  | cons portId rest ih => exact ih

theorem addLoop_dropped : dropped (addLoop ports) = [] := by
  induction ports with
  | nil => rfl
  | cons portId rest ih => exact ih

end

/-- The look-ups of `sai_l2_remove_ports_from_lag` with what follows them. -/
def removeLoop (ports checks : List ObjectId) : List LagStep :=
  checks.map LagStep.present ++ [.npu, .notifyRemoved ports]

theorem removeLoop_spec (ports checks : List ObjectId) :
    Shaped (removeLoop ports checks) ∧ Calm (removeLoop ports checks) ∧ .notifyAdded ∉ removeLoop ports checks ∧
      dropped (removeLoop ports checks) = [] ∧ cleared (removeLoop ports checks) = [] ∧
      leaves (removeLoop ports checks) = ports := by
  induction checks with
  | nil => exact ⟨⟨trivial, rfl⟩, trivial, by simp [removeLoop], rfl, rfl, List.append_nil ports⟩
  | cons portId rest ih =>
    obtain ⟨shaped, calm, noAdds, noDropped, noCleared, leave⟩ := ih
    refine ⟨⟨noAdds, noDropped, calm, shaped⟩, trivial, ?_, noDropped, noCleared, leave⟩
    exact fun adds => noAdds (List.mem_of_ne_of_mem LagStep.noConfusion adds)

theorem l2AddPorts_start (ports : List ObjectId) : LagOpKept fib ⟨lagId, [], l2AddPortsSteps ports⟩ := by
  have isLoop : l2AddPortsSteps ports = .created :: addLoop ports := rfl
  rw [isLoop]
  refine .start ⟨addLoop_dropped ports, (addLoop_shaped ports).calm (addLoop_adds ports),
    addLoop_shaped ports⟩ trivial
    (addLoop_cleared ports) fun p member => ?_
  have named : p ∈ leaves (addLoop ports) := member
  rw [addLoop_leaves] at named
  cases named

theorem l2RemovePorts_start (ports : List ObjectId) : LagOpKept fib ⟨lagId, [], l2RemovePortsSteps ports⟩ := by
  have isLoop : l2RemovePortsSteps ports = .created :: removeLoop ports ports := rfl
  obtain ⟨shaped, calm, _, noDropped, noCleared, leave⟩ := removeLoop_spec ports ports
  rw [isLoop]
  refine .start ⟨noDropped, calm, shaped⟩ trivial noCleared fun p member => ?_
  have named : p ∈ leaves (removeLoop ports ports) := member
  rw [leave] at named
  exact List.mem_cons_of_mem _ (List.mem_append_left _ (List.mem_map_of_mem named))

theorem l2CreateMember_start (portId memberId : ObjectId) :
    LagOpKept fib ⟨lagId, [], l2CreateMemberSteps portId memberId⟩ := by
  refine .start ?_ trivial ?_ fun p member => nomatch member
  · simp [l2CreateMemberSteps, Shaped, Calm, Begun, dropped]
  · simp [l2CreateMemberSteps, cleared]

theorem l2RemoveMember_start (portId : ObjectId) : LagOpKept fib ⟨lagId, [], l2RemoveMemberSteps portId⟩ := by
  refine .start ?_ trivial rfl fun p member => ?_
  · simp [l2RemoveMemberSteps, Shaped, Calm, dropped]
  · have named : p ∈ [portId] := member
    rw [List.mem_singleton.mp named]
    simp [l2RemoveMemberSteps]

theorem l2RemoveLag_start : LagOpKept fib ⟨lagId, [], l2RemoveLagSteps⟩ := by
  refine .start ?_ trivial rfl fun p member => nomatch member
  simp [l2RemoveLagSteps, Shaped, Calm, dropped]

end Begin

namespace LagRifState
variable {s : LagRifState} {lagId rifId : ObjectId}

theorem kept_begin {steps : List LagStep} (kept : LagRifKept s) (start : LagOpKept s.fib ⟨lagId, [], steps⟩) :
    LagRifKept (s.begin lagId steps) := by
  unfold begin
  split
  · rename_i idle
    obtain ⟨noUntold, noOvertold⟩ : (∀ other, s.untold other = []) ∧ ∀ other, s.overtold other = [] := by
      unfold LagRifState.untold LagRifState.overtold
      rw [idle]
      exact ⟨fun _ => rfl, fun _ => rfl⟩
    refine kept_op kept (fun other p member => ?_) (fun other p member => ?_) fun op isOp => ?_
    · rw [noUntold] at member
      cases member
    · rw [noOvertold] at member
      cases member
    · cases isOp
      exact start
  · exact kept

end LagRifState

section Updates
variable {updates : List (ObjectId × ObjectId)} {lagId other r cached : ObjectId}

theorem finalRifId_append_self : finalRifId (updates ++ [(lagId, r)]) lagId cached = r := by
  unfold finalRifId
  rw [List.filter_append, List.filter_cons_of_pos (by simp), List.filter_nil, List.getLast?_concat]
  rfl

theorem finalRifId_append_ne (apart : other ≠ lagId) :
    finalRifId (updates ++ [(lagId, r)]) other cached = finalRifId updates other cached := by
  unfold finalRifId
  rw [List.filter_append, List.filter_cons_of_neg (by simpa using apart.symm), List.filter_nil, List.append_nil]

/-- The first update of a LAG, when it is made, changes nothing of what the last will leave. -/
theorem finalRifId_erase_self (first : updates.find? (fun update => update.1 = lagId) = some (lagId, r)) :
    finalRifId (updates.erase (lagId, r)) lagId r = finalRifId updates lagId cached := by
  obtain ⟨_, before, after, isList, others⟩ := List.find?_eq_some_iff_append.mp first
  have away : (lagId, r) ∉ before := fun member => by
    have other := others _ member
    simp at other
  have none : before.filter (fun update => update.1 = lagId) = [] :=
    List.filter_eq_nil_iff.mpr fun update member => by simpa using others update member
  subst isList
  unfold finalRifId
  rw [List.erase_append_right _ away, List.erase_cons_head, List.filter_append, List.filter_append, none,
    List.nil_append,
    List.nil_append, List.filter_cons_of_pos (by simp), List.getLast?_cons]
  cases (after.filter fun update => update.1 = lagId).getLast? with
  | none => rfl
  | some last => rfl

theorem finalRifId_erase_ne (apart : other ≠ lagId) :
    finalRifId (updates.erase (lagId, r)) other cached = finalRifId updates other cached := by
  unfold finalRifId
  rw [← List.erase_filter, List.erase_of_not_mem]
  exact fun member => apart (of_decide_eq_true (List.mem_filter.mp member).2).symm

end Updates

theorem LagOpKept.congr {fib fib' : FibState} {op : LagOp} (kept : LagOpKept fib op)
    (lags : fib'.lagTree = fib.lagTree) (removing : op.removes → ∀ r, rifLag fib' r ≠ some op.lagId) :
    LagOpKept fib' op where
  shaped := kept.shaped
  fresh := kept.fresh
  added exist adds p member := by
    rw [lags] at exist
    rw [lagMembers_congr lags]
    exact kept.added exist adds p member
  apart p member other apart := by
    rw [lagMembers_congr lags]
    exact kept.apart p member other apart
  leaving p member := by
    rw [lagMembers_congr lags]
    exact kept.leaving p member
  gone p member other := by
    rw [lagMembers_congr lags]
    exact kept.gone p member other
  removing := removing

namespace LagRifState
variable {s t : LagRifState} {lagId rifId : ObjectId}

section
variable (kept : LagRifKept s)
include kept

theorem kept_locked (isOp : t.op = s.op) (locked : RifLocked s.fib t.fib lagId)
    (elsewhere : ∀ r other, other ≠ lagId → rifLag t.fib r = some other →
      rifLag s.fib r = some other ∧ t.told r = s.told r)
    (stays : ∀ r other, other ≠ lagId → rifLag s.fib r = some other → rifLag t.fib r = some other)
    (here : ∀ r, rifLag t.fib r = some lagId → s.fib.lagTree.get lagId ≠ none ∧ r.objType = .routerInterface ∧
      t.told r = (lagMembers s.fib lagId).toFinset ∧
      (∀ p ∈ lagMembers s.fib lagId, t.fib.portTree.get p = some .routing) ∧
      ∀ op, s.op = some op → op.lagId = lagId → ¬ op.removes)
    (single : ∀ r r', rifLag t.fib r = some lagId → rifLag t.fib r' = some lagId → r = r')
    (final : ∀ cached, (∀ r, rifLag t.fib r = some lagId → finalRifId t.updates lagId cached = r) ∧
      ((∀ r, rifLag s.fib r ≠ some lagId) ∧ t.updates = s.updates ∨
        finalRifId t.updates lagId cached = nullObjectId ∨
        ∃ r, rifLag t.fib r = some lagId)) (finalElsewhere : ∀ other cached, other ≠ lagId →
      finalRifId t.updates other cached = finalRifId s.updates other cached) : LagRifKept t := by
  have members : ∀ other, lagMembers t.fib other = lagMembers s.fib other := lagMembers_congr locked.lags
  have untold : t.untold = s.untold := by
    unfold LagRifState.untold
    rw [isOp]
  have overtold : t.overtold = s.overtold := by
    unfold LagRifState.overtold
    rw [isOp]
  refine ⟨?_, ?_, ?_, ?_, ?_, ?_, ?_, ?_, ?_⟩
  · intro r other onLag
    rw [locked.lags]
    by_cases same : other = lagId
    · rw [same] at onLag ⊢
      exact (here r onLag).1
    · exact kept.exist r other (elsewhere r other same onLag).1
  · intro r r' other onLag onLag'
    by_cases same : other = lagId
    · rw [same] at onLag onLag'
      exact single r r' onLag onLag'
    · exact kept.single r r' other (elsewhere r other same onLag).1 (elsewhere r' other same onLag').1
  · intro r other onLag
    by_cases same : other = lagId
    · rw [same] at onLag
      exact (here r onLag).2.1
    · exact kept.kinds r other (elsewhere r other same onLag).1
  · intro other lag found
    rw [locked.lags] at found
    by_cases same : other = lagId
    · subst same
      obtain ⟨attached, detached⟩ := final lag.rifId
      refine ⟨attached, fun none => ?_⟩
      rcases detached with ⟨free, updates⟩ | null | ⟨r, onLag⟩
      · rw [updates]
        exact (kept.final other lag found).2 free
      · exact null
      · exact absurd onLag (none r)
    · rw [finalElsewhere other lag.rifId same]
      obtain ⟨attached, detached⟩ := kept.final other lag found
      refine ⟨fun r onLag => attached r (elsewhere r other same onLag).1, fun none => detached fun r onLag => ?_⟩
      exact none r (stays r other same onLag)
  · intro r other onLag p member
    rw [members, overtold]
    by_cases same : other = lagId
    · rw [same] at onLag ⊢
      rw [(here r onLag).2.2.1] at member
      exact .inl (List.mem_toFinset.mp member)
    · obtain ⟨before, told⟩ := elsewhere r other same onLag
      rw [told] at member
      exact kept.upper r other before p member
  · intro r other onLag p member fresh
    rw [members] at member
    rw [untold] at fresh
    by_cases same : other = lagId
    · rw [same] at onLag member
      rw [(here r onLag).2.2.1]
      exact List.mem_toFinset.mpr member
    · obtain ⟨before, told⟩ := elsewhere r other same onLag
      rw [told]
      exact kept.lower r other before p member fresh
  · intro r other onLag p member fresh
    rw [untold] at fresh
    by_cases same : other = lagId
    · rw [same] at onLag
      rw [(here r onLag).2.2.1] at member
      exact (here r onLag).2.2.2.1 p (List.mem_toFinset.mp member)
    obtain ⟨before, told⟩ := elsewhere r other same onLag
    rw [told] at member
    rw [locked.others p ?_]
    · exact kept.modes r other before p member fresh
    · intro inside
      rcases kept.upper r other before p member with mine | beyond
      · exact same (kept.apart other lagId p mine inside)
      unfold LagRifState.overtold at beyond
      cases isOp' : s.op with
      | none =>
        rw [isOp'] at beyond
        cases beyond
      | some op =>
        rw [isOp'] at beyond
        dsimp only at beyond
        split at beyond
        · exact (kept.op op isOp').gone p beyond lagId inside
        · cases beyond
  · intro one two p inOne inTwo
    rw [members] at inOne inTwo
    exact kept.apart one two p inOne inTwo
  · intro op isOp'
    rw [isOp] at isOp'
    refine (kept.op op isOp').congr locked.lags fun removes r onLag => ?_
    by_cases same : op.lagId = lagId
    · rw [same] at onLag
      exact (here r onLag).2.2.2.2 op isOp' same removes
    · exact (kept.op op isOp').removing removes r (elsewhere r op.lagId same onLag).1

theorem kept_createRif {p : Platform} {defaults : RifDefaults} {attrs : List RifAttr} {env : RifCreateEnv}
    (ok : LagRifAct.kept p s (.createRif defaults attrs env)) :
    LagRifKept (s.createRif p defaults attrs env) := by
  unfold createRif
  split
  · exact kept
  split
  · exact kept
  rename_i rif parsed
  split
  · exact kept
  rename_i onLag
  have onLag : fibRifIsAttachmentLag rif = true := Bool.eq_true_of_not_eq_false onLag
  obtain ⟨free, notRemoved⟩ := ok rif parsed onLag
  obtain ⟨locked, result⟩ := @fibRifCreateLocked_cases s.fib rif ⟨.routerInterface, env.npuObjectId⟩
    onLag env.treeOk
  dsimp only
  split
  · rename_i t done
    rw [done] at locked result
    rcases result with ⟨failed, _⟩ | ⟨_, absent, exist, stored, routing⟩
    · exact absurd rfl failed
    have names := fun r => rifLag_put (s := s.fib) (t := t) r stored onLag
    have isNew : rifLag s.fib ⟨.routerInterface, env.npuObjectId⟩ = none := by
      unfold rifLag
      rw [absent]
      rfl
    have only : ∀ r, rifLag t r = some rif.attachment.portId → r = ⟨.routerInterface, env.npuObjectId⟩ := by
      intro r onThis
      rw [names] at onThis
      split at onThis
      · rename_i same
        exact same
      · exact absurd onThis (free r)
    refine kept_locked kept rfl locked (fun r other apart onOther => ?_) (fun r other apart onOther => ?_)
      (fun r onThis => ?_) (fun r r' onThis onThis' => ?_) (fun cached => ⟨fun r onThis => ?_, .inr (.inr ?_)⟩)
      (fun other cached apart => finalRifId_append_ne apart)
    · have onOther : rifLag t r = some other := onOther
      rw [names] at onOther
      split at onOther
      · exact absurd (Option.some.inj onOther).symm apart
      · rename_i old
        exact ⟨onOther, Function.update_of_ne old _ s.told⟩
    · have goal : rifLag t r = some other := by
        rw [names, if_neg]
        · exact onOther
        · rintro rfl
          rw [isNew] at onOther
          cases onOther
      exact goal
    · rw [only r onThis]
      exact ⟨exist, rfl, Function.update_self .., routing, notRemoved⟩
    · rw [only r onThis, only r' onThis']
    · rw [only r onThis]
      exact finalRifId_append_self
    · refine ⟨⟨.routerInterface, env.npuObjectId⟩, ?_⟩
      have goal : rifLag t ⟨.routerInterface, env.npuObjectId⟩ = some rif.attachment.portId := by
        rw [names, if_pos rfl]
      exact goal
  · rename_i t error failed done
    rw [done] at locked result
    rcases result with ⟨_, same⟩ | ⟨success, _⟩
    · have names : ∀ r, rifLag t r = rifLag s.fib r := rifLag_congr same
      have none : ∀ r, rifLag t r ≠ some rif.attachment.portId := fun r onThis => free r (names r ▸ onThis)
      exact kept_locked kept rfl locked (fun r other _ onOther => ⟨names r ▸ onOther, rfl⟩)
        (fun r other _ onOther => (names r).trans onOther) (fun r onThis => absurd onThis (none r))
        (fun r _ onThis _ => absurd onThis (none r))
        (fun cached => ⟨fun r onThis => absurd onThis (none r), .inl ⟨free, rfl⟩⟩) (fun _ _ _ => rfl)
    · exact absurd success failed

theorem kept_removeRif : LagRifKept (s.removeRif rifId) := by
  unfold removeRif
  split
  · exact kept
  rename_i rif stored
  split
  · exact kept
  rename_i allowed
  have onLag : fibRifIsAttachmentLag rif = true := Bool.eq_true_of_not_eq_false fun other => allowed (.inl other)
  obtain ⟨locked, removed⟩ := @fibRifRemoveLocked_spec s.fib rif rifId onLag
  have names := fun r => rifLag_del (s := s.fib) r removed
  have mine : rifLag s.fib rifId = some rif.attachment.portId := by
    unfold rifLag
    rw [show s.fib.routerInterfaceTree.get rifId = some rif from stored]
    exact if_pos onLag
  have none : ∀ r, rifLag (fibRifRemoveLocked s.fib rifId rif) r ≠ some rif.attachment.portId := by
    intro r onThis
    rw [names] at onThis
    split at onThis
    · cases onThis
    · rename_i other
      exact other (kept.single r rifId _ onThis mine)
  refine kept_locked kept rfl locked (fun r other apart onOther => ?_) (fun r other apart onOther => ?_)
    (fun r onThis => absurd onThis (none r)) (fun r _ onThis _ => absurd onThis (none r))
    (fun cached => ⟨fun r onThis => absurd onThis (none r), .inr (.inl finalRifId_append_self)⟩)
    (fun other cached apart => finalRifId_append_ne apart)
  · have onOther : rifLag (fibRifRemoveLocked s.fib rifId rif) r = some other := onOther
    rw [names] at onOther
    split at onOther
    · cases onOther
    · exact ⟨onOther, rfl⟩
  · have goal : rifLag (fibRifRemoveLocked s.fib rifId rif) r = some other := by
      rw [names, if_neg]
      · exact onOther
      · rintro rfl
        exact apart (Option.some.inj (onOther.symm.trans mine))
    exact goal

theorem kept_updateRifId {p : Platform} (ok : LagRifAct.kept p s (.updateRifId lagId rifId)) :
    LagRifKept (s.updateRifId lagId rifId) := by
  unfold updateRifId
  split
  · rename_i pending
    have first := ok pending
    have members : ∀ other, lagMembers (lagUpdateRifId s.fib lagId rifId) other = lagMembers s.fib other := by
      intro other
      unfold lagMembers lagPortListGet lagUpdateRifId
      have same :=
        KeyTree.map_get_modify (m := s.fib.lagTree) (k := lagId) (f := fun lag => { lag with rifId := rifId })
        (g := fun lag => lag.members.map LagMember.portId) (fun _ => rfl) other
      rw [same]
    refine ⟨?_, kept.single, kept.kinds, ?_, ?_, ?_, kept.modes, ?_, ?_⟩
    · intro r other onLag
      exact (not_congr KeyTree.get_modify_eq_none).mpr (kept.exist r other onLag)
    · intro other lag found
      by_cases same : other = lagId
      · subst same
        have edited : (s.fib.lagTree.modify other fun lag => { lag with rifId := rifId }).get other = some lag := found
        rw [KeyTree.get_modify_self] at edited
        obtain ⟨old, stored, isEdit⟩ := Option.map_eq_some_iff.mp edited
        have isId : lag.rifId = rifId := by rw [← isEdit]
        have final := kept.final other old stored
        rw [isId]
        dsimp only
        rw [finalRifId_erase_self first]
        exact final
      · have stored : (s.fib.lagTree.modify lagId fun lag => { lag with rifId := rifId }).get other = some lag := found
        rw [KeyTree.get_modify_ne same] at stored
        dsimp only
        rw [finalRifId_erase_ne same]
        exact kept.final other lag stored
    · intro r other onLag p member
      rw [members]
      exact kept.upper r other onLag p member
    · intro r other onLag p member fresh
      rw [members] at member
      exact kept.lower r other onLag p member fresh
    · intro one two p inOne inTwo
      rw [members] at inOne inTwo
      exact kept.apart one two p inOne inTwo
    · intro op isOp
      have opKept := kept.op op isOp
      exact {
        shaped := opKept.shaped
        fresh := opKept.fresh
        added := fun exist adds p member => by
          rw [members]
          exact opKept.added ((not_congr KeyTree.get_modify_eq_none).mp exist) adds p member
        apart := fun p member other apart => by
          rw [members]
          exact opKept.apart p member other apart
        leaving := fun p member => by
          rw [members]
          exact opKept.leaving p member
        gone := fun p member other => by
          rw [members]
          exact opKept.gone p member other
        removing := opKept.removing }
  · exact kept

end

end LagRifState

theorem LagRifAct.kept_step {p : Platform} {s : LagRifState} {a : LagRifAct} (kept : LagRifKept s) (ok : a.kept p s) :
    LagRifKept (a.step p s) := by
  cases a with
  | createRif defaults attrs env => exact LagRifState.kept_createRif kept ok
  | removeRif rifId => exact LagRifState.kept_removeRif kept
  | updateRifId lagId rifId => exact LagRifState.kept_updateRifId kept ok
  | addPorts lagId ports =>
    dsimp only [LagRifAct.step]
    split
    · exact LagRifState.kept_begin kept (l2AddPorts_start ports)
    · exact kept
  | removePorts lagId ports =>
    dsimp only [LagRifAct.step]
    split
    · exact LagRifState.kept_begin kept (l2RemovePorts_start ports)
    · exact kept
  | createMember lagId portId memberId =>
    dsimp only [LagRifAct.step]
    split
    · exact LagRifState.kept_begin kept (l2CreateMember_start portId memberId)
    · exact kept
  | removeMember memberId lagId portId =>
    dsimp only [LagRifAct.step]
    split
    · exact LagRifState.kept_begin kept (l2RemoveMember_start portId)
    · exact kept
  | removeLag lagId => exact LagRifState.kept_begin kept l2RemoveLag_start
  | advance cache => exact LagRifState.kept_advance kept cache ok

structure LagRifsAgree (s : LagRifState) : Prop where
  exist : ∀ r lagId, rifLag s.fib r = some lagId → s.fib.lagTree.get lagId ≠ none
  cached : ∀ lagId lag, s.fib.lagTree.get lagId = some lag → ∀ r,
    lag.rifId = r ↔ rifLag s.fib r = some lagId ∨ r = nullObjectId ∧ ∀ r', rifLag s.fib r' ≠ some lagId
  told : ∀ r lagId, rifLag s.fib r = some lagId → s.told r = (lagMembers s.fib lagId).toFinset
  routing : ∀ r lagId, rifLag s.fib r = some lagId → ∀ p ∈ lagMembers s.fib lagId,
    s.fib.portTree.get p = some .routing

def LagRifState.Idle (s : LagRifState) : Prop := s.op = none ∧ s.updates = []

/-- A state to start from: idle and in agreement, no port being a member of two LAGs. -/
structure LagRifState.Start (s : LagRifState) : Prop where
  idle : s.Idle
  agree : LagRifsAgree s
  kinds : ∀ r lagId, rifLag s.fib r = some lagId → r.objType = .routerInterface
  apart : ∀ lagId lagId' p, p ∈ lagMembers s.fib lagId → p ∈ lagMembers s.fib lagId' → lagId = lagId'

theorem LagRifState.Idle.nothing {s : LagRifState} (idle : s.Idle) (lagId : ObjectId) :
    s.untold lagId = [] ∧ s.overtold lagId = [] := by
  unfold LagRifState.untold LagRifState.overtold
  rw [idle.1]
  exact ⟨rfl, rfl⟩

theorem LagRifState.Start.kept {s : LagRifState} (start : s.Start) : LagRifKept s where
  exist := start.agree.exist
  single r r' lagId onLag onLag' := by
    obtain ⟨lag, stored⟩ := Option.ne_none_iff_exists'.mp (start.agree.exist r lagId onLag)
    have one := (start.agree.cached lagId lag stored r).mpr (.inl onLag)
    have two := (start.agree.cached lagId lag stored r').mpr (.inl onLag')
    rw [← one, two]
  kinds := start.kinds
  final lagId lag stored := by
    rw [start.idle.2]
    have cached := start.agree.cached lagId lag stored
    exact ⟨fun r onLag => (cached r).mpr (.inl onLag), fun free => (cached nullObjectId).mpr (.inr ⟨rfl, free⟩)⟩
  upper r lagId onLag p member := by
    rw [start.agree.told r lagId onLag] at member
    exact .inl (List.mem_toFinset.mp member)
  lower r lagId onLag p member _ := by
    rw [start.agree.told r lagId onLag]
    exact List.mem_toFinset.mpr member
  modes r lagId onLag p member _ := by
    rw [start.agree.told r lagId onLag] at member
    exact start.agree.routing r lagId onLag p (List.mem_toFinset.mp member)
  apart := start.apart
  op op isOp := by
    rw [start.idle.1] at isOp
    cases isOp

theorem LagRifKept.agree {s : LagRifState} (kept : LagRifKept s) (idle : s.Idle) : LagRifsAgree s := by
  have fresh : ∀ lagId p, p ∉ s.untold lagId := fun lagId p => by
    rw [(idle.nothing lagId).1]
    exact List.not_mem_nil
  refine ⟨kept.exist, fun lagId lag stored r => ?_, fun r lagId onLag => ?_, fun r lagId onLag p member => ?_⟩
  · obtain ⟨attached, detached⟩ := kept.final lagId lag stored
    rw [idle.2] at attached detached
    constructor
    · intro isCached
      by_cases onLag : ∃ r', rifLag s.fib r' = some lagId
      · obtain ⟨r', onLag⟩ := onLag
        have same : lag.rifId = r' := attached r' onLag
        rw [← isCached, same]
        exact .inl onLag
      · have free : ∀ r', rifLag s.fib r' ≠ some lagId := not_exists.mp onLag
        have null : lag.rifId = nullObjectId := detached free
        exact .inr ⟨isCached.symm.trans null, free⟩
    · rintro (onLag | ⟨null, free⟩)
      · exact attached r onLag
      · rw [null]
        exact detached free
  · ext p
    rw [List.mem_toFinset]
    constructor
    · intro member
      rcases kept.upper r lagId onLag p member with inside | beyond
      · exact inside
      · rw [(idle.nothing lagId).2] at beyond
        cases beyond
    · exact fun member => kept.lower r lagId onLag p member (fresh lagId p)
  · exact kept.modes r lagId onLag p (kept.lower r lagId onLag p member (fresh lagId p)) (fresh lagId p)

/-- A LAG and the router interface on it agree whenever no call is in progress, in
every run of kept steps. -/
theorem lag_rifs_agree (p : Platform) {s : LagRifState}
    (reach : Runs.Reach LagRifState.Start (Runs.guarded (LagRifAct.kept p) (LagRifAct.step p)) s)
    (idle : s.Idle) : LagRifsAgree s := by
  have kept : LagRifKept s := by
    refine reach.invariant LagRifKept (fun s start => start.kept) ?_
    rintro s a t kept ⟨ok, rfl⟩
    exact LagRifAct.kept_step kept ok
  exact kept.agree idle

section Sample

def lagRifSample : LagRifState := ⟨fibSampleStep fibSample fibSampleVrf, fun _ => ∅, none, []⟩

theorem lagRifSample_start : lagRifSample.Start := by
  have free : ∀ r lagId, rifLag lagRifSample.fib r ≠ some lagId := fun _ _ => nofun
  have empty : ∀ lagId, lagMembers lagRifSample.fib lagId = [] := fun lagId => by
    have isTree : lagRifSample.fib.lagTree =
      (∅ : KeyTree ObjectId Lag).put ⟨.lag, 1⟩ ⟨nullObjectId, []⟩ := rfl
    unfold lagMembers lagPortListGet
    rw [isTree, KeyTree.get_put]
    split
    · rfl
    · rfl
  refine ⟨⟨rfl, rfl⟩, ⟨fun r lagId onLag => absurd onLag (free r lagId), fun lagId lag stored r => ?_,
    fun r lagId onLag => absurd onLag (free r lagId), fun r lagId onLag => absurd onLag (free r lagId)⟩,
    fun r lagId onLag => absurd onLag (free r lagId), fun lagId _ p member => ?_⟩
  · have isTree : lagRifSample.fib.lagTree =
      (∅ : KeyTree ObjectId Lag).put ⟨.lag, 1⟩ ⟨nullObjectId, []⟩ := rfl
    rw [isTree, KeyTree.get_put] at stored
    split at stored
    · cases Option.some.inj stored
      exact ⟨fun null => .inr ⟨null.symm, fun r' => free r' lagId⟩, fun either => either.elim
        (fun onLag => absurd onLag (free r lagId)) fun null => null.1.symm⟩
    · cases stored
  · rw [empty] at member
    cases member

def lagRifSampleCreate : LagRifAct :=
  .createRif ⟨true, true, 1500, .forward⟩
    [.virtualRouterId ⟨.virtualRouter, 1⟩, .srcMacAddress 7, .type .port, .portId ⟨.lag, 1⟩]
    ⟨true, fun _ => true, fun _ => .success, .success, 2, true⟩

def lagRifSampleUpdate : LagRifAct := .updateRifId ⟨.lag, 1⟩ ⟨.routerInterface, 2⟩

def lagRifSampleAdd : List LagRifAct :=
  .addPorts ⟨.lag, 1⟩ [⟨.port, 1⟩] :: List.replicate 8 (.advance .success)

def lagRifSampleRemove : List LagRifAct := .removeLag ⟨.lag, 1⟩ :: List.replicate 6 (.advance .success)

def lagRifSampleRun : List LagRifAct := lagRifSampleCreate :: lagRifSampleUpdate :: lagRifSampleAdd

theorem lagRifSampleRun_allowed : Runs.AllowedRun (LagRifAct.kept fibSamplePlatform) (LagRifAct.step fibSamplePlatform)
    lagRifSample lagRifSampleRun := by
  have reads : ∀ {s : LagRifState} {op : LagOp}, s.updates = [] → s.op = some op →
      (∀ portId rest, op.steps ≠ .dropNode portId :: rest) →
      LagRifAct.kept fibSamplePlatform s (.advance .success) := by
    intro s op written isOp adds op' same
    cases Option.some.inj (isOp.symm.trans same)
    refine ⟨fun _ r pending => ?_, fun portId rest drops => absurd drops (adds portId rest)⟩
    rw [written] at pending
    cases pending
  refine ⟨fun rif _ _ => ⟨fun _ => nofun, nofun⟩, fun _ => rfl, trivial, ?_⟩
  exact ⟨reads rfl rfl nofun, reads rfl rfl nofun, reads rfl rfl nofun, reads rfl rfl nofun, reads rfl rfl nofun,
    reads rfl rfl nofun, reads rfl rfl nofun, reads rfl rfl nofun, trivial⟩

theorem lagRifSampleRun_agree :
    LagRifsAgree (lagRifSampleRun.foldl (LagRifAct.step fibSamplePlatform) lagRifSample) ∧
      lagMembers (lagRifSampleRun.foldl (LagRifAct.step fibSamplePlatform) lagRifSample).fib ⟨.lag, 1⟩ =
        [⟨.port, 1⟩] :=
  ⟨lag_rifs_agree fibSamplePlatform (Runs.Reach.run (.start lagRifSample_start) lagRifSampleRun_allowed)
    ⟨rfl, rfl⟩, rfl⟩

def lagRifSampleLost : List LagRifAct := lagRifSampleCreate :: lagRifSampleAdd ++ [lagRifSampleUpdate]

def lagRifSampleGone : List LagRifAct := lagRifSampleCreate :: lagRifSampleRemove ++ [lagRifSampleUpdate]

theorem lag_rifs_disagree : lagRifSample.Start ∧
    ((lagRifSampleLost.foldl (LagRifAct.step fibSamplePlatform) lagRifSample).Idle ∧
      ¬ LagRifsAgree (lagRifSampleLost.foldl (LagRifAct.step fibSamplePlatform) lagRifSample)) ∧
    (lagRifSampleGone.foldl (LagRifAct.step fibSamplePlatform) lagRifSample).Idle ∧
      ¬ LagRifsAgree (lagRifSampleGone.foldl (LagRifAct.step fibSamplePlatform) lagRifSample) := by
  refine ⟨lagRifSample_start, ⟨⟨rfl, rfl⟩, fun agree => ?_⟩, ⟨rfl, rfl⟩, fun agree => ?_⟩
  · have told := agree.told ⟨.routerInterface, 2⟩ ⟨.lag, 1⟩ rfl
    revert told
    decide
  · exact agree.exist ⟨.routerInterface, 2⟩ ⟨.lag, 1⟩ rfl rfl

end Sample

end SaiCommon
