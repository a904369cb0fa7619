import SaiCommon.Fib.LagRifKept

namespace SaiCommon

variable {next op : LagOp} {other p r : ObjectId}

section Steps
variable {fib : FibState} {lagId : ObjectId} {added : List ObjectId} {step : LagStep} {rest steps : List LagStep}

theorem Shaped.calm (shaped : Shaped steps) (adds : .notifyAdded ∈ steps) : Calm steps := by
  cases steps with
  | nil => trivial
  | cons step rest =>
    cases step with
    | notifyDropped portId =>
      have last : rest = [] := shaped
      rw [last] at adds
      cases List.mem_singleton.mp adds
    | dropAll =>
      have last : rest = [.dropLag, .npu] := shaped
      rw [last] at adds
      simp at adds
    | dropLag =>
      have last : rest = [.npu] := shaped
      rw [last] at adds
      simp at adds
    | _ => trivial

theorem Calm.overtold (calm : Calm steps) : LagOp.overtold ⟨lagId, added, steps⟩ = [] := by
  cases steps with
  | nil => rfl
  | cons step rest =>
    cases step with
    | notifyDropped portId => exact calm.elim
    | _ => rfl

theorem Calm.removes (calm : Calm steps) : ¬ LagOp.removes ⟨lagId, added, steps⟩ := by
  intro removes
  cases steps with
  | nil => exact removes
  | cons step rest =>
    cases step with
    | dropAll => exact calm
    | dropLag => exact calm
    | _ => exact removes

theorem leaves_cons : leaves rest ⊆ leaves (step :: rest) := by
  intro p member
  cases step with
  | notifyRemoved ports => exact List.mem_append_right ports member
  | dropMember portId => exact List.mem_cons_of_mem portId member
  | _ => exact member

theorem Begun.tail (begun : Begun (step :: rest)) : Begun rest :=
  ⟨fun member => begun.1 (List.mem_cons_of_mem step member),
    fun portId member => begun.2 portId (List.mem_cons_of_mem step member)⟩

theorem LagOpKept.tail (kept : LagOpKept fib ⟨lagId, added, step :: rest⟩) (shaped : Shaped rest) (calm : Calm rest)
    (apart : ∀ p ∈ cleared rest, p ∉ cleared (step :: rest) →
      ∀ other, other ≠ lagId → p ∉ lagMembers fib other)
    (leaving : ∀ p, step = .present p → p ∈ lagMembers fib lagId) : LagOpKept fib ⟨lagId, added, rest⟩ where
  shaped := shaped
  fresh late := kept.fresh fun begun => late begun.tail
  added exist adds := kept.added exist (List.mem_cons_of_mem step adds)
  apart p member other elsewhere := by
    by_cases known : p ∈ cleared (step :: rest)
    · exact kept.apart p known other elsewhere
    · exact apart p member known other elsewhere
  leaving p member := by
    rcases kept.leaving p (leaves_cons member) with inside | checked
    · exact .inl inside
    rcases List.mem_cons.mp checked with now | later
    · exact .inl (leaving p now.symm)
    · exact .inr later
  gone p member := by
    rw [calm.overtold] at member
    cases member
  removing removes := absurd removes calm.removes

section
variable (ports : List ObjectId)

theorem undo_adds : .notifyAdded ∉ ports.map LagStep.dropNode := by
  simp

theorem undo_leaves : leaves (ports.map LagStep.dropNode) = [] := by
  induction ports with
  | nil => rfl
  | cons portId rest ih => exact ih

theorem undo_cleared : cleared (ports.map LagStep.dropNode) = [] := by
  induction ports with
  | nil => rfl
  | cons portId rest ih => exact ih

theorem undo_dropped : dropped (ports.map LagStep.dropNode) = ports := by
  induction ports with
  | nil => rfl
  | cons portId rest ih => exact congrArg (List.cons portId) ih

theorem undo_begun : Begun (ports.map LagStep.dropNode) := by
  constructor
  · simp
  · simp

theorem undo_calm : Calm (ports.map LagStep.dropNode) := by
  cases ports with
  | nil => trivial
  | cons portId rest => trivial

theorem undo_shaped : Shaped (ports.map LagStep.dropNode) := by
  induction ports with
  | nil => trivial
  | cons portId rest ih => exact ⟨undo_adds rest, undo_leaves rest, undo_begun rest, undo_calm rest, ih⟩

end

theorem LagOpKept.quiet (shaped : Shaped steps) (noAdds : .notifyAdded ∉ steps) (begun : Begun steps)
    (noCleared : cleared steps = []) (noLeaves : leaves steps = []) (calm : Calm steps) :
    LagOpKept fib ⟨lagId, added, steps⟩ where
  shaped := shaped
  fresh late := absurd begun late
  added _ adds := absurd adds noAdds
  apart p member := by
    have none : p ∈ cleared steps := member
    rw [noCleared] at none
    cases none
  leaving p member := by
    have none : p ∈ leaves steps := member
    rw [noLeaves] at none
    cases none
  gone p member := by
    rw [calm.overtold] at member
    cases member
  removing removes := absurd removes calm.removes

theorem LagOpKept.undo (fib : FibState) (lagId : ObjectId) (added ports : List ObjectId) :
    LagOpKept fib ⟨lagId, added, ports.map LagStep.dropNode⟩ :=
  .quiet (undo_shaped ports) (undo_adds ports) (undo_begun ports) (undo_cleared ports) (undo_leaves ports)
    (undo_calm ports)

theorem LagOpKept.npuUndo (fib : FibState) (lagId : ObjectId) (added ports : List ObjectId) :
    LagOpKept fib ⟨lagId, added, .npu :: ports.map LagStep.dropNode⟩ := by
  have begun := undo_begun ports
  exact .quiet ⟨undo_calm ports, undo_shaped ports⟩
    (fun adds => undo_adds ports (List.mem_of_ne_of_mem LagStep.noConfusion adds))
    ⟨fun early => begun.1 (List.mem_of_ne_of_mem LagStep.noConfusion early),
      fun portId early => begun.2 portId (List.mem_of_ne_of_mem LagStep.noConfusion early)⟩
    (undo_cleared ports) (undo_leaves ports) trivial

theorem untold_undo (ports : List ObjectId) : LagOp.untold ⟨lagId, added, ports.map LagStep.dropNode⟩ = ports := by
  unfold LagOp.untold
  rw [if_neg (undo_adds ports)]
  exact undo_dropped ports

theorem untold_adds (adds : .notifyAdded ∈ steps) : LagOp.untold ⟨lagId, added, steps⟩ = added := if_pos adds

theorem isPortPartOfDifferentLag_false {portId : ObjectId} (free : isPortPartOfDifferentLag fib lagId portId = false) :
    ∀ other, other ≠ lagId → portId ∉ lagMembers fib other := by
  intro other elsewhere member
  unfold lagMembers lagPortListGet at member
  cases stored : fib.lagTree.get other with
  | none =>
    rw [stored] at member
    cases member
  | some lag =>
    rw [stored] at member
    have inside : portId ∈ lag.members.map LagMember.portId := member
    have some :=
      KeyTree.tally_pos (p := fun other lag => other ≠ lagId ∧ portId ∈ lag.members.map LagMember.portId)
      stored (decide_eq_true ⟨elsewhere, inside⟩)
    unfold isPortPartOfDifferentLag at free
    exact of_decide_eq_false free (Nat.pos_iff_ne_zero.mp some)

theorem isPortLagMember_iff {portId : ObjectId} :
    isPortLagMember fib lagId portId = true ↔ portId ∈ lagMembers fib lagId := by
  unfold isPortLagMember lagMembers lagPortListGet
  cases fib.lagTree.get lagId with
  | none => exact ⟨nofun, nofun⟩
  | some lag => exact decide_eq_true_iff

theorem lagMembers_nodeAdd {portId memberId : ObjectId} (exist : fib.lagTree.get lagId ≠ none) :
    lagMembers (lagPortNodeAdd fib lagId portId memberId) lagId = lagMembers fib lagId ++ [portId] := by
  obtain ⟨lag, stored⟩ := Option.ne_none_iff_exists'.mp exist
  unfold lagMembers lagPortListGet lagPortNodeAdd
  rw [KeyTree.get_modify_self, stored]
  exact List.map_append

theorem lagMembers_nodeRemove {portId : ObjectId} : lagMembers (lagPortNodeRemove fib lagId portId) lagId =
      (lagMembers fib lagId).filter fun q => q ≠ portId := by
  unfold lagMembers lagPortListGet lagPortNodeRemove
  rw [KeyTree.get_modify_self]
  cases fib.lagTree.get lagId with
  | none => rfl
  | some lag =>
    have mapped : (lag.members.map LagMember.portId).filter (fun q => q ≠ portId) =
        (lag.members.filter fun m => m.portId ≠ portId).map LagMember.portId := List.filter_map
    exact mapped.symm

theorem LagOpKept.removal (removal : steps = [.dropAll, .dropLag, .npu] ∨ steps = [.dropLag, .npu])
    (free : ∀ r, rifLag fib r ≠ some lagId) : LagOpKept fib ⟨lagId, added, steps⟩ where
  shaped := by
    rcases removal with rfl | rfl
    · rfl
    · rfl
  fresh late := by
    refine absurd ⟨?_, ?_⟩ late
    · rcases removal with rfl | rfl <;> simp
    · rcases removal with rfl | rfl <;> simp
  added _ adds := by rcases removal with rfl | rfl <;> simp at adds
  apart _ member := by
    rcases removal with rfl | rfl
    · cases member
    · cases member
  leaving _ member := by
    rcases removal with rfl | rfl
    · cases member
    · cases member
  gone _ member := by
    rcases removal with rfl | rfl
    · cases member
    · cases member
  removing _ := free

/-- The steps that change nothing that is still to be told. -/
def Passes : LagStep → Prop
  | .notifyAdded => False
  | .dropNode _ => False
  | .notifyDropped _ => False
  | _ => True

theorem Passes.untold (passes : Passes step) :
    LagOp.untold ⟨lagId, added, step :: rest⟩ = LagOp.untold ⟨lagId, added, rest⟩ := by
  unfold LagOp.untold
  cases step with
  | notifyAdded => exact passes.elim
  | dropNode portId => exact passes.elim
  | notifyDropped portId => exact passes.elim
  | _ => simp [dropped]

theorem Passes.overtold (passes : Passes step) : LagOp.overtold ⟨lagId, added, step :: rest⟩ = [] := by
  cases step with
  | notifyDropped portId => exact passes.elim
  | _ => rfl

end Steps

section Notify
variable {fib t : FibState} {rifId lagId q : ObjectId} {ports : List ObjectId} {isAdd : Bool} {rif : Rif}

theorem rifLagMemberUpdate_cases :
    ports = [] ∧ rifLagMemberUpdate fib rifId lagId ports isAdd .success = (fib, .invalidParameter) ∨
    (portListRoutingModeUpdate fib ports isAdd).2 ≠ .success ∧
      rifLagMemberUpdate fib rifId lagId ports isAdd .success = portListRoutingModeUpdate fib ports isAdd ∨
    ∃ set, portListRoutingModeUpdate fib ports isAdd = (set, .success) ∧
      ((∃ rif, set.routerInterfaceTree.get rifId = some rif ∧ rif.attachment.portId = lagId) ∧
          rifLagMemberUpdate fib rifId lagId ports isAdd .success = (set, .success) ∨
        (¬ ∃ rif, set.routerInterfaceTree.get rifId = some rif ∧ rif.attachment.portId = lagId) ∧
          ∃ status, status ≠ .success ∧ rifLagMemberUpdate fib rifId lagId ports isAdd .success =
            ((portListRoutingModeUpdate set ports (!isAdd)).1, status)) := by
  unfold rifLagMemberUpdate
  by_cases empty : ports = []
  · exact .inl ⟨empty, if_pos empty⟩
  rw [if_neg empty]
  refine .inr ?_
  rcases portListRoutingModeUpdate fib ports isAdd with ⟨set, status⟩
  cases status with
  | success =>
    refine .inr ⟨set, rfl, ?_⟩
    unfold fibRouterInterfaceNodeGet
    cases found : set.routerInterfaceTree.get rifId with
    | none =>
      refine .inr ⟨?_, .invalidObjectId, SaiStatus.noConfusion, ?_⟩
      · rintro ⟨_, stored, _⟩
        cases stored
      · simp [found]
    | some rif =>
      by_cases attached : rif.attachment.portId = lagId
      · refine .inl ⟨⟨rif, rfl, attached⟩, ?_⟩
        simp [found, attached]
      refine .inr ⟨?_, .failure, SaiStatus.noConfusion, ?_⟩
      · rintro ⟨_, stored, same⟩
        exact attached (Option.some.inj stored ▸ same)
      · simp [found, attached]
  | _ => exact .inl ⟨SaiStatus.noConfusion, rfl⟩

theorem rifLagMemberUpdate_modes : FibModesOnly fib (rifLagMemberUpdate fib rifId lagId ports isAdd .success).1 := by
  have moved : FibModesOnly fib (portListRoutingModeUpdate fib ports isAdd).1 :=
    portListRoutingModeLoop_modes isAdd ports fib []
  rcases @rifLagMemberUpdate_cases fib rifId lagId ports isAdd with
    ⟨_, done⟩ | ⟨_, done⟩ | ⟨set, isSet, ⟨_, done⟩ | ⟨_, _, _, done⟩⟩
  · rw [done]
    exact .refl fib
  · rw [done]
    exact moved
  · rw [done]
    rw [isSet] at moved
    exact moved
  · rw [done]
    rw [isSet] at moved
    exact moved.trans (portListRoutingModeLoop_modes (!isAdd) ports set [])

theorem rifLagMemberUpdate_other (away : q ∉ ports) :
    (rifLagMemberUpdate fib rifId lagId ports isAdd .success).1.portTree.get q = fib.portTree.get q := by
  have moved : (portListRoutingModeUpdate fib ports isAdd).1.portTree.get q = fib.portTree.get q :=
    portListRoutingModeUpdate_other away
  rcases @rifLagMemberUpdate_cases fib rifId lagId ports isAdd with
    ⟨_, done⟩ | ⟨_, done⟩ | ⟨set, isSet, ⟨_, done⟩ | ⟨_, _, _, done⟩⟩
  · rw [done]
  · rw [done]
    exact moved
  · rw [done]
    rw [isSet] at moved
    exact moved
  · rw [done]
    rw [isSet] at moved
    exact (portListRoutingModeUpdate_other away).trans moved

theorem rifLagMemberUpdate_success (done : rifLagMemberUpdate fib rifId lagId ports isAdd .success = (t, .success)) :
    (∃ rif, fib.routerInterfaceTree.get rifId = some rif ∧ rif.attachment.portId = lagId) ∧
      (isAdd = true → ∀ p ∈ ports, t.portTree.get p = some .routing) := by
  have moved : FibModesOnly fib (portListRoutingModeUpdate fib ports isAdd).1 :=
    portListRoutingModeLoop_modes isAdd ports fib []
  rcases @rifLagMemberUpdate_cases fib rifId lagId ports isAdd with
    ⟨_, ended⟩ | ⟨failed, ended⟩ | ⟨set, isSet, ⟨there, ended⟩ | ⟨_, status, failed, ended⟩⟩
  · rw [done] at ended
    cases ended
  · rw [← ended, done] at failed
    exact absurd rfl failed
  · rw [done] at ended
    cases ended
    rw [isSet] at moved
    rw [moved.attachments.rifs] at there
    refine ⟨there, fun adds => ?_⟩
    rw [adds] at isSet
    exact portListRoutingModeUpdate_set isSet
  · rw [done] at ended
    cases ended
    exact absurd rfl failed

theorem rifLagMemberUpdate_reset (listed : ports ≠ []) (valid : ∀ p ∈ ports, fib.portTree.get p ≠ none)
    (stored : fib.routerInterfaceTree.get rifId = some rif) (attached : rif.attachment.portId = lagId) :
    (rifLagMemberUpdate fib rifId lagId ports false .success).2 = .success := by
  have reset := portListRoutingModeUpdate_reset valid
  have moved : FibModesOnly fib (portListRoutingModeUpdate fib ports false).1 :=
    portListRoutingModeLoop_modes false ports fib []
  rcases @rifLagMemberUpdate_cases fib rifId lagId ports false with
    ⟨empty, _⟩ | ⟨failed, _⟩ | ⟨set, isSet, ⟨_, done⟩ | ⟨away, _⟩⟩
  · exact absurd empty listed
  · exact absurd reset failed
  · rw [done]
  · rw [isSet] at moved
    rw [moved.attachments.rifs] at away
    exact absurd ⟨rif, stored, attached⟩ away

theorem rifLag_some (onLag : rifLag fib rifId = some lagId) :
    ∃ rif, fib.routerInterfaceTree.get rifId = some rif ∧ fibRifIsAttachmentLag rif = true ∧
      rif.attachment.portId = lagId := by
  obtain ⟨rif, stored, isLag⟩ := Option.bind_eq_some_iff.mp onLag
  split at isLag
  · rename_i attached
    exact ⟨rif, stored, attached, Option.some.inj isLag⟩
  · cases isLag

end Notify

namespace LagRifState
variable {s : LagRifState} {lagId : ObjectId} {added added' : List ObjectId} {step : LagStep}
  {rest steps steps' : List LagStep}

section
variable (kept : LagRifKept s)
include kept

theorem kept_goOn (isOp : s.op = some ⟨lagId, added, steps⟩)
    (untold : LagOp.untold ⟨lagId, added, steps⟩ ⊆ LagOp.untold ⟨lagId, added', steps'⟩)
    (overtold : LagOp.overtold ⟨lagId, added, steps⟩ = []) (opKept : LagOpKept s.fib ⟨lagId, added', steps'⟩) :
    LagRifKept { s with op := some ⟨lagId, added', steps'⟩ } := by
  refine kept_op kept (fun other p member => ?_) (fun other p member => ?_) fun op isNext => ?_
  · unfold LagRifState.untold at member ⊢
    rw [isOp] at member
    dsimp only at member ⊢
    split at member
    · rename_i same
      rw [if_pos same]
      exact untold member
    · cases member
  · unfold LagRifState.overtold at member
    rw [isOp] at member
    dsimp only at member
    split at member
    · rw [overtold] at member
      cases member
    · cases member
  · cases isNext
    exact opKept

theorem kept_over (isOp : s.op = some ⟨lagId, added, steps⟩)
    (untold : LagOp.untold ⟨lagId, added, steps⟩ = []) (overtold : LagOp.overtold ⟨lagId, added, steps⟩ = []) :
    LagRifKept s.ended := by
  refine kept_op kept (fun other p member => ?_) (fun other p member => ?_) nofun
  · unfold LagRifState.untold at member
    rw [isOp] at member
    dsimp only at member
    split at member
    · rw [untold] at member
      cases member
    · cases member
  · unfold LagRifState.overtold at member
    rw [isOp] at member
    dsimp only at member
    split at member
    · rw [overtold] at member
      cases member
    · cases member

theorem upper_inside (overtold : s.overtold lagId = []) (onLag : rifLag s.fib r = some lagId)
    (member : p ∈ s.told r) : p ∈ lagMembers s.fib lagId := by
  rcases kept.upper r lagId onLag p member with inside | beyond
  · exact inside
  · rw [overtold] at beyond
    cases beyond

theorem kept_rest (isOp : s.op = some ⟨lagId, added, step :: rest⟩) (passes : Passes step)
    (opKept : LagOpKept s.fib ⟨lagId, added, rest⟩) : LagRifKept (s.goOn ⟨lagId, added, rest⟩ rest) :=
  kept_goOn kept isOp (by rw [passes.untold]; exact List.Subset.refl _) passes.overtold opKept

theorem kept_pass (isOp : s.op = some ⟨lagId, added, step :: rest⟩) (passes : Passes step) (shaped : Shaped rest)
    (calm : Calm rest) (within : cleared rest ⊆ cleared (step :: rest)) (noLookup : ∀ p, step ≠ .present p) :
    LagRifKept (s.goOn ⟨lagId, added, rest⟩ rest) :=
  kept_rest kept isOp passes ((kept.op _ isOp).tail shaped calm (fun _ member unknown => absurd (within member) unknown)
    fun p same => absurd same (noLookup p))

theorem kept_undo (isOp : s.op = some ⟨lagId, added, step :: rest⟩) (passes : Passes step)
    (adds : .notifyAdded ∈ rest) :
    LagRifKept (s.goOn ⟨lagId, added, rest⟩ (LagOp.undo ⟨lagId, added, rest⟩)) := by
  refine kept_goOn kept isOp (fun p member => ?_) passes.overtold (.undo s.fib lagId added added)
  rw [passes.untold, untold_adds adds] at member
  have undone : LagOp.untold ⟨lagId, added, added.map LagStep.dropNode⟩ = added := untold_undo added
  rw [← undone] at member
  exact member

theorem cached_here {lag : Lag} (written : ∀ r, (lagId, r) ∈ s.updates →
    rifLag s.fib r ≠ some lagId) (stored : s.fib.lagTree.get lagId = some lag) (onLag : rifLag s.fib r = some lagId) :
    lag.rifId = r := by
  have final := (kept.final lagId lag stored).1 r onLag
  unfold finalRifId at final
  cases last : (s.updates.filter fun update => update.1 = lagId).getLast? with
  | none =>
    rw [last] at final
    exact final
  | some update =>
    rw [last] at final
    have isLast : update.2 = r := final
    obtain ⟨member, same⟩ := List.mem_filter.mp (List.mem_of_getLast? last)
    have pending : (lagId, r) ∈ s.updates := by
      rw [← isLast, ← of_decide_eq_true same]
      exact member
    exact absurd onLag (written r pending)

end

structure RifNotified (s t : LagRifState) (lagId : ObjectId) (ports : List ObjectId) (isAdd : Bool)
    (status : SaiStatus) : Prop where
  op : t.op = s.op
  updates : t.updates = s.updates
  attachments : SameAttachments s.fib t.fib
  others : ∀ q, q ∉ ports ∨ s.fib.lagTree.get lagId = none → t.fib.portTree.get q = s.fib.portTree.get q
  elsewhere : ∀ r other, other ≠ lagId → rifLag s.fib r = some other → t.told r = s.told r
  here : ∀ r, rifLag s.fib r = some lagId →
    (status = .success ∧ t.told r = (if isAdd then s.told r ∪ ports.toFinset else s.told r \ ports.toFinset) ∧
      (isAdd = true → ∀ p ∈ ports, t.fib.portTree.get p = some .routing)) ∨
    (status ≠ .success ∧ t.told r = s.told r ∧
      (isAdd = false → ports ≠ [] → ∃ p ∈ ports, s.fib.portTree.get p = none))

theorem rifNotify_spec (kept : LagRifKept s)
    (written : ∀ r, (lagId, r) ∈ s.updates → rifLag s.fib r ≠ some lagId) (ports : List ObjectId)
    (isAdd : Bool) :
    RifNotified s (s.rifNotify lagId ports isAdd).1 lagId ports isAdd (s.rifNotify lagId ports isAdd).2 := by
  unfold rifNotify
  cases stored : s.fib.lagTree.get lagId with
  | none =>
    refine ⟨rfl, rfl, .refl s.fib, fun _ _ => rfl, fun _ _ _ _ => rfl, fun r onLag => ?_⟩
    exact absurd stored (kept.exist r lagId onLag)
  | some lag =>
    dsimp only
    have cached : ∀ r, rifLag s.fib r = some lagId → lag.rifId = r := fun r => cached_here kept written stored
    split
    · have modes := (@rifLagMemberUpdate_modes s.fib lag.rifId lagId ports isAdd).attachments
      have others : ∀ q, q ∉ ports ∨ some lag = none →
          (rifLagMemberUpdate s.fib lag.rifId lagId ports isAdd .success).1.portTree.get q =
            s.fib.portTree.get q := fun q away =>
        rifLagMemberUpdate_other (away.resolve_right nofun)
      split
      · rename_i t done
        rw [done] at modes others
        obtain ⟨⟨rif, found, attached⟩, routing⟩ := rifLagMemberUpdate_success done
        refine ⟨rfl, rfl, modes, stored ▸ others, fun r other apart onLag => ?_, fun r onLag => ?_⟩
        · refine Function.update_of_ne (fun same => apart ?_) _ s.told
          obtain ⟨rif', found', _, attached'⟩ := rifLag_some onLag
          rw [same, found] at found'
          rw [← attached', ← Option.some.inj found', attached]
        · have same := cached r onLag
          subst same
          refine .inl ⟨rfl, Function.update_self .., routing⟩
      · rename_i t error failed done
        rw [done] at modes others
        refine ⟨rfl, rfl, modes, stored ▸ others, fun _ _ _ _ => rfl, fun r onLag => .inr ⟨failed, rfl, ?_⟩⟩
        intro isRemove listed
        by_contra valid
        push Not at valid
        obtain ⟨rif, found, _, attached⟩ := rifLag_some onLag
        rw [← cached r onLag] at found
        have reset := rifLagMemberUpdate_reset listed valid found attached
        rw [isRemove] at done
        rw [done] at reset
        exact failed reset
    · rename_i other
      refine ⟨rfl, rfl, .refl s.fib, fun _ _ => rfl, fun _ _ _ _ => rfl, fun r onLag => ?_⟩
      rw [cached r onLag] at other
      exact absurd (kept.kinds r lagId onLag) other

/-- The ports that a step names are members of the LAG, if there is one, or just left it. -/
theorem kept_notified {t : LagRifState} {ports : List ObjectId} {isAdd : Bool} {status : SaiStatus}
    (kept : LagRifKept s) (isOp : s.op = some op) (notified : RifNotified s t op.lagId ports isAdd status)
    (listed : s.fib.lagTree.get op.lagId ≠ none → ∀ p ∈ ports, p ∈ lagMembers s.fib op.lagId ∨
      p ∈ op.overtold)
    (sameLag : next.lagId = op.lagId) (here : ∀ r, rifLag s.fib r = some op.lagId →
      (∀ p ∈ t.told r, p ∈ lagMembers s.fib op.lagId ∨ p ∈ next.overtold) ∧
      (∀ p ∈ lagMembers s.fib op.lagId, p ∉ next.untold → p ∈ t.told r) ∧
      ∀ p ∈ t.told r, p ∉ next.untold → t.fib.portTree.get p = some .routing)
    (opKept : LagOpKept t.fib next) : LagRifKept { t with op := some next } := by
  have members : lagMembers t.fib op.lagId = lagMembers s.fib op.lagId :=
    lagMembers_congr notified.attachments.lags op.lagId
  have untold : ({ t with op := some next } : LagRifState).untold op.lagId = next.untold :=
    sameLag ▸ untold_here rfl
  have overtold : ({ t with op := some next } : LagRifState).overtold op.lagId = next.overtold :=
    sameLag ▸ overtold_here rfl
  refine kept_move kept isOp rfl (fun op' same => ?_) notified.attachments.rifs notified.updates (fun other _ => ?_)
    (fun q away gone => ?_) notified.elsewhere (fun lag found => ?_) (fun r onLag => ?_)
    (fun p member other apart => ?_)
    (fun op' same => ?_)
  · rw [← Option.some.inj same]
    exact sameLag
  · exact congrArg (fun tree => tree.get other) notified.attachments.lags
  · by_cases exist : s.fib.lagTree.get op.lagId = none
    · exact notified.others q (.inr exist)
    · exact notified.others q (.inl fun inside => (listed exist q inside).elim away gone)
  · refine ⟨lag, ?_, rfl⟩
    rw [← notified.attachments.lags]
    exact found
  · obtain ⟨upper, lower, modes⟩ := here r onLag
    rw [untold, overtold]
    refine ⟨?_, fun p member => ?_, fun p member => ?_, modes⟩
    · have exist := kept.exist r op.lagId onLag
      rw [← notified.attachments.lags] at exist
      exact exist
    · exact (upper p member).imp_left fun inside => members.symm ▸ inside
    · exact lower p (members ▸ member)
  · intro inside
    exact apart (kept.apart other op.lagId p inside (members ▸ member))
  · cases same
    exact opKept

section Notified
variable {t : LagRifState} {ports : List ObjectId} {portId : ObjectId} {status : SaiStatus} {isAdd : Bool}

theorem kept_notifyAdded (kept : LagRifKept s) (isOp : s.op = some ⟨lagId, added, .notifyAdded :: rest⟩)
    (notified : RifNotified s t lagId added true .success) : LagRifKept (t.goOn ⟨lagId, added, rest⟩ rest) := by
  have opKept := kept.op _ isOp
  have last : rest = [] := opKept.shaped
  subst last
  have untold : s.untold lagId = added := untold_here isOp
  have overtold : s.overtold lagId = [] := overtold_here isOp
  have listed : s.fib.lagTree.get lagId ≠ none → ∀ p ∈ added, p ∈ lagMembers s.fib lagId := fun exist =>
    opKept.added exist (List.mem_cons_self ..)
  refine kept_notified kept isOp notified (fun exist p member => .inl (listed exist p member)) rfl (fun r onLag => ?_)
    (.undo t.fib lagId added [])
  rcases notified.here r onLag with ⟨_, told, routing⟩ | ⟨failed, _⟩
  · rw [told, if_pos rfl]
    refine ⟨fun p member => ?_, fun p member _ => ?_, fun p member _ => ?_⟩
    · rcases Finset.mem_union.mp member with before | new
      · exact .inl (upper_inside kept overtold onLag before)
      · exact .inl (listed (kept.exist r lagId onLag) p (List.mem_toFinset.mp new))
    · by_cases new : p ∈ added
      · exact Finset.mem_union_right _ (List.mem_toFinset.mpr new)
      · exact Finset.mem_union_left _ (kept.lower r lagId onLag p member (untold.symm ▸ new))
    · by_cases new : p ∈ added
      · exact routing rfl p new
      rw [notified.others p (.inl new)]
      refine kept.modes r lagId onLag p ?_ (untold.symm ▸ new)
      exact (Finset.mem_union.mp member).resolve_right fun other => new (List.mem_toFinset.mp other)
  · exact absurd rfl failed

theorem kept_notifyAdded_failed (kept : LagRifKept s) (isOp : s.op = some ⟨lagId, added, .notifyAdded :: rest⟩)
    (notified : RifNotified s t lagId added true status) (failed : status ≠ .success) :
    LagRifKept (t.goOn ⟨lagId, added, rest⟩ (.npu :: LagOp.undo ⟨lagId, added, rest⟩)) := by
  have opKept := kept.op _ isOp
  have untold : s.untold lagId = added := untold_here isOp
  have overtold : s.overtold lagId = [] := overtold_here isOp
  have undone : LagOp.untold ⟨lagId, added, .npu :: added.map LagStep.dropNode⟩ = added :=
    (show Passes .npu from trivial).untold.trans (untold_undo added)
  refine kept_notified kept isOp notified
    (fun exist p member => .inl (opKept.added exist (List.mem_cons_self ..) p member)) rfl (fun r onLag => ?_)
    (.npuUndo t.fib lagId added added)
  rcases notified.here r onLag with ⟨done, _⟩ | ⟨_, told, _⟩
  · exact absurd done failed
  rw [told]
  refine ⟨fun p member => ?_, fun p member fresh => ?_, fun p member fresh => ?_⟩
  · exact .inl (upper_inside kept overtold onLag member)
  · have new : p ∉ added := fun new => fresh (undone.symm ▸ new)
    exact kept.lower r lagId onLag p member (untold.symm ▸ new)
  · have new : p ∉ added := fun new => fresh (undone.symm ▸ new)
    rw [notified.others p (.inl new)]
    exact kept.modes r lagId onLag p member (untold.symm ▸ new)

theorem leaving_now (opKept : LagOpKept s.fib ⟨lagId, added, [.notifyRemoved ports]⟩) :
    ∀ p ∈ ports, p ∈ lagMembers s.fib lagId := by
  intro p member
  rcases opKept.leaving p (List.mem_append_left _ member) with inside | checked
  · exact inside
  · cases List.mem_singleton.mp checked

theorem kept_notifyRemoved (kept : LagRifKept s) (isOp : s.op = some ⟨lagId, added, .notifyRemoved ports :: rest⟩)
    (notified : RifNotified s t lagId ports false .success) :
    LagRifKept (t.goOn ⟨lagId, added, rest⟩ (ports.map LagStep.dropNode)) := by
  have opKept := kept.op _ isOp
  have last : rest = [] := opKept.shaped
  subst last
  have untold : s.untold lagId = [] := untold_here isOp
  have overtold : s.overtold lagId = [] := overtold_here isOp
  have undone : LagOp.untold ⟨lagId, added, ports.map LagStep.dropNode⟩ = ports := untold_undo ports
  refine kept_notified kept isOp notified (fun _ p member => .inl (leaving_now opKept p member)) rfl (fun r onLag => ?_)
    (.undo t.fib lagId added ports)
  rcases notified.here r onLag with ⟨_, told, _⟩ | ⟨failed, _⟩
  · rw [told, if_neg Bool.false_ne_true]
    refine ⟨fun p member => ?_, fun p member fresh => ?_, fun p member fresh => ?_⟩
    · exact .inl (upper_inside kept overtold onLag (Finset.mem_sdiff.mp member).1)
    · have stays : p ∉ ports := fun leaves => fresh (undone.symm ▸ leaves)
      refine Finset.mem_sdiff.mpr ⟨kept.lower r lagId onLag p member ?_, fun leaves =>
        stays (List.mem_toFinset.mp leaves)⟩
      rw [untold]
      exact List.not_mem_nil
    · have stays : p ∉ ports := fun leaves => fresh (undone.symm ▸ leaves)
      rw [notified.others p (.inl stays)]
      refine kept.modes r lagId onLag p (Finset.mem_sdiff.mp member).1 ?_
      rw [untold]
      exact List.not_mem_nil
  · exact absurd rfl failed

/-- The ports of a LAG with a RIF can always be reset, so that only an empty list is refused. -/
theorem kept_notifyRemoved_failed (kept : LagRifKept s)
    (isOp : s.op = some ⟨lagId, added, .notifyRemoved ports :: rest⟩)
    (notified : RifNotified s t lagId ports false status) (failed : status ≠ .success) :
    LagRifKept (t.goOn ⟨lagId, added, rest⟩ [.npu]) := by
  have opKept := kept.op _ isOp
  have last : rest = [] := opKept.shaped
  subst last
  have untold : s.untold lagId = [] := untold_here isOp
  have overtold : s.overtold lagId = [] := overtold_here isOp
  refine kept_notified kept isOp notified (fun _ p member => .inl (leaving_now opKept p member)) rfl (fun r onLag => ?_)
    (.npuUndo t.fib lagId added [])
  rcases notified.here r onLag with ⟨done, _⟩ | ⟨_, told, refused⟩
  · exact absurd done failed
  have fresh : ∀ p, p ∉ s.untold lagId := fun p => by
    rw [untold]
    exact List.not_mem_nil
  have empty : ports = [] := by
    by_contra listed
    obtain ⟨p, member, absent⟩ := refused rfl listed
    have isTold := kept.lower r lagId onLag p (leaving_now opKept p member) (fresh p)
    have routing := kept.modes r lagId onLag p isTold (fresh p)
    rw [absent] at routing
    cases routing
  rw [told]
  refine ⟨fun p member => ?_, fun p member _ => kept.lower r lagId onLag p member (fresh p), fun p member _ => ?_⟩
  · exact .inl (upper_inside kept overtold onLag member)
  · rw [notified.others p (.inl (empty ▸ List.not_mem_nil))]
    exact kept.modes r lagId onLag p member (fresh p)

theorem kept_notifyDropped (kept : LagRifKept s) (isOp : s.op = some ⟨lagId, added, .notifyDropped portId :: rest⟩)
    (notified : RifNotified s t lagId [portId] false status) : LagRifKept (t.goOn ⟨lagId, added, rest⟩ rest) := by
  have opKept := kept.op _ isOp
  have last : rest = [] := opKept.shaped
  subst last
  have untold : s.untold lagId = [] := untold_here isOp
  have overtold : s.overtold lagId = [portId] := overtold_here isOp
  have fresh : ∀ p, p ∉ s.untold lagId := fun p => by
    rw [untold]
    exact List.not_mem_nil
  have gone : portId ∉ lagMembers s.fib lagId := opKept.gone portId (List.mem_singleton_self portId) lagId
  refine kept_notified kept isOp notified (fun _ p member => .inr member) rfl (fun r onLag => ?_)
    (.undo t.fib lagId added [])
  have within : ∀ p ∈ s.told r, p ≠ portId → p ∈ lagMembers s.fib lagId := fun p member other => by
    rcases kept.upper r lagId onLag p member with inside | beyond
    · exact inside
    · rw [overtold] at beyond
      exact absurd (List.mem_singleton.mp beyond) other
  have routing : ∀ p ∈ s.told r, p ≠ portId → t.fib.portTree.get p = some .routing := fun p member other => by
    rw [notified.others p (.inl fun same => other (List.mem_singleton.mp same))]
    exact kept.modes r lagId onLag p member (fresh p)
  rcases notified.here r onLag with ⟨_, told, _⟩ | ⟨_, told, refused⟩
  · rw [told, if_neg Bool.false_ne_true]
    have other : ∀ p ∈ s.told r \ [portId].toFinset, p ∈ s.told r ∧ p ≠ portId := fun p member => by
      obtain ⟨before, stays⟩ := Finset.mem_sdiff.mp member
      exact ⟨before, fun same => stays (List.mem_toFinset.mpr (List.mem_singleton.mpr same))⟩
    refine ⟨fun p member => .inl (within p (other p member).1 (other p member).2), fun p member _ => ?_,
      fun p member _ => routing p (other p member).1 (other p member).2⟩
    refine Finset.mem_sdiff.mpr ⟨kept.lower r lagId onLag p member (fresh p), fun same => gone ?_⟩
    rw [List.mem_singleton.mp (List.mem_toFinset.mp same)] at member
    exact member
  · obtain ⟨p, same, absent⟩ := refused rfl (List.cons_ne_nil portId [])
    rw [List.mem_singleton.mp same] at absent
    have other : ∀ p ∈ s.told r, p ≠ portId := by
      rintro p member rfl
      have isRouting := kept.modes r lagId onLag p member (fresh p)
      rw [absent] at isRouting
      cases isRouting
    rw [told]
    exact ⟨fun p member => .inl (within p member (other p member)),
      fun p member _ => kept.lower r lagId onLag p member (fresh p), fun p member _ =>
        routing p member (other p member)⟩

end Notified

theorem kept_members {t : LagRifState} {edit : Lag → Lag} (kept : LagRifKept s) (isOp : s.op = some op)
    (isNext : t = { s with
      fib := { s.fib with lagTree := s.fib.lagTree.modify op.lagId edit }
      op := some next })
    (keepsId : ∀ lag, (edit lag).rifId = lag.rifId) (sameLag : next.lagId = op.lagId)
    (here : ∀ r, rifLag s.fib r = some op.lagId →
      (∀ p ∈ s.told r, p ∈ lagMembers t.fib op.lagId ∨ p ∈ next.overtold) ∧
      (∀ p ∈ lagMembers t.fib op.lagId, p ∉ next.untold → p ∈ s.told r) ∧
      ∀ p ∈ s.told r, p ∉ next.untold → p ∉ op.untold)
    (members : ∀ p ∈ lagMembers t.fib op.lagId,
      p ∈ lagMembers s.fib op.lagId ∨ ∀ other, other ≠ op.lagId → p ∉ lagMembers s.fib other)
    (opKept : LagOpKept t.fib next) : LagRifKept t := by
  have isTo : t.op = some next := by rw [isNext]
  have untold : t.untold op.lagId = next.untold := sameLag ▸ untold_here isTo
  have overtold : t.overtold op.lagId = next.overtold := sameLag ▸ overtold_here isTo
  have isUntold : s.untold op.lagId = op.untold := untold_here isOp
  have isTree : t.fib.lagTree = s.fib.lagTree.modify op.lagId edit := by rw [isNext]
  refine kept_move kept isOp isTo (fun op' same => ?_) (by rw [isNext]) (by rw [isNext]) (fun other apart => ?_)
    (fun _ _ _ => by rw [isNext]) (fun _ _ _ _ => by rw [isNext]) (fun lag found => ?_) (fun r onLag => ?_)
    (fun p member other apart => ?_) (fun op' same => ?_)
  · rw [← Option.some.inj same]
    exact sameLag
  · rw [isTree]
    exact KeyTree.get_modify_ne apart
  · rw [isTree, KeyTree.get_modify_self] at found
    obtain ⟨old, stored, isEdit⟩ := Option.map_eq_some_iff.mp found
    exact ⟨old, stored, by rw [← isEdit, keepsId]⟩
  · obtain ⟨upper, lower, modes⟩ := here r onLag
    have told : t.told r = s.told r := by rw [isNext]
    have ports : t.fib.portTree = s.fib.portTree := by rw [isNext]
    rw [untold, overtold, told, ports]
    refine ⟨?_, upper, lower, fun p member fresh => ?_⟩
    · rw [isTree]
      exact (not_congr KeyTree.get_modify_eq_none).mpr (kept.exist r op.lagId onLag)
    · exact kept.modes r op.lagId onLag p member (isUntold.symm ▸ modes p member fresh)
  · rcases members p member with before | free
    · exact fun inside => apart (kept.apart other op.lagId p inside before)
    · exact free other apart
  · cases same
    exact opKept

section Members
variable {portId memberId : ObjectId}

theorem lagMembers_nodeAdd_other {fib : FibState} (apart : other ≠ lagId) :
    lagMembers (lagPortNodeAdd fib lagId portId memberId) other = lagMembers fib other :=
  lagMembers_get (KeyTree.get_modify_ne apart)

theorem lagMembers_nodeRemove_other {fib : FibState} (apart : other ≠ lagId) :
    lagMembers (lagPortNodeRemove fib lagId portId) other = lagMembers fib other :=
  lagMembers_get (KeyTree.get_modify_ne apart)

theorem lagMembers_nodeAdd_mem {fib : FibState}
    (member : p ∈ lagMembers (lagPortNodeAdd fib lagId portId memberId) lagId) :
    p ∈ lagMembers fib lagId ∨ p = portId := by
  by_cases exist : fib.lagTree.get lagId = none
  · have absent : (lagPortNodeAdd fib lagId portId memberId).lagTree.get lagId = none :=
      KeyTree.get_modify_eq_none.mpr exist
    unfold lagMembers lagPortListGet at member
    rw [absent] at member
    cases member
  · rw [lagMembers_nodeAdd exist] at member
    exact (List.mem_append.mp member).imp_right List.mem_singleton.mp

theorem lagMembers_nodeAdd_old {fib : FibState} (member : p ∈ lagMembers fib lagId) :
    p ∈ lagMembers (lagPortNodeAdd fib lagId portId memberId) lagId := by
  have exist : fib.lagTree.get lagId ≠ none := fun absent => by
    unfold lagMembers lagPortListGet at member
    rw [absent] at member
    cases member
  rw [lagMembers_nodeAdd exist]
  exact List.mem_append_left _ member

section
variable (kept : LagRifKept s)
include kept

theorem kept_node (isOp : s.op = some ⟨lagId, added, .node portId memberId :: rest⟩) :
    LagRifKept ({ s with fib := lagPortNodeAdd s.fib lagId portId memberId }.goOn
      ⟨lagId, added ++ [portId], rest⟩ rest) := by
  have opKept := kept.op _ isOp
  obtain ⟨adds, begun, shaped⟩ := opKept.shaped
  have calm := shaped.calm adds
  have untold : s.untold lagId = added := (untold_here isOp).trans (untold_adds (List.mem_cons_of_mem _ adds))
  have overtold : s.overtold lagId = [] := overtold_here isOp
  have isUntold : LagOp.untold ⟨lagId, added ++ [portId], rest⟩ = added ++ [portId] := untold_adds adds
  have next : LagOpKept (lagPortNodeAdd s.fib lagId portId memberId) ⟨lagId, added ++ [portId], rest⟩ := {
      shaped := shaped
      fresh := fun late => absurd begun late
      added := fun exist _ p member => by
        have before : s.fib.lagTree.get lagId ≠ none := (not_congr KeyTree.get_modify_eq_none).mp exist
        rcases List.mem_append.mp member with old | new
        · exact lagMembers_nodeAdd_old (opKept.added before (List.mem_cons_of_mem _ adds) p old)
        · rw [List.mem_singleton.mp new, lagMembers_nodeAdd before]
          exact List.mem_append_right _ (List.mem_singleton_self portId)
      apart := fun p member other apart => by
        rw [lagMembers_nodeAdd_other apart]
        exact opKept.apart p (List.mem_cons_of_mem portId member) other apart
      leaving := fun p member => by
        rcases opKept.leaving p member with inside | checked
        · exact .inl (lagMembers_nodeAdd_old inside)
        · exact .inr (List.mem_of_ne_of_mem LagStep.noConfusion checked)
      gone := fun p member => by
        rw [calm.overtold] at member
        cases member
      removing := fun removes => absurd removes calm.removes }
  refine kept_members kept isOp rfl (fun _ => rfl) rfl
    (fun r onLag => ⟨fun p member => ?_, fun p member fresh => ?_, fun p member fresh => ?_⟩)
    (fun p member => ?_) ?_
  · exact .inl (lagMembers_nodeAdd_old (upper_inside kept overtold onLag member))
  · rw [isUntold] at fresh
    obtain ⟨old, other⟩ := not_or.mp (mt List.mem_append.mpr fresh)
    have inside := (lagMembers_nodeAdd_mem member).resolve_right fun same => other (List.mem_singleton.mpr same)
    exact kept.lower r lagId onLag p inside (untold.symm ▸ old)
  · rw [isUntold] at fresh
    have isOld : LagOp.untold ⟨lagId, added, .node portId memberId :: rest⟩ = added :=
      untold_adds (List.mem_cons_of_mem _ adds)
    exact fun old => fresh (List.mem_append_left _ (isOld ▸ old))
  · refine (lagMembers_nodeAdd_mem member).imp_right fun same => ?_
    rw [same]
    exact opKept.apart portId (List.mem_cons_self ..)
  · exact next

theorem kept_dropNode (isOp : s.op = some ⟨lagId, added, .dropNode portId :: rest⟩)
    (free : ∀ r, rifLag s.fib r = some lagId → portId ∉ s.told r) :
    LagRifKept ({ s with fib := lagPortNodeRemove s.fib lagId portId }.goOn ⟨lagId, added, rest⟩ rest) := by
  have opKept := kept.op _ isOp
  obtain ⟨none, leave, begun, calm, shaped⟩ := opKept.shaped
  have isUntold : LagOp.untold ⟨lagId, added, .dropNode portId :: rest⟩ = portId :: dropped rest :=
    if_neg fun adds => none (List.mem_of_ne_of_mem LagStep.noConfusion adds)
  have untold : s.untold lagId = portId :: dropped rest := (untold_here isOp).trans isUntold
  have overtold : s.overtold lagId = [] := overtold_here isOp
  have after : LagOp.untold ⟨lagId, added, rest⟩ = dropped rest := if_neg none
  have stays : ∀ {p}, p ∈ lagMembers (lagPortNodeRemove s.fib lagId portId) lagId ↔
      p ∈ lagMembers s.fib lagId ∧ p ≠ portId := fun {p} => by
    rw [lagMembers_nodeRemove, List.mem_filter, decide_eq_true_iff]
  have next : LagOpKept (lagPortNodeRemove s.fib lagId portId) ⟨lagId, added, rest⟩ := {
      shaped := shaped
      fresh := fun late => absurd begun late
      added := fun _ adds => absurd adds none
      apart := fun p member other apart => by
        rw [lagMembers_nodeRemove_other apart]
        exact opKept.apart p member other apart
      leaving := fun p member => by
        have named : p ∈ leaves rest := member
        rw [leave] at named
        cases named
      gone := fun p member => by
        rw [calm.overtold] at member
        cases member
      removing := fun removes => absurd removes calm.removes }
  refine kept_members kept isOp rfl (fun _ => rfl) rfl
    (fun r onLag => ⟨fun p member => ?_, fun p member fresh => ?_, fun p member fresh => ?_⟩)
    (fun p member => .inl (stays.mp member).1) ?_
  · refine .inl (stays.mpr ⟨upper_inside kept overtold onLag member, fun same => free r onLag ?_⟩)
    rw [← same]
    exact member
  · obtain ⟨inside, other⟩ := stays.mp member
    rw [after] at fresh
    refine kept.lower r lagId onLag p inside ?_
    rw [untold]
    exact fun listed => (List.mem_cons.mp listed).elim other fresh
  · rw [after] at fresh
    rw [isUntold]
    intro listed
    rcases List.mem_cons.mp listed with same | later
    · rw [same] at member
      exact free r onLag member
    · exact fresh later
  · exact next

theorem kept_dropMember (isOp : s.op = some ⟨lagId, added, .dropMember portId :: rest⟩) :
    LagRifKept ({ s with fib := lagPortNodeRemove s.fib lagId portId }.goOn ⟨lagId, added, rest⟩ rest) := by
  have opKept := kept.op _ isOp
  have last : rest = [.notifyDropped portId] := opKept.shaped
  subst last
  have untold : s.untold lagId = [] := untold_here isOp
  have overtold : s.overtold lagId = [] := overtold_here isOp
  have inside : portId ∈ lagMembers s.fib lagId := by
    rcases opKept.leaving portId (List.mem_cons_self ..) with inside | checked
    · exact inside
    · simp at checked
  have stays : ∀ {p}, p ∈ lagMembers (lagPortNodeRemove s.fib lagId portId) lagId ↔
      p ∈ lagMembers s.fib lagId ∧ p ≠ portId := fun {p} => by
    rw [lagMembers_nodeRemove, List.mem_filter, decide_eq_true_iff]
  have next : LagOpKept (lagPortNodeRemove s.fib lagId portId) ⟨lagId, added, [.notifyDropped portId]⟩ := {
      shaped := rfl
      fresh := fun late => by
        refine absurd ⟨fun early => ?_, fun _ early => ?_⟩ late
        · cases List.mem_singleton.mp early
        · cases List.mem_singleton.mp early
      added := fun _ adds => by cases List.mem_singleton.mp adds
      apart := fun _ member => nomatch member
      leaving := fun _ member => nomatch member
      gone := fun p member other => by
        rw [List.mem_singleton.mp member]
        by_cases same : other = lagId
        · rw [same]
          exact fun left => (stays.mp left).2 rfl
        · rw [lagMembers_nodeRemove_other same]
          exact fun elsewhere => same (kept.apart other lagId portId elsewhere inside)
      removing := fun removes => removes.elim }
  refine kept_members kept isOp rfl (fun _ => rfl) rfl
    (fun r onLag => ⟨fun p member => ?_, fun p member _ => ?_, fun p _ _ => ?_⟩)
    (fun p member => .inl (stays.mp member).1) ?_
  · by_cases same : p = portId
    · exact .inr (List.mem_singleton.mpr same)
    exact .inl (stays.mpr ⟨upper_inside kept overtold onLag member, same⟩)
  · refine kept.lower r lagId onLag p (stays.mp member).1 ?_
    rw [untold]
    exact List.not_mem_nil
  · have isUntold : LagOp.untold ⟨lagId, added, [.dropMember portId, .notifyDropped portId]⟩ = [] := rfl
    rw [isUntold]
    exact List.not_mem_nil
  · exact next

theorem kept_dropAll (isOp : s.op = some ⟨lagId, added, .dropAll :: rest⟩) :
    LagRifKept ({ s with fib := s.fib.removeAllLagPortNodes lagId }.goOn ⟨lagId, added, rest⟩ rest) := by
  have opKept := kept.op _ isOp
  have last : rest = [.dropLag, .npu] := opKept.shaped
  subst last
  have free : ∀ r, rifLag s.fib r ≠ some lagId := opKept.removing trivial
  have empty : lagMembers (s.fib.removeAllLagPortNodes lagId) lagId = [] := by
    unfold lagMembers lagPortListGet FibState.removeAllLagPortNodes
    rw [KeyTree.get_modify_self]
    cases s.fib.lagTree.get lagId with
    | none => rfl
    | some lag => rfl
  refine kept_members kept isOp rfl (fun _ => rfl) rfl (fun r onLag => absurd onLag (free r)) (fun p member => ?_)
    (.removal (.inr rfl) free)
  have inside : p ∈ lagMembers (s.fib.removeAllLagPortNodes lagId) lagId := member
  rw [empty] at inside
  cases inside

theorem kept_dropLag (isOp : s.op = some ⟨lagId, added, .dropLag :: rest⟩) :
    LagRifKept ({ s with fib := (s.fib.lagNodeRemove lagId).1 }.goOn ⟨lagId, added, rest⟩ rest) := by
  have opKept := kept.op _ isOp
  have last : rest = [.npu] := opKept.shaped
  subst last
  have free : ∀ r, rifLag s.fib r ≠ some lagId := opKept.removing trivial
  obtain ⟨rifs, ports, absent, others⟩ :
    (s.fib.lagNodeRemove lagId).1.routerInterfaceTree = s.fib.routerInterfaceTree ∧
      (s.fib.lagNodeRemove lagId).1.portTree = s.fib.portTree ∧
      (s.fib.lagNodeRemove lagId).1.lagTree.get lagId = none ∧
      ∀ other, other ≠ lagId → (s.fib.lagNodeRemove lagId).1.lagTree.get other = s.fib.lagTree.get other := by
    unfold FibState.lagNodeRemove
    split
    · exact ⟨rfl, rfl, KeyTree.get_del_self .., fun other apart => KeyTree.get_del_ne apart⟩
    · rename_i absent
      exact ⟨rfl, rfl, Option.not_isSome_iff_eq_none.mp absent, fun _ _ => rfl⟩
  have empty : ∀ p, p ∉ lagMembers (s.fib.lagNodeRemove lagId).1 lagId := fun p member => by
    unfold lagMembers lagPortListGet at member
    rw [absent] at member
    cases member
  refine kept_move kept isOp rfl (fun op' same => by cases same; rfl) rifs rfl others
    (fun q _ _ => congrArg (fun tree => tree.get q) ports) (fun _ _ _ _ => rfl) (fun lag found => ?_)
    (fun r onLag => absurd onLag (free r)) (fun p member => absurd member (empty p)) (fun op' same => ?_)
  · have stored : (s.fib.lagNodeRemove lagId).1.lagTree.get lagId = some lag := found
    rw [absent] at stored
    cases stored
  · cases same
    exact .npuUndo _ lagId added []

end

end Members

theorem untold_none (noAdded : added = []) (noDropped : dropped steps = []) :
    LagOp.untold ⟨lagId, added, steps⟩ = [] := by
  unfold LagOp.untold
  split
  · exact noAdded
  · exact noDropped

theorem kept_advance (kept : LagRifKept s) (cache : SaiStatus) (ok : ∀ op, s.op = some op →
      (op.readsRifId → ∀ r, (op.lagId, r) ∈ s.updates → rifLag s.fib r ≠ some op.lagId) ∧
      ∀ portId rest, op.steps = .dropNode portId :: rest → ∀ r, rifLag s.fib r = some op.lagId →
        portId ∉ s.told r) : LagRifKept (s.advance cache) := by
  unfold advance
  cases isOp : s.op with
  | none => exact kept
  | some op =>
    obtain ⟨lagId, added, steps⟩ := op
    have opKept := kept.op _ isOp
    obtain ⟨written, free⟩ := ok _ isOp
    cases steps with
    | nil => exact kept_over kept isOp rfl rfl
    | cons step rest =>
      cases step with
      | created =>
        obtain ⟨noDropped, calm, shaped⟩ := opKept.shaped
        dsimp only
        split
        · exact kept_pass kept isOp trivial shaped calm (List.Subset.refl _) fun _ => LagStep.noConfusion
        · exact kept_over kept isOp
            (untold_none (opKept.fresh fun begun => begun.1 (List.mem_cons_self ..)) noDropped) rfl
      | different portId =>
        obtain ⟨adds, shaped⟩ := opKept.shaped
        dsimp only
        split
        · exact kept_undo kept isOp trivial adds
        rename_i single
        refine kept_rest kept isOp trivial (opKept.tail shaped (shaped.calm adds) (fun p member unknown => ?_) nofun)
        have same : p = portId := by
          by_contra other
          exact unknown (List.mem_filter.mpr ⟨member, decide_eq_true other⟩)
        rw [same]
        exact isPortPartOfDifferentLag_false (Bool.eq_false_iff.mpr single)
      | mode portId strict =>
        obtain ⟨adds, shaped⟩ := opKept.shaped
        have go : LagRifKept (s.goOn ⟨lagId, added, rest⟩ rest) :=
          kept_pass kept isOp trivial shaped (shaped.calm adds) (List.Subset.refl _) fun _ => LagStep.noConfusion
        have undo := kept_undo kept isOp trivial adds
        dsimp only
        split
        · exact undo
        · exact go
        · split
          · exact undo
          · exact go
      | skipMember portId =>
        obtain ⟨⟨memberId, next, isRest⟩, shaped⟩ := opKept.shaped
        subst isRest
        have adds : LagStep.notifyAdded ∈ next := shaped.1
        have nextKept : LagOpKept s.fib ⟨lagId, added, .node portId memberId :: next⟩ :=
          opKept.tail shaped trivial (fun p member unknown => absurd member unknown) nofun
        dsimp only
        split
        · refine kept_goOn kept isOp (fun p member => ?_) rfl (nextKept.tail shaped.2.2 (shaped.2.2.calm adds)
            (fun p member unknown => absurd (List.mem_cons_of_mem portId member) unknown) nofun)
          have before : LagOp.untold ⟨lagId, added, .skipMember portId :: .node portId memberId :: next⟩ = added :=
            untold_adds (List.mem_cons_of_mem _ (List.mem_cons_of_mem _ adds))
          rw [before] at member
          exact (untold_adds adds).symm ▸ member
        · exact kept_rest kept isOp trivial nextKept
      | absent portId =>
        obtain ⟨adds, shaped⟩ := opKept.shaped
        dsimp only
        split
        · refine kept_over kept isOp ((untold_adds (List.mem_cons_of_mem _ adds)).trans ?_) rfl
          exact opKept.fresh fun begun => begun.2 portId (List.mem_cons_self ..)
        · exact kept_pass kept isOp trivial shaped (shaped.calm adds) (List.Subset.refl _) fun _ => LagStep.noConfusion
      | present portId =>
        obtain ⟨noAdds, noDropped, calm, shaped⟩ := opKept.shaped
        dsimp only
        split
        · rename_i inside
          refine kept_rest kept isOp trivial
            (opKept.tail shaped calm (fun p member unknown => absurd member unknown) fun p same => ?_)
          cases same
          exact isPortLagMember_iff.mp inside
        · refine kept_over kept isOp ?_ rfl
          rw [(show Passes (.present portId) from trivial).untold]
          exact (if_neg noAdds).trans noDropped
      | node portId memberId =>
        have adds : LagStep.notifyAdded ∈ rest := opKept.shaped.1
        have failed : LagRifKept (s.goOn ⟨lagId, added ++ [portId], rest⟩
            (LagOp.undo ⟨lagId, added ++ [portId], rest⟩)) := by
          refine kept_goOn kept isOp (fun p member => ?_) rfl
            (.undo s.fib lagId (added ++ [portId]) (added ++ [portId]))
          rw [untold_adds (List.mem_cons_of_mem _ adds)] at member
          have undone : LagOp.untold ⟨lagId, added ++ [portId], (added ++ [portId]).map LagStep.dropNode⟩ =
            added ++ [portId] := untold_undo (added ++ [portId])
          exact undone.symm ▸ List.mem_append_left [portId] member
        dsimp only
        split
        · exact kept_node kept isOp
        · exact failed
      | npu =>
        obtain ⟨calm, shaped⟩ := opKept.shaped
        exact kept_pass kept isOp trivial shaped calm (List.Subset.refl _) fun _ => LagStep.noConfusion
      | npuAdd =>
        obtain ⟨adds, shaped⟩ := opKept.shaped
        dsimp only
        split
        · rename_i nothing
          exact kept_over kept isOp ((untold_adds (List.mem_cons_of_mem _ adds)).trans nothing) rfl
        · exact kept_pass kept isOp trivial shaped (shaped.calm adds) (List.Subset.refl _) fun _ => LagStep.noConfusion
      | notifyAdded =>
        have notified := rifNotify_spec kept (written trivial) added true
        dsimp only at notified ⊢
        split
        · rename_i t done
          rw [done] at notified
          exact kept_notifyAdded kept isOp notified
        · rename_i t status failed done
          rw [done] at notified
          exact kept_notifyAdded_failed kept isOp notified failed
      | notifyRemoved ports =>
        have notified := rifNotify_spec kept (written trivial) ports false
        dsimp only at notified ⊢
        split
        · rename_i t done
          rw [done] at notified
          exact kept_notifyRemoved kept isOp notified
        · rename_i t status failed done
          rw [done] at notified
          exact kept_notifyRemoved_failed kept isOp notified failed
      | dropNode portId => exact kept_dropNode kept isOp (free portId rest rfl)
      | dropMember portId => exact kept_dropMember kept isOp
      | notifyDropped portId =>
        exact kept_notifyDropped kept isOp (rifNotify_spec kept (written trivial) [portId] false)
      | rifCheck =>
        have last : rest = [.dropAll, .dropLag, .npu] := opKept.shaped
        subst last
        dsimp only
        cases stored : s.fib.lagTree.get lagId with
        | none => exact kept_over kept isOp rfl rfl
        | some lag =>
          dsimp only
          split
          · exact kept_over kept isOp rfl rfl
          rename_i other
          refine kept_goOn kept isOp (fun p member => nomatch member) rfl (.removal (.inl rfl) fun r onLag => other ?_)
          rw [cached_here kept (written trivial) stored onLag]
          exact kept.kinds r lagId onLag
      | dropAll => exact kept_dropAll kept isOp
      | dropLag => exact kept_dropLag kept isOp

end LagRifState

end SaiCommon
