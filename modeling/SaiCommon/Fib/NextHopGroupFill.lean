import SaiCommon.Fib.NextHopGroup

namespace SaiCommon

def fibNextHopAccepted (s : FibState) (group : NhGroup) (isRemove : Bool) : List ObjectId → List NhRef
  | [] => []
  | nextHopId :: rest =>
    match fibNextHopIdCheck s group nextHopId isRemove with
    | .error _ => []
    | .ok ref => ref :: fibNextHopAccepted s group isRemove rest

/-- The entries from `nhIndex` on, replaced by others. -/
def NhArray.store (array : NhArray) (nhIndex : Nat) (refs : List NhRef) : NhArray :=
  { array with
    nodes := array.nodes.take nhIndex ++ (refs ++ array.nodes.drop (nhIndex + refs.length))
    overrun := array.overrun || decide (refs ≠ [] ∧ array.allocated < nhIndex + refs.length) }

section Store
variable {array : NhArray} {nhIndex : Nat}

theorem NhArray.store_nil (array : NhArray) (nhIndex : Nat) : array.store nhIndex [] = array := by
  simp only [NhArray.store, List.nil_append, List.length_nil, Nat.add_zero, List.take_append_drop, ne_eq,
    not_true_eq_false, false_and, decide_false, Bool.or_false]

theorem NhArray.store_write (below : nhIndex ≤ array.nodes.length) (ref : NhRef) (refs : List NhRef) :
    (array.write nhIndex ref).store (nhIndex + 1) refs = array.store nhIndex (ref :: refs) := by
  have nodes : (array.write nhIndex ref).nodes.take (nhIndex + 1) = array.nodes.take nhIndex ++ [ref] ∧
      (array.write nhIndex ref).nodes.drop (nhIndex + 1 + refs.length) =
        array.nodes.drop (nhIndex + 1 + refs.length) := by
    unfold NhArray.write
    simp only
    split
    · rename_i inside
      refine ⟨?_, ?_⟩
      · rw [List.take_succ_eq_append_getElem (by rw [List.length_set]; exact inside),
          List.take_set_of_le (Nat.le_refl nhIndex), List.getElem_set_self]
      · rw [List.drop_set_of_lt (by omega)]
    · rename_i outside
      have whole : nhIndex = array.nodes.length := by omega
      subst whole
      refine ⟨?_, ?_⟩
      · rw [List.take_length, List.take_of_length_le (by rw [List.length_append, List.length_singleton])]
      · rw [List.drop_of_length_le (by rw [List.length_append, List.length_singleton]; omega),
          List.drop_of_length_le (by omega)]
  have overrun : (decide (array.allocated ≤ nhIndex) ||
      decide (refs ≠ [] ∧ array.allocated < nhIndex + 1 + refs.length)) =
      decide (ref :: refs ≠ [] ∧ array.allocated < nhIndex + (ref :: refs).length) := by
    rw [← Bool.decide_or]
    refine decide_eq_decide.mpr ?_
    simp only [List.length_cons, ne_eq, reduceCtorEq, not_false_eq_true, true_and]
    constructor
    · rintro (past | ⟨_, past⟩)
      · omega
      · omega
    · intro past
      by_cases last : refs = []
      · subst last
        exact Or.inl (by simp only [List.length_nil] at past; omega)
      · exact Or.inr ⟨last, by omega⟩
  have shift : nhIndex + 1 + refs.length = nhIndex + (ref :: refs).length := by
    rw [List.length_cons]
    omega
  unfold NhArray.store
  rw [NhArray.mk.injEq, nodes.1, nodes.2, ← overrun, shift]
  refine ⟨rfl, ?_, Bool.or_assoc _ _ _⟩
  rw [List.append_assoc, List.singleton_append, List.cons_append]

theorem NhArray.take_store (array : NhArray) (refs : List NhRef) :
    (array.store 0 refs).nodes.take refs.length = refs := by
  simp only [NhArray.store, List.take_zero, List.nil_append, List.take_left]

end Store

section Fill
variable {s : FibState} {group : NhGroup} {isRemove : Bool}

theorem fibNextHopIdCheck_error {nextHopId : ObjectId} {error : SaiStatus}
    (refused : fibNextHopIdCheck s group nextHopId isRemove = .error error) : error ≠ .success := by
  unfold fibNextHopIdCheck at refused
  split at refused
  · cases refused
    exact fun same => by cases same
  split at refused
  · cases refused
    exact fun same => by cases same
  split at refused
  · cases refused
    exact fun same => by cases same
  · cases refused

theorem fibNextHopIdCheck_ok {nextHopId : ObjectId} {ref : NhRef}
    (accepted : fibNextHopIdCheck s group nextHopId isRemove = .ok ref) :
    s.nhIdTree.get nextHopId = some ref ∧ (isRemove = true → group.nhList.has ref = true) := by
  unfold fibNextHopIdCheck at accepted
  split at accepted
  · cases accepted
  split at accepted
  · cases accepted
  rename_i ref found
  split at accepted
  · cases accepted
  rename_i member
  cases accepted
  refine ⟨found, fun remove => ?_⟩
  by_contra missing
  exact member ⟨remove, Bool.eq_false_iff.mpr missing⟩

theorem fibNextHopAccepted_mem {ref : NhRef} (nextHopIds : List ObjectId)
    (member : ref ∈ fibNextHopAccepted s group isRemove nextHopIds) :
    (∃ nextHopId, s.nhIdTree.get nextHopId = some ref) ∧ (isRemove = true → group.nhList.has ref = true) := by
  induction nextHopIds with
  | nil => cases member
  | cons nextHopId rest ih =>
    unfold fibNextHopAccepted at member
    split at member
    · cases member
    rename_i first accepted
    obtain ⟨named, listed⟩ := fibNextHopIdCheck_ok accepted
    rcases List.mem_cons.mp member with rfl | later
    · exact ⟨⟨nextHopId, named⟩, listed⟩
    · exact ih later

theorem fibNextHopFillLoop_eq (group : NhGroup) (isRemove : Bool) (nextHopIds : List ObjectId) :
    ∀ nhIndex (array : NhArray), nhIndex ≤ array.nodes.length →
    (fibNextHopFillLoop s group isRemove nhIndex array nextHopIds).1 =
      array.store nhIndex (fibNextHopAccepted s group isRemove nextHopIds) ∧
    ((fibNextHopFillLoop s group isRemove nhIndex array nextHopIds).2 = .success ↔
      (fibNextHopAccepted s group isRemove nextHopIds).length = nextHopIds.length) := by
  induction nextHopIds with
  | nil => exact fun nhIndex array _ => ⟨(array.store_nil nhIndex).symm, iff_of_true rfl rfl⟩
  | cons nextHopId rest ih =>
    intro nhIndex array below
    cases check : fibNextHopIdCheck s group nextHopId isRemove with
    | error error =>
      simp only [fibNextHopFillLoop, fibNextHopAccepted, check]
      refine ⟨(array.store_nil nhIndex).symm, iff_of_false (fibNextHopIdCheck_error check) ?_⟩
      exact Nat.zero_ne_add_one rest.length
    | ok ref =>
      have grown : nhIndex + 1 ≤ (array.write nhIndex ref).nodes.length := by
        simp only [NhArray.write]
        split
        · rw [List.length_set]
          omega
        · rw [List.length_append, List.length_singleton]
          omega
      obtain ⟨filled, status⟩ := ih (nhIndex + 1) (array.write nhIndex ref) grown
      simp only [fibNextHopFillLoop, fibNextHopAccepted, check]
      refine ⟨filled.trans (NhArray.store_write below ref _), status.trans ?_⟩
      rw [List.length_cons, List.length_cons, Nat.add_right_cancel_iff]

/-- The array receives the accepted next hops, and the fill succeeds if these
are all. -/
theorem fibNextHopFillFromNhIdList_eq (s : FibState) (group : NhGroup) (isRemove : Bool)
    (nextHopIds : List ObjectId) (array : NhArray) :
    (fibNextHopFillFromNhIdList s group nextHopIds array isRemove).1 =
      array.store 0 (fibNextHopAccepted s group isRemove nextHopIds) ∧
    ((fibNextHopFillFromNhIdList s group nextHopIds array isRemove).2 = .success ↔
      nextHopIds ≠ [] ∧ (fibNextHopAccepted s group isRemove nextHopIds).length = nextHopIds.length) := by
  unfold fibNextHopFillFromNhIdList
  split
  · rename_i empty
    subst empty
    refine ⟨(array.store_nil 0).symm, iff_of_false ?_ fun both => both.1 rfl⟩
    exact fun same => by cases same
  · rename_i some
    obtain ⟨filled, status⟩ := fibNextHopFillLoop_eq (s := s) group isRemove nextHopIds 0
      array (Nat.zero_le _)
    exact ⟨filled, status.trans (and_iff_right some).symm⟩

theorem fibNextHopFillFromNhIdList_success {nextHopIds : List ObjectId} {array filled : NhArray}
    (run : fibNextHopFillFromNhIdList s group nextHopIds array isRemove = (filled, .success)) :
    filled = array.store 0 (fibNextHopAccepted s group isRemove nextHopIds) ∧ nextHopIds ≠ [] ∧
    (fibNextHopAccepted s group isRemove nextHopIds).length = nextHopIds.length ∧
    filled.nodes.take nextHopIds.length = fibNextHopAccepted s group isRemove nextHopIds := by
  obtain ⟨same, status⟩ := fibNextHopFillFromNhIdList_eq s group isRemove nextHopIds array
  rw [run] at same status
  obtain ⟨some, whole⟩ := status.mp rfl
  have same : filled = array.store 0 (fibNextHopAccepted s group isRemove nextHopIds) := same
  refine ⟨same, some, whole, ?_⟩
  rw [same, ← whole, NhArray.take_store]

end Fill
end SaiCommon
