import SaiCommon.Fib.Frames

namespace SaiCommon

section Discard
variable {s t : FibState} {group : GroupPtr}

theorem FibLinks.unlisted_of_empty (links : FibLinks s) (empty : groupNhLinks s group = []) (ref : NhRef) :
    (nhGroupLinks s ref).has group = false := by
  refine Bool.eq_false_iff.mpr fun listed => ?_
  have present := (links.has_iff group ref).mp listed
  rw [empty] at present
  cases present

theorem withoutGroup_of_unlisted (unlisted : ∀ ref, (nhGroupLinks s ref).has group = false) (ref : NhRef) :
    (s.nhTree.get ref).map (Nh.withoutGroup group) = s.nhTree.get ref := by
  cases found : s.nhTree.get ref with
  | none => rfl
  | some node =>
    have absent := unlisted ref
    rw [nhGroupLinks, found] at absent
    rw [Option.map_some, Nh.withoutGroup, WtList.without_of_not_has absent]

theorem fibNhGroup_discarded (consistent : FibConsistent s) (absent : s.groups.get group = none)
    (edited : NhGroupEdited group { s with groups := s.groups.put group fibNhGroupNodeInit } t)
    (members : FibMembers t) : fibNhGroupNodeFree (fibNhGroupEmpty t group) group = s := by
  obtain ⟨kept, _, _, empty⟩ := members.empty group
  have both := edited.trans (nhGroupEdited_empty t)
  generalize fibNhGroupEmpty t group = u at kept empty both
  obtain ⟨nhTree, groups, rfl⟩ := both.frame
  have before : groupNhLinks s group = [] := by rw [groupNhLinks, absent]
  have nhs : nhTree = s.nhTree := by
    refine KeyTree.ext fun ref => ?_
    have after := withoutGroup_of_unlisted (kept.toFibLinks.unlisted_of_empty empty) ref
    have first := withoutGroup_of_unlisted (consistent.members.toFibLinks.unlisted_of_empty before) ref
    exact after.symm.trans ((both.nhs ref).trans first)
  have freed : groups.del group = s.groups := by
    refine KeyTree.ext fun other => ?_
    rw [KeyTree.get_del]
    split
    · rename_i here
      rw [here, absent]
    · rename_i apart
      exact (both.others other apart).trans (KeyTree.get_put_ne apart)
  exact congrArg₂ (fun nhTree groups => ({ s with nhTree := nhTree, groups := groups } : FibState)) nhs freed

end Discard
end SaiCommon
