import SaiCommon.Fib.Consistent

namespace SaiCommon

open KeyTree

variable {s t : FibState} {ref : NhRef}

def groupWeight (s : FibState) (group : GroupPtr) (ref : NhRef) : Nat := (groupNhLinks s group).weightOf ref

def Nh.unlisted (node : Nh) : Nh := { node with nhGroupList := [] }

def NhGroup.unlisted (node : NhGroup) : NhGroup := { node with nhList := [], nhCount := 0 }

structure FibLinksOnly (s t : FibState) : Prop where
  frame : ∃ nhTree groups, t = { s with nhTree := nhTree, groups := groups }
  nhs : ∀ ref, (t.nhTree.get ref).map Nh.unlisted = (s.nhTree.get ref).map Nh.unlisted
  groups : ∀ group, (t.groups.get group).map NhGroup.unlisted = (s.groups.get group).map NhGroup.unlisted

section LinksOnly
variable {u : FibState}

theorem FibLinksOnly.refl (s : FibState) : FibLinksOnly s s :=
  ⟨⟨s.nhTree, s.groups, rfl⟩, fun _ => rfl, fun _ => rfl⟩

theorem FibLinksOnly.trans (first : FibLinksOnly s t) (second : FibLinksOnly t u) : FibLinksOnly s u := by
  refine ⟨?_, fun ref => (second.nhs ref).trans (first.nhs ref), fun g => (second.groups g).trans (first.groups g)⟩
  obtain ⟨_, _, rfl⟩ := first.frame
  obtain ⟨nhTree, groups, rfl⟩ := second.frame
  exact ⟨nhTree, groups, rfl⟩

section
variable (only : FibLinksOnly s t)
include only

theorem FibLinksOnly.nh {W : Type} (read : Nh → W)
    (blind : ∀ node, read (Nh.unlisted node) = read node) (ref : NhRef) :
    (t.nhTree.get ref).map read = (s.nhTree.get ref).map read := by
  have same := congrArg (Option.map read) (only.nhs ref)
  rw [Option.map_map, Option.map_map] at same
  rwa [show read ∘ Nh.unlisted = read from funext blind] at same

theorem FibLinksOnly.group {W : Type} (read : NhGroup → W)
    (blind : ∀ node, read (NhGroup.unlisted node) = read node) (group : GroupPtr) :
    (t.groups.get group).map read = (s.groups.get group).map read := by
  have same := congrArg (Option.map read) (only.groups group)
  rw [Option.map_map, Option.map_map] at same
  rwa [show read ∘ NhGroup.unlisted = read from funext blind] at same

theorem FibLinksOnly.groupStored (group : GroupPtr) : t.groups.get group = none ↔ s.groups.get group = none := by
  rw [← Option.map_eq_none_iff (f := NhGroup.unlisted), only.groups, Option.map_eq_none_iff]

theorem FibLinksOnly.owners (ref : NhRef) : fibIsOwnerNextHop t ref = fibIsOwnerNextHop s ref := by
  rw [fibIsOwnerNextHop_eq, fibIsOwnerNextHop_eq]
  refine congrArg (Option.getD · false) (only.nh (fun node => node.ownerFlag.nextHop) ?_ ref)
  exact fun _ => rfl

end

theorem FibNames.linksOnly (names : FibNames s) (only : FibLinksOnly s t) : FibNames t := by
  have nhIds : ∀ ref, fibNhNextHopId t ref = fibNhNextHopId s ref := by
    intro ref
    rw [fibNhNextHopId_eq, fibNhNextHopId_eq]
    exact congrArg (Option.getD · nullObjectId) (only.nh Nh.nextHopId (fun _ => rfl) ref)
  have groupIds := only.group NhGroup.groupId fun _ => rfl
  have owners := only.owners
  obtain ⟨_, _, rfl⟩ := only.frame
  exact names.congr owners nhIds rfl groupIds rfl

theorem FibCounts.linksOnly (counts : FibCounts s) (only : FibLinksOnly s t) : FibCounts t := by
  have nhs := only.nh Nh.refCount fun _ => rfl
  have groups := only.group NhGroup.refCount fun _ => rfl
  have owners := only.owners
  obtain ⟨_, _, rfl⟩ := only.frame
  exact counts.congr owners nhs (fun _ => rfl) (fun _ => rfl) groups rfl rfl

theorem FibConsistent.linksOnly (consistent : FibConsistent s) (only : FibLinksOnly s t)
    (members : FibMembers t) : FibConsistent t :=
  ⟨consistent.names.linksOnly only, consistent.counts.linksOnly only, members⟩

end LinksOnly

def FibState.relink (s : FibState) (group : GroupPtr) (ref : NhRef) (links : WtList GroupPtr)
    (nhs : WtList NhRef) (nhCount : Nat) : FibState :=
  { s with
    nhTree := s.nhTree.modify ref fun node => { node with nhGroupList := links }
    groups := s.groups.modify group fun node => { node with nhList := nhs, nhCount := nhCount } }

section Relink
variable {group : GroupPtr} {links : WtList GroupPtr} {nhs : WtList NhRef} {nhCount : Nat}

theorem linksOnly_relink : FibLinksOnly s (s.relink group ref links nhs nhCount) := by
  refine ⟨⟨_, _, rfl⟩, map_get_modify ?_, map_get_modify ?_⟩
  · exact fun _ => rfl
  · exact fun _ => rfl

theorem nhGroupLinks_relink (stored : s.nhTree.get ref ≠ none) (other : NhRef) :
    nhGroupLinks (s.relink group ref links nhs nhCount) other =
      if other = ref then links else nhGroupLinks s other := by
  obtain ⟨node, found⟩ := Option.ne_none_iff_exists'.mp stored
  rw [nhGroupLinks_eq, nhGroupLinks_eq]
  simp only [FibState.relink, get_modify]
  split
  · rename_i here
    rw [here, found, Option.map_some, Option.map_some, Option.getD_some]
  · rfl

theorem groupNhLinks_relink (there : s.groups.get group ≠ none) (other : GroupPtr) :
    groupNhLinks (s.relink group ref links nhs nhCount) other =
      if other = group then nhs else groupNhLinks s other := by
  obtain ⟨node, found⟩ := Option.ne_none_iff_exists'.mp there
  rw [groupNhLinks_eq, groupNhLinks_eq]
  simp only [FibState.relink, get_modify]
  split
  · rename_i here
    rw [here, found, Option.map_some, Option.map_some, Option.getD_some]
  · rfl

theorem fibNhGroupCount_relink (there : s.groups.get group ≠ none) (other : GroupPtr) :
    fibNhGroupCount (s.relink group ref links nhs nhCount) other =
      if other = group then nhCount else fibNhGroupCount s other := by
  obtain ⟨node, found⟩ := Option.ne_none_iff_exists'.mp there
  rw [fibNhGroupCount_eq, fibNhGroupCount_eq]
  simp only [FibState.relink, get_modify]
  split
  · rename_i here
    rw [here, found, Option.map_some, Option.map_some, Option.getD_some]
  · rfl

/-- What the two new lists of a relinking have to satisfy. -/
structure RelinkOk (s : FibState) (group : GroupPtr) (ref : NhRef) (links : WtList GroupPtr)
    (nhs : WtList NhRef) : Prop where
  owner : fibIsOwnerNextHop s ref = true
  there : s.groups.get group ≠ none
  linksWf : links.WellFormed
  nhsWf : nhs.WellFormed
  same : nhs.weightOf ref = links.weightOf group
  otherGroups : ∀ other, other ≠ group → links.weightOf other = (nhGroupLinks s ref).weightOf other
  otherNhs : ∀ other, other ≠ ref → nhs.weightOf other = groupWeight s group other

theorem RelinkOk.groupWeight_relink (ok : RelinkOk s group ref links nhs) (nhCount : Nat) (g : GroupPtr) (r : NhRef) :
    groupWeight (s.relink group ref links nhs nhCount) g r =
      if g = group ∧ r = ref then nhs.weightOf ref else groupWeight s g r := by
  unfold groupWeight
  rw [groupNhLinks_relink ok.there]
  by_cases here : g = group
  · subst here
    by_cases this : r = ref
    · rw [if_pos rfl, if_pos ⟨rfl, this⟩, this]
    · rw [if_pos rfl, if_neg (fun both => this both.2)]
      exact ok.otherNhs r this
  · rw [if_neg here, if_neg (fun both => here both.1)]

theorem FibLinks.relink (linked : FibLinks s) (ok : RelinkOk s group ref links nhs) :
    FibLinks (s.relink group ref links nhs nhCount) := by
  have stored := stored_of_owner ok.owner
  refine ⟨fun r => ?_, fun g => ?_, fun g r => ?_, fun r some => ?_⟩
  · rw [nhGroupLinks_relink stored]
    split
    · exact ok.linksWf
    · exact linked.nhWf r
  · rw [groupNhLinks_relink ok.there]
    split
    · exact ok.nhsWf
    · exact linked.groupWf g
  · have weight := ok.groupWeight_relink nhCount g r
    unfold groupWeight at weight
    rw [weight, nhGroupLinks_relink stored]
    by_cases this : r = ref
    · subst this
      rw [if_pos rfl]
      by_cases here : g = group
      · subst here
        rw [if_pos ⟨rfl, rfl⟩]
        exact ok.same
      · rw [if_neg (fun both => here both.1), ok.otherGroups g here]
        exact linked.symmetric g r
    · rw [if_neg (fun both => this both.2), if_neg this]
      exact linked.symmetric g r
  · rw [linksOnly_relink.owners]
    rw [nhGroupLinks_relink stored] at some
    split at some
    · rename_i here
      rw [here]
      exact ok.owner
    · exact linked.owned r some

theorem FibMembers.relink (members : FibMembers s) (ok : RelinkOk s group ref links nhs)
    (total : nhCount = nhs.total) : FibMembers (s.relink group ref links nhs nhCount) := by
  refine ⟨members.toFibLinks.relink ok, fun g => ?_⟩
  rw [fibNhGroupCount_relink ok.there, groupNhLinks_relink ok.there]
  split
  · exact total
  · exact members.counted g

end Relink

section Pair
variable {linked both : FibState} {group : GroupPtr} {allocNh allocGroup : Bool}

theorem fibAddLinkNode_some {A : Type} [DecidableEq A] {list next : WtList A} {self : A} {allocOk : Bool}
    (wf : list.WellFormed) (run : fibAddLinkNode list self allocOk = some next) :
    next.WellFormed ∧ (∀ a, next.weightOf a = list.weightOf a + if a = self then 1 else 0) ∧
      next.total = list.total + 1 ∧ next.decr self = list := by
  unfold fibAddLinkNode at run
  split at run
  · rename_i present
    cases run
    exact ⟨wf.incr, WtList.weightOf_incr present, WtList.total_incr present, wf.decr_incr present⟩
  rename_i absent
  have absent := Bool.eq_false_iff.mpr absent
  split at run
  · cases run
    exact ⟨wf.append absent Nat.one_pos, fun a => WtList.weightOf_append a, WtList.total_append,
      WtList.decr_append absent⟩
  · cases run

theorem fibNhAddGroupLinkNode_some (run : fibNhAddGroupLinkNode s ref group allocNh = some linked) :
    ∃ links, fibAddLinkNode (nhGroupLinks s ref) group allocNh = some links ∧
      linked = s.modifyNh ref fun node => { node with nhGroupList := links } := by
  unfold fibNhAddGroupLinkNode at run
  split at run
  · cases run
  rename_i node found
  split at run
  · cases run
  rename_i links added
  cases run
  refine ⟨links, ?_, rfl⟩
  rw [nhGroupLinks, found]
  exact added

theorem fibNhGroupAddNhLinkNode_some (run : fibNhGroupAddNhLinkNode s group ref allocGroup = some both) :
    ∃ nhs, fibAddLinkNode (groupNhLinks s group) ref allocGroup = some nhs ∧ s.groups.get group ≠ none ∧
      both = s.modifyGroup group fun node => { node with nhList := nhs } := by
  unfold fibNhGroupAddNhLinkNode at run
  split at run
  · cases run
  rename_i node found
  split at run
  · cases run
  rename_i nhs added
  cases run
  refine ⟨nhs, ?_, by rw [found]; exact Option.some_ne_none node, rfl⟩
  rw [groupNhLinks, found]
  exact added

theorem fibNhRemoveGroupLinkNode_added (members : FibMembers s)
    (run : fibNhAddGroupLinkNode s ref group allocNh = some linked) :
    fibNhRemoveGroupLinkNode linked ref group = s := by
  obtain ⟨links, added, rfl⟩ := fibNhAddGroupLinkNode_some run
  obtain ⟨_, _, _, back⟩ := fibAddLinkNode_some (members.nhWf ref) added
  have same : (s.nhTree.modify ref fun node => { node with nhGroupList := links }).modify ref
      (fun node => { node with nhGroupList := node.nhGroupList.decr group }) = s.nhTree := by
    rw [modify_modify]
    refine modify_same fun node found => ?_
    have here : nhGroupLinks s ref = node.nhGroupList := by rw [nhGroupLinks, found]
    show { node with nhGroupList := links.decr group } = node
    rw [back, here]
  exact congrArg (fun nhTree => ({ s with nhTree := nhTree } : FibState)) same

theorem fibNhGroupAddPair (members : FibMembers s) (owner : fibIsOwnerNextHop s ref = true)
    (first : fibNhAddGroupLinkNode s ref group allocNh = some linked)
    (second : fibNhGroupAddNhLinkNode linked group ref allocGroup = some both) :
    let t := both.modifyGroup group fun node => { node with nhCount := node.nhCount + 1 }
    FibMembers t ∧ FibLinksOnly s t ∧ ∀ g r, groupWeight t g r =
      groupWeight s g r + if g = group ∧ r = ref then 1 else 0 := by
  obtain ⟨links, added, rfl⟩ := fibNhAddGroupLinkNode_some first
  obtain ⟨nhs, listed, there, rfl⟩ := fibNhGroupAddNhLinkNode_some second
  obtain ⟨linksWf, linksWeight, _, _⟩ := fibAddLinkNode_some (members.nhWf ref) added
  obtain ⟨nhsWf, nhsWeight, total, _⟩ := fibAddLinkNode_some (members.groupWf group) listed
  have nhsWeight : ∀ r, nhs.weightOf r = groupWeight s group r + if r = ref then 1 else 0 := nhsWeight
  have total : nhs.total = (groupNhLinks s group).total + 1 := total
  have ok : RelinkOk s group ref links nhs := by
    refine ⟨owner, there, linksWf, nhsWf, ?_, ?_, ?_⟩
    · have symmetric := members.symmetric group ref
      unfold groupWeight at nhsWeight
      rw [nhsWeight, linksWeight, if_pos rfl, if_pos rfl, symmetric]
    · intro other apart
      rw [linksWeight, if_neg apart, Nat.add_zero]
    · intro other apart
      rw [nhsWeight, if_neg apart, Nat.add_zero]
  have counted := members.counted group
  have same : ((s.modifyNh ref fun node => { node with nhGroupList := links }).modifyGroup group
      fun node => { node with nhList := nhs }).modifyGroup group
      (fun node => { node with nhCount := node.nhCount + 1 }) =
      s.relink group ref links nhs (fibNhGroupCount s group + 1) := by
    have groups : (s.groups.modify group fun node => { node with nhList := nhs }).modify group
        (fun node => { node with nhCount := node.nhCount + 1 }) =
        s.groups.modify group fun node =>
          { node with nhList := nhs, nhCount := fibNhGroupCount s group + 1 } := by
      rw [modify_modify]
      refine modify_congr fun node found => ?_
      rw [fibNhGroupCount, found]
    exact congrArg (fun groups => ({ s with
      nhTree := s.nhTree.modify ref fun node => { node with nhGroupList := links }
      groups := groups } : FibState)) groups
  simp only
  rw [same]
  refine ⟨members.relink ok (by omega), linksOnly_relink, fun g r => ?_⟩
  rw [ok.groupWeight_relink]
  split
  · rename_i here
    rw [here.1, here.2, nhsWeight, if_pos rfl]
  · rfl

theorem FibLinks.has_iff (links : FibLinks s) (group : GroupPtr) (ref : NhRef) :
    (nhGroupLinks s ref).has group = true ↔ (groupNhLinks s group).has ref = true := by
  rw [← (links.nhWf ref).weightOf_pos, ← (links.groupWf group).weightOf_pos, links.symmetric]

theorem FibLinks.stored_of_has (links : FibLinks s) (present : (groupNhLinks s group).has ref = true) :
    fibIsOwnerNextHop s ref = true ∧ s.groups.get group ≠ none := by
  refine ⟨links.owned ref ?_, ?_⟩
  · intro empty
    have listed := (links.has_iff group ref).mpr present
    rw [empty] at listed
    cases listed
  · intro absent
    rw [groupNhLinks, absent] at present
    cases present

theorem fibNhFindAndRemoveGroupNode_eq (s : FibState) (ref : NhRef) (group : GroupPtr) :
    fibNhFindAndRemoveGroupNode s ref group =
      if (nhGroupLinks s ref).has group = true then fibNhRemoveGroupLinkNode s ref group else s := by
  unfold fibNhFindAndRemoveGroupNode nhGroupLinks
  cases s.nhTree.get ref with
  | none => simp only [WtList.has, Bool.false_eq_true, if_false]
  | some node => rfl

theorem fibNhGroupFindAndRemoveNhNode_eq (s : FibState) (group : GroupPtr) (ref : NhRef) :
    fibNhGroupFindAndRemoveNhNode s group ref =
      if (groupNhLinks s group).has ref = true then
        (fibNhGroupRemoveNhLinkNode s group ref).modifyGroup group fun node =>
          { node with nhCount := node.nhCount - 1 }
      else s := by
  unfold fibNhGroupFindAndRemoveNhNode groupNhLinks
  cases s.groups.get group with
  | none => simp only [WtList.has, Bool.false_eq_true, if_false]
  | some node => rfl

def fibNhGroupRemovePair (s : FibState) (group : GroupPtr) (ref : NhRef) : FibState :=
  fibNhGroupFindAndRemoveNhNode (fibNhFindAndRemoveGroupNode s ref group) group ref

theorem fibNhGroupRemovePair_eq (links : FibLinks s) (group : GroupPtr) (ref : NhRef) :
    fibNhGroupRemovePair s group ref = if (groupNhLinks s group).has ref = true then
        s.relink group ref ((nhGroupLinks s ref).decr group) ((groupNhLinks s group).decr ref)
          (fibNhGroupCount s group - 1) else s := by
  unfold fibNhGroupRemovePair
  rw [fibNhFindAndRemoveGroupNode_eq, fibNhGroupFindAndRemoveNhNode_eq]
  by_cases present : (groupNhLinks s group).has ref = true
  · have listed := (links.has_iff group ref).mpr present
    have kept : groupNhLinks (fibNhRemoveGroupLinkNode s ref group) group = groupNhLinks s group := rfl
    rw [if_pos listed, kept, if_pos present, if_pos present]
    have nhs : s.nhTree.modify ref (fun node => { node with nhGroupList := node.nhGroupList.decr group }) =
        s.nhTree.modify ref fun node => { node with nhGroupList := (nhGroupLinks s ref).decr group } := by
      refine modify_congr fun node found => ?_
      rw [nhGroupLinks, found]
    have groups : (s.groups.modify group fun node => { node with nhList := node.nhList.decr ref }).modify group
        (fun node => { node with nhCount := node.nhCount - 1 }) =
        s.groups.modify group fun node => { node with
          nhList := (groupNhLinks s group).decr ref, nhCount := fibNhGroupCount s group - 1 } := by
      rw [modify_modify]
      refine modify_congr fun node found => ?_
      rw [groupNhLinks, fibNhGroupCount, found]
    show { s with nhTree := _, groups := _ } = { s with nhTree := _, groups := _ }
    exact congrArg₂ (fun nhTree groups => ({ s with nhTree := nhTree, groups := groups } : FibState)) nhs groups
  · rw [if_neg (fun listed => present ((links.has_iff group ref).mp listed)), if_neg present, if_neg present]

theorem FibMembers.removePair (members : FibMembers s) (group : GroupPtr) (ref : NhRef) :
    FibMembers (fibNhGroupRemovePair s group ref) ∧ FibLinksOnly s (fibNhGroupRemovePair s group ref) ∧
    ∀ g r, groupWeight (fibNhGroupRemovePair s group ref) g r =
      groupWeight s g r - if g = group ∧ r = ref then 1 else 0 := by
  rw [fibNhGroupRemovePair_eq members.toFibLinks]
  split
  · rename_i present
    have listed := (members.has_iff group ref).mpr present
    obtain ⟨owner, there⟩ := members.stored_of_has present
    have weights := (members.groupWf group).weightOf_decr present
    have weights' := (members.nhWf ref).weightOf_decr listed
    have total := (members.groupWf group).total_decr present
    have counted := members.counted group
    have symmetric := members.symmetric group ref
    have ok : RelinkOk s group ref ((nhGroupLinks s ref).decr group) ((groupNhLinks s group).decr ref) := by
      refine ⟨owner, there, (members.nhWf ref).decr, (members.groupWf group).decr, ?_, ?_, ?_⟩
      · have here := weights ref
        have here' := weights' group
        rw [if_pos rfl] at here here'
        omega
      · intro other apart
        have this := weights' other
        rw [if_neg apart] at this
        exact this
      · intro other apart
        have this := weights other
        rw [if_neg apart] at this
        exact this
    refine ⟨members.relink ok (by omega), linksOnly_relink, fun g r => ?_⟩
    rw [ok.groupWeight_relink]
    split
    · rename_i here
      have this := weights ref
      rw [if_pos rfl] at this
      rw [here.1, here.2]
      unfold groupWeight
      omega
    · rfl
  · rename_i absent
    refine ⟨members, .refl s, fun g r => ?_⟩
    split
    · rename_i here
      have zero := WtList.weightOf_of_not_has (Bool.eq_false_iff.mpr absent)
      rw [here.1, here.2]
      unfold groupWeight
      omega
    · rfl

def fibNhGroupDropPair (s : FibState) (group : GroupPtr) (ref : NhRef) : FibState :=
  (s.modifyGroup group fun node => { node with nhList := (node.nhList.setWeight ref 1).decr ref }).modifyNh ref
    fun node =>
      if node.nhGroupList.has group then
        { node with nhGroupList := (node.nhGroupList.setWeight group 1).decr group }
      else node

theorem fibNhGroupDropPair_eq (links : FibLinks s) (group : GroupPtr) (ref : NhRef) :
    fibNhGroupDropPair s group ref = if (groupNhLinks s group).has ref = true then
        s.relink group ref (((nhGroupLinks s ref).setWeight group 1).decr group)
          (((groupNhLinks s group).setWeight ref 1).decr ref) (fibNhGroupCount s group) else s := by
  unfold fibNhGroupDropPair
  by_cases present : (groupNhLinks s group).has ref = true
  · have listed := (links.has_iff group ref).mpr present
    rw [if_pos present]
    have nhs : s.nhTree.modify ref (fun node =>
        if node.nhGroupList.has group then
          { node with nhGroupList := (node.nhGroupList.setWeight group 1).decr group }
        else node) =
        s.nhTree.modify ref fun node =>
          { node with nhGroupList := ((nhGroupLinks s ref).setWeight group 1).decr group } := by
      refine modify_congr fun node found => ?_
      have here : nhGroupLinks s ref = node.nhGroupList := by rw [nhGroupLinks, found]
      rw [here] at listed
      rw [here, if_pos listed]
    have groups : s.groups.modify group
        (fun node => { node with nhList := (node.nhList.setWeight ref 1).decr ref }) =
        s.groups.modify group fun node => { node with
          nhList := ((groupNhLinks s group).setWeight ref 1).decr ref, nhCount := fibNhGroupCount s group } := by
      refine modify_congr fun node found => ?_
      rw [groupNhLinks, fibNhGroupCount, found]
    exact congrArg₂ (fun nhTree groups => ({ s with nhTree := nhTree, groups := groups } : FibState)) nhs groups
  · rw [if_neg present]
    have missing := mt (links.has_iff group ref).mp present
    have nhs : s.nhTree.modify ref (fun node =>
        if node.nhGroupList.has group then
          { node with nhGroupList := (node.nhGroupList.setWeight group 1).decr group }
        else node) = s.nhTree := by
      refine modify_same fun node found => ?_
      have here : nhGroupLinks s ref = node.nhGroupList := by rw [nhGroupLinks, found]
      rw [here] at missing
      rw [if_neg missing]
    have groups : s.groups.modify group
        (fun node => { node with nhList := (node.nhList.setWeight ref 1).decr ref }) = s.groups := by
      refine modify_same fun node found => ?_
      have here : groupNhLinks s group = node.nhList := by rw [groupNhLinks, found]
      rw [here] at present
      rw [WtList.drop_of_not_has (Bool.eq_false_iff.mpr present)]
    exact congrArg₂ (fun nhTree groups => ({ s with nhTree := nhTree, groups := groups } : FibState)) nhs groups

theorem FibLinks.dropPair (links : FibLinks s) (group : GroupPtr) (ref : NhRef) :
    FibLinks (fibNhGroupDropPair s group ref) ∧ FibLinksOnly s (fibNhGroupDropPair s group ref) ∧
    (∀ g, fibNhGroupCount (fibNhGroupDropPair s group ref) g = fibNhGroupCount s g) ∧
    (∀ g, g ≠ group → groupNhLinks (fibNhGroupDropPair s group ref) g = groupNhLinks s g) ∧
    ∀ g r, groupWeight (fibNhGroupDropPair s group ref) g r =
      if g = group ∧ r = ref then 0 else groupWeight s g r := by
  rw [fibNhGroupDropPair_eq links]
  split
  · rename_i present
    have listed := (links.has_iff group ref).mpr present
    obtain ⟨owner, there⟩ := links.stored_of_has present
    have weights := (links.groupWf group).weightOf_drop (a := ref)
    have weights' := (links.nhWf ref).weightOf_drop (a := group)
    have ok : RelinkOk s group ref (((nhGroupLinks s ref).setWeight group 1).decr group)
        (((groupNhLinks s group).setWeight ref 1).decr ref) := by
      refine ⟨owner, there, ((links.nhWf ref).setWeight Nat.one_pos).decr,
        ((links.groupWf group).setWeight Nat.one_pos).decr, ?_, ?_, ?_⟩
      · rw [weights, weights', if_pos rfl, if_pos rfl]
      · intro other apart
        rw [weights', if_neg apart]
      · intro other apart
        rw [weights, if_neg apart]
        rfl
    refine ⟨links.relink ok, linksOnly_relink, fun g => ?_, fun g apart => ?_, fun g r => ?_⟩
    · rw [fibNhGroupCount_relink there]
      split
      · rename_i here
        rw [here]
      · rfl
    · rw [groupNhLinks_relink there, if_neg apart]
    · rw [ok.groupWeight_relink, weights, if_pos rfl]
  · rename_i absent
    refine ⟨links, .refl s, fun _ => rfl, fun _ _ => rfl, fun g r => ?_⟩
    split
    · rename_i here
      rw [here.1, here.2]
      exact WtList.weightOf_of_not_has (Bool.eq_false_iff.mpr absent)
    · rfl

end Pair

section Loops
variable {group : GroupPtr}

/-- A next hop whose link with the group exists or can be allocated. -/
def fibIsLinkable (s : FibState) (group : GroupPtr) (env : NhLinkEnv) (nhIndex : Nat) (ref : NhRef) : Prop :=
  (groupNhLinks s group).has ref = true ∨ env.groupLink nhIndex = true ∧ env.nhLink nhIndex = true

theorem fibAddLinkNode_ne_none {A : Type} [DecidableEq A] (list : WtList A) (self : A) (allocOk : Bool)
    (room : list.has self = true ∨ allocOk = true) : fibAddLinkNode list self allocOk ≠ none := by
  unfold fibAddLinkNode
  rcases room with present | allocated
  · rw [if_pos present]
    exact Option.some_ne_none _
  rw [if_pos allocated]
  split
  · exact Option.some_ne_none _
  · exact Option.some_ne_none _

theorem count_cons_if {A : Type} [DecidableEq A] (first a : A) (rest : List A) :
    (first :: rest).count a = rest.count a + if a = first then 1 else 0 := by
  by_cases same : a = first
  · rw [same, List.count_cons_self, if_pos rfl]
  · rw [List.count_cons_of_ne (Ne.symm same), if_neg same, Nat.add_zero]

/-- How far the loop gets, and what it has linked by then. -/
structure NhGroupAdded (s t : FibState) (group : GroupPtr) (linked : List NhRef) : Prop where
  members : FibMembers t
  only : FibLinksOnly s t
  weights : ∀ g r, groupWeight t g r = groupWeight s g r + if g = group then linked.count r else 0

theorem fibNhGroupAddLoop_spec (group : GroupPtr) (env : NhLinkEnv) (nextHops : List NhRef) :
    ∀ s nhIndex, FibMembers s →
    (∀ ref ∈ nextHops, fibIsOwnerNextHop s ref = true) → ∃ added ≤ nextHops.length,
      (fibNhGroupAddLoop group env s nhIndex nextHops).2 = nhIndex + added ∧
      NhGroupAdded s (fibNhGroupAddLoop group env s nhIndex nextHops).1 group (nextHops.take added) ∧
      (added = 0 → s.groups.get group ≠ none →
        ∀ ref ∈ nextHops.head?, ¬ fibIsLinkable s group env nhIndex ref) := by
  induction nextHops with
  | nil =>
    intro s nhIndex members owned
    refine ⟨0, Nat.le_refl 0, rfl, ⟨members, .refl s, fun g r => ?_⟩, fun _ _ ref there => by cases there⟩
    simp only [List.take_nil, List.count_nil, ite_self, Nat.add_zero]
    rfl
  | cons ref rest ih =>
    intro s nhIndex members owned
    have owner := owned ref List.mem_cons_self
    have nothing : NhGroupAdded s s group ((ref :: rest).take 0) := by
      refine ⟨members, .refl s, fun g r => ?_⟩
      simp only [List.take_zero, List.count_nil, ite_self, Nat.add_zero]
    unfold fibNhGroupAddLoop
    split
    · rename_i full
      refine ⟨0, Nat.zero_le _, rfl, nothing, fun _ there first same room => ?_⟩
      cases same
      obtain ⟨node, found⟩ := Option.ne_none_iff_exists'.mp (stored_of_owner owner)
      have here : nhGroupLinks s ref = node.nhGroupList := by rw [nhGroupLinks, found]
      have possible := fibAddLinkNode_ne_none node.nhGroupList group (env.groupLink nhIndex)
        (room.imp (fun present => here ▸ (members.has_iff group ref).mpr present) And.left)
      unfold fibNhAddGroupLinkNode at full
      simp only [found] at full
      split at full
      · rename_i failed
        exact possible failed
      · cases full
    · rename_i linked first
      split
      · rename_i full
        rw [fibNhRemoveGroupLinkNode_added members first]
        refine ⟨0, Nat.zero_le _, rfl, nothing, fun _ there other same room => ?_⟩
        cases same
        obtain ⟨links, _, rfl⟩ := fibNhAddGroupLinkNode_some first
        obtain ⟨node, found⟩ := Option.ne_none_iff_exists'.mp there
        have here : groupNhLinks s group = node.nhList := by rw [groupNhLinks, found]
        have possible := fibAddLinkNode_ne_none node.nhList ref (env.nhLink nhIndex)
          (room.imp (fun present => here ▸ present) And.right)
        unfold fibNhGroupAddNhLinkNode at full
        simp only [FibState.modifyNh, found] at full
        split at full
        · rename_i failed
          exact possible failed
        · cases full
      · rename_i both second
        obtain ⟨kept, only, weights⟩ := fibNhGroupAddPair members owner first second
        simp only
        obtain ⟨added, few, index, more, _⟩ := ih _ (nhIndex + 1) kept fun other there =>
          (only.owners other).trans (owned other (List.mem_cons_of_mem ref there))
        refine ⟨added + 1, Nat.succ_le_succ few, by omega, ⟨more.members, only.trans more.only, fun g r => ?_⟩,
          fun zero => absurd zero (Nat.succ_ne_zero added)⟩
        rw [more.weights, weights, List.take_succ_cons, count_cons_if]
        by_cases here : g = group
        · simp only [here, if_true, true_and]
          omega
        · simp only [here, false_and, if_false, Nat.add_zero]

theorem FibMembers.removeFromLists (group : GroupPtr) (nextHops : List NhRef) : ∀ s, FibMembers s →
    FibMembers (fibNhGroupRemoveFromLists s group nextHops) ∧
    FibLinksOnly s (fibNhGroupRemoveFromLists s group nextHops) ∧
    ∀ g r, groupWeight (fibNhGroupRemoveFromLists s group nextHops) g r =
      groupWeight s g r - if g = group then nextHops.count r else 0 := by
  induction nextHops with
  | nil =>
    intro s members
    refine ⟨members, .refl s, fun g r => ?_⟩
    simp only [List.count_nil, ite_self, Nat.sub_zero]
    rfl
  | cons ref rest ih =>
    intro s members
    obtain ⟨kept, only, weights⟩ := members.removePair group ref
    obtain ⟨kept', only', weights'⟩ := ih _ kept
    refine ⟨kept', only.trans only', fun g r => ?_⟩
    refine (weights' g r).trans ?_
    rw [weights, count_cons_if]
    by_cases here : g = group
    · simp only [here, if_true, true_and]
      omega
    · simp only [here, false_and, if_false, Nat.sub_zero]

/-- Either the whole list is linked, or nothing is: the latter with an error, or
with a success when the first entry could not be linked. -/
theorem fibNhGroupAddInLists_spec (group : GroupPtr) (env : NhLinkEnv) {nextHops : List NhRef} (members : FibMembers s)
    (owned : ∀ ref ∈ nextHops, fibIsOwnerNextHop s ref = true) :
    NhGroupAdded s (fibNhGroupAddInLists s group nextHops env).1 group nextHops ∧
      (fibNhGroupAddInLists s group nextHops env).2 = .success ∨
    NhGroupAdded s (fibNhGroupAddInLists s group nextHops env).1 group [] ∧
      ((fibNhGroupAddInLists s group nextHops env).2 = .success → s.groups.get group ≠ none →
        ∀ ref ∈ nextHops.head?, ¬ fibIsLinkable s group env 0 ref) := by
  obtain ⟨added, few, index, loop, first⟩ := fibNhGroupAddLoop_spec group env nextHops s 0 members owned
  rw [Nat.zero_add] at index
  unfold fibNhGroupAddInLists
  simp only [index]
  split
  · rename_i stopped
    right
    obtain ⟨kept, only, weights⟩ := FibMembers.removeFromLists group (nextHops.take added) _ loop.members
    refine ⟨⟨kept, loop.only.trans only, fun g r => ?_⟩, fun succeeded => by cases succeeded⟩
    rw [weights, loop.weights]
    simp only [List.count_nil, ite_self, Nat.add_zero]
    omega
  · rename_i ran
    by_cases whole : added = nextHops.length
    · left
      rw [whole, List.take_length] at loop
      exact ⟨loop, rfl⟩
    · right
      have none : added = 0 := by omega
      rw [none, List.take_zero] at loop
      exact ⟨loop, fun _ => first none⟩

theorem fibNhGroupRemoveAllLoop_spec (group : GroupPtr) (nextHops : List NhRef) : ∀ s, FibLinks s →
    FibLinks (fibNhGroupRemoveAllLoop s group nextHops) ∧
    FibLinksOnly s (fibNhGroupRemoveAllLoop s group nextHops) ∧
    (∀ g, fibNhGroupCount (fibNhGroupRemoveAllLoop s group nextHops) g = fibNhGroupCount s g) ∧
    (∀ g, g ≠ group → groupNhLinks (fibNhGroupRemoveAllLoop s group nextHops) g = groupNhLinks s g) ∧
    ∀ r, groupWeight (fibNhGroupRemoveAllLoop s group nextHops) group r =
      if r ∈ nextHops then 0 else groupWeight s group r := by
  induction nextHops with
  | nil =>
    intro s links
    refine ⟨links, .refl s, fun _ => rfl, fun _ _ => rfl, fun r => ?_⟩
    rw [if_neg List.not_mem_nil]
    rfl
  | cons ref rest ih =>
    intro s links
    obtain ⟨kept, only, counts, others, weights⟩ := links.dropPair group ref
    obtain ⟨kept', only', counts', others', weights'⟩ := ih _ kept
    refine ⟨kept', only.trans only', fun g => (counts' g).trans (counts g),
      fun g apart => (others' g apart).trans (others g apart), fun r => ?_⟩
    refine (weights' r).trans ?_
    rw [weights]
    by_cases later : r ∈ rest
    · rw [if_pos later, if_pos (List.mem_cons_of_mem ref later)]
    rw [if_neg later]
    by_cases here : r = ref
    · rw [if_pos ⟨rfl, here⟩, if_pos (by rw [here]; exact List.mem_cons_self)]
    · rw [if_neg fun both => here both.2, if_neg fun member => (List.mem_cons.mp member).elim here later]

/-- The group is left without links and without a count; the other groups keep
theirs. -/
theorem FibMembers.removeAllNh (members : FibMembers s) (group : GroupPtr) :
    FibMembers (fibNhGroupRemoveAllNh s group) ∧ FibLinksOnly s (fibNhGroupRemoveAllNh s group) ∧
    (∀ g, g ≠ group → groupNhLinks (fibNhGroupRemoveAllNh s group) g = groupNhLinks s g) ∧
    groupNhLinks (fibNhGroupRemoveAllNh s group) group = [] := by
  unfold fibNhGroupRemoveAllNh
  split
  · rename_i absent
    refine ⟨members, .refl s, fun _ _ => rfl, ?_⟩
    rw [groupNhLinks, absent]
  rename_i node found
  have list : groupNhLinks s group = node.nhList := by rw [groupNhLinks, found]
  obtain ⟨links, only, counts, others, weights⟩ :=
    fibNhGroupRemoveAllLoop_spec group (node.nhList.map WtLink.self) s members.toFibLinks
  generalize fibNhGroupRemoveAllLoop s group (node.nhList.map WtLink.self) = t at *
  have there : t.groups.get group ≠ none := by
    rw [Ne, only.groupStored, found]
    exact Option.some_ne_none node
  have empty : groupNhLinks t group = [] := by
    refine (links.groupWf group).eq_nil fun r => ?_
    have weight := weights r
    unfold groupWeight at weight
    rw [weight]
    split
    · rfl
    rename_i absent
    refine WtList.weightOf_of_not_has (Bool.eq_false_iff.mpr fun present => absent ?_)
    rw [list] at present
    obtain ⟨x, member, same⟩ := WtList.has_iff_mem.mp present
    exact List.mem_map.mpr ⟨x, member, same⟩
  let u := t.modifyGroup group fun node => { node with nhCount := 0 }
  have kept : ∀ g, groupNhLinks u g = groupNhLinks t g := by
    intro g
    rw [groupNhLinks_eq, groupNhLinks_eq]
    refine congrArg (Option.getD · []) (map_get_modify ?_ g)
    exact fun _ => rfl
  have reset : FibLinksOnly t u := by
    refine ⟨⟨t.nhTree, _, rfl⟩, fun _ => rfl, map_get_modify ?_⟩
    exact fun _ => rfl
  refine ⟨⟨links.congr (fun _ => rfl) (fun _ => rfl) kept, fun g => ?_⟩, only.trans reset, ?_,
    (kept group).trans empty⟩
  · refine Eq.trans ?_ (congrArg WtList.total (kept g)).symm
    rw [fibNhGroupCount_eq]
    simp only [FibState.modifyGroup, get_modify]
    split
    · rename_i here
      subst here
      obtain ⟨other, stored⟩ := Option.ne_none_iff_exists'.mp there
      rw [stored, empty]
      rfl
    · rename_i apart
      rw [← fibNhGroupCount_eq, counts, others g apart]
      exact members.counted g
  · intro g apart
    exact (kept g).trans (others g apart)

theorem FibMembers.empty (members : FibMembers s) (group : GroupPtr) :
    FibMembers (fibNhGroupEmpty s group) ∧ FibLinksOnly s (fibNhGroupEmpty s group) ∧
    (∀ g, g ≠ group → groupNhLinks (fibNhGroupEmpty s group) g = groupNhLinks s g) ∧
    groupNhLinks (fibNhGroupEmpty s group) group = [] := by
  unfold fibNhGroupEmpty
  split
  · exact members.removeAllNh group
  rename_i zero
  refine ⟨members, .refl s, fun _ _ => rfl, ?_⟩
  have counted := members.counted group
  cases links : groupNhLinks s group with
  | nil => rfl
  | cons x rest =>
    have heavy := (members.groupWf group).positive x (by rw [links]; exact List.mem_cons_self)
    rw [links] at counted
    simp only [WtList.total] at counted
    omega

end Loops
end SaiCommon
