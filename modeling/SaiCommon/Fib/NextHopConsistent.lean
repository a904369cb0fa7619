import SaiCommon.Fib.Consistent

namespace SaiCommon

open KeyTree

variable {f : Nh → Nh} {info : NhInfo} {env : NhNodeEnv}

/-- No id, no route and no group names the next hop. -/
structure FibUnnamed (s : FibState) (ref : NhRef) : Prop where
  noId : ∀ id, s.nhIdTree.get id ≠ some ref
  noRoute : ∀ key, (s.routeTree.get key).map Route.nhInfo ≠ some (.nextHop ref)
  noGroup : nhGroupLinks s ref = []

/-- A node as a fresh one is filled: nobody's, and not counted. -/
structure NhBlank (node : Nh) : Prop where
  noId : node.nextHopId = nullObjectId
  noOwner : node.ownerFlag = ⟨false, false⟩
  uncounted : node.refCount = 0

section Moves
variable {s t : FibState} {ref : NhRef} {node : Nh}

theorem FibConsistent.unnamed (consistent : FibConsistent s) (free : fibIsOwnerNextHop s ref = false) :
    FibUnnamed s ref := by
  obtain ⟨names, counts, members⟩ := consistent
  refine ⟨?_, ?_, ?_⟩
  · intro id named
    have owner := names.owned id ref named
    rw [free] at owner
    cases owner
  · intro key named
    have owner := counts.routeNh key ref named
    rw [free] at owner
    cases owner
  · by_contra linked
    have owner := members.owned ref linked
    rw [free] at owner
    cases owner

theorem owners_modifyNh (s : FibState) (ref other : NhRef) (f : Nh → Nh) (apart : other ≠ ref) :
    fibIsOwnerNextHop (s.modifyNh ref f) other = fibIsOwnerNextHop s other := by
  rw [fibIsOwnerNextHop_eq, fibIsOwnerNextHop_eq]
  simp only [FibState.modifyNh, get_modify_ne apart]

theorem nhGroupLinks_modifyNh (s : FibState) (ref other : NhRef)
    (keep : ∀ node, (f node).nhGroupList = node.nhGroupList) :
    nhGroupLinks (s.modifyNh ref f) other = nhGroupLinks s other := by
  rw [nhGroupLinks_eq, nhGroupLinks_eq]
  exact congrArg (Option.getD · []) (map_get_modify keep other)

theorem nhIds_modifyNh (s : FibState) (ref other : NhRef) (keep : ∀ node, (f node).nextHopId = node.nextHopId) :
    fibNhNextHopId (s.modifyNh ref f) other = fibNhNextHopId s other := by
  rw [fibNhNextHopId_eq, fibNhNextHopId_eq]
  exact congrArg (Option.getD · nullObjectId) (map_get_modify keep other)

theorem owners_modifyNh_keep (s : FibState) (ref other : NhRef)
    (keep : ∀ node, (f node).ownerFlag.nextHop = node.ownerFlag.nextHop) :
    fibIsOwnerNextHop (s.modifyNh ref f) other = fibIsOwnerNextHop s other := by
  rw [fibIsOwnerNextHop_eq, fibIsOwnerNextHop_eq]
  exact congrArg (Option.getD · false)
    (map_get_modify (g := fun node : Nh => node.ownerFlag.nextHop) keep other)

theorem owner_setOwner (stored : s.nhTree.get ref ≠ none) :
    fibIsOwnerNextHop (s.modifyNh ref Nh.setOwnerNextHop) ref = true := by
  obtain ⟨node, found⟩ := Option.ne_none_iff_exists'.mp stored
  simp only [fibIsOwnerNextHop_eq, FibState.modifyNh, get_modify_self, found, Option.map_some,
    Option.getD_some, Nh.setOwnerNextHop]

theorem FibCounts.modifyNh (counts : FibCounts s) (keep : ∀ node, (f node).refCount = node.refCount)
    (owners : ∀ key other, (s.routeTree.get key).map Route.nhInfo = some (.nextHop other) →
      fibIsOwnerNextHop (s.modifyNh ref f) other = true) : FibCounts (s.modifyNh ref f) := by
  have stored : ∀ other : NhRef, (s.nhTree.modify ref f).get other = none ↔ s.nhTree.get other = none :=
    fun _ => get_modify_eq_none
  refine ⟨counts.rifVrf, counts.numRif, ?_, ?_, ?_, counts.groupRef, counts.routeVrf, owners,
    counts.routeGroup⟩
  · intro other there
    exact counts.nhRif other fun absent => there ((stored other).mpr absent)
  · intro rifId n found
    rw [counts.rifRef rifId n found]
    refine (tally_modify_keep ?_).symm
    exact fun _ => rfl
  · intro other n found
    exact counts.nhRef other n ((map_get_modify keep other).symm.trans found)

section
variable (consistent : FibConsistent s)
include consistent

theorem FibConsistent.own (stored : s.nhTree.get ref ≠ none) :
    FibConsistent (s.modifyNh ref Nh.setOwnerNextHop) := by
  obtain ⟨names, counts, members⟩ := consistent
  have owners : ∀ other, fibIsOwnerNextHop s other = true →
      fibIsOwnerNextHop (s.modifyNh ref Nh.setOwnerNextHop) other = true := by
    intro other owner
    by_cases same : other = ref
    · rw [same]
      exact owner_setOwner stored
    · rw [owners_modifyNh s ref other _ same]
      exact owner
  have links : ∀ other, nhGroupLinks (s.modifyNh ref Nh.setOwnerNextHop) other = nhGroupLinks s other :=
    fun other => nhGroupLinks_modifyNh s ref other fun _ => rfl
  refine ⟨⟨fun id other named => owners other (names.owned id other named), ?_, names.groupAtId⟩, ?_, ?_⟩
  · intro id other named
    rw [nhIds_modifyNh s ref other (f := Nh.setOwnerNextHop) fun _ => rfl]
    exact names.atId id other named
  · exact counts.modifyNh (fun _ => rfl) fun key other named => owners other (counts.routeNh key other named)
  · refine ⟨⟨?_, members.groupWf, ?_, ?_⟩, members.counted⟩
    · intro other
      rw [links]
      exact members.nhWf other
    · intro group other
      rw [links]
      exact members.symmetric group other
    · intro other linked
      rw [links] at linked
      exact owners other (members.owned other linked)

theorem FibConsistent.disown (unnamed : FibUnnamed s ref) : FibConsistent (s.modifyNh ref fibNextHopInfoReset) := by
  obtain ⟨names, counts, members⟩ := consistent
  have owners : ∀ other, other ≠ ref →
      fibIsOwnerNextHop (s.modifyNh ref fibNextHopInfoReset) other = fibIsOwnerNextHop s other :=
    fun other apart => owners_modifyNh s ref other _ apart
  have links : ∀ other, nhGroupLinks (s.modifyNh ref fibNextHopInfoReset) other = nhGroupLinks s other :=
    fun other => nhGroupLinks_modifyNh s ref other fun _ => rfl
  have apart : ∀ id other, s.nhIdTree.get id = some other → other ≠ ref := by
    rintro id other named rfl
    exact unnamed.noId id named
  refine ⟨⟨?_, ?_, names.groupAtId⟩, ?_, ?_⟩
  · intro id other named
    rw [owners other (apart id other named)]
    exact names.owned id other named
  · intro id other named
    have kept : fibNhNextHopId (s.modifyNh ref fibNextHopInfoReset) other = fibNhNextHopId s other := by
      rw [fibNhNextHopId_eq, fibNhNextHopId_eq]
      simp only [FibState.modifyNh, get_modify_ne (apart id other named)]
    rw [kept]
    exact names.atId id other named
  · refine counts.modifyNh (fun _ => rfl) fun key other named => ?_
    have different : other ≠ ref := by
      rintro rfl
      exact unnamed.noRoute key named
    rw [owners other different]
    exact counts.routeNh key other named
  · refine ⟨⟨?_, members.groupWf, ?_, ?_⟩, members.counted⟩
    · intro other
      rw [links]
      exact members.nhWf other
    · intro group other
      rw [links]
      exact members.symmetric group other
    · intro other linked
      rw [links] at linked
      have different : other ≠ ref := by
        rintro rfl
        exact linked unnamed.noGroup
      rw [owners other different]
      exact members.owned other linked

theorem FibConsistent.nameId (nextHopId : ObjectId) (free : ∀ id, s.nhIdTree.get id ≠ some ref) :
    FibConsistent (s.modifyNh ref fun node => { node with nextHopId := nextHopId }) := by
  obtain ⟨names, counts, members⟩ := consistent
  have owners : ∀ other, fibIsOwnerNextHop (s.modifyNh ref fun node => { node with nextHopId := nextHopId })
      other = fibIsOwnerNextHop s other :=
    fun other => owners_modifyNh_keep s ref other fun _ => rfl
  refine ⟨⟨?_, ?_, names.groupAtId⟩, ?_, ?_⟩
  · intro id other named
    rw [owners]
    exact names.owned id other named
  · intro id other named
    have different : other ≠ ref := by
      rintro rfl
      exact free id named
    rw [fibNhNextHopId_eq]
    simp only [FibState.modifyNh, get_modify_ne different]
    rw [← fibNhNextHopId_eq]
    exact names.atId id other named
  · refine counts.modifyNh (fun _ => rfl) fun key other named => ?_
    rw [owners]
    exact counts.routeNh key other named
  · exact members.congr owners (fun other => nhGroupLinks_modifyNh s ref other fun _ => rfl)
      (fun _ => rfl) fun _ => rfl

theorem FibConsistent.idInsert (owner : fibIsOwnerNextHop s ref = true) :
    FibConsistent { s with nhIdTree := s.nhIdTree.put (fibNhNextHopId s ref) ref } := by
  obtain ⟨names, counts, members⟩ := consistent
  refine ⟨⟨?_, ?_, names.groupAtId⟩, ⟨counts.rifVrf, counts.numRif, counts.nhRif, counts.rifRef, counts.nhRef,
    counts.groupRef, counts.routeVrf, counts.routeNh, counts.routeGroup⟩,
    members.congr (fun _ => rfl) (fun _ => rfl) (fun _ => rfl) fun _ => rfl⟩
  · intro id other named
    simp only [get_put] at named
    split at named
    · cases named
      exact owner
    · exact names.owned id other named
  · intro id other named
    simp only [get_put] at named
    split at named
    · rename_i same
      cases named
      exact same.symm
    · exact names.atId id other named

theorem FibConsistent.idRemove (id : ObjectId) : FibConsistent { s with nhIdTree := s.nhIdTree.del id } := by
  obtain ⟨names, counts, members⟩ := consistent
  have fewer : ∀ other named, (s.nhIdTree.del id).get other = some named → s.nhIdTree.get other = some named := by
    exact fun other named found => get_of_del found
  refine ⟨⟨?_, ?_, names.groupAtId⟩, ⟨counts.rifVrf, counts.numRif, counts.nhRif, counts.rifRef, counts.nhRef,
    counts.groupRef, counts.routeVrf, counts.routeNh, counts.routeGroup⟩,
    members.congr (fun _ => rfl) (fun _ => rfl) (fun _ => rfl) fun _ => rfl⟩
  · intro other named found
    exact names.owned other named (fewer other named found)
  · intro other named found
    exact names.atId other named (fewer other named found)

end

theorem fibIpNextHopNodeCreate_cases (run : fibIpNextHopNodeCreate s info env = .ok t) :
    s.vrfTree.get info.ref.vrfId ≠ none ∧ s.nhTree.get info.ref = none ∧
    t = fibNhRifRefCountIncr { s with nhTree := s.nhTree.put info.ref { info.node with nhGroupList := [] } }
      info.ref := by
  unfold fibIpNextHopNodeCreate at run
  split at run
  · cases run
  rename_i vrf found
  split at run
  · cases run
  split at run
  · rename_i absent
    cases run
    refine ⟨?_, absent, rfl⟩
    rw [← fibVrfNodeGet, found]
    exact Option.some_ne_none vrf
  · cases run

theorem rifRef_modify {nhTree : KeyTree NhRef Nh} {rifId : ObjectId} {f : Rif → Rif} (counts : FibCounts s)
    (moved : ∀ rif, s.routerInterfaceTree.get ref.key.rifId = some rif →
      (f rif).refCount = nhTree.tally fun other _ => other.key.rifId = ref.key.rifId)
    (others : rifId ≠ ref.key.rifId → (nhTree.tally fun other _ => other.key.rifId = rifId) =
      s.nhTree.tally fun other _ => other.key.rifId = rifId) (n : Nat)
    (found : ((s.routerInterfaceTree.modify ref.key.rifId f).get rifId).map Rif.refCount = some n) :
    n = nhTree.tally fun other _ => other.key.rifId = rifId := by
  rw [get_modify] at found
  split at found
  · rename_i here
    subst here
    rw [Option.map_map] at found
    obtain ⟨rif, stored, value⟩ := Option.map_eq_some_iff.mp found
    rw [← value]
    exact moved rif stored
  · rename_i apart
    rw [others apart]
    exact counts.rifRef rifId n found

theorem FibConsistent.nodeCreate (consistent : FibConsistent s) (blank : NhBlank info.node)
    (rif : (s.routerInterfaceTree.get info.ref.key.rifId).map Rif.vrfId = some info.ref.vrfId)
    (run : fibIpNextHopNodeCreate s info env = .ok t) : FibConsistent t := by
  obtain ⟨_, absent, rfl⟩ := fibIpNextHopNodeCreate_cases run
  obtain ⟨names, counts, members⟩ := consistent
  let next : FibState := fibNhRifRefCountIncr
    { s with nhTree := s.nhTree.put info.ref { info.node with nhGroupList := [] } } info.ref
  have owners : ∀ ref, fibIsOwnerNextHop next ref = fibIsOwnerNextHop s ref := by
    intro ref
    rw [fibIsOwnerNextHop_eq, fibIsOwnerNextHop_eq]
    simp only [next, fibNhRifRefCountIncr, get_put]
    split
    · rename_i here
      rw [here, absent, Option.map_some, Option.map_none, Option.getD_some, Option.getD_none, blank.noOwner]
    · rfl
  have links : ∀ ref, nhGroupLinks next ref = nhGroupLinks s ref := by
    intro ref
    rw [nhGroupLinks_eq, nhGroupLinks_eq]
    simp only [next, fibNhRifRefCountIncr, get_put]
    split
    · rename_i here
      rw [here, absent, Option.map_some, Option.map_none, Option.getD_some, Option.getD_none]
    · rfl
  have rifVrfs : ∀ rifId, (next.routerInterfaceTree.get rifId).map Rif.vrfId =
      (s.routerInterfaceTree.get rifId).map Rif.vrfId := by
    refine map_get_modify ?_
    exact fun _ => rfl
  refine ⟨?_, ?_, members.congr owners links (fun _ => rfl) fun _ => rfl⟩
  · refine names.congr owners (fun ref => ?_) rfl (fun _ => rfl) rfl
    rw [fibNhNextHopId_eq, fibNhNextHopId_eq]
    simp only [fibNhRifRefCountIncr, get_put]
    split
    · rename_i here
      rw [here, absent, Option.map_some, Option.map_none, Option.getD_some, Option.getD_none, blank.noId]
    · rfl
  · refine ⟨?_, ?_, ?_, ?_, ?_, counts.groupRef, counts.routeVrf, ?_, counts.routeGroup⟩
    · intro rifId vrfId named
      exact counts.rifVrf rifId vrfId ((rifVrfs rifId).symm.trans named)
    · intro vrfId n stored
      rw [counts.numRif vrfId n stored]
      refine (tally_modify_keep ?_).symm
      exact fun _ => rfl
    · intro ref stored
      rw [rifVrfs]
      simp only [fibNhRifRefCountIncr, ne_eq, get_put] at stored
      split at stored
      · rename_i here
        rw [here]
        exact rif
      · exact counts.nhRif ref stored
    · intro rifId n found
      refine rifRef_modify counts ?_ ?_ n found
      · intro rif stored
        have old := counts.rifRef info.ref.key.rifId rif.refCount (by rw [stored, Option.map_some])
        show rif.refCount + 1 = (s.nhTree.put info.ref _).tally _
        rw [tally_put_new absent, old, if_pos (decide_eq_true rfl)]
        omega
      · intro apart
        show (s.nhTree.put info.ref _).tally _ = _
        rw [tally_put_new absent, if_neg (by simpa using apart.symm), Nat.zero_add]
    · intro ref n found
      simp only [fibNhRifRefCountIncr, get_put] at found
      split at found
      · rename_i here
        rw [Option.map_some, Option.some.injEq] at found
        have free : fibIsOwnerNextHop s ref = false := by
          rw [fibIsOwnerNextHop_eq, here, absent, Option.map_none, Option.getD_none]
        refine (found.symm.trans blank.uncounted).trans (tally_eq_zero fun key route stored => ?_).symm
        refine decide_eq_false fun named => ?_
        have names : (s.routeTree.get key).map Route.nhInfo = some (.nextHop ref) := by
          rw [show s.routeTree.get key = some route from stored, Option.map_some, named]
        have owner := counts.routeNh key ref names
        rw [free] at owner
        cases owner
      · exact counts.nhRef ref n found
    · intro key ref named
      exact (owners ref).trans (counts.routeNh key ref named)

theorem fibCheckAndDeleteIpNextHopNode_cases (s : FibState) (ref : NhRef) :
    (fibCheckAndDeleteIpNextHopNode s ref).1 = s ∨
    ∃ node, s.nhTree.get ref = some node ∧ node.ownerFlag = ⟨false, false⟩ ∧
      (fibCheckAndDeleteIpNextHopNode s ref).1 =
        fibNhRifRefCountDecr { s with nhTree := s.nhTree.del ref } ref := by
  unfold fibCheckAndDeleteIpNextHopNode
  split
  · exact Or.inl rfl
  rename_i node found
  split
  · exact Or.inl rfl
  rename_i free
  split
  · exact Or.inl rfl
  · exact Or.inr ⟨node, found, not_not.mp free, rfl⟩

theorem FibConsistent.checkAndDelete (consistent : FibConsistent s) (ref : NhRef) :
    FibConsistent (fibCheckAndDeleteIpNextHopNode s ref).1 := by
  rcases fibCheckAndDeleteIpNextHopNode_cases s ref with same | ⟨node, found, noOwner, gone⟩
  · rw [same]
    exact consistent
  rw [gone]
  have free : fibIsOwnerNextHop s ref = false := by
    rw [fibIsOwnerNextHop_eq, found, Option.map_some, Option.getD_some, noOwner]
  have unnamed := consistent.unnamed free
  obtain ⟨names, counts, members⟩ := consistent
  let next : FibState := fibNhRifRefCountDecr { s with nhTree := s.nhTree.del ref } ref
  have owners : ∀ other, fibIsOwnerNextHop next other = fibIsOwnerNextHop s other := by
    intro other
    by_cases here : other = ref
    · rw [here, free, fibIsOwnerNextHop_eq]
      simp only [next, fibNhRifRefCountDecr, get_del_self, Option.map_none, Option.getD_none]
    · rw [fibIsOwnerNextHop_eq, fibIsOwnerNextHop_eq]
      simp only [next, fibNhRifRefCountDecr, get_del_ne here]
  have links : ∀ other, nhGroupLinks next other = nhGroupLinks s other := by
    intro other
    by_cases here : other = ref
    · rw [here, unnamed.noGroup, nhGroupLinks_eq]
      simp only [next, fibNhRifRefCountDecr, get_del_self, Option.map_none, Option.getD_none]
    · rw [nhGroupLinks_eq, nhGroupLinks_eq]
      simp only [next, fibNhRifRefCountDecr, get_del_ne here]
  have rifVrfs : ∀ rifId, (next.routerInterfaceTree.get rifId).map Rif.vrfId =
      (s.routerInterfaceTree.get rifId).map Rif.vrfId := by
    refine map_get_modify ?_
    exact fun _ => rfl
  refine ⟨⟨?_, ?_, names.groupAtId⟩, ?_, members.congr owners links (fun _ => rfl) fun _ => rfl⟩
  · intro id other named
    exact (owners other).trans (names.owned id other named)
  · intro id other named
    have apart : other ≠ ref := by
      rintro rfl
      exact unnamed.noId id named
    rw [← names.atId id other named, fibNhNextHopId_eq, fibNhNextHopId_eq]
    simp only [fibNhRifRefCountDecr, get_del_ne apart]
  · refine ⟨?_, ?_, ?_, ?_, ?_, counts.groupRef, counts.routeVrf, ?_, counts.routeGroup⟩
    · intro rifId vrfId named
      exact counts.rifVrf rifId vrfId ((rifVrfs rifId).symm.trans named)
    · intro vrfId n stored
      rw [counts.numRif vrfId n stored]
      refine (tally_modify_keep ?_).symm
      exact fun _ => rfl
    · intro other stored
      rw [rifVrfs]
      simp only [fibNhRifRefCountDecr, ne_eq, get_del] at stored
      split at stored
      · exact absurd rfl stored
      · exact counts.nhRif other stored
    · intro rifId n gotten
      refine rifRef_modify counts ?_ ?_ n gotten
      · intro rif stored
        have old := counts.rifRef ref.key.rifId rif.refCount (by rw [stored, Option.map_some])
        have taken := tally_del_old (p := fun other _ => decide (other.key.rifId = ref.key.rifId)) found
        rw [if_pos (decide_eq_true rfl)] at taken
        show rif.refCount - 1 = (s.nhTree.del ref).tally _
        omega
      · intro apart
        have taken := tally_del_old (p := fun other _ => decide (other.key.rifId = rifId)) found
        rw [if_neg (by simpa using apart.symm)] at taken
        show (s.nhTree.del ref).tally _ = _
        omega
    · intro other n gotten
      simp only [fibNhRifRefCountDecr, get_del] at gotten
      split at gotten
      · cases gotten
      · exact counts.nhRef other n gotten
    · intro key other named
      exact (owners other).trans (counts.routeNh key other named)

end Moves
end SaiCommon
