import SaiCommon.Acl.SampleSteps

namespace SaiCommon

namespace SampleFlows
variable (n : SampleFlows) (id : ObjectId) (direction : SampleDirection)

theorem sub_append (one two : List ObjectId) :
    n.sub id direction (one ++ two) = (n.sub id direction one).sub id direction two := by
  funext id' direction' p
  unfold sub
  split
  · rw [List.count_append]
    omega
  · rfl

variable {n id direction} in
theorem sub_unused {list : List ObjectId} (unused : ∀ p ∈ list, n id direction p = 0) :
    n.sub id direction list = n := by
  funext id' direction' p
  unfold sub
  split
  · rename_i here
    rw [here.1, here.2]
    by_cases member : p ∈ list
    · rw [unused p member]
      exact Nat.zero_sub _
    · rw [List.count_eq_zero_of_not_mem member]
      rfl
  · rfl

theorem sub_here (list : List ObjectId) (p : ObjectId) :
    n.sub id direction list id direction p = n id direction p - list.count p := by
  unfold sub
  rw [if_pos ⟨rfl, rfl⟩]

theorem sub_le (list : List ObjectId) (id' : ObjectId) (direction' : SampleDirection) (p : ObjectId) :
    n.sub id direction list id' direction' p ≤ n id' direction' p :=
  Nat.sub_le _ _

end SampleFlows

def aclFirstList (filters : List AclFilter) : Option (List ObjectId) :=
  (filters.find? fun filter => aclPortlistAttr filter.field).map fun filter => filter.fieldValue.objList

def aclAllLists (filters : List AclFilter) : List ObjectId :=
  (filters.filter fun filter => aclPortlistAttr filter.field).flatMap fun filter => filter.fieldValue.objList

/-- The turn of the filter loop that ends it. -/
def aclSampleListSet (orig : AclRule) (validate update : Bool) (env : SampleEnv) (scan : AclAction) (s : SampleAcl)
    (list : List ObjectId) : SampleAcl × SaiStatus :=
  let t := if validate then
      (samplepacketRemoveObject s orig.ingressSamplePacketId .ingress (env.sub 0) (some list)).1
    else s
  let (u, rc) := samplepacketValidateObject t scan.parameter.oid .ingress (env.sub 1) (some list) validate update
  if validate = true ∧ rc ≠ .success then
    ((samplepacketValidateObject u orig.ingressSamplePacketId .ingress (env.sub 2) (some list) true true).1, rc)
  else (u, rc)

section Loop
variable {orig : AclRule} {validate update : Bool} {scan : AclAction} {s : SampleAcl} {filters : List AclFilter}
  {env : SampleEnv} {list : List ObjectId} {n : SampleFlows}

theorem aclFirstList_cons_list {filter : AclFilter} (isList : aclPortlistAttr filter.field = true) :
    aclFirstList (filter :: filters) = some filter.fieldValue.objList := by
  unfold aclFirstList
  rw [List.find?_cons, isList]
  rfl

theorem aclFirstList_cons_other {filter : AclFilter} (other : aclPortlistAttr filter.field = false) :
    aclFirstList (filter :: filters) = aclFirstList filters := by
  unfold aclFirstList
  rw [List.find?_cons, other]

theorem aclSampleFilterLoop_none (none : aclFirstList filters = none) (place : Nat) (rc : SaiStatus) :
    aclSampleFilterLoop orig validate update env scan s place rc filters = (s, rc, false) := by
  induction filters generalizing place with
  | nil => rfl
  | cons filter rest ih =>
    unfold aclSampleFilterLoop
    cases isList : aclPortlistAttr filter.field with
    | true =>
      rw [aclFirstList_cons_list isList] at none
      cases none
    | false =>
      rw [aclFirstList_cons_other isList] at none
      rw [if_neg Bool.false_ne_true]
      exact ih none (place + 1)

variable (orig validate update env s) in
theorem aclSampleFilterLoop_on (on : scan.enable = true) (first : aclFirstList filters = some list) (place : Nat)
    (rc : SaiStatus) : ∃ turn, aclSampleFilterLoop orig validate update env scan s place rc filters =
      ((aclSampleListSet orig validate update (env.sub turn) scan s list).1,
        (aclSampleListSet orig validate update (env.sub turn) scan s list).2, true) := by
  induction filters generalizing place with
  | nil => cases first
  | cons filter rest ih =>
    unfold aclSampleFilterLoop
    cases isList : aclPortlistAttr filter.field with
    | true =>
      rw [aclFirstList_cons_list isList] at first
      cases first
      refine ⟨place, ?_⟩
      unfold aclSampleListSet
      rw [if_pos rfl]
      cases validate with
      | true =>
        simp only [on, if_true, true_and]
        split
        · rfl
        · rfl
      | false =>
        simp only [on, if_true, Bool.false_eq_true, if_false, false_and]
    | false =>
      rw [aclFirstList_cons_other isList] at first
      rw [if_neg Bool.false_ne_true]
      exact ih first (place + 1)

theorem aclSampleFilterLoop_idle (off : scan.enable = false) (place : Nat) (rc : SaiStatus) :
    aclSampleFilterLoop orig false update env scan s place rc filters = (s, rc, false) := by
  induction filters generalizing place with
  | nil => rfl
  | cons filter rest ih =>
    unfold aclSampleFilterLoop
    rw [off]
    simp only [Bool.false_eq_true, if_false, ih, ite_self]

variable (orig update) in
theorem SampledFlows.filterLoop_off (sampled : SampledFlows s n) (granted : env.grants) (off : scan.enable = false)
    (named : nullObjectId ∉ aclAllLists filters) (place : Nat) (rc : SaiStatus) :
    ∃ t rc', aclSampleFilterLoop orig true update env scan s place rc filters = (t, rc', false) ∧
      s.SameSessions t ∧
      SampledFlows t (n.sub orig.ingressSamplePacketId .ingress (aclAllLists filters)) := by
  induction filters generalizing s n place rc with
  | nil =>
    refine ⟨s, rc, rfl, .refl s, ?_⟩
    rw [show aclAllLists [] = [] from rfl, SampleFlows.sub_nil]
    exact sampled
  | cons filter rest ih =>
    unfold aclSampleFilterLoop
    cases isList : aclPortlistAttr filter.field with
    | true =>
      have lists : aclAllLists (filter :: rest) = filter.fieldValue.objList ++ aclAllLists rest := by
        unfold aclAllLists
        rw [List.filter_cons, if_pos isList, List.flatMap_cons]
      rw [lists, List.mem_append, not_or] at named
      have listNamed : nullObjectId ∉ s.ports (some filter.fieldValue.objList) := named.1
      obtain ⟨t, rc', removed, same, counted, _⟩ := sampled.detach orig.ingressSamplePacketId .ingress
        ((granted.sub place).sub 0) listNamed
      obtain ⟨u, last, walked, sameU, all⟩ := ih counted named.2 (place + 1) rc'
      refine ⟨u, last, ?_, same.trans sameU, ?_⟩
      · simp only [if_true, removed, off, Bool.false_eq_true, if_false]
        exact walked
      · rw [lists, SampleFlows.sub_append]
        exact all
    | false =>
      have lists : aclAllLists (filter :: rest) = aclAllLists rest := by
        unfold aclAllLists
        rw [List.filter_cons, isList, if_neg Bool.false_ne_true]
      rw [lists] at named ⊢
      rw [if_neg Bool.false_ne_true]
      exact ih sampled named (place + 1) rc

end Loop

section Phases
variable {s : SampleAcl} {n : SampleFlows} {id : ObjectId} {direction : SampleDirection} {env : SampleEnv}
  {portlist : Option (List ObjectId)}

variable (id direction) in
theorem SampledFlows.apply (sampled : SampledFlows s n) (granted : env.grants)
    (named : nullObjectId ∉ s.ports portlist)
    (free : n.Free id direction (s.ports portlist)) :
    ∃ t rc, samplepacketValidateObject s id direction env portlist false true = (t, rc) ∧ s.SameSessions t ∧
      SampledFlows t (if s.sessions.sessionTree.get id = none then n else n.add id direction (s.ports portlist)) := by
  by_cases some : s.ports portlist = []
  · have nothing :
      (if s.sessions.sessionTree.get id = none then n else n.add id direction (s.ports portlist)) = n := by
      rw [some, SampleFlows.add_nil, ite_self]
    rw [nothing]
    cases portlist with
    | some list =>
      rw [show list = [] from some]
      exact ⟨s, .success, rfl, .refl s, sampled⟩
    | none =>
      have noPorts : s.portList = [] := some
      refine ⟨s, .failure, ?_, .refl s, sampled⟩
      simp only [samplepacketValidateObject, granted [0], Bool.true_eq_false, and_false, if_false, noPorts, if_true]
  · cases live : s.sessions.sessionTree.get id with
    | none =>
      obtain ⟨error, _, refused⟩ : ∃ error, error ≠ SaiStatus.success ∧
          samplepacketValidateObject s id direction env portlist false true = (s, error) :=
        samplepacketValidateObject_dead granted live some false
      refine ⟨s, error, refused, .refl s, ?_⟩
      rw [if_pos rfl]
      exact sampled
    | some session =>
      obtain ⟨t, attached, same, counted⟩ := sampled.attach granted (by rw [live]; exact Option.some_ne_none _) some
        named free false
      refine ⟨t, .success, attached, same, ?_⟩
      rw [if_neg (Option.some_ne_none session)]
      exact counted

theorem SampledFlows.reattach {t : SampleAcl} (sampled : SampledFlows s n) (granted : env.grants)
    (same : s.SameSessions t) (taken : SampledFlows t (n.sub id direction (s.ports portlist)))
    (named : nullObjectId ∉ s.ports portlist) (own : (∀ p, (s.ports portlist).count p ≤ n id direction p) ∨
      (∀ p ∈ s.ports portlist, n id direction p = 0) ∧
        (s.sessions.sessionTree.get id = none ∨ ∃ p ∈ s.ports portlist, ∃ other, 0 < n other direction p)) :
    t.SameSessions (samplepacketValidateObject t id direction env portlist true true).1 ∧
      SampledFlows (samplepacketValidateObject t id direction env portlist true true).1 n := by
  have namedT : nullObjectId ∉ t.ports portlist := by
    rw [same.ports]
    exact named
  rcases own with has | ⟨unused, refuses⟩
  · by_cases some : s.ports portlist = []
    · rw [some, SampleFlows.sub_nil] at taken
      by_cases can : t.Attachable id direction portlist
      · obtain ⟨u, attached, sameU, counted⟩ := taken.attach_of granted namedT can
        rw [attached]
        rw [same.ports, some, SampleFlows.add_nil] at counted
        exact ⟨sameU, counted⟩
      · obtain ⟨error, _, refused⟩ := samplepacketValidateObject_refused granted can
        rw [refused]
        exact ⟨.refl t, taken⟩
    · have can : t.Attachable id direction portlist := by
        refine (taken.attachable_iff namedT).mpr (.inr ⟨fun dead => ?_, ?_, ?_⟩)
        · obtain ⟨p, member⟩ := List.exists_mem_of_ne_nil _ some
          have unused := sampled.absent id ((same.2 id).mp dead) direction p
          have counts := has p
          have positive := List.count_pos_iff.mpr member
          omega
        · rw [same.ports]
          exact some
        · rw [same.ports]
          intro p member id' used
          have counts := has p
          have positive := List.count_pos_iff.mpr member
          have less := SampleFlows.sub_le n id direction (s.ports portlist) id' direction p
          exact sampled.single p direction id' id (by omega) (by omega)
      obtain ⟨u, attached, sameU, counted⟩ := taken.attach_of granted namedT can
      rw [attached]
      rw [same.ports, SampleFlows.add_sub _ _ _ _ has] at counted
      exact ⟨sameU, counted⟩
  · rw [SampleFlows.sub_unused unused] at taken
    by_cases can : t.Attachable id direction portlist
    · obtain ⟨u, attached, sameU, counted⟩ := taken.attach_of granted namedT can
      rw [attached]
      refine ⟨sameU, ?_⟩
      rcases (taken.attachable_iff namedT).mp can with empty | ⟨live, _, free⟩
      · rw [empty, show t.ports (some []) = [] from rfl, SampleFlows.add_nil] at counted
        exact counted
      rcases refuses with dead | ⟨p, member, other, used⟩
      · exact absurd ((same.2 id).mpr dead) live
      rw [same.ports] at free
      have isId := free p member other used
      rw [isId, unused p member] at used
      cases used
    · obtain ⟨error, _, refused⟩ := samplepacketValidateObject_refused granted can
      rw [refused]
      exact ⟨.refl t, taken⟩

end Phases
end SaiCommon
