import SaiCommon.Fib.AttachmentRuns

namespace SaiCommon

variable {t : FibState} {rifId : ObjectId} {node rif : Rif}

def RifAlike (rif other : Rif) : Prop :=
  rif.rifType = other.rifType ∧ fibRifPortOrVlanIdGet rif = fibRifPortOrVlanIdGet other ∧ rif.srcMac = other.srcMac

/-- No two stored router interfaces have the same type, attachment and source MAC. -/
def RifsUnique (s : FibState) : Prop := ∀ rifId rifId' rif rif', s.routerInterfaceTree.get rifId = some rif →
  s.routerInterfaceTree.get rifId' = some rif' → RifAlike rif rif' → rifId = rifId'

inductive RifCall
  | virtualRouterCreate (defaults : VrfDefaults) (attrs : List VrfAttr) (env : VrfCreateEnv)
  | virtualRouterRemove (vrId : ObjectId) (npu : SaiStatus)
  | virtualRouterAttributeSet (vrId : ObjectId) (attr : VrfAttr) (validate npu : SaiStatus)
  | create (defaults : RifDefaults) (attrs : List RifAttr) (env : RifCreateEnv)
  | remove (rifId : ObjectId) (npu : SaiStatus)
  | attributeSet (rifId : ObjectId) (attr : RifAttr) (validate npu : SaiStatus)

def RifCall.step (p : Platform) (s : FibState) : RifCall → FibState
  | .virtualRouterCreate defaults attrs env => (fibVirtualRouterCreate p s defaults attrs env).1
  | .virtualRouterRemove vrId npu => (fibVirtualRouterRemove s vrId npu).1
  | .virtualRouterAttributeSet vrId attr validate npu => (fibVirtualRouterAttributeSet p s vrId attr validate npu).1
  | .create defaults attrs env => (fibRouterInterfaceCreate p s defaults attrs env).1
  | .remove rifId npu => (fibRouterInterfaceRemove s rifId npu).1
  | .attributeSet rifId attr validate npu => (fibRouterInterfaceAttributeSet s rifId attr validate npu).1

/-- A MAC that is set is not that of another router interface of the same type on the
same attachment. -/
def RifCall.spares (s : FibState) : RifCall → Prop
  | .attributeSet rifId (.srcMacAddress mac) validate npu => validate = .success → npu = .success →
      ∀ rif other node, s.routerInterfaceTree.get rifId = some rif → s.routerInterfaceTree.get other = some node →
        other ≠ rifId → ¬ RifAlike { rif with srcMac := mac } node
  | _ => True

section Trees
variable {p : Platform} {s : FibState}

theorem RifAlike.symm {other : Rif} (alike : RifAlike rif other) : RifAlike other rif :=
  ⟨alike.1.symm, alike.2.1.symm, alike.2.2.symm⟩

theorem RifsUnique.sameRifs (unique : RifsUnique s)
    (same : t.routerInterfaceTree = s.routerInterfaceTree) : RifsUnique t := by
  unfold RifsUnique
  rw [same]
  exact unique

theorem RifsUnique.put (unique : RifsUnique s) (stored : t.routerInterfaceTree = s.routerInterfaceTree.put rifId rif)
    (new : ∀ other node, s.routerInterfaceTree.get other = some node → other ≠ rifId → ¬ RifAlike rif node) :
    RifsUnique t := by
  intro one two first second atOne atTwo alike
  rw [stored, KeyTree.get_put] at atOne atTwo
  by_cases isOne : one = rifId
  · by_cases isTwo : two = rifId
    · rw [isOne, isTwo]
    rw [if_pos isOne] at atOne
    rw [if_neg isTwo] at atTwo
    cases atOne
    exact absurd alike (new two second atTwo isTwo)
  · rw [if_neg isOne] at atOne
    by_cases isTwo : two = rifId
    · rw [if_pos isTwo] at atTwo
      cases atTwo
      exact absurd alike.symm (new one first atOne isOne)
    · rw [if_neg isTwo] at atTwo
      exact unique one two first second atOne atTwo alike

theorem RifsUnique.del (unique : RifsUnique s)
    (removed : t.routerInterfaceTree = s.routerInterfaceTree.del rifId) : RifsUnique t := by
  have before : ∀ {other node}, t.routerInterfaceTree.get other = some node →
      s.routerInterfaceTree.get other = some node := by
    intro other node found
    rw [removed, KeyTree.get_del] at found
    split at found
    · cases found
    · exact found
  exact fun one two first second atOne atTwo => unique one two first second (before atOne) (before atTwo)

theorem fibRifAttributesParse_new {defaults : RifDefaults} {attrs : List RifAttr} {env : RifCreateEnv}
    (parsed : fibRifAttributesParse p s defaults attrs env = .ok rif) {other : ObjectId}
    (stored : s.routerInterfaceTree.get other = some node) : ¬ RifAlike rif node := by
  intro alike
  have single : fibRifIsDuplicate s rif = false := by
    unfold fibRifAttributesParse at parsed
    dsimp only at parsed
    split at parsed
    · cases parsed
    split at parsed
    · cases parsed
    split at parsed
    · cases parsed
    rename_i single
    cases parsed
    exact Bool.eq_false_iff.mpr single
  unfold fibRifIsDuplicate at single
  exact of_decide_eq_false single (Nat.pos_iff_ne_zero.mp (KeyTree.tally_pos stored (decide_eq_true alike)))

theorem fibVirtualRouterCreate_rifs (defaults : VrfDefaults) (attrs : List VrfAttr) (env : VrfCreateEnv) :
    (fibVirtualRouterCreate p s defaults attrs env).1.routerInterfaceTree = s.routerInterfaceTree := by
  unfold fibVirtualRouterCreate
  split
  · rfl
  split
  · rfl
  split
  · rfl
  split
  · dsimp only
    split
    · rfl
    split
    · rfl
    · rfl
  · rfl

theorem fibVirtualRouterRemove_rifs (vrId : ObjectId) (npu : SaiStatus) :
    (fibVirtualRouterRemove s vrId npu).1.routerInterfaceTree = s.routerInterfaceTree := by
  unfold fibVirtualRouterRemove
  split
  · rfl
  split
  · rfl
  split
  · rfl
  split
  · rfl
  split
  · rfl
  split
  · rfl
  · rfl

theorem fibVirtualRouterAttributeSet_rifs (vrId : ObjectId) (attr : VrfAttr) (validate npu : SaiStatus) :
    (fibVirtualRouterAttributeSet p s vrId attr validate npu).1.routerInterfaceTree = s.routerInterfaceTree := by
  unfold fibVirtualRouterAttributeSet
  split
  · rfl
  split
  · rfl
  split
  · rfl
  split
  · rfl
  · rfl

theorem fibRouterInterfaceAttributeSet_cases (rifId : ObjectId) (attr : RifAttr) (validate npu : SaiStatus) :
    (fibRouterInterfaceAttributeSet s rifId attr validate npu).1 = s ∨
      ∃ rif next, validate = .success ∧ npu = .success ∧ s.routerInterfaceTree.get rifId = some rif ∧
        fibRifOptionalAttrSet rif attr = .ok next ∧
        (fibRouterInterfaceAttributeSet s rifId attr validate npu).1.routerInterfaceTree =
          s.routerInterfaceTree.put rifId next := by
  unfold fibRouterInterfaceAttributeSet
  split
  · exact .inl rfl
  split
  · exact .inl rfl
  rename_i rif stored
  split
  · exact .inl rfl
  split
  · split
    · exact .inl rfl
    rename_i next parsed
    split
    · exact .inl rfl
    split
    · exact .inr ⟨rif, next, rfl, rfl, stored, parsed, rfl⟩
    · exact .inl rfl
  · exact .inl rfl

theorem fibRifOptionalAttrSet_alike {next : Rif} {attr : RifAttr}
    (parsed : fibRifOptionalAttrSet rif attr = .ok next) (alike : RifAlike next node) :
    RifAlike rif node ∨ ∃ mac, attr = .srcMacAddress mac ∧ RifAlike { rif with srcMac := mac } node := by
  cases attr with
  | srcMacAddress mac =>
    have parsed : (if mac = 0 then .error (.invalidAttrValue 0) else .ok { rif with srcMac := mac }) =
        (.ok next : Except SaiStatus Rif) := parsed
    split at parsed
    · cases parsed
    · cases parsed
      exact .inr ⟨mac, rfl, alike⟩
  | adminV4State state =>
    cases parsed
    exact .inl alike
  | adminV6State state =>
    cases parsed
    exact .inl alike
  | mtu mtu =>
    cases parsed
    exact .inl alike
  | _ => cases parsed

theorem RifCall.step_unique (unique : RifsUnique s) (call : RifCall) (spares : call.spares s) :
    RifsUnique (call.step p s) := by
  cases call with
  | virtualRouterCreate defaults attrs env => exact unique.sameRifs (fibVirtualRouterCreate_rifs defaults attrs env)
  | virtualRouterRemove vrId npu => exact unique.sameRifs (fibVirtualRouterRemove_rifs vrId npu)
  | virtualRouterAttributeSet vrId attr validate npu =>
    exact unique.sameRifs (fibVirtualRouterAttributeSet_rifs vrId attr validate npu)
  | create defaults attrs env =>
    rcases fibRouterInterfaceCreate_cases p s defaults attrs env with same | ⟨rifId, rif, parsed, _, _, rifs, _⟩
    · exact unique.sameRifs same.rifs
    · exact unique.put rifs fun other node stored _ => fibRifAttributesParse_new parsed stored
  | remove rifId npu =>
    rcases fibRouterInterfaceRemove_cases s rifId npu with same | ⟨rif, _, _, _, rifs, _⟩
    · exact unique.sameRifs same.rifs
    · exact unique.del rifs
  | attributeSet rifId attr validate npu =>
    have moved := @fibRouterInterfaceAttributeSet_cases s rifId attr validate npu
    rcases moved with same | ⟨rif, next, validated, done, stored, parsed, rifs⟩
    · exact unique.sameRifs (congrArg FibState.routerInterfaceTree same)
    refine unique.put rifs fun other node found apart alike => ?_
    rcases fibRifOptionalAttrSet_alike parsed alike with before | ⟨mac, rfl, alike⟩
    · exact apart (unique other rifId node rif found stored before.symm)
    · exact spares validated done rif other node stored found apart alike

end Trees

/-- Router interfaces stay unique, in every run whose MAC sets do not give one the MAC
of another on the same attachment. -/
theorem rifs_unique (p : Platform) {s : FibState}
    (reach : Runs.Reach (fun s => s.routerInterfaceTree = ∅) (Runs.guarded RifCall.spares (RifCall.step p)) s) :
    RifsUnique s := by
  refine reach.invariant RifsUnique (fun s empty => ?_) ?_
  · intro rifId _ rif _ stored
    rw [empty] at stored
    cases stored
  · rintro s call t unique ⟨spares, rfl⟩
    exact RifCall.step_unique unique call spares

section Sample

def rifSampleVrf : RifCall :=
  .virtualRouterCreate ⟨true, true, .forward, .forward⟩ [] ⟨true, fun _ => .success, .success, 1, true, true⟩

def rifSampleCreate (mac : Mac) (npuObjectId : Nat) : RifCall :=
  .create ⟨true, true, 1500, .forward⟩
    [.virtualRouterId ⟨.virtualRouter, 1⟩, .srcMacAddress mac, .type .port, .portId ⟨.port, 1⟩]
    ⟨true, fun _ => true, fun _ => .success, .success, npuObjectId, true⟩

def rifSampleMac (mac : Mac) : RifCall :=
  .attributeSet ⟨.routerInterface, 2⟩ (.srcMacAddress mac) .success .success

def rifSampleRun (mac : Mac) : List RifCall :=
  [rifSampleVrf, rifSampleCreate 7 1, rifSampleCreate 8 2, rifSampleMac mac]

/-- The second of two router interfaces on a port gets a third MAC. -/
theorem rifSampleRun_unique : RifsUnique ((rifSampleRun 9).foldl (RifCall.step fibSamplePlatform) fibSample) := by
  refine rifs_unique fibSamplePlatform (Runs.Reach.run (.start rfl) ⟨trivial, trivial, trivial, ?_, trivial⟩)
  rintro - - rif other node stored found apart ⟨-, -, sameMac⟩
  have tree : ([rifSampleVrf, rifSampleCreate 7 1, rifSampleCreate 8 2].foldl (RifCall.step fibSamplePlatform)
      fibSample).routerInterfaceTree = ((∅ : KeyTree ObjectId Rif).put ⟨.routerInterface, 1⟩
        ⟨⟨.virtualRouter, 1⟩, .port, .port ⟨.port, 1⟩, 7, true, true, 1500, .forward, 0⟩).put
        ⟨.routerInterface, 2⟩
        ⟨⟨.virtualRouter, 1⟩, .port, .port ⟨.port, 1⟩, 8, true, true, 1500, .forward, 0⟩ := rfl
  have found : ([rifSampleVrf, rifSampleCreate 7 1, rifSampleCreate 8 2].foldl (RifCall.step fibSamplePlatform)
      fibSample).routerInterfaceTree.get other = some node := found
  rw [tree, KeyTree.get_put, if_neg apart, KeyTree.get_put] at found
  split at found
  · cases found
    have macs : (9 : Mac) = 7 := sameMac
    revert macs
    decide
  · cases found

/-- It gets the MAC of the first. -/
theorem rifs_not_unique : ¬ RifsUnique ((rifSampleRun 7).foldl (RifCall.step fibSamplePlatform) fibSample) := by
  intro unique
  have same := unique ⟨.routerInterface, 1⟩ ⟨.routerInterface, 2⟩ _ _ rfl rfl ⟨rfl, rfl, rfl⟩
  revert same
  decide

end Sample

end SaiCommon
