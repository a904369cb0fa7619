import SaiCommon.Fib.Attachments
import SaiCommon.Fib.RefCount

namespace SaiCommon

variable {fib : FibState} {rifId : ObjectId} {node rif : Rif} {attr : RifAttr} {env : VlanDeleteEnv}
  {next parse : RifParse} {vlanId : BitVec 16}

section Modes
variable {s t u : FibState}

/-- A step that only the modes of ports see. -/
def FibModesOnly (s t : FibState) : Prop := ∃ ports, t = { s with portTree := ports }

theorem FibModesOnly.refl (s : FibState) : FibModesOnly s s := ⟨s.portTree, rfl⟩

theorem FibModesOnly.trans (first : FibModesOnly s t) (second : FibModesOnly t u) : FibModesOnly s u := by
  obtain ⟨_, rfl⟩ := first
  obtain ⟨ports, rfl⟩ := second
  exact ⟨ports, rfl⟩

theorem portRoutingModeUpdate_modes (isSet : Bool) (s : FibState) (portId : ObjectId) :
    FibModesOnly s (portRoutingModeUpdate isSet s portId).1 := by
  unfold portRoutingModeUpdate portRoutingModeSet portRoutingModeReset
  split
  · split
    · exact .refl s
    · exact .refl s
    · exact ⟨_, rfl⟩
    · exact .refl s
  · split
    · exact .refl s
    · exact .refl s
    · exact ⟨_, rfl⟩

theorem portListRoutingModeUndo_modes (isSet : Bool) (ports : List ObjectId) :
    ∀ s, FibModesOnly s (portListRoutingModeUndo isSet s ports) := by
  induction ports with
  | nil => exact .refl
  | cons portId rest ih => exact fun s => (portRoutingModeUpdate_modes _ s portId).trans (ih _)

theorem portListRoutingModeLoop_modes (isSet : Bool) (ports : List ObjectId) :
    ∀ s done, FibModesOnly s (portListRoutingModeLoop isSet s done ports).1 := by
  induction ports with
  | nil => exact fun s _ => .refl s
  | cons portId rest ih =>
    intro s done
    have moved := portRoutingModeUpdate_modes isSet s portId
    unfold portListRoutingModeLoop
    split
    · rename_i t set
      rw [set] at moved
      exact moved.trans (ih t _)
    · rename_i t error _ failed
      rw [failed] at moved
      exact moved.trans (portListRoutingModeUndo_modes isSet done t)

theorem fibRifRoutingConfigUpdate_modes (s : FibState) (rif : Rif) (isSet : Bool) :
    FibModesOnly s (fibRifRoutingConfigUpdate s rif isSet).1 := by
  unfold fibRifRoutingConfigUpdate
  split
  · exact .refl s
  simp only
  split
  · split
    · exact .refl s
    split
    · exact .refl s
    · exact portListRoutingModeLoop_modes isSet _ s []
  · exact portListRoutingModeLoop_modes isSet _ s []

end Modes

section Parse
variable {p : Platform} {s : FibState} {created : BitVec 16 → Bool}

structure RifAttached (s : FibState) (created : BitVec 16 → Bool) (rif : Rif) : Prop where
  vlan : rif.rifType = .vlan → created rif.attachment.vlanId = true
  lag : fibRifIsAttachmentLag rif = true → isLagCreated s rif.attachment.portId = true

/-- The flags of the loop over the attributes say which arm of the union is
filled, and that what it names has been looked up. -/
structure RifParse.Tracked (s : FibState) (created : BitVec 16 → Bool) (parse : RifParse) : Prop where
  type : parse.type = parse.node.rifType
  known : parse.node.rifType = .none ∨ parse.node.rifType = .port ∨ parse.node.rifType = .vlan
  port : parse.isPortSet = true → parse.isVlanSet = false ∧ parse.node.rifType ≠ .vlan ∧
    ∃ portId, parse.node.attachment = .port portId ∧ (portId.objType = .lag → isLagCreated s portId = true)
  vlan : parse.isVlanSet = true → parse.node.rifType ≠ .port ∧
    ∃ vlanId, parse.node.attachment = .vlan vlanId ∧ created vlanId = true

theorem fibRifOptionalAttrSet_attachment {next : Rif} (run : fibRifOptionalAttrSet node attr = .ok next) :
    next.rifType = node.rifType ∧ next.attachment = node.attachment := by
  cases attr with
  | srcMacAddress mac =>
    simp only [fibRifOptionalAttrSet] at run
    split at run <;> cases run
    exact ⟨rfl, rfl⟩
  | adminV4State state =>
    cases run
    exact ⟨rfl, rfl⟩
  | adminV6State state =>
    cases run
    exact ⟨rfl, rfl⟩
  | mtu mtu =>
    cases run
    exact ⟨rfl, rfl⟩
  | virtualRouterId vrId => cases run
  | type rifType => cases run
  | portId portId => cases run
  | vlanId vlanId => cases run
  | other => cases run

section
variable (tracked : parse.Tracked s created)
include tracked

theorem RifParse.Tracked.optional
    (same : node.rifType = parse.node.rifType ∧ node.attachment = parse.node.attachment) :
    (({ parse with node := node } : RifParse).flag attr).Tracked s created := by
  have kept : ({ parse with node := node } : RifParse).Tracked s created := by
    obtain ⟨type, known, port, vlan⟩ := tracked
    rw [← same.1] at type known port vlan
    rw [← same.2] at port vlan
    exact ⟨type, known, port, vlan⟩
  obtain ⟨type, known, port, vlan⟩ := kept
  cases attr <;> exact ⟨type, known, port, vlan⟩

theorem RifParse.Tracked.virtualRouterId {vrId : ObjectId}
    (run : fibRifAttributeParse p s created parse (.virtualRouterId vrId) = .ok next) : next.Tracked s created := by
  simp only [fibRifAttributeParse, fibRifIsAttrMandatoryForCreate, if_true, fibRifCreateAttrValidate,
    fibRifCreateAttrSet, fibRifVrfAttrSet] at run
  split at run
  · cases run
  rename_i node set
  split at set
  · cases set
  split at set <;> cases set
  cases run
  exact ⟨rfl, tracked.known, tracked.port, tracked.vlan⟩

theorem RifParse.Tracked.setType {rifType : RifType}
    (run : fibRifAttributeParse p s created parse (.type rifType) = .ok next) : next.Tracked s created := by
  simp only [fibRifAttributeParse, fibRifIsAttrMandatoryForCreate, if_true, fibRifCreateAttrValidate,
    fibRifCreateAttrSet, fibRifTypeAttrSet, fibIsRifTypeValid, Bool.or_eq_true, decide_eq_true_eq] at run
  split at run
  · cases run
  rename_i valid validated
  split at validated
  · cases validated
  rename_i allowed
  cases validated
  push Not at allowed
  split at run
  · cases run
  rename_i node set
  split at set
  · rename_i known
    cases set
    cases run
    refine ⟨rfl, .inr known, fun portSet => ?_, fun vlanSet => ?_⟩
    · obtain ⟨noVlan, _, attached⟩ := tracked.port portSet
      exact ⟨noVlan, allowed.1 portSet, attached⟩
    · exact ⟨allowed.2 vlanSet, (tracked.vlan vlanSet).2⟩
  · cases set

theorem RifParse.Tracked.setPort {portId : ObjectId}
    (run : fibRifAttributeParse p s created parse (.portId portId) = .ok next) : next.Tracked s created := by
  simp only [fibRifAttributeParse, fibRifIsAttrMandatoryForCreate, if_true, fibRifCreateAttrValidate,
    fibRifCreateAttrSet, fibRifPortIdSet] at run
  split at run
  · cases run
  rename_i valid validated
  split at validated
  · cases validated
  rename_i free
  cases validated
  push Not at free
  split at run
  · cases run
  rename_i node set
  split at set
  · cases set
  split at set
  · cases set
  rename_i there
  cases set
  cases run
  push Not at there
  refine ⟨rfl, tracked.known, fun _ => ?_, fun vlanSet => ?_⟩
  · refine ⟨Bool.eq_false_iff.mpr free.1, free.2, portId, rfl, fun isLag => ?_⟩
    exact Bool.eq_true_of_not_eq_false (there.1 isLag)
  · exact absurd vlanSet free.1

theorem RifParse.Tracked.setVlan
    (run : fibRifAttributeParse p s created parse (.vlanId vlanId) = .ok next) : next.Tracked s created := by
  simp only [fibRifAttributeParse, fibRifIsAttrMandatoryForCreate, if_true, fibRifCreateAttrValidate,
    fibRifCreateAttrSet, fibRifVlanIdSet] at run
  split at run
  · cases run
  rename_i valid validated
  split at validated
  · cases validated
  rename_i free
  cases validated
  push Not at free
  split at run
  · cases run
  rename_i node set
  split at set
  · cases set
  split at set
  · cases set
  rename_i there
  cases set
  cases run
  exact ⟨rfl, tracked.known, fun portSet => absurd portSet free.1,
    fun _ => ⟨free.2, vlanId, rfl, Bool.eq_true_of_not_eq_false there⟩⟩

theorem RifParse.Tracked.attribute
    (run : fibRifAttributeParse p s created parse attr = .ok next) : next.Tracked s created := by
  have noted : fibRifIsAttrMandatoryForCreate attr = false → next.Tracked s created := by
    intro optional
    simp only [fibRifAttributeParse, optional, Bool.false_eq_true, if_false] at run
    split at run
    · cases run
    rename_i node set
    cases run
    exact tracked.optional (fibRifOptionalAttrSet_attachment set)
  cases attr with
  | virtualRouterId vrId => exact tracked.virtualRouterId run
  | type rifType => exact tracked.setType run
  | portId portId => exact tracked.setPort run
  | vlanId vlanId => exact tracked.setVlan run
  | srcMacAddress mac => exact noted rfl
  | adminV4State state => exact noted rfl
  | adminV6State state => exact noted rfl
  | mtu mtu => exact noted rfl
  | other => exact noted rfl

end

theorem RifParse.Tracked.loop {env : RifCreateEnv} (attrs : List RifAttr) :
    ∀ (listIdx : Nat) (parse parsed : RifParse), parse.Tracked s env.vlanCreated →
      fibRifAttributesLoop p s env attrs listIdx parse = .ok parsed → parsed.Tracked s env.vlanCreated := by
  induction attrs with
  | nil =>
    intro listIdx parse parsed tracked run
    cases run
    exact tracked
  | cons attr rest ih =>
    intro listIdx parse parsed tracked run
    unfold fibRifAttributesLoop at run
    split at run
    · cases run
    rename_i next set
    split at run
    · exact ih _ _ _ (tracked.attribute set) run
    · cases run

theorem RifParse.Tracked.attached (tracked : parse.Tracked s created)
    (named : ¬ (parse.isPortSet = false ∧ parse.isVlanSet = false)) : RifAttached s created parse.node := by
  have filled : parse.isPortSet = true ∨ parse.isVlanSet = true := by
    cases portSet : parse.isPortSet with
    | true => exact .inl rfl
    | false =>
      refine .inr (Bool.eq_true_of_not_eq_false fun noVlan => named ⟨portSet, noVlan⟩)
  constructor
  · intro onVlan
    rcases filled with portSet | vlanSet
    · exact absurd onVlan (tracked.port portSet).2.1
    obtain ⟨_, vlanId, same, there⟩ := tracked.vlan vlanSet
    rw [same]
    exact there
  · intro onLag
    obtain ⟨onPort, isLag⟩ := Bool.and_eq_true_iff.mp onLag
    rcases filled with portSet | vlanSet
    · obtain ⟨_, _, portId, same, there⟩ := tracked.port portSet
      rw [same] at isLag ⊢
      exact there (of_decide_eq_true isLag)
    · exact absurd (of_decide_eq_true onPort) (tracked.vlan vlanSet).1

theorem fibRifAttributesParse_attached {defaults : RifDefaults} {attrs : List RifAttr} {env : RifCreateEnv}
    (run : fibRifAttributesParse p s defaults attrs env = .ok rif) :
    RifAttached s env.vlanCreated rif := by
  unfold fibRifAttributesParse at run
  simp only at run
  split at run
  · cases run
  rename_i parse loop
  have begun : (⟨fibRifAttributesInit p defaults, false, false, false, .none, false, false, false⟩ :
      RifParse).Tracked s env.vlanCreated := by
    refine ⟨rfl, .inl rfl, ?_, ?_⟩
    · exact fun unset => (by cases unset)
    · exact fun unset => (by cases unset)
  have tracked := RifParse.Tracked.loop attrs _ _ _ begun loop
  split at run
  · cases run
  rename_i complete
  push Not at complete
  have attached := tracked.attached fun missing => complete.1 missing.1 missing.2
  split at run
  · cases run
  cases run
  unfold fibRifInheritVrfAttributes
  split
  · exact attached
  · exact ⟨attached.vlan, attached.lag⟩

end Parse

section RouterInterface
variable {p : Platform} {s t : FibState}

structure SameAttachments (s t : FibState) : Prop where
  rifs : t.routerInterfaceTree = s.routerInterfaceTree
  lags : t.lagTree = s.lagTree

theorem SameAttachments.refl (s : FibState) : SameAttachments s s := ⟨rfl, rfl⟩

theorem SameAttachments.trans {u : FibState} (first : SameAttachments s t) (second : SameAttachments t u) :
    SameAttachments s u :=
  ⟨second.rifs.trans first.rifs, second.lags.trans first.lags⟩

theorem FibModesOnly.attachments (modes : FibModesOnly s t) : SameAttachments s t := by
  obtain ⟨_, rfl⟩ := modes
  exact ⟨rfl, rfl⟩

theorem fibRifRoutingConfigUpdate_attachments (s : FibState) (rif : Rif) (isSet : Bool) :
    SameAttachments s (fibRifRoutingConfigUpdate s rif isSet).1 :=
  (fibRifRoutingConfigUpdate_modes s rif isSet).attachments

theorem fibVrfRifListUpdate_attachments (s : FibState) (vrfId : ObjectId) (isAdd : Bool) :
    SameAttachments s (fibVrfRifListUpdate s vrfId isAdd).1 := by
  unfold fibVrfRifListUpdate
  split
  · exact .refl s
  · exact ⟨rfl, rfl⟩

def rifIdWritten (s : FibState) (rif : Rif) (rifId : ObjectId) : KeyTree ObjectId Lag :=
  if fibRifIsAttachmentLag rif then
    s.lagTree.modify rif.attachment.portId fun lag => { lag with rifId := rifId }
  else s.lagTree

/-- What a RIF create leaves: nothing new, or the parsed router interface under a new id. -/
theorem fibRouterInterfaceCreate_cases (p : Platform) (s : FibState) (defaults : RifDefaults)
    (attrs : List RifAttr) (env : RifCreateEnv) :
    SameAttachments s (fibRouterInterfaceCreate p s defaults attrs env).1 ∨
      ∃ rifId rif, fibRifAttributesParse p s defaults attrs env = .ok rif ∧ rifId.objType = .routerInterface ∧
        s.routerInterfaceTree.get rifId = none ∧
        (fibRouterInterfaceCreate p s defaults attrs env).1.routerInterfaceTree =
        s.routerInterfaceTree.put rifId rif ∧
        (fibRouterInterfaceCreate p s defaults attrs env).1.lagTree = rifIdWritten s rif rifId := by
  rcases fibRouterInterfaceCreate_ends p s defaults attrs env with same | ⟨rif, set, rfl, ends⟩
  · rw [same]
    exact .inl (.refl s)
  have routed := fibRifRoutingConfigUpdate_attachments s rif true
  rcases ends with same | same | ⟨parsed, node, rifId, t, _, absent, kind, rfl, same⟩
  · rw [same]
    exact .inl routed
  · rw [same]
    exact .inl (routed.trans (fibRifRoutingConfigUpdate_attachments _ rif false))
  · rw [same]
    refine .inr ⟨rifId, rif, parsed, kind, routed.rifs ▸ absent, ?_, ?_⟩
    · rw [← routed.rifs]
      split <;> rfl
    · unfold rifIdWritten
      rw [← routed.lags]
      split <;> rfl

theorem fibRouterInterfaceRemove_cases (s : FibState) (rifId : ObjectId) (npu : SaiStatus) :
    SameAttachments s (fibRouterInterfaceRemove s rifId npu).1 ∨
      ∃ rif, s.routerInterfaceTree.get rifId = some rif ∧ rif.refCount = 0 ∧ npu = .success ∧
        (fibRouterInterfaceRemove s rifId npu).1.routerInterfaceTree = s.routerInterfaceTree.del rifId ∧
        (fibRouterInterfaceRemove s rifId npu).1.lagTree = rifIdWritten s rif nullObjectId := by
  unfold fibRouterInterfaceRemove
  split
  · exact .inl (.refl s)
  split
  · exact .inl (.refl s)
  rename_i rif stored
  split
  · exact .inl (.refl s)
  rename_i unused
  split
  · have listed := fibVrfRifListUpdate_attachments s rif.vrfId false
    refine .inr ⟨rif, stored, not_not.mp unused, rfl, ?_, ?_⟩
    · rw [← listed.rifs]
      split
      · exact (fibRifRoutingConfigUpdate_attachments _ rif false).rifs
      · exact (fibRifRoutingConfigUpdate_attachments _ rif false).rifs
    · unfold rifIdWritten
      rw [← listed.lags]
      have routed := (fibRifRoutingConfigUpdate_attachments
        { (fibVrfRifListUpdate s rif.vrfId false).1 with
          routerInterfaceTree := (fibVrfRifListUpdate s rif.vrfId false).1.routerInterfaceTree.del rifId }
        rif false).lags
      split
      · exact congrArg (fun lags : KeyTree ObjectId Lag =>
          lags.modify rif.attachment.portId fun lag => { lag with rifId := nullObjectId }) routed
      · exact routed
  · exact .inl (.refl s)

end RouterInterface

section Lags
variable {s t : FibState} {lagId : ObjectId}

structure OtherLags (lagId : ObjectId) (s t : FibState) : Prop where
  rifs : t.routerInterfaceTree = s.routerInterfaceTree
  others : ∀ other, other ≠ lagId → t.lagTree.get other = s.lagTree.get other

theorem OtherLags.refl (lagId : ObjectId) (s : FibState) : OtherLags lagId s s := ⟨rfl, fun _ _ => rfl⟩

theorem OtherLags.trans {u : FibState} (first : OtherLags lagId s t) (second : OtherLags lagId t u) :
    OtherLags lagId s u :=
  ⟨second.rifs.trans first.rifs, fun other apart => (second.others other apart).trans (first.others other apart)⟩

theorem otherLags_modify (s : FibState) (lagId : ObjectId) (f : Lag → Lag) :
    OtherLags lagId s { s with lagTree := s.lagTree.modify lagId f } :=
  ⟨rfl, fun _ apart => KeyTree.get_modify_ne apart⟩

theorem FibState.lagNodeAdd_others (s : FibState) (lagId : ObjectId) (status : SaiStatus) :
    OtherLags lagId s (s.lagNodeAdd lagId status).1 := by
  unfold FibState.lagNodeAdd
  split
  · exact ⟨rfl, fun _ apart => KeyTree.get_put_ne apart⟩
  · exact .refl lagId s

theorem FibState.lagNodeRemove_others (s : FibState) (lagId : ObjectId) :
    OtherLags lagId s (s.lagNodeRemove lagId).1 := by
  unfold FibState.lagNodeRemove
  split
  · exact ⟨rfl, fun _ apart => KeyTree.get_del_ne apart⟩
  · exact .refl lagId s

theorem FibState.removeAllLagPorts_others (s : FibState) (lagId : ObjectId) (npuRemove : SaiStatus) :
    OtherLags lagId s (s.removeAllLagPorts lagId npuRemove).1 := by
  unfold FibState.removeAllLagPorts
  split
  · exact .refl lagId s
  split
  · exact .refl lagId s
  split
  · exact otherLags_modify s lagId _
  · exact .refl lagId s

theorem FibState.lagPortListLoop_others (nodeAdd : ObjectId → SaiStatus) (ports : List ObjectId) :
    ∀ s nonDup, OtherLags lagId s (lagPortListLoop lagId nodeAdd s nonDup ports).1 := by
  induction ports with
  | nil => exact fun s _ => .refl lagId s
  | cons port rest ih =>
    intro s nonDup
    unfold lagPortListLoop
    split
    · exact .refl lagId s
    split
    · exact ih s nonDup
    split
    · exact (otherLags_modify s lagId _).trans (ih _ _)
    · exact .refl lagId s

theorem FibState.removeLagPortNodes_others (ports : List ObjectId) :
    ∀ s : FibState, OtherLags lagId s (s.removeLagPortNodes lagId ports) := by
  induction ports with
  | nil => exact .refl lagId
  | cons port rest ih => exact fun s => (otherLags_modify s lagId _).trans (ih _)

theorem FibState.lagPortListSet_others (s : FibState) (lagId : ObjectId) (ports : List ObjectId)
    (env : LagPortListEnv) : OtherLags lagId s (s.lagPortListSet lagId ports env).1 := by
  unfold FibState.lagPortListSet
  split
  · exact .refl lagId s
  split
  · exact .refl lagId s
  have emptied := s.removeAllLagPorts_others lagId env.npuRemove
  split
  · rename_i t removed
    rw [removed] at emptied
    have looped : OtherLags lagId t (lagPortListLoop lagId env.nodeAdd t [] ports).1 :=
      lagPortListLoop_others env.nodeAdd ports t []
    split
    · rename_i u nonDup added
      rw [added] at looped
      split
      · exact emptied.trans looped
      · exact (emptied.trans looped).trans (removeLagPortNodes_others nonDup u)
    · rename_i u nonDup error _ failed
      rw [failed] at looped
      exact (emptied.trans looped).trans (removeLagPortNodes_others nonDup u)
  · rename_i t error _ failed
    rw [failed] at emptied
    exact emptied

theorem FibState.createLagLoop_others {portList : Nat → LagPortListEnv} (attrs : List LagAttr) :
    ∀ s index ret, OtherLags lagId s (createLagLoop s lagId portList index ret attrs).1 := by
  induction attrs with
  | nil => exact fun s _ _ => .refl lagId s
  | cons attr rest ih =>
    intro s index ret
    cases attr with
    | portList ports =>
      have set := s.lagPortListSet_others lagId ports (portList index)
      unfold createLagLoop
      split
      · rename_i t done
        rw [done] at set
        exact set.trans (ih t _ _)
      · rename_i t error _ failed
        rw [failed] at set
        exact set
    | unknown => exact .refl lagId s

theorem FibState.createLag_kept (s : FibState) (attrs : List LagAttr) (env : LagCreateEnv) :
    (s.createLag attrs env).1.routerInterfaceTree = s.routerInterfaceTree ∧
      ∀ other lag, s.lagTree.get other = some lag → (s.createLag attrs env).1.lagTree.get other = some lag := by
  unfold FibState.createLag
  split
  · exact ⟨rfl, fun _ _ there => there⟩
  rename_i lagId _
  split
  · exact ⟨rfl, fun _ _ there => there⟩
  rename_i new
  have apart : ∀ other lag, s.lagTree.get other = some lag → other ≠ lagId := by
    intro other lag there same
    refine new ?_
    unfold isLagCreated
    rw [← same, there, Option.isSome_some]
  have added := s.lagNodeAdd_others lagId env.nodeAdd
  split
  rename_i t status node
  rw [node] at added
  have looped : OtherLags lagId t (createLagLoop t lagId env.portList 0 status attrs).1 :=
    createLagLoop_others attrs t 0 status
  split
  · rename_i u done
    rw [done] at looped
    have whole := added.trans looped
    exact ⟨whole.rifs, fun other lag there => (whole.others other (apart other lag there)).trans there⟩
  · rename_i u error _ failed
    rw [failed] at looped
    have emptied := (added.trans looped).trans (otherLags_modify u lagId fun lag => { lag with members := [] })
    have whole := emptied.trans (FibState.lagNodeRemove_others (u.removeAllLagPortNodes lagId) lagId)
    exact ⟨whole.rifs, fun other lag there => (whole.others other (apart other lag there)).trans there⟩

theorem FibState.removeLag_cases (s : FibState) (lagId : ObjectId) (npu : SaiStatus) :
    (s.removeLag lagId npu).1 = s ∧ (s.removeLag lagId npu).2 ≠ .success ∨
      ∃ lag, s.lagTree.get lagId = some lag ∧ lag.rifId.objType ≠ .routerInterface ∧
        OtherLags lagId s (s.removeLag lagId npu).1 := by
  unfold FibState.removeLag
  split
  · exact .inl ⟨rfl, fun same => (by cases same)⟩
  rename_i lag there
  split
  · exact .inl ⟨rfl, fun same => (by cases same)⟩
  rename_i free
  have gone := (otherLags_modify s lagId fun lag => { lag with members := [] }).trans
    (FibState.lagNodeRemove_others (s.removeAllLagPortNodes lagId) lagId)
  refine .inr ⟨lag, there, free, ?_⟩
  split
  · rename_i t removed
    rw [removed] at gone
    split
    · exact gone
    · exact gone.trans (t.lagNodeAdd_others lagId .success)
  · rename_i t error _ failed
    rw [failed] at gone
    exact gone

end Lags

namespace AttachState
variable {platform : AttachPlatform} {s t : AttachState}

def VlanInUse (s : AttachState) (vlanId : BitVec 16) : Prop :=
  ∃ rifId rif, s.fib.routerInterfaceTree.get rifId = some rif ∧ rif.rifType = .vlan ∧
    rif.attachment.vlanId = vlanId

def LagInUse (s : AttachState) (lagId : ObjectId) : Prop :=
  ∃ rifId rif, s.fib.routerInterfaceTree.get rifId = some rif ∧ fibRifIsAttachmentLag rif = true ∧
    rif.attachment.portId = lagId

/-- No router interface outlives what it is attached to. -/
structure RifsAttached (s : AttachState) : Prop where
  vlan : ∀ vlanId, s.VlanInUse vlanId → vlanId ∈ s.vlanList
  lag : ∀ lagId, s.LagInUse lagId → isLagCreated s.fib lagId = true

/-- A LAG that is in use is there and its one RIF id says that it is. -/
structure RifsKept (s : AttachState) : Prop where
  vlan : ∀ vlanId, s.VlanInUse vlanId → vlanId ∈ s.vlanList
  lag : ∀ lagId, s.LagInUse lagId →
    ∃ lag, s.fib.lagTree.get lagId = some lag ∧ lag.rifId.objType = .routerInterface

theorem RifsKept.attached (kept : s.RifsKept) : s.RifsAttached where
  vlan := kept.vlan
  lag lagId inUse := by
    obtain ⟨lag, there, _⟩ := kept.lag lagId inUse
    unfold isLagCreated
    rw [there, Option.isSome_some]

theorem VlanInUse.of_rifs (same : t.fib.routerInterfaceTree = s.fib.routerInterfaceTree)
    (inUse : t.VlanInUse vlanId) : s.VlanInUse vlanId := by
  unfold VlanInUse at inUse ⊢
  rwa [same] at inUse

theorem LagInUse.of_rifs {lagId : ObjectId} (same : t.fib.routerInterfaceTree = s.fib.routerInterfaceTree)
    (inUse : t.LagInUse lagId) : s.LagInUse lagId := by
  unfold LagInUse at inUse ⊢
  rwa [same] at inUse

theorem RifsKept.sameRifs (kept : s.RifsKept) (same : t.fib.routerInterfaceTree = s.fib.routerInterfaceTree)
    (vlans : ∀ vlanId, s.VlanInUse vlanId → vlanId ∈ s.vlanList → vlanId ∈ t.vlanList)
    (lags : ∀ lagId lag, s.LagInUse lagId → lag.rifId.objType = .routerInterface →
      s.fib.lagTree.get lagId = some lag → t.fib.lagTree.get lagId = some lag) : t.RifsKept where
  vlan vlanId inUse := vlans vlanId (inUse.of_rifs same) (kept.vlan vlanId (inUse.of_rifs same))
  lag lagId inUse := by
    obtain ⟨lag, there, isRif⟩ := kept.lag lagId (inUse.of_rifs same)
    exact ⟨lag, lags lagId lag (inUse.of_rifs same) isRif there, isRif⟩

theorem RifsKept.sameAttachments (kept : s.RifsKept) (same : SameAttachments s.fib fib) :
    ({ s with fib := fib } : AttachState).RifsKept :=
  kept.sameRifs same.rifs (fun _ _ there => there) fun lagId lag _ _ there => by rw [same.lags, there]

theorem RifsKept.addRif (kept : s.RifsKept)
    (attached : RifAttached s.fib s.isVlanCreated rif) (isRif : rifId.objType = .routerInterface)
    (rifs : fib.routerInterfaceTree = s.fib.routerInterfaceTree.put rifId rif)
    (lags : fib.lagTree = rifIdWritten s.fib rif rifId) : ({ s with fib := fib } : AttachState).RifsKept := by
  constructor
  · rintro vlanId ⟨other, node, stored, onVlan, same⟩
    change fib.routerInterfaceTree.get other = some node at stored
    rw [rifs, KeyTree.get_put] at stored
    split at stored
    · cases stored
      rw [← same]
      exact of_decide_eq_true (attached.vlan onVlan)
    · exact kept.vlan vlanId ⟨other, node, stored, onVlan, same⟩
  · rintro lagId ⟨other, node, stored, onLag, same⟩
    change fib.routerInterfaceTree.get other = some node at stored
    change ∃ lag, fib.lagTree.get lagId = some lag ∧ _
    rw [rifs, KeyTree.get_put] at stored
    rw [lags]
    unfold rifIdWritten
    split at stored
    · cases stored
      obtain ⟨lag, there⟩ := Option.isSome_iff_exists.mp (attached.lag onLag)
      rw [if_pos onLag, same, KeyTree.get_modify_self, ← same, there]
      exact ⟨_, rfl, isRif⟩
    · obtain ⟨lag, there, old⟩ := kept.lag lagId ⟨other, node, stored, onLag, same⟩
      split
      · rw [KeyTree.get_modify, there]
        split
        · exact ⟨_, rfl, isRif⟩
        · exact ⟨lag, rfl, old⟩
      · exact ⟨lag, there, old⟩

theorem RifsKept.dropRif (kept : s.RifsKept)
    (alone : fibRifIsAttachmentLag rif = true → ∀ other node, other ≠ rifId →
      s.fib.routerInterfaceTree.get other = some node → fibRifIsAttachmentLag node = true →
      node.attachment.portId ≠ rif.attachment.portId)
    (rifs : fib.routerInterfaceTree = s.fib.routerInterfaceTree.del rifId)
    (lags : fib.lagTree = rifIdWritten s.fib rif nullObjectId) : ({ s with fib := fib } : AttachState).RifsKept := by
  constructor
  · rintro vlanId ⟨other, node, stored, onVlan, same⟩
    change fib.routerInterfaceTree.get other = some node at stored
    rw [rifs, KeyTree.get_del] at stored
    split at stored
    · cases stored
    · exact kept.vlan vlanId ⟨other, node, stored, onVlan, same⟩
  · rintro lagId ⟨other, node, stored, onLag, same⟩
    change fib.routerInterfaceTree.get other = some node at stored
    change ∃ lag, fib.lagTree.get lagId = some lag ∧ _
    rw [rifs, KeyTree.get_del] at stored
    rw [lags]
    unfold rifIdWritten
    split at stored
    · cases stored
    rename_i apart
    obtain ⟨lag, there, old⟩ := kept.lag lagId ⟨other, node, stored, onLag, same⟩
    split
    · rename_i shared
      rw [KeyTree.get_modify_ne, there]
      · exact ⟨lag, rfl, old⟩
      · rw [← same]
        exact alone shared other node apart stored onLag
    · exact ⟨lag, there, old⟩

theorem insertVlanInList_cases (s : AttachState) (vlanId : BitVec 16) (status : SaiStatus) : (vlanId ∉ s.vlanList ∧
      s.insertVlanInList vlanId status = ({ s with vlanList := s.vlanList ++ [vlanId] }, .success)) ∨
    (s.insertVlanInList vlanId status).1 = s ∧ (s.insertVlanInList vlanId status).2 ≠ .success := by
  unfold insertVlanInList
  split
  · exact .inr ⟨rfl, fun same => (by cases same)⟩
  rename_i new
  split
  · exact .inl ⟨new, rfl⟩
  · rename_i failed
    exact .inr ⟨rfl, failed⟩

theorem RifsKept.createVlan (kept : s.RifsKept) (vlanId : BitVec 16) (env : VlanCreateEnv) :
    (s.createVlan platform vlanId env).1.RifsKept := by
  unfold AttachState.createVlan
  split
  · have inserted := s.insertVlanInList_cases vlanId env.insert
    split
    · rename_i t listed
      rcases inserted with ⟨new, same⟩ | ⟨_, failed⟩
      · rw [same] at listed
        cases listed
        split
        · refine kept.sameRifs rfl (fun other _ there => ?_) fun _ _ _ _ there => there
          have apart : other ≠ vlanId := fun same => new (same ▸ there)
          exact List.mem_filter.mpr ⟨List.mem_append_left _ there, decide_eq_true apart⟩
        · exact kept.sameRifs rfl (fun _ _ there => List.mem_append_left _ there) fun _ _ _ _ there => there
      · rw [listed] at failed
        exact absurd rfl failed
    · rename_i t error failed listed
      rcases inserted with ⟨_, same⟩ | ⟨same, _⟩
      · rw [same] at listed
        cases listed
        exact absurd rfl failed
      · rw [listed] at same
        rw [show t = s from same]
        exact kept
  · exact kept

theorem RifsKept.deleteVlan (kept : s.RifsKept)
    (free : env.stp = .success → env.npu = .success → ¬ s.VlanInUse vlanId) :
    (s.deleteVlan vlanId env).1.RifsKept := by
  unfold AttachState.deleteVlan
  split
  · rename_i stp
    split
    · rename_i npu
      refine kept.sameRifs rfl (fun other inUse there => ?_) fun _ _ _ _ there => there
      have apart : other ≠ vlanId := fun same => free stp npu (same ▸ inUse)
      exact List.mem_filter.mpr ⟨there, decide_eq_true apart⟩
    · exact kept
  · exact kept

theorem RifsKept.removeVlan (kept : s.RifsKept)
    (free : vlanIdAvailable platform.vlan vlanId.toNat = .success → env.stp = .success → env.npu = .success →
      ¬ s.VlanInUse vlanId) : (s.removeVlan platform vlanId env).1.RifsKept := by
  unfold AttachState.removeVlan
  split
  · rename_i available
    split
    · exact kept.deleteVlan (free available)
    · exact kept
  · exact kept

theorem deleteVlan_fib (s : AttachState) (vlanId : BitVec 16) (env : VlanDeleteEnv) :
    (s.deleteVlan vlanId env).1.fib = s.fib := by
  unfold AttachState.deleteVlan
  split
  · split <;> rfl
  · rfl

theorem removeVlanIfCreated_fib (s : AttachState) (env : BitVec 16 → VlanDeleteEnv) (vlanId : Nat) :
    (s.removeVlanIfCreated platform env vlanId).fib = s.fib := by
  unfold removeVlanIfCreated
  split
  · rfl
  split
  · exact s.deleteVlan_fib _ _
  · rfl

theorem RifsKept.removeVlans {env : BitVec 16 → VlanDeleteEnv} (vlanIds : List Nat) :
    ∀ s : AttachState, s.RifsKept →
      (∀ vlanId ∈ vlanIds, vlanId ≠ platform.internalVlanId → (env (BitVec.ofNat 16 vlanId)).stp = .success →
        (env (BitVec.ofNat 16 vlanId)).npu = .success → ¬ s.VlanInUse (BitVec.ofNat 16 vlanId)) →
      (vlanIds.foldl (fun t vlanId => t.removeVlanIfCreated platform env vlanId) s).RifsKept := by
  induction vlanIds with
  | nil => exact fun s kept _ => kept
  | cons vlanId rest ih =>
    intro s kept free
    refine ih _ ?_ fun other listed external stp npu inUse => ?_
    · dsimp only
      unfold removeVlanIfCreated
      split
      · exact kept
      rename_i external
      split
      · exact kept.deleteVlan (free vlanId List.mem_cons_self external)
      · exact kept
    · refine free other (List.mem_cons_of_mem _ listed) external stp npu (inUse.of_rifs ?_)
      rw [removeVlanIfCreated_fib]

theorem RifsKept.createLag (kept : s.RifsKept) (attrs : List LagAttr) (env : LagCreateEnv) :
    ({ s with fib := (s.fib.createLag attrs env).1 } : AttachState).RifsKept := by
  obtain ⟨rifs, lags⟩ := s.fib.createLag_kept attrs env
  exact kept.sameRifs rifs (fun _ _ there => there) fun lagId lag _ _ there => lags lagId lag there

/-- The in-use test of a LAG remove: the LAG's RIF id stands for every router
interface on it. -/
theorem RifsKept.lagFree (kept : s.RifsKept) {lagId : ObjectId} {lag : Lag}
    (there : s.fib.lagTree.get lagId = some lag) (free : lag.rifId.objType ≠ .routerInterface) :
    ¬ s.LagInUse lagId := by
  intro inUse
  obtain ⟨other, atOther, isRif⟩ := kept.lag lagId inUse
  rw [there] at atOther
  cases atOther
  exact free isRif

theorem RifsKept.removeLag (kept : s.RifsKept) (lagId : ObjectId) (npu : SaiStatus) :
    ({ s with fib := (s.fib.removeLag lagId npu).1 } : AttachState).RifsKept := by
  rcases s.fib.removeLag_cases lagId npu with ⟨same, _⟩ | ⟨lag, there, free, others⟩
  · rw [same]
    exact kept
  · refine kept.sameRifs others.rifs (fun _ _ listed => listed) fun other node inUse _ atOther => ?_
    have apart : other ≠ lagId := fun same => kept.lagFree there free (same ▸ inUse)
    exact (others.others other apart).trans atOther

end AttachState

namespace AttachCall
variable {platform : AttachPlatform} {s : AttachState}

/-- What the calls must leave alone: a VLAN that can be deleted has no router
interface on it, and a router interface that goes shares its LAG with no other. -/
def spares (platform : AttachPlatform) (s : AttachState) : AttachCall → Prop
  | .removeRif rifId npu => npu = .success → ∀ rif, s.fib.routerInterfaceTree.get rifId = some rif →
    rif.refCount = 0 →
      fibRifIsAttachmentLag rif = true → ∀ other node, other ≠ rifId →
      s.fib.routerInterfaceTree.get other = some node → fibRifIsAttachmentLag node = true →
      node.attachment.portId ≠ rif.attachment.portId
  | .removeVlan vlanId env => vlanIdAvailable platform.vlan vlanId.toNat = .success → env.stp = .success →
      env.npu = .success → ¬ s.VlanInUse vlanId
  | .removeAllVlans env => ∀ vlanId ∈ AttachState.vlanTagIds platform, vlanId ≠ platform.internalVlanId →
      (env (BitVec.ofNat 16 vlanId)).stp = .success → (env (BitVec.ofNat 16 vlanId)).npu = .success →
      ¬ s.VlanInUse (BitVec.ofNat 16 vlanId)
  | _ => True

theorem step_kept (kept : s.RifsKept) (call : AttachCall) (spares : call.spares platform s) :
    (call.step platform s).RifsKept := by
  cases call with
  | createRif defaults attrs env =>
    rcases fibRouterInterfaceCreate_cases platform.routing s.fib defaults attrs
      { env with vlanCreated := s.isVlanCreated } with same | ⟨rifId, rif, parsed, isRif, _, rifs, lags⟩
    · exact kept.sameAttachments same
    · exact kept.addRif (fibRifAttributesParse_attached parsed) isRif rifs lags
  | removeRif rifId npu =>
    rcases fibRouterInterfaceRemove_cases s.fib rifId npu with same | ⟨rif, stored, unused, done, rifs, lags⟩
    · exact kept.sameAttachments same
    · exact kept.dropRif (spares done rif stored unused) rifs lags
  | createVlan vlanId env => exact kept.createVlan vlanId env
  | removeVlan vlanId env => exact kept.removeVlan spares
  | removeAllVlans env => exact AttachState.RifsKept.removeVlans _ s kept spares
  | createLag attrs env => exact kept.createLag attrs env
  | removeLag lagId npu => exact kept.removeLag lagId npu

end AttachCall

def AttachState.NoRifs (s : AttachState) : Prop := s.fib.routerInterfaceTree = ∅

theorem AttachState.NoRifs.kept {s : AttachState} (noRifs : s.NoRifs) : s.RifsKept := by
  unfold AttachState.NoRifs at noRifs
  constructor
  · rintro vlanId ⟨rifId, rif, stored, _⟩
    rw [noRifs, KeyTree.get_empty] at stored
    cases stored
  · rintro lagId ⟨rifId, rif, stored, _⟩
    rw [noRifs, KeyTree.get_empty] at stored
    cases stored

theorem AttachState.removeVlan_success {platform : AttachPlatform} {s : AttachState}
    (done : (s.removeVlan platform vlanId env).2 = .success) :
    vlanIdAvailable platform.vlan vlanId.toNat = .success ∧ env.stp = .success ∧ env.npu = .success := by
  unfold AttachState.removeVlan AttachState.deleteVlan at done
  split at done
  · rename_i available
    refine ⟨available, ?_⟩
    split at done
    · split at done
      · rename_i stp
        split at done
        · rename_i npu
          exact ⟨stp, npu⟩
        · rename_i failed
          exact absurd done failed
      · rename_i failed
        exact absurd done failed
    · cases done
  · rename_i failed
    exact absurd done failed

/-- Where no VLAN is deleted under a router interface and no router interface
leaves a LAG to another one, every router interface is on a VLAN or LAG that is
there, and a remove that succeeds was of one that none is on. -/
theorem rifs_attached {platform : AttachPlatform} {s : AttachState}
    (reach : Runs.Reach AttachState.NoRifs (Runs.guarded (fun s call => call.spares platform s)
      (AttachCall.step platform)) s) : s.RifsAttached ∧
      (∀ vlanId env, (AttachCall.removeVlan vlanId env).spares platform s →
        (s.removeVlan platform vlanId env).2 = .success → ¬ s.VlanInUse vlanId) ∧
      ∀ lagId npu, (s.fib.removeLag lagId npu).2 = .success → ¬ s.LagInUse lagId := by
  have kept : s.RifsKept := by
    refine reach.invariant AttachState.RifsKept (fun s initial => initial.kept) ?_
    rintro s call t kept ⟨spares, rfl⟩
    exact AttachCall.step_kept kept call spares
  refine ⟨kept.attached, fun vlanId env spares done => ?_, fun lagId npu done => ?_⟩
  · obtain ⟨available, stp, npu⟩ := AttachState.removeVlan_success done
    exact spares available stp npu
  · rcases s.fib.removeLag_cases lagId npu with ⟨_, failed⟩ | ⟨lag, there, free, _⟩
    · exact absurd done failed
    · exact kept.lagFree there free

section Sample

def attachSamplePlatform : AttachPlatform := ⟨fibSamplePlatform, 4095, 1, 4095⟩

def attachSample : AttachState := ⟨fibSampleStep fibSample fibSampleVrf, []⟩

theorem attachSample_noRifs : attachSample.NoRifs := rfl

def attachSampleVlan (vlanId : BitVec 16) : AttachCall := .createVlan vlanId ⟨.success, .success, .success⟩

def attachSampleRif (attachment : List RifAttr) (mac : Mac) (npuObjectId : Nat) : AttachCall :=
  .createRif ⟨true, true, 1500, .forward⟩
    (.virtualRouterId ⟨.virtualRouter, 1⟩ :: .srcMacAddress mac :: attachment)
    ⟨true, fun _ => true, fun _ => .success, .success, npuObjectId, true⟩

def attachSampleNode (rifType : RifType) (attachment : RifAttachment) : Rif :=
  ⟨⟨.virtualRouter, 1⟩, rifType, attachment, 7, true, true, 1500, .forward, 0⟩

def attachSampleRun : List AttachCall :=
  [attachSampleVlan 10, attachSampleVlan 11, attachSampleRif [.type .vlan, .vlanId 10] 7 1,
    attachSampleRif [.type .port, .portId ⟨.lag, 1⟩] 7 2, .removeVlan 11 ⟨.success, .success⟩,
    .removeLag ⟨.lag, 1⟩ .success, .removeRif ⟨.routerInterface, 2⟩ .success, .removeLag ⟨.lag, 1⟩ .success]

theorem attachSampleRun_allowed : Runs.AllowedRun (fun s call => call.spares attachSamplePlatform s)
    (AttachCall.step attachSamplePlatform) attachSample attachSampleRun := by
  have stored : ∀ {rifId : ObjectId} {rif : Rif}, (((∅ : KeyTree ObjectId Rif).put ⟨.routerInterface, 1⟩
      (attachSampleNode .vlan (.vlan 10))).put ⟨.routerInterface, 2⟩
        (attachSampleNode .port (.port ⟨.lag, 1⟩))).get rifId = some rif →
      rifId = ⟨.routerInterface, 2⟩ ∨ rif = attachSampleNode .vlan (.vlan 10) := by
    intro rifId rif there
    rw [KeyTree.get_put] at there
    split at there
    · rename_i same
      exact .inl same
    rw [KeyTree.get_put] at there
    split at there
    · exact .inr (Option.some.inj there).symm
    · cases there
  refine ⟨trivial, trivial, trivial, trivial, ?_, trivial, ?_, trivial, trivial⟩
  · rintro - - - ⟨rifId, rif, there, onVlan, same⟩
    rcases stored there with rfl | rfl
    · cases there
      cases onVlan
    · revert same
      decide
  · intro _ rif _ _ _ other node apart there onLag
    rcases stored there with same | rfl
    · exact absurd same apart
    · exact absurd onLag (by decide)

theorem attachSampleRun_attached :
    (attachSampleRun.foldl (AttachCall.step attachSamplePlatform) attachSample).RifsAttached ∧
      (attachSampleRun.foldl (AttachCall.step attachSamplePlatform) attachSample).VlanInUse 10 :=
  ⟨(rifs_attached (Runs.Reach.run (.start attachSample_noRifs) attachSampleRun_allowed)).1,
    ⟨.routerInterface, 1⟩, attachSampleNode .vlan (.vlan 10), rfl, rfl, rfl⟩

def attachSampleVlanRun : List AttachCall :=
  [attachSampleVlan 10, attachSampleRif [.type .vlan, .vlanId 10] 7 1, .removeVlan 10 ⟨.success, .success⟩]

def attachSampleLagRun : List AttachCall :=
  [attachSampleRif [.type .port, .portId ⟨.lag, 1⟩] 7 1, attachSampleRif [.type .port, .portId ⟨.lag, 1⟩] 8 2,
    .removeRif ⟨.routerInterface, 2⟩ .success, .removeLag ⟨.lag, 1⟩ .success]

theorem rifs_not_attached :
    ¬ (attachSampleVlanRun.foldl (AttachCall.step attachSamplePlatform) attachSample).RifsAttached ∧
      ¬ (attachSampleLagRun.foldl (AttachCall.step attachSamplePlatform) attachSample).RifsAttached := by
  constructor
  · intro attached
    have there := attached.vlan 10 ⟨⟨.routerInterface, 1⟩, attachSampleNode .vlan (.vlan 10), rfl, rfl, rfl⟩
    revert there
    decide
  · intro attached
    have there := attached.lag ⟨.lag, 1⟩
      ⟨⟨.routerInterface, 1⟩, attachSampleNode .port (.port ⟨.lag, 1⟩), rfl, rfl, rfl⟩
    revert there
    decide

end Sample

end SaiCommon
