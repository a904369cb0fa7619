import SaiCommon.Fib.Consistent

namespace SaiCommon

open KeyTree

variable {vlanCreated : BitVec 16 → Bool} {n : Nat} {validate : Nat → SaiStatus} {rifId vrId : ObjectId} {rif : Rif}
  {attr : RifAttr} {env : RifCreateEnv} {parse : RifParse} {next node : Vrf} {s t : FibState} {p : Platform}

section Vrf

theorem fibVrfAttrSet_numRif {attr : VrfAttr} (run : fibVrfAttrSet p node attr = .ok next) :
    next.numRif = node.numRif := by
  cases attr with
  | srcMacAddress mac =>
    simp only [fibVrfAttrSet] at run
    split at run <;> cases run
    rfl
  | adminV4State state =>
    cases run
    rfl
  | adminV6State state =>
    cases run
    rfl
  | violationTtl1Action pktAction =>
    simp only [fibVrfAttrSet] at run
    split at run <;> cases run
    rfl
  | violationIpOptions pktAction =>
    simp only [fibVrfAttrSet] at run
    split at run <;> cases run
    rfl
  | other => cases run

theorem fibVrfAttributesLoop_numRif (attrs : List VrfAttr) :
    ∀ (listIdx : Nat) (node parsed : Vrf), fibVrfAttributesLoop p validate attrs listIdx node = .ok parsed →
      parsed.numRif = node.numRif := by
  induction attrs with
  | nil =>
    intro listIdx node parsed run
    cases run
    rfl
  | cons attr rest ih =>
    intro listIdx node parsed run
    unfold fibVrfAttributesLoop at run
    split at run
    · cases run
    rename_i next set
    split at run
    · exact (ih _ _ _ run).trans (fibVrfAttrSet_numRif set)
    · cases run

theorem fibVrfAttributesParse_numRif {parsed : Vrf} {attrs : List VrfAttr}
    (run : fibVrfAttributesParse p validate node attrs = .ok parsed) : parsed.numRif = node.numRif := by
  unfold fibVrfAttributesParse at run
  split at run
  · cases run
  rename_i loop
  split at run <;> cases run
  exact fibVrfAttributesLoop_numRif attrs _ _ _ loop

theorem FibConsistent.putVrf (consistent : FibConsistent s)
    (absent : s.vrfTree.get vrId = none) (empty : node.numRif = 0) :
    FibConsistent { s with vrfTree := s.vrfTree.put vrId node, numVirtualRouters := n } := by
  obtain ⟨names, counts, members⟩ := consistent
  have kept : ∀ other, s.vrfTree.get other ≠ none → (s.vrfTree.put vrId node).get other ≠ none := by
    exact fun other stored => get_put_ne_none stored
  refine ⟨⟨names.owned, names.atId, names.groupAtId⟩, ⟨?_, ?_, counts.nhRif, counts.rifRef, counts.nhRef,
    counts.groupRef, ?_, counts.routeNh, counts.routeGroup⟩,
    members.congr (fun _ => rfl) (fun _ => rfl) (fun _ => rfl) fun _ => rfl⟩
  · intro rifId other named
    exact kept other (counts.rifVrf rifId other named)
  · intro other k found
    simp only [get_put] at found
    split at found
    · rename_i here
      rw [Option.map_some, Option.some.injEq] at found
      refine (found.symm.trans empty).trans (tally_eq_zero fun rifId rif stored => ?_).symm
      refine decide_eq_false fun named => ?_
      have names : (s.routerInterfaceTree.get rifId).map Rif.vrfId = some vrId := by
        rw [show s.routerInterfaceTree.get rifId = some rif from stored, Option.map_some, named, here]
      exact counts.rifVrf rifId vrId names absent
    · exact counts.numRif other k found
  · intro key stored
    exact kept key.vrfId (counts.routeVrf key stored)

theorem FibConsistent.virtualRouterCreate (consistent : FibConsistent s) (defaults : VrfDefaults)
    (attrs : List VrfAttr) (env : VrfCreateEnv) :
    FibConsistent (fibVirtualRouterCreate p s defaults attrs env).1 := by
  unfold fibVirtualRouterCreate
  split
  · exact consistent
  split
  · exact consistent
  split
  · exact consistent
  rename_i node parsed
  split
  · simp only
    split
    · exact consistent
    split
    · rename_i absent
      exact consistent.putVrf absent (fibVrfAttributesParse_numRif parsed)
    · exact consistent
  · exact consistent

theorem fibQuiet_putVrf (stored : s.vrfTree.get vrId = some node)
    (same : next.numRif = node.numRif) : FibQuiet s { s with vrfTree := s.vrfTree.put vrId next } := by
  refine ⟨fun _ => rfl, fun _ => rfl, fun other => ?_, rfl, rfl, rfl, rfl⟩
  simp only [get_put]
  split
  · rename_i here
    rw [here, stored, Option.map_some, Option.map_some, same]
  · rfl

section
variable (consistent : FibConsistent s)
include consistent

theorem FibConsistent.virtualRouterAttributeSet (vrId : ObjectId) (attr : VrfAttr) (validate npu : SaiStatus) :
    FibConsistent (fibVirtualRouterAttributeSet p s vrId attr validate npu).1 := by
  unfold fibVirtualRouterAttributeSet
  split
  · exact consistent
  split
  · exact consistent
  rename_i node stored
  split
  · exact consistent
  rename_i parsed run
  split
  · exact consistent.quiet (fibQuiet_putVrf stored (fibVrfAttributesParse_numRif run))
  · exact consistent

theorem FibConsistent.dropVrf (noRif : (s.routerInterfaceTree.tally fun _ rif => rif.vrfId = vrId) = 0)
    (noRoutes : (s.routeTree.tally fun key _ => key.vrfId = vrId) = 0) :
    FibConsistent { s with vrfTree := s.vrfTree.del vrId, numVirtualRouters := n } := by
  obtain ⟨names, counts, members⟩ := consistent
  refine ⟨⟨names.owned, names.atId, names.groupAtId⟩, ⟨?_, ?_, counts.nhRif, counts.rifRef,
    counts.nhRef, counts.groupRef, ?_, counts.routeNh, counts.routeGroup⟩,
    members.congr (fun _ => rfl) (fun _ => rfl) (fun _ => rfl) fun _ => rfl⟩
  · intro rifId other named
    obtain ⟨rif, found, vrf⟩ := Option.map_eq_some_iff.mp named
    have apart : other ≠ vrId := by
      intro here
      have counted := tally_pos (m := s.routerInterfaceTree) (p := fun _ rif => rif.vrfId = vrId) found
        (decide_eq_true (vrf.trans here))
      omega
    rw [get_del_ne apart]
    exact counts.rifVrf rifId other named
  · intro other k found
    simp only [get_del] at found
    split at found
    · cases found
    · exact counts.numRif other k found
  · intro key there
    obtain ⟨route, found⟩ := Option.ne_none_iff_exists'.mp there
    have apart : key.vrfId ≠ vrId := by
      intro here
      have counted := tally_pos (m := s.routeTree) (p := fun key _ => key.vrfId = vrId) found
        (decide_eq_true here)
      omega
    rw [get_del_ne apart]
    exact counts.routeVrf key there

theorem FibConsistent.virtualRouterRemove (vrId : ObjectId) (npu : SaiStatus) :
    FibConsistent (fibVirtualRouterRemove s vrId npu).1 := by
  unfold fibVirtualRouterRemove
  split
  · exact consistent
  split
  · exact consistent
  rename_i node stored
  split
  · exact consistent
  rename_i noRif
  split
  · exact consistent
  split
  · exact consistent
  rename_i noRoutes
  split
  · have exact := consistent.counts.numRif vrId node.numRif
      (by rw [show s.vrfTree.get vrId = some node from stored, Option.map_some])
    refine consistent.dropVrf (exact.symm.trans (not_not.mp noRif)) ?_
    simpa only [fibVrfIsRouteTreeEmpty, decide_eq_false_iff_not, not_not] using noRoutes
  · exact consistent

theorem FibConsistent.ecmpMaxPathsSet (maxPaths : BitVec 32) (npu : SaiStatus) :
    FibConsistent (routerEcmpMaxPathsSet s maxPaths npu).1 := by
  unfold routerEcmpMaxPathsSet
  split
  · exact consistent.quiet ⟨fun _ => rfl, fun _ => rfl, fun _ => rfl, rfl, rfl, rfl, rfl⟩
  · exact consistent

end

end Vrf

section Ports

/-- A step that only ports and LAGs see. -/
def FibPortsOnly (s t : FibState) : Prop := ∃ ports lags, t = { s with portTree := ports, lagTree := lags }

theorem FibPortsOnly.refl (s : FibState) : FibPortsOnly s s := ⟨s.portTree, s.lagTree, rfl⟩

theorem FibPortsOnly.trans {u : FibState} (first : FibPortsOnly s t) (second : FibPortsOnly t u) :
    FibPortsOnly s u := by
  obtain ⟨_, _, rfl⟩ := first
  obtain ⟨ports, lags, rfl⟩ := second
  exact ⟨ports, lags, rfl⟩

theorem FibPortsOnly.quiet (ports : FibPortsOnly s t) : FibQuiet s t := by
  obtain ⟨_, _, rfl⟩ := ports
  exact ⟨fun _ => rfl, fun _ => rfl, fun _ => rfl, rfl, rfl, rfl, rfl⟩

theorem portRoutingModeUpdate_ports (isSet : Bool) (s : FibState) (portId : ObjectId) :
    FibPortsOnly s (portRoutingModeUpdate isSet s portId).1 := by
  unfold portRoutingModeUpdate portRoutingModeSet portRoutingModeReset
  split
  · split
    · exact .refl s
    · exact .refl s
    · exact ⟨_, s.lagTree, rfl⟩
    · exact .refl s
  · split
    · exact .refl s
    · exact .refl s
    · exact ⟨_, s.lagTree, rfl⟩

theorem portListRoutingModeUndo_ports (isSet : Bool) (ports : List ObjectId) :
    ∀ s, FibPortsOnly s (portListRoutingModeUndo isSet s ports) := by
  induction ports with
  | nil => exact .refl
  | cons portId rest ih => exact fun s => (portRoutingModeUpdate_ports _ s portId).trans (ih _)

theorem portListRoutingModeLoop_ports (isSet : Bool) (ports : List ObjectId) :
    ∀ s done, FibPortsOnly s (portListRoutingModeLoop isSet s done ports).1 := by
  induction ports with
  | nil => exact fun s _ => .refl s
  | cons portId rest ih =>
    intro s done
    have moved := portRoutingModeUpdate_ports isSet s portId
    unfold portListRoutingModeLoop
    split
    · rename_i t set
      rw [set] at moved
      exact moved.trans (ih t _)
    · rename_i t error _ failed
      rw [failed] at moved
      exact moved.trans (portListRoutingModeUndo_ports isSet done t)

section
variable (s : FibState)

theorem fibRifRoutingConfigUpdate_ports (rif : Rif) (isSet : Bool) :
    FibPortsOnly s (fibRifRoutingConfigUpdate s rif isSet).1 := by
  unfold fibRifRoutingConfigUpdate
  split
  · exact .refl s
  simp only
  split
  · split
    · exact .refl s
    split
    · exact .refl s
    · exact portListRoutingModeLoop_ports isSet _ s []
  · exact portListRoutingModeLoop_ports isSet _ s []

theorem lagUpdateRifId_ports (lagId rifId : ObjectId) :
    FibPortsOnly s (lagUpdateRifId s lagId rifId) := ⟨s.portTree, _, rfl⟩

theorem rifLagCallback_ports (lagId rifId : ObjectId) (ports : List ObjectId)
    (lagOpcode : LagOperation) (npu : SaiStatus) :
    FibPortsOnly s (rifLagCallback s lagId rifId ports lagOpcode npu).1 := by
  unfold rifLagCallback rifLagMemberUpdate
  split
  · exact .refl s
  split
  · exact .refl s
  have moved := portListRoutingModeLoop_ports (lagOpcode = .addPorts) ports s []
  split
  · rename_i t set
    rw [← portListRoutingModeUpdate, set] at moved
    have undone : ∀ status : SaiStatus, FibPortsOnly s (if status ≠ .success then
        ((portListRoutingModeUpdate t ports (!(lagOpcode = .addPorts))).1, status)
        else (t, SaiStatus.success)).1 := by
      intro status
      split
      · exact moved.trans (portListRoutingModeLoop_ports _ ports t [])
      · exact moved
    exact undone _
  · rename_i t error _ failed
    rw [← portListRoutingModeUpdate, failed] at moved
    exact moved

theorem lagRifNotify_ports (lagId : ObjectId) (lagOperation : LagOperation)
    (ports : List ObjectId) (rifNpu : SaiStatus) :
    FibPortsOnly s (lagRifNotify s lagId lagOperation ports rifNpu).1 := by
  unfold lagRifNotify
  split
  · exact .refl s
  split
  · exact rifLagCallback_ports s lagId _ ports lagOperation rifNpu
  · exact .refl s

theorem l2CreateLagMember_ports (attrs : List LagMemberAttr) (env : LagMemberEnv) :
    FibPortsOnly s (l2CreateLagMember s attrs env).1 := by
  unfold l2CreateLagMember
  split
  · exact .refl s
  rename_i parse _
  split
  · rename_i lagId portId _ _
    split
    · have added : FibPortsOnly s (l2AddLagPort s lagId portId env).1 := by
        unfold l2AddLagPort
        split
        · split
          · exact ⟨s.portTree, _, rfl⟩
          · exact .refl s
        · exact .refl s
      split
      · rename_i t done
        rw [done] at added
        have notified := lagRifNotify_ports t lagId .addPorts [portId] env.rifNpu
        split
        · split
          · rename_i u told
            rw [told] at notified
            exact added.trans notified
          · rename_i u error _ told
            rw [told] at notified
            exact (added.trans notified).trans ⟨u.portTree, _, rfl⟩
        · exact added.trans ⟨t.portTree, _, rfl⟩
      · rename_i t error _ failed
        rw [failed] at added
        exact added
    · exact .refl s
  · exact .refl s

theorem l2RemoveLagMember_ports (lagId memberId : ObjectId) (rifNpu : SaiStatus) :
    FibPortsOnly s (l2RemoveLagMember s lagId memberId rifNpu).1 := by
  unfold l2RemoveLagMember
  split
  · exact .refl s
  rename_i portId _
  split
  · exact .refl s
  split
  · exact .refl s
  split
  · exact .refl s
  · have removed : FibPortsOnly s (l2RemoveLagPort s lagId portId) := ⟨s.portTree, _, rfl⟩
    exact removed.trans (lagRifNotify_ports _ lagId .delPorts [portId] rifNpu)

end

end Ports

section Rif

theorem fibRifCreateAttrSet_refCount {node next : Rif}
    (run : fibRifCreateAttrSet p s vlanCreated node attr = .ok next) : next.refCount = node.refCount := by
  cases attr with
  | virtualRouterId vrId =>
    simp only [fibRifCreateAttrSet, fibRifVrfAttrSet] at run
    split at run
    · cases run
    · split at run <;> cases run
      rfl
  | type rifType =>
    simp only [fibRifCreateAttrSet, fibRifTypeAttrSet] at run
    split at run <;> cases run
    rfl
  | portId portId =>
    simp only [fibRifCreateAttrSet, fibRifPortIdSet] at run
    split at run
    · cases run
    · split at run <;> cases run
      rfl
  | vlanId vlanId =>
    simp only [fibRifCreateAttrSet, fibRifVlanIdSet] at run
    split at run
    · cases run
    · split at run <;> cases run
      rfl
  | srcMacAddress mac => cases run
  | adminV4State state => cases run
  | adminV6State state => cases run
  | mtu mtu => cases run
  | other => cases run

theorem fibRifOptionalAttrSet_core {node next : Rif}
    (run : fibRifOptionalAttrSet node attr = .ok next) : next.core = node.core := by
  cases attr with
  | srcMacAddress mac =>
    simp only [fibRifOptionalAttrSet] at run
    split at run <;> cases run
    rfl
  | adminV4State state =>
    cases run
    rfl
  | adminV6State state =>
    cases run
    rfl
  | mtu mtu =>
    cases run
    rfl
  | virtualRouterId vrId => cases run
  | type rifType => cases run
  | portId portId => cases run
  | vlanId vlanId => cases run
  | other => cases run

theorem fibRifCreateAttrValidate_node {valid : RifParse}
    (run : fibRifCreateAttrValidate parse attr = .ok valid) : valid.node = parse.node := by
  cases attr with
  | virtualRouterId vrId =>
    cases run
    rfl
  | type rifType =>
    simp only [fibRifCreateAttrValidate] at run
    split at run <;> cases run
    rfl
  | portId portId =>
    simp only [fibRifCreateAttrValidate] at run
    split at run <;> cases run
    rfl
  | vlanId vlanId =>
    simp only [fibRifCreateAttrValidate] at run
    split at run <;> cases run
    rfl
  | srcMacAddress mac =>
    cases run
    rfl
  | adminV4State state =>
    cases run
    rfl
  | adminV6State state =>
    cases run
    rfl
  | mtu mtu =>
    cases run
    rfl
  | other =>
    cases run
    rfl

theorem RifParse.flag_node (parse : RifParse) (attr : RifAttr) : (parse.flag attr).node = parse.node := by
  cases attr <;> rfl

theorem fibRifAttributeParse_refCount {next : RifParse}
    (run : fibRifAttributeParse p s vlanCreated parse attr = .ok next) :
    next.node.refCount = parse.node.refCount := by
  unfold fibRifAttributeParse at run
  split at run
  · simp only at run
    split at run
    · cases run
    rename_i valid validated
    split at run
    · cases run
    rename_i node set
    cases run
    have same := fibRifCreateAttrValidate_node validated
    exact (fibRifCreateAttrSet_refCount set).trans (congrArg Rif.refCount same)
  · split at run
    · cases run
    rename_i node set
    cases run
    rw [RifParse.flag_node]
    exact congrArg Prod.snd (fibRifOptionalAttrSet_core set)

theorem fibRifAttributesLoop_refCount (attrs : List RifAttr) :
    ∀ (listIdx : Nat) (parse parsed : RifParse), fibRifAttributesLoop p s env attrs listIdx parse = .ok parsed →
      parsed.node.refCount = parse.node.refCount := by
  induction attrs with
  | nil =>
    intro listIdx parse parsed run
    cases run
    rfl
  | cons attr rest ih =>
    intro listIdx parse parsed run
    unfold fibRifAttributesLoop at run
    split at run
    · cases run
    rename_i next set
    split at run
    · exact (ih _ _ _ run).trans (fibRifAttributeParse_refCount set)
    · cases run

theorem fibRifAttributesParse_refCount {defaults : RifDefaults} {attrs : List RifAttr}
    (run : fibRifAttributesParse p s defaults attrs env = .ok rif) : rif.refCount = 0 := by
  unfold fibRifAttributesParse at run
  simp only at run
  split at run
  · cases run
  rename_i parse loop
  have uncounted : parse.node.refCount = 0 := fibRifAttributesLoop_refCount attrs _ _ _ loop
  split at run
  · cases run
  split at run
  · cases run
  cases run
  unfold fibRifInheritVrfAttributes
  split
  · exact uncounted
  · exact uncounted

theorem fibVrfRifListUpdate_success {vrfId : ObjectId} {isAdd : Bool}
    (run : fibVrfRifListUpdate s vrfId isAdd = (t, .success)) : ∃ node, s.vrfTree.get vrfId = some node ∧
      t = { s with vrfTree := s.vrfTree.put vrfId { node with
        numRif := if isAdd then node.numRif + 1 else node.numRif - 1 } } := by
  unfold fibVrfRifListUpdate at run
  split at run
  · cases run
  rename_i node stored
  cases run
  exact ⟨node, stored, rfl⟩

/-- What an insertion does: the router interface is stored and counted, or
nothing that the invariants see has happened. -/
theorem fibRifInsert_cases (s : FibState) (rifId : ObjectId) (rif : Rif) (treeOk : Bool) :
    (∃ node, s.vrfTree.get rif.vrfId = some node ∧ s.routerInterfaceTree.get rifId = none ∧
      fibRifInsert s rifId rif treeOk = ({ s with
        vrfTree := s.vrfTree.put rif.vrfId { node with numRif := node.numRif + 1 }
        routerInterfaceTree := s.routerInterfaceTree.put rifId rif }, .success)) ∨
    (fibRifInsert s rifId rif treeOk).1 = s ∧ (fibRifInsert s rifId rif treeOk).2 ≠ .success := by
  unfold fibRifInsert
  split
  · rename_i t listed
    obtain ⟨node, stored, rfl⟩ := fibVrfRifListUpdate_success listed
    split
    · rename_i absent
      exact Or.inl ⟨node, stored, absent, rfl⟩
    refine Or.inr ⟨?_, SaiStatus.noConfusion⟩
    simp only [fibVrfRifListUpdate, fibVrfNodeGet, get_put_self, Bool.false_eq_true, if_false,
      if_true, Nat.add_sub_cancel, put_put]
    rw [put_same stored]
  · rename_i t error failed listed
    refine Or.inr ⟨?_, failed⟩
    unfold fibVrfRifListUpdate at listed
    split at listed
    · cases listed
      rfl
    · cases listed
      exact absurd rfl failed

/-- What a RIF create leaves: the routing modes, set or set back, or the parsed
router interface under a new id. -/
theorem fibRouterInterfaceCreate_ends (p : Platform) (s : FibState) (defaults : RifDefaults) (attrs : List RifAttr)
    (env : RifCreateEnv) : (fibRouterInterfaceCreate p s defaults attrs env).1 = s ∨
      ∃ rif set, (fibRifRoutingConfigUpdate s rif true).1 = set ∧
        ((fibRouterInterfaceCreate p s defaults attrs env).1 = set ∨
          (fibRouterInterfaceCreate p s defaults attrs env).1 = (fibRifRoutingConfigUpdate set rif false).1 ∨
          fibRifAttributesParse p s defaults attrs env = .ok rif ∧ ∃ node rifId t,
            set.vrfTree.get rif.vrfId = some node ∧ set.routerInterfaceTree.get rifId = none ∧
            rifId.objType = .routerInterface ∧ t = { set with
              vrfTree := set.vrfTree.put rif.vrfId { node with numRif := node.numRif + 1 }
              routerInterfaceTree := set.routerInterfaceTree.put rifId rif } ∧
            (fibRouterInterfaceCreate p s defaults attrs env).1 =
              if fibRifIsAttachmentLag rif then lagUpdateRifId t rif.attachment.portId rifId else t) := by
  unfold fibRouterInterfaceCreate
  split
  · exact .inl rfl
  split
  · exact .inl rfl
  split
  · exact .inl rfl
  rename_i rif parsed
  refine .inr ⟨rif, _, rfl, ?_⟩
  split
  · rename_i set done
    rw [done]
    split
    · simp only
      rcases fibRifInsert_cases set ⟨.routerInterface, env.npuObjectId⟩ rif env.treeOk with
        ⟨node, vrf, absent, same⟩ | ⟨same, failed⟩
      · rw [same]
        exact .inr (.inr ⟨parsed, node, _, _, vrf, absent, rfl, rfl, rfl⟩)
      · split
        · rename_i t listed
          rw [listed] at failed
          exact absurd rfl failed
        · rename_i t error _ listed
          rw [listed] at same
          rw [show t = set from same]
          exact .inr (.inl rfl)
    · exact .inr (.inl rfl)
  · rename_i t error _ failed
    rw [failed]
    exact .inl rfl

section
variable (consistent : FibConsistent s)
include consistent

theorem FibConsistent.putRif
    (vrf : s.vrfTree.get rif.vrfId = some node) (absent : s.routerInterfaceTree.get rifId = none)
    (uncounted : rif.refCount = 0) :
    FibConsistent { s with
      vrfTree := s.vrfTree.put rif.vrfId { node with numRif := node.numRif + 1 }
      routerInterfaceTree := s.routerInterfaceTree.put rifId rif } := by
  obtain ⟨names, counts, members⟩ := consistent
  have kept : ∀ other, s.vrfTree.get other ≠ none →
      (s.vrfTree.put rif.vrfId { node with numRif := node.numRif + 1 }).get other ≠ none := by
    exact fun other stored => get_put_ne_none stored
  refine ⟨⟨names.owned, names.atId, names.groupAtId⟩, ⟨?_, ?_, ?_, ?_, counts.nhRef,
    counts.groupRef, ?_, counts.routeNh, counts.routeGroup⟩,
    members.congr (fun _ => rfl) (fun _ => rfl) (fun _ => rfl) fun _ => rfl⟩
  · intro other vrfId named
    simp only [get_put] at named
    split at named
    · rw [Option.map_some, Option.some.injEq] at named
      rw [← named]
      exact kept _ (by rw [vrf]; exact Option.some_ne_none node)
    · exact kept vrfId (counts.rifVrf other vrfId named)
  · intro vrfId n found
    show n = (s.routerInterfaceTree.put rifId rif).tally _
    rw [tally_put_new absent]
    simp only [get_put] at found
    split at found
    · rename_i here
      have old := counts.numRif rif.vrfId node.numRif (by rw [vrf, Option.map_some])
      rw [Option.map_some, Option.some.injEq] at found
      have grown : node.numRif + 1 = n := found
      subst here
      rw [if_pos (decide_eq_true rfl)]
      omega
    · rename_i apart
      rw [if_neg (by simpa using Ne.symm apart), Nat.zero_add]
      exact counts.numRif vrfId n found
  · intro ref stored
    have placed := counts.nhRif ref stored
    have apart : ref.key.rifId ≠ rifId := by
      intro here
      rw [here, absent] at placed
      cases placed
    rw [get_put_ne apart]
    exact placed
  · intro other n found
    simp only [get_put] at found
    split at found
    · rename_i here
      rw [Option.map_some, Option.some.injEq] at found
      refine (found.symm.trans uncounted).trans (tally_eq_zero fun ref nh stored => ?_).symm
      refine decide_eq_false fun named => ?_
      have placed :=
        counts.nhRif ref (by rw [show s.nhTree.get ref = some nh from stored]; exact Option.some_ne_none nh)
      rw [named, here, absent] at placed
      cases placed
    · exact counts.rifRef other n found
  · intro key stored
    exact kept key.vrfId (counts.routeVrf key stored)

theorem FibConsistent.dropRif
    (stored : s.routerInterfaceTree.get rifId = some rif) (vrf : s.vrfTree.get rif.vrfId = some node)
    (uncounted : rif.refCount = 0) :
    FibConsistent { s with
      vrfTree := s.vrfTree.put rif.vrfId { node with numRif := node.numRif - 1 }
      routerInterfaceTree := s.routerInterfaceTree.del rifId } := by
  obtain ⟨names, counts, members⟩ := consistent
  have kept : ∀ other, s.vrfTree.get other ≠ none →
      (s.vrfTree.put rif.vrfId { node with numRif := node.numRif - 1 }).get other ≠ none := by
    exact fun other stored => get_put_ne_none stored
  refine ⟨⟨names.owned, names.atId, names.groupAtId⟩, ⟨?_, ?_, ?_, ?_, counts.nhRef,
    counts.groupRef, ?_, counts.routeNh, counts.routeGroup⟩,
    members.congr (fun _ => rfl) (fun _ => rfl) (fun _ => rfl) fun _ => rfl⟩
  · intro other vrfId named
    simp only [get_del] at named
    split at named
    · cases named
    · exact kept vrfId (counts.rifVrf other vrfId named)
  · intro vrfId n found
    have taken := tally_del_old (p := fun _ (rif : Rif) => decide (rif.vrfId = vrfId)) stored
    show n = (s.routerInterfaceTree.del rifId).tally _
    simp only [get_put] at found
    split at found
    · rename_i here
      have old := counts.numRif rif.vrfId node.numRif (by rw [vrf, Option.map_some])
      rw [Option.map_some, Option.some.injEq] at found
      have shrunk : node.numRif - 1 = n := found
      subst here
      rw [if_pos (decide_eq_true rfl)] at taken
      omega
    · rename_i apart
      have old := counts.numRif vrfId n found
      rw [if_neg (by simpa using Ne.symm apart)] at taken
      omega
  · intro ref there
    have apart : ref.key.rifId ≠ rifId := by
      intro here
      obtain ⟨nh, found⟩ := Option.ne_none_iff_exists'.mp there
      have counted := tally_pos (m := s.nhTree) (p := fun ref _ => ref.key.rifId = rifId) found
        (decide_eq_true here)
      have exact := counts.rifRef rifId rif.refCount (by rw [stored, Option.map_some])
      omega
    rw [get_del_ne apart]
    exact counts.nhRif ref there
  · intro other n found
    simp only [get_del] at found
    split at found
    · cases found
    · exact counts.rifRef other n found
  · intro key there
    exact kept key.vrfId (counts.routeVrf key there)

theorem FibConsistent.routerInterfaceCreate (defaults : RifDefaults) (attrs : List RifAttr) (env : RifCreateEnv) :
    FibConsistent (fibRouterInterfaceCreate p s defaults attrs env).1 := by
  rcases fibRouterInterfaceCreate_ends p s defaults attrs env with same | ⟨rif, set, rfl, ends⟩
  · rwa [same]
  have begun := consistent.quiet (fibRifRoutingConfigUpdate_ports s rif true).quiet
  rcases ends with same | same | ⟨parsed, node, rifId, t, vrf, absent, _, rfl, same⟩
  · rwa [same]
  · rw [same]
    exact begun.quiet (fibRifRoutingConfigUpdate_ports _ rif false).quiet
  · rw [same]
    have stored := begun.putRif vrf absent (fibRifAttributesParse_refCount parsed)
    split
    · exact stored.quiet (lagUpdateRifId_ports _ _ _).quiet
    · exact stored

theorem FibConsistent.routerInterfaceRemove (rifId : ObjectId)
    (npu : SaiStatus) : FibConsistent (fibRouterInterfaceRemove s rifId npu).1 := by
  unfold fibRouterInterfaceRemove
  split
  · exact consistent
  split
  · exact consistent
  rename_i rif stored
  have stored : s.routerInterfaceTree.get rifId = some rif := stored
  split
  · exact consistent
  rename_i unused
  split
  · have there := consistent.counts.rifVrf rifId rif.vrfId (by rw [stored, Option.map_some])
    obtain ⟨node, vrf⟩ := Option.ne_none_iff_exists'.mp there
    have dropped := consistent.dropRif stored vrf (not_not.mp unused)
    have listed : (fibVrfRifListUpdate s rif.vrfId false).1 =
        { s with vrfTree := s.vrfTree.put rif.vrfId { node with numRif := node.numRif - 1 } } := by
      simp only [fibVrfRifListUpdate, fibVrfNodeGet, vrf, Bool.false_eq_true, if_false]
    simp only [listed]
    have reset := dropped.quiet (fibRifRoutingConfigUpdate_ports _ rif false).quiet
    split
    · exact reset.quiet (lagUpdateRifId_ports _ _ _).quiet
    · exact reset
  · exact consistent

theorem FibConsistent.routerInterfaceAttributeSet (rifId : ObjectId) (attr : RifAttr) (validate npu : SaiStatus) :
    FibConsistent (fibRouterInterfaceAttributeSet s rifId attr validate npu).1 := by
  unfold fibRouterInterfaceAttributeSet
  split
  · exact consistent
  split
  · exact consistent
  rename_i rif stored
  split
  · exact consistent
  split
  · split
    · exact consistent
    rename_i parsed set
    split
    · exact consistent
    split
    · refine consistent.quiet ⟨fun _ => rfl, fun other => ?_, fun _ => rfl, rfl, rfl, rfl, rfl⟩
      simp only [get_put]
      split
      · rename_i here
        have stored : s.routerInterfaceTree.get rifId = some rif := stored
        rw [here, stored, Option.map_some, Option.map_some, fibRifOptionalAttrSet_core set]
      · rfl
    · exact consistent
  · exact consistent

end

end Rif
end SaiCommon
