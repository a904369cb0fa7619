import SaiCommon.Switching.Vlan

namespace SaiCommon

section Calls
variable {C : Type} {nodes : VlanNodeCache C} {platform : VlanPlatform}

/-- How the loop of an addition ends: `new` is what it has noted down. -/
structure AddVlanPortsDone (nodes : VlanNodeCache C) (env : VlanPortsEnv) (vlanId : Nat) (c : C)
    (ports : List VlanPort) (done : C × List VlanPort × SaiStatus) (new : List VlanPort) : Prop where
  added : nodes.Added vlanId c done.1 new
  listed : ∀ q ∈ new, q ∈ ports
  switched : ∀ q ∈ new, env.fwdMode q.portId ≠ some .routing
  whole : done.2.2 = .success → ∀ q, q ∈ ports → nodes.isMember done.1 vlanId q = true

theorem getD_ne_routing {found : Option PortFwdMode} {mode : PortFwdMode}
    (other : found.getD mode ≠ .routing) : found ≠ some .routing := by
  rintro rfl
  exact other rfl

theorem AddVlanPortsDone.stop {env : VlanPortsEnv} {vlanId : Nat} {c : C} {ports nonDup : List VlanPort}
    {error : SaiStatus} (oneMode : nodes.OneMode c) (failed : error ≠ .success) :
    AddVlanPortsDone nodes env vlanId c ports (c, nonDup, error) [] where
  added := .refl oneMode
  listed _ noted := by cases noted
  switched _ noted := by cases noted
  whole success := absurd success failed

theorem addVlanPortsLoop_done (env : VlanPortsEnv) (vlanId : Nat) (ports : List VlanPort) :
    ∀ (c : C) (nonDup : List VlanPort) (mode : PortFwdMode), nodes.OneMode c →
      ∃ new, (addVlanPortsLoop nodes env vlanId c nonDup mode ports).2.1 = nonDup ++ new ∧
        AddVlanPortsDone nodes env vlanId c ports (addVlanPortsLoop nodes env vlanId c nonDup mode ports) new := by
  induction ports with
  | nil =>
    intro c nonDup mode oneMode
    refine ⟨[], (List.append_nil _).symm, .refl oneMode, ?_, ?_, ?_⟩
    · intro q noted
      cases noted
    · intro q noted
      cases noted
    · intro success q listed
      cases listed
  | cons port rest ih =>
    intro c nonDup mode oneMode
    have stop : ∀ error : SaiStatus, error ≠ .success → ∃ new, nonDup = nonDup ++ new ∧
        AddVlanPortsDone nodes env vlanId c (port :: rest) (c, nonDup, error) new :=
      fun error failed => ⟨[], (List.append_nil _).symm, .stop oneMode failed⟩
    unfold addVlanPortsLoop
    cases valid : validateVlanPort env port with
    | success =>
      dsimp only
      by_cases routed : (env.fwdMode port.portId).getD mode = .routing
      · rw [if_pos routed]
        exact stop _ (by decide)
      rw [if_neg routed]
      by_cases other : nodes.isInDifferentMode c vlanId port = true
      · rw [if_pos other]
        exact stop _ (by decide)
      rw [if_neg other]
      by_cases member : nodes.isMember c vlanId port = true
      · -- a repeated port is passed over
        rw [if_pos member]
        obtain ⟨new, noted, done⟩ := ih c nonDup ((env.fwdMode port.portId).getD mode) oneMode
        refine ⟨new, noted, done.added, fun q inNew => List.mem_cons_of_mem _ (done.listed q inNew), done.switched,
          fun success q listed => ?_⟩
        rcases List.mem_cons.mp listed with rfl | later
        · exact done.added.kept _ _ member
        · exact done.whole success q later
      rw [if_neg member]
      have missing : nodes.isMember c vlanId port = false := Bool.not_eq_true _ ▸ member
      cases inserted : env.nodeAdd port with
      | success =>
        dsimp only
        have oneMode' := VlanNodeCache.oneMode_add oneMode (Bool.not_eq_true _ ▸ other)
        obtain ⟨new, noted, done⟩ := ih (nodes.addNode c vlanId port .success) (nonDup ++ [port])
          ((env.fwdMode port.portId).getD mode) oneMode'
        refine ⟨port :: new, ?_, done.added.cons missing, ?_, ?_, ?_⟩
        · rw [noted, List.append_assoc, List.singleton_append]
        · intro q inNew
          rcases List.mem_cons.mp inNew with rfl | later
          · exact List.mem_cons_self
          · exact List.mem_cons_of_mem _ (done.listed q later)
        · intro q inNew
          rcases List.mem_cons.mp inNew with rfl | later
          · exact getD_ne_routing routed
          · exact done.switched q later
        · intro success q listed
          rcases List.mem_cons.mp listed with rfl | later
          · exact done.added.kept _ _ ((nodes.member_add ..).mpr (.inr ⟨rfl, rfl⟩))
          · exact done.whole success q later
      | _ =>
        -- the node that could not be inserted is noted down too
        refine ⟨[port], rfl, VlanNodeCache.added_error oneMode missing (by simp), ?_, ?_, ?_⟩
        · intro q inNew
          rw [List.mem_singleton.mp inNew]
          exact List.mem_cons_self
        · intro q inNew
          rw [List.mem_singleton.mp inNew]
          exact getD_ne_routing routed
        · intro success
          cases success
    | _ => exact stop _ (by simp)

theorem addVlanPortNodes_done (env : VlanPortsEnv) (vlanId : Nat) {c : C} (ports : List VlanPort)
    (oneMode : nodes.OneMode c) :
    AddVlanPortsDone nodes env vlanId c ports (addVlanPortNodes nodes platform env vlanId c ports)
      (addVlanPortNodes nodes platform env vlanId c ports).2.1 := by
  unfold addVlanPortNodes
  split
  · exact .stop oneMode (by decide)
  split
  · obtain ⟨new, noted, done⟩ := addVlanPortsLoop_done env vlanId ports c [] .unknown oneMode
    rw [noted]
    exact done
  · rename_i failed
    exact .stop oneMode failed

/-- An addition either inserts what it has noted down on both sides or takes it back. -/
theorem l2AddPortsToVlan_cases (s : VlanMembers C) (vlanId : Nat) (ports : List VlanPort) (env : VlanPortsEnv)
    (oneMode : nodes.OneMode s.cache) : ∃ done new, AddVlanPortsDone nodes env vlanId s.cache ports done new ∧
      (done.2.2 = .success ∧ l2AddPortsToVlan nodes platform s vlanId ports env =
          (⟨done.1, s.npu ∪ (new.map fun port => (vlanId, port)).toFinset⟩, .success) ∨
        ∃ error, error ≠ .success ∧ l2AddPortsToVlan nodes platform s vlanId ports env =
          (⟨removeVlanPortNodes nodes vlanId done.1 new, s.npu⟩, error)) := by
  have done : AddVlanPortsDone nodes env vlanId s.cache ports
      (addVlanPortNodes nodes platform env vlanId s.cache ports) _ := addVlanPortNodes_done env vlanId ports oneMode
  refine ⟨_, _, done, ?_⟩
  unfold l2AddPortsToVlan
  split
  · rename_i ended
    rw [ended]
    split
    · exact .inl ⟨rfl, rfl⟩
    · rename_i failed
      exact .inr ⟨_, failed, rfl⟩
  · rename_i failed ended
    rw [ended]
    exact .inr ⟨_, failed, rfl⟩

variable (nodes platform) in
/-- A removal either takes every port of its list, all of them members, from both
sides or does nothing. -/
theorem l2RemovePortsFromVlan_cases (s : VlanMembers C) (vlanId : Nat) (ports : List VlanPort)
    (env : VlanPortsEnv) :
    l2RemovePortsFromVlan nodes platform s vlanId ports env = (⟨removeVlanPortNodes nodes vlanId s.cache ports,
        s.npu \ (ports.map fun port => (vlanId, port)).toFinset⟩, .success) ∨
      ∃ error, error ≠ .success ∧ l2RemovePortsFromVlan nodes platform s vlanId ports env = (s, error) := by
  unfold l2RemovePortsFromVlan
  split
  · exact .inr ⟨_, by decide, rfl⟩
  split
  · split
    · split
      · exact .inl rfl
      · rename_i failed
        exact .inr ⟨_, failed, rfl⟩
    · rename_i failed
      exact .inr ⟨_, failed, rfl⟩
  · rename_i failed
    exact .inr ⟨_, failed, rfl⟩

end Calls

theorem mem_vlanPorts {ports : List VlanPort} {vlanId w : Nat} {q : VlanPort} :
    (w, q) ∈ (ports.map fun port => (vlanId, port)).toFinset ↔ w = vlanId ∧ q ∈ ports := by
  rw [List.mem_toFinset, List.mem_map]
  constructor
  · rintro ⟨_, listed, same⟩
    cases same
    exact ⟨rfl, listed⟩
  · rintro ⟨rfl, listed⟩
    exact ⟨q, listed, rfl⟩

namespace VlanMembers
variable {C : Type} (nodes : VlanNodeCache C) (platform : VlanPlatform)

/-- The cache holds what the NPU holds, and no port is in one VLAN with two modes. -/
structure Kept (s : VlanMembers C) : Prop where
  agree : s.Agree nodes
  oneMode : nodes.OneMode s.cache

/-- What a call does to the members of the VLANs, which `s` and `t` hold before
and after it. -/
def Performs (s t : VlanMembers C) : VlanCall → Prop
  | .addPorts vlanId ports _ => ∀ w q, nodes.isMember t.cache w q = true ↔
      nodes.isMember s.cache w q = true ∨ w = vlanId ∧ q ∈ ports
  | .removePorts vlanId ports _ => ∀ w q, nodes.isMember t.cache w q = true ↔
      nodes.isMember s.cache w q = true ∧ ¬ (w = vlanId ∧ q ∈ ports)

def callMode : VlanCall → ObjectId → Option PortFwdMode
  | .addPorts _ _ env => env.fwdMode
  | .removePorts _ _ env => env.fwdMode

/-- A call does what its name says or leaves both sides as they were, and adds no
port that is in ROUTING mode. -/
structure Right (s : VlanMembers C) (call : VlanCall) : Prop where
  performs : (s.call nodes platform call).2 = .success → Performs nodes s (s.call nodes platform call).1 call
  refused : (s.call nodes platform call).2 ≠ .success →
    (∀ w q, nodes.isMember (s.call nodes platform call).1.cache w q = nodes.isMember s.cache w q) ∧
      (s.call nodes platform call).1.npu = s.npu
  switched : ∀ w q, nodes.isMember (s.call nodes platform call).1.cache w q = true →
    nodes.isMember s.cache w q = true ∨ callMode call q.portId ≠ some .routing

variable {nodes platform}

section
variable {s : VlanMembers C} (kept : s.Kept nodes)
include kept

theorem kept_of_same {t : VlanMembers C}
    (same : ∀ w q, nodes.isMember t.cache w q = nodes.isMember s.cache w q) (npu : t.npu = s.npu) :
    t.Kept nodes where
  agree v p := by
    rw [same, npu]
    exact kept.agree v p
  oneMode := kept.oneMode.congr same

theorem kept_addPorts (vlanId : Nat) (ports : List VlanPort)
    (env : VlanPortsEnv) : (s.call nodes platform (.addPorts vlanId ports env)).1.Kept nodes ∧
      s.Right nodes platform (.addPorts vlanId ports env) := by
  obtain ⟨done, new, spec, ⟨success, result⟩ | ⟨error, failed, result⟩⟩ :=
    l2AddPortsToVlan_cases s vlanId ports env kept.oneMode
  · have outcome : s.call nodes platform (.addPorts vlanId ports env) = _ := result
    have member : ∀ w q, nodes.isMember done.1 w q = true ↔
        nodes.isMember s.cache w q = true ∨ w = vlanId ∧ q ∈ new := by
      intro w q
      constructor
      · exact spec.added.only w q
      · rintro (old | ⟨rfl, noted⟩)
        · exact spec.added.kept w q old
        · exact spec.whole success q (spec.listed q noted)
    refine ⟨?_, ?_, ?_, ?_⟩
    · rw [outcome]
      refine ⟨fun w q => ?_, spec.added.oneMode⟩
      dsimp only
      rw [member, Finset.mem_union, mem_vlanPorts, kept.agree]
    · intro _ w q
      rw [outcome]
      constructor
      · intro now
        rcases spec.added.only w q now with old | ⟨atVlan, noted⟩
        · exact .inl old
        · exact .inr ⟨atVlan, spec.listed q noted⟩
      · rintro (old | ⟨rfl, listed⟩)
        · exact spec.added.kept w q old
        · exact spec.whole success q listed
    · rw [outcome]
      exact fun failed => absurd rfl failed
    · intro w q now
      rw [outcome] at now
      rcases spec.added.only w q now with old | ⟨_, noted⟩
      · exact .inl old
      · exact .inr (spec.switched q noted)
  · have outcome : s.call nodes platform (.addPorts vlanId ports env) = _ := result
    refine ⟨?_, ?_, ?_, ?_⟩
    · rw [outcome]
      exact kept_of_same kept spec.added.undo rfl
    · rw [outcome]
      exact fun success => absurd success failed
    · rw [outcome]
      exact fun _ => ⟨spec.added.undo, rfl⟩
    · intro w q now
      rw [outcome] at now
      exact .inl ((spec.added.undo w q).symm.trans now)

theorem kept_removePorts (vlanId : Nat) (ports : List VlanPort)
    (env : VlanPortsEnv) : (s.call nodes platform (.removePorts vlanId ports env)).1.Kept nodes ∧
      s.Right nodes platform (.removePorts vlanId ports env) := by
  rcases l2RemovePortsFromVlan_cases nodes platform s vlanId ports env with
    result | ⟨error, failed, result⟩
  · have outcome : s.call nodes platform (.removePorts vlanId ports env) = _ := result
    refine ⟨?_, ?_, ?_, ?_⟩
    · rw [outcome]
      refine ⟨fun w q => ?_, fun v p q atP atQ => ?_⟩
      · dsimp only
        rw [VlanNodeCache.member_removeNodes, Finset.mem_sdiff, mem_vlanPorts, kept.agree]
      · exact kept.oneMode v p q (VlanNodeCache.member_removeNodes.mp atP).1
          (VlanNodeCache.member_removeNodes.mp atQ).1
    · intro _ w q
      rw [outcome]
      exact VlanNodeCache.member_removeNodes
    · rw [outcome]
      exact fun failed => absurd rfl failed
    · intro w q now
      rw [outcome] at now
      exact .inl (VlanNodeCache.member_removeNodes.mp now).1
  · have outcome : s.call nodes platform (.removePorts vlanId ports env) = _ := result
    refine ⟨?_, ?_, ?_, ?_⟩
    · rw [outcome]
      exact kept
    · rw [outcome]
      exact fun success => absurd success failed
    · rw [outcome]
      exact fun _ => ⟨fun _ _ => rfl, rfl⟩
    · intro w q now
      rw [outcome] at now
      exact .inl now

theorem kept_call (call : VlanCall) : (s.call nodes platform call).1.Kept nodes ∧ s.Right nodes platform call := by
  cases call with
  | addPorts vlanId ports env => exact kept_addPorts kept vlanId ports env
  | removePorts vlanId ports env => exact kept_removePorts kept vlanId ports env

end

theorem kept_empty {s : VlanMembers C} (empty : s.Empty nodes) : s.Kept nodes where
  agree v p := by simp [empty.1, empty.2]
  oneMode v p q atP := by
    rw [empty.1] at atP
    cases atP

end VlanMembers

/-- In every run of additions and removals of port lists the cache and the NPU hold
the same members, with one tagging mode for a port of a VLAN, and every call does
what it should or nothing. -/
theorem vlanMembers_right {C : Type} (nodes : VlanNodeCache C) (platform : VlanPlatform) (s : VlanMembers C)
    (reach : Runs.Reach (VlanMembers.Empty nodes) (fun s call t => t = (s.call nodes platform call).1) s) :
    s.Kept nodes ∧ ∀ call, s.Right nodes platform call := by
  have kept : s.Kept nodes := by
    refine reach.invariant _ (fun _ empty => VlanMembers.kept_empty empty) ?_
    rintro s call _ kept rfl
    exact (VlanMembers.kept_call kept call).1
  exact ⟨kept, fun call => (VlanMembers.kept_call kept call).2⟩

def listNodeCache : VlanNodeCache (List (Nat × VlanPort)) where
  isMember c v p := (v, p) ∈ c
  isInDifferentMode c v p := c.any fun node =>
    node.1 = v && node.2.portId = p.portId && node.2.taggingMode ≠ p.taggingMode
  addNode c v p status := if status = .success then (v, p) :: c else c
  removeNode c v p := c.filter fun node => node ≠ (v, p)
  inDifferentMode_iff c v p := by
    rw [List.any_eq_true]
    constructor
    · rintro ⟨⟨w, q⟩, stored, found⟩
      simp only [Bool.and_eq_true, decide_eq_true_eq] at found
      obtain ⟨⟨rfl, onPort⟩, other⟩ := found
      exact ⟨q, decide_eq_true stored, onPort, other⟩
    · rintro ⟨q, member, onPort, other⟩
      refine ⟨(v, q), of_decide_eq_true member, ?_⟩
      simp only [Bool.and_eq_true, decide_eq_true_eq]
      exact ⟨⟨trivial, onPort⟩, other⟩
  member_add c v p w q := by
    rw [if_pos rfl, decide_eq_true_eq, decide_eq_true_eq, List.mem_cons, Prod.mk.injEq, or_comm]
  member_add_error c v p status failed w q := by rw [if_neg failed]
  member_remove c v p w q := by
    simp only [decide_eq_true_eq, List.mem_filter, ne_eq, Prod.mk.injEq]

/-- Every port can be added to VLAN 1 but port 3, which is in ROUTING mode. -/
def sampleVlanEnv (npuStatus : SaiStatus) : VlanPortsEnv where
  isVlanCreated := true
  isPortValid _ := true
  isValidTaggingMode mode := mode = .untagged ∨ mode = .tagged ∨ mode = .priorityTagged
  fwdMode id := if id = ⟨.port, 3⟩ then some .routing else some .switching
  nodeAdd _ := .success
  npuStatus := npuStatus

def samplePlatform : VlanPlatform := ⟨fun vlanId => 0 < vlanId && vlanId < 4096, 4095⟩

def sampleVlanRun : List VlanCall :=
  let port (n : Nat) : VlanPort := ⟨⟨.port, n⟩, .untagged⟩
  [.addPorts 1 [port 1, port 2, port 1] (sampleVlanEnv .success),
    .addPorts 1 [port 4, port 3] (sampleVlanEnv .success),
    .addPorts 1 [port 5] (sampleVlanEnv .failure),
    .addPorts 1 [port 4, ⟨⟨.port, 4⟩, .tagged⟩] (sampleVlanEnv .success),
    .removePorts 1 [port 2, port 2] (sampleVlanEnv .success)]

def sampleVlanMembers : VlanMembers (List (Nat × VlanPort)) :=
  sampleVlanRun.foldl (fun s call => (VlanMembers.call listNodeCache samplePlatform s call).1) ⟨[], ∅⟩

theorem sampleVlanRun_right : sampleVlanMembers.Kept listNodeCache ∧
    ∀ call, sampleVlanMembers.Right listNodeCache samplePlatform call :=
  vlanMembers_right listNodeCache samplePlatform sampleVlanMembers
    (.next (.next (.next (.next (.next (.start ⟨fun _ _ => rfl, rfl⟩) rfl) rfl) rfl) rfl) rfl)

example : sampleVlanMembers.cache = [(1, ⟨⟨.port, 1⟩, .untagged⟩)] := by decide

end SaiCommon
