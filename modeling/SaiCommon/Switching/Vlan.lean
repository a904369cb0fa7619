import SaiCommon.Fib.State
import SaiCommon.Lib.Runs
import SaiCommon.Switching.Stp

namespace SaiCommon

inductive VlanTaggingMode
  | untagged
  | tagged
  | priorityTagged
  | other (code : Int)
deriving DecidableEq

structure VlanPort where
  portId : ObjectId
  taggingMode : VlanTaggingMode
deriving DecidableEq

/-- The cache of the VLANs' port nodes, which is kept outside of this repository.
`addNode` is told how it ends, the end of `removeNode` is looked at by no caller. -/
structure VlanNodeCache (C : Type) where
  /-- `sai_is_valid_vlan_port_member` -/
  isMember : C → Nat → VlanPort → Bool
  /-- `sai_is_port_in_different_tagging_mode` -/
  isInDifferentMode : C → Nat → VlanPort → Bool
  /-- `sai_add_vlan_port_node` -/
  addNode : C → Nat → VlanPort → SaiStatus → C
  /-- `sai_remove_vlan_port_node` -/
  removeNode : C → Nat → VlanPort → C
  inDifferentMode_iff : ∀ c v p, isInDifferentMode c v p = true ↔
    ∃ q, isMember c v q = true ∧ q.portId = p.portId ∧ q.taggingMode ≠ p.taggingMode
  member_add : ∀ c v p w q, isMember (addNode c v p .success) w q = true ↔
    isMember c w q = true ∨ w = v ∧ q = p
  member_add_error : ∀ c v p status, status ≠ .success → ∀ w q,
    isMember (addNode c v p status) w q = isMember c w q
  member_remove : ∀ c v p w q, isMember (removeNode c v p) w q = true ↔
    isMember c w q = true ∧ ¬ (w = v ∧ q = p)

structure VlanMembers (C : Type) where
  cache : C
  npu : Finset (Nat × VlanPort)

/-- What a call finds: whether its VLAN is created, what the port module says of
the ports, and how the insertion of each node and the NPU call end. -/
structure VlanPortsEnv where
  isVlanCreated : Bool
  isPortValid : ObjectId → Bool
  isValidTaggingMode : VlanTaggingMode → Bool
  /-- `sai_port_forward_mode_info`; none when it fails and writes no mode. -/
  fwdMode : ObjectId → Option PortFwdMode
  nodeAdd : VlanPort → SaiStatus
  npuStatus : SaiStatus

def vlanIdAvailable (platform : VlanPlatform) (vlanId : Nat) : SaiStatus :=
  if platform.isValidVlanId vlanId = false then .invalidVlanId
  else if vlanId = platform.internalVlanId then .notSupported
  else .success

def vlanConfigurable (platform : VlanPlatform) (env : VlanPortsEnv) (vlanId : Nat) : SaiStatus :=
  match vlanIdAvailable platform vlanId with
  | .success => if env.isVlanCreated then .success else .itemNotFound
  | error => error

def validateVlanPort (env : VlanPortsEnv) (port : VlanPort) : SaiStatus :=
  if port.portId.objType ≠ .port then .invalidObjectType
  else if env.isPortValid port.portId = false then .invalidObjectId
  else if env.isValidTaggingMode port.taggingMode = false then .invalidParameter
  else .success

section Calls
variable {C : Type} (nodes : VlanNodeCache C) (platform : VlanPlatform)

/-- The loop of `sai_l2_add_ports_to_vlan`: the cache after it, `non_dup_list` and
the status. `mode` is the variable that each lookup of a port's mode writes. -/
def addVlanPortsLoop (env : VlanPortsEnv) (vlanId : Nat) :
    C → List VlanPort → PortFwdMode → List VlanPort → C × List VlanPort × SaiStatus
  | c, nonDup, _, [] => (c, nonDup, .success)
  | c, nonDup, mode, port :: rest =>
    match validateVlanPort env port with
    | .success =>
      if (env.fwdMode port.portId).getD mode = .routing then (c, nonDup, .objectInUse)
      else if nodes.isInDifferentMode c vlanId port then (c, nonDup, .invalidPortMember)
      else if nodes.isMember c vlanId port then
        addVlanPortsLoop env vlanId c nonDup ((env.fwdMode port.portId).getD mode) rest
      else match env.nodeAdd port with
        | .success => addVlanPortsLoop env vlanId (nodes.addNode c vlanId port .success) (nonDup ++ [port])
            ((env.fwdMode port.portId).getD mode) rest
        | error => (nodes.addNode c vlanId port error, nonDup ++ [port], error)
    | error => (c, nonDup, error)

def removeVlanPortNodes (vlanId : Nat) (c : C) (ports : List VlanPort) : C :=
  ports.foldl (fun c port => nodes.removeNode c vlanId port) c

/-- `sai_l2_add_ports_to_vlan` up to the NPU call: `do { … } while(0)`. -/
def addVlanPortNodes (env : VlanPortsEnv) (vlanId : Nat) (c : C) (ports : List VlanPort) :
    C × List VlanPort × SaiStatus :=
  if ports = [] then (c, [], .invalidParameter)
  else match vlanConfigurable platform env vlanId with
    | .success => addVlanPortsLoop nodes env vlanId c [] .unknown ports
    | error => (c, [], error)

def l2AddPortsToVlan (s : VlanMembers C) (vlanId : Nat) (ports : List VlanPort) (env : VlanPortsEnv) :
    VlanMembers C × SaiStatus :=
  match addVlanPortNodes nodes platform env vlanId s.cache ports with
  | (c, nonDup, .success) =>
    match env.npuStatus with
    | .success => (⟨c, s.npu ∪ (nonDup.map fun port => (vlanId, port)).toFinset⟩, .success)
    | error => (⟨removeVlanPortNodes nodes vlanId c nonDup, s.npu⟩, error)
  | (c, nonDup, error) => (⟨removeVlanPortNodes nodes vlanId c nonDup, s.npu⟩, error)

/-- The check of `sai_l2_remove_ports_from_vlan` that every port is a member. -/
def checkVlanPorts (env : VlanPortsEnv) (vlanId : Nat) (c : C) : List VlanPort → SaiStatus
  | [] => .success
  | port :: rest =>
    match validateVlanPort env port with
    | .success =>
      if nodes.isMember c vlanId port then checkVlanPorts env vlanId c rest else .invalidPortMember
    | error => error

def l2RemovePortsFromVlan (s : VlanMembers C) (vlanId : Nat) (ports : List VlanPort) (env : VlanPortsEnv) :
    VlanMembers C × SaiStatus :=
  if ports = [] then (s, .invalidParameter)
  else match vlanConfigurable platform env vlanId with
    | .success =>
      match checkVlanPorts nodes env vlanId s.cache ports with
      | .success =>
        match env.npuStatus with
        | .success => (⟨removeVlanPortNodes nodes vlanId s.cache ports,
            s.npu \ (ports.map fun port => (vlanId, port)).toFinset⟩, .success)
        | error => (s, error)
      | error => (s, error)
    | error => (s, error)

end Calls

inductive VlanCall
  | addPorts (vlanId : Nat) (ports : List VlanPort) (env : VlanPortsEnv)
  | removePorts (vlanId : Nat) (ports : List VlanPort) (env : VlanPortsEnv)

namespace VlanMembers
variable {C : Type} (nodes : VlanNodeCache C) (platform : VlanPlatform)

def call (s : VlanMembers C) : VlanCall → VlanMembers C × SaiStatus
  | .addPorts vlanId ports env => l2AddPortsToVlan nodes platform s vlanId ports env
  | .removePorts vlanId ports env => l2RemovePortsFromVlan nodes platform s vlanId ports env

def Empty (s : VlanMembers C) : Prop := (∀ v p, nodes.isMember s.cache v p = false) ∧ s.npu = ∅

def Agree (s : VlanMembers C) : Prop := ∀ v p, nodes.isMember s.cache v p = true ↔ (v, p) ∈ s.npu

end VlanMembers

namespace VlanNodeCache
variable {C : Type} (nodes : VlanNodeCache C)

/-- No port is in one VLAN with two tagging modes. -/
def OneMode (c : C) : Prop := ∀ v p q, nodes.isMember c v p = true → nodes.isMember c v q = true →
  p.portId = q.portId → p.taggingMode = q.taggingMode

/-- `new` is what the loop noted down while it went from `c` to `c'`. -/
structure Added (vlanId : Nat) (c c' : C) (new : List VlanPort) : Prop where
  kept : ∀ w q, nodes.isMember c w q = true → nodes.isMember c' w q = true
  only : ∀ w q, nodes.isMember c' w q = true → nodes.isMember c w q = true ∨ w = vlanId ∧ q ∈ new
  fresh : ∀ q ∈ new, nodes.isMember c vlanId q = false
  oneMode : nodes.OneMode c'

variable {nodes}

theorem Added.refl {vlanId : Nat} {c : C} (oneMode : nodes.OneMode c) : nodes.Added vlanId c c [] where
  kept _ _ member := member
  only _ _ member := .inl member
  fresh _ noted := by cases noted
  oneMode := oneMode

/-- A port whose node is missing and whose port is in the VLAN with no other mode
can be added. -/
theorem oneMode_add {vlanId : Nat} {c : C} {port : VlanPort} (oneMode : nodes.OneMode c)
    (same : nodes.isInDifferentMode c vlanId port = false) :
    nodes.OneMode (nodes.addNode c vlanId port .success) := by
  have alike : ∀ q, nodes.isMember c vlanId q = true → q.portId = port.portId →
      q.taggingMode = port.taggingMode := by
    intro q member onPort
    by_contra other
    have different := (nodes.inDifferentMode_iff c vlanId port).mpr ⟨q, member, onPort, other⟩
    rw [same] at different
    cases different
  intro v p q atP atQ onPort
  rcases (nodes.member_add ..).mp atP with oldP | ⟨atVlan, rfl⟩
  · rcases (nodes.member_add ..).mp atQ with oldQ | ⟨atVlan, rfl⟩
    · exact oneMode v p q oldP oldQ onPort
    · exact alike p (atVlan ▸ oldP) onPort
  · rcases (nodes.member_add ..).mp atQ with oldQ | ⟨_, rfl⟩
    · exact (alike q (atVlan ▸ oldQ) onPort.symm).symm
    · rfl

theorem Added.cons {vlanId : Nat} {c c' : C} {port : VlanPort} {new : List VlanPort}
    (missing : nodes.isMember c vlanId port = false)
    (added : nodes.Added vlanId (nodes.addNode c vlanId port .success) c' new) :
    nodes.Added vlanId c c' (port :: new) where
  kept w q member := added.kept w q ((nodes.member_add ..).mpr (.inl member))
  only w q member := by
    rcases added.only w q member with early | ⟨atVlan, noted⟩
    · rcases (nodes.member_add ..).mp early with old | ⟨atVlan, rfl⟩
      · exact .inl old
      · exact .inr ⟨atVlan, List.mem_cons_self⟩
    · exact .inr ⟨atVlan, List.mem_cons_of_mem _ noted⟩
  fresh q noted := by
    rcases List.mem_cons.mp noted with rfl | later
    · exact missing
    have absent := added.fresh q later
    rw [← Bool.not_eq_true] at absent ⊢
    exact fun member => absent ((nodes.member_add ..).mpr (.inl member))
  oneMode := added.oneMode

theorem added_error {vlanId : Nat} {c : C} {port : VlanPort} {status : SaiStatus}
    (oneMode : nodes.OneMode c) (missing : nodes.isMember c vlanId port = false)
    (failed : status ≠ .success) : nodes.Added vlanId c (nodes.addNode c vlanId port status) [port] := by
  have same := nodes.member_add_error c vlanId port status failed
  refine ⟨fun w q member => ?_, fun w q member => ?_, fun q noted => ?_, fun v p q atP atQ => ?_⟩
  · rw [same]
    exact member
  · rw [same] at member
    exact .inl member
  · rw [List.mem_singleton.mp noted]
    exact missing
  · rw [same] at atP atQ
    exact oneMode v p q atP atQ

theorem member_removeNodes {vlanId : Nat} {c : C} {ports : List VlanPort} {w : Nat} {q : VlanPort} :
    nodes.isMember (removeVlanPortNodes nodes vlanId c ports) w q = true ↔
      nodes.isMember c w q = true ∧ ¬ (w = vlanId ∧ q ∈ ports) := by
  unfold removeVlanPortNodes
  induction ports generalizing c with
  | nil => simp
  | cons port rest ih =>
    rw [List.foldl_cons, ih, nodes.member_remove, List.mem_cons]
    tauto

theorem Added.undo {vlanId : Nat} {c c' : C} {new : List VlanPort} (added : nodes.Added vlanId c c' new)
    (w : Nat) (q : VlanPort) :
    nodes.isMember (removeVlanPortNodes nodes vlanId c' new) w q = nodes.isMember c w q := by
  rw [Bool.eq_iff_iff, member_removeNodes]
  constructor
  · rintro ⟨member, unlisted⟩
    rcases added.only w q member with old | noted
    · exact old
    · exact absurd noted unlisted
  · intro old
    refine ⟨added.kept w q old, ?_⟩
    rintro ⟨rfl, noted⟩
    rw [added.fresh q noted] at old
    cases old

theorem OneMode.congr {c c' : C} (oneMode : nodes.OneMode c)
    (same : ∀ w q, nodes.isMember c' w q = nodes.isMember c w q) : nodes.OneMode c' := by
  intro v p q atP atQ
  rw [same] at atP atQ
  exact oneMode v p q atP atQ

end VlanNodeCache

end SaiCommon
