import SaiCommon.Lib.Push
import SaiCommon.Qos.Policer

namespace SaiCommon

variable {next node : Policer} {attr : PolicerAttr} {npu : PolicerNpu} {env : PolicerSetEnv}

/-- The parameters of a policer record, without its key and its users. -/
structure PolicerParams where
  meterType : Nat
  policerMode : PolicerMode
  colorSource : Nat
  cbs : Nat
  cir : Nat
  pbs : Nat
  pir : Nat
  actionList : List PolicerAction
deriving DecidableEq

def Policer.params (node : Policer) : PolicerParams :=
  ⟨node.meterType, node.policerMode, node.colorSource, node.cbs, node.cir, node.pbs, node.pir, node.actionList⟩

def PolicerAttr.change (attr : PolicerAttr) (params : PolicerParams) : PolicerParams :=
  match attr with
  | .meterType value => { params with meterType := value }
  | .mode value => { params with policerMode := value }
  | .colorSource value => { params with colorSource := value }
  | .cbs value => { params with cbs := value }
  | .cir value => { params with cir := value }
  | .pbs value => { params with pbs := value }
  | .pir value => { params with pir := value }
  | .packetAction color value =>
    { params with actionList := policerExistNodeActionsUpdate color value params.actionList }
  | _ => params

/-- The ports of a policer in the order in which a set visits them. -/
def Policer.ports (node : Policer) : List (PolicerType × ObjectId) :=
  (node.portDllHead .stormFlood).map (PolicerType.stormFlood, ·) ++
    ((node.portDllHead .stormBcast).map (PolicerType.stormBcast, ·) ++
      (node.portDllHead .stormMcast).map (PolicerType.stormMcast, ·))

/-- The record that each port polices with for each type, if any. -/
abbrev PolicerNpu := PolicerType × ObjectId → Option PolicerParams

/-- `policer_port_set` of each port of one type. -/
def npuPolicerPortLoop (record : PolicerParams) (portSet : PolicerType → ObjectId → SaiStatus) (type : PolicerType)
    (ports : List ObjectId) (npu : PolicerNpu) : PolicerNpu × SaiStatus :=
  Push.run .success (fun port => portSet port.1 port.2) (fun _ => some record) (ports.map (type, ·)) npu

/-- `sai_policer_update_port_list` with the NPU beside it; the lists are those of the
stored node, the record is the new one. -/
def npuPolicerUpdatePortList (node : Policer) (record : PolicerParams)
    (portSet : PolicerType → ObjectId → SaiStatus)
    (npu : PolicerNpu) : PolicerNpu × SaiStatus :=
  match npuPolicerPortLoop record portSet .stormFlood (node.portDllHead .stormFlood) npu with
  | (npu, .success) =>
    match npuPolicerPortLoop record portSet .stormBcast (node.portDllHead .stormBcast) npu with
    | (npu, .success) => npuPolicerPortLoop record portSet .stormMcast (node.portDllHead .stormMcast) npu
    | (npu, error) => (npu, error)
  | (npu, error) => (npu, error)

section Mode
variable (modeOf : ObjectId → PolicerMode)

/-- Hardware that keeps the ports of a policer itself gives them what the policer
is given; other hardware is told port by port. -/
def npuPolicerUsersUpdate (policerId : ObjectId) (node : Policer) (record : PolicerParams) (attr : PolicerAttr)
    (env : PolicerSetEnv) (npu : PolicerNpu) : PolicerNpu × SaiStatus :=
  match modeOf policerId with
  | .stormControl =>
    if env.hwPortListSupported then
      (fun port => if port ∈ node.ports then (npu port).map attr.change else npu port, .success)
    else npuPolicerUpdatePortList node record env.policerPortSet npu
  | .trTcm => (npu, if env.aclReinstallNeeded then env.updatePolicerAclRule else .success)
  | .srTcm => (npu, if env.aclReinstallNeeded then env.updatePolicerAclRule else .success)
  | .other _ => (npu, .success)

/-- The stored node is written after its users. -/
def npuPolicerWrite (s : PolicerState) (policerId : ObjectId) (node : Policer) (attr : PolicerAttr)
    (users : PolicerNpu × SaiStatus) : PolicerState × PolicerNpu × SaiStatus :=
  match users with
  | (npu, .success) =>
    match policerAttrSet node attr true with
    | .ok next => ({ s with policerTree := s.policerTree.put policerId next }, npu, .success)
    | .error status => (s, npu, status)
  | (npu, error) => (s, npu, error)

def npuQosPolicerAttributeSet (s : PolicerState) (npu : PolicerNpu) (policerId : ObjectId) (attr : PolicerAttr)
    (env : PolicerSetEnv) : PolicerState × PolicerNpu × SaiStatus :=
  if policerId.objType ≠ .policer then (s, npu, .invalidObjectType)
  else match s.policerTree.get policerId with
    | none => (s, npu, .invalidObjectId)
    | some node =>
      match policerParseUpdateAttributes .zero [attr] .set env.vendor with
      | .error status => (s, npu, status)
      | .ok record =>
        match env.npu with
        | .success =>
          npuPolicerWrite s policerId node attr (npuPolicerUsersUpdate modeOf policerId node record.params attr env npu)
        | error => (s, npu, error)

/-- How a set of a policer should end: an error leaves the node and what its ports
police with, with success they all have the node's new parameters. -/
structure PolicerSetRight (s : PolicerState) (npu : PolicerNpu) (policerId : ObjectId) (node : Policer)
    (attr : PolicerAttr) (ended : PolicerState × PolicerNpu × SaiStatus) : Prop where
  error : ended.2.2 ≠ .success → ended.1 = s ∧ ∀ port ∈ node.ports, ended.2.1 port = npu port
  success : ended.2.2 = .success → ∃ next, ended.1.policerTree.get policerId = some next ∧
    next.params = attr.change node.params ∧ ∀ port ∈ node.ports, ended.2.1 port = some next.params

/-- Hardware that keeps the ports has the node's parameters for them. Other hardware
takes the attribute alone for all parameters where there are ports, and has it before
the first port that refuses. -/
def PolicerTold (npu : PolicerNpu) (node : Policer) (attr : PolicerAttr) (env : PolicerSetEnv) : Prop :=
  if env.hwPortListSupported then ∀ port ∈ node.ports, (npu port).map attr.change = some (attr.change node.params)
  else if ∀ port ∈ node.ports, env.policerPortSet port.1 port.2 = .success
    then node.ports ≠ [] → attr.change node.params = attr.change Policer.zero.params
    else ∀ port ∈ Push.told .success (fun port => env.policerPortSet port.1 port.2) node.ports,
      npu port = some (attr.change Policer.zero.params)

/-- The set reaches the ports only with an attribute that is accepted. -/
def PolicerSetWhen (npu : PolicerNpu) (policerId : ObjectId) (node : Policer) (attr : PolicerAttr)
    (env : PolicerSetEnv) : Prop :=
  policerId.objType = .policer →
    (∃ record, policerParseUpdateAttributes .zero [attr] .set env.vendor = .ok record) →
    env.npu = .success → PolicerTold npu node attr env

end Mode

section Ports
variable {record : PolicerParams}

section
variable (portSet : PolicerType → ObjectId → SaiStatus)

theorem npuPolicerUpdatePortList_eq : npuPolicerUpdatePortList node record portSet npu =
      Push.run .success (fun port => portSet port.1 port.2) (fun _ => some record) node.ports npu := by
  unfold npuPolicerUpdatePortList Policer.ports npuPolicerPortLoop
  rw [Push.run_append, Push.run_append]
  generalize Push.run .success (fun port => portSet port.1 port.2) (fun _ => some record)
    ((node.portDllHead .stormFlood).map (PolicerType.stormFlood, ·)) npu = flood
  obtain ⟨flood, status⟩ := flood
  cases status with
  | success =>
    dsimp only
    rw [if_pos rfl]
    generalize Push.run .success (fun port => portSet port.1 port.2) (fun _ => some record)
      ((node.portDllHead .stormBcast).map (PolicerType.stormBcast, ·)) flood = bcast
    obtain ⟨bcast, status⟩ := bcast
    cases status <;> rfl
  | _ => rfl

end

theorem policerAttrSet_change (written : policerAttrSet node attr true = .ok next) :
    next.params = attr.change node.params := by
  unfold policerAttrSet at written
  cases attr with
  | packetAction color value =>
    dsimp only at written
    split at written
    · cases written
      rfl
    · cases written
  | enableCounterList => cases written
  | unknown => cases written
  | _ =>
    cases written
    rfl

theorem policerAttrSet_error {oldNodeUpdate : Bool} {status : SaiStatus}
    (refused : policerAttrSet node attr oldNodeUpdate = .error status) : status ≠ .success := by
  unfold policerAttrSet at refused
  cases attr with
  | packetAction color value =>
    dsimp only at refused
    split at refused
    · cases refused
    rename_i error
    cases refused
    exact error
  | enableCounterList =>
    cases refused
    exact SaiStatus.noConfusion
  | unknown =>
    cases refused
    exact SaiStatus.noConfusion
  | _ => cases refused

theorem policerAttrLoop_error {status : SaiStatus} (attrs : List PolicerAttr) :
    ∀ (index : Nat) (node : Policer), policerAttrLoop index node attrs = .error status → status ≠ .success := by
  induction attrs with
  | nil =>
    intro index node refused
    cases refused
  | cons attr rest ih =>
    intro index node refused
    unfold policerAttrLoop at refused
    split at refused
    · exact ih _ _ refused
    rename_i failed
    cases refused
    exact mt indexedRetVal_success.mp (policerAttrSet_error failed)

theorem policerParse_error {attrs : List PolicerAttr} {op : PolicerOp} {vendor status : SaiStatus}
    (refused : policerParseUpdateAttributes node attrs op vendor = .error status) : status ≠ .success := by
  unfold policerParseUpdateAttributes at refused
  split at refused
  · split at refused
    · rename_i failed
      cases refused
      exact policerAttrLoop_error attrs 0 node failed
    split at refused
    · cases refused
      exact SaiStatus.noConfusion
    split at refused
    · cases refused
      exact SaiStatus.noConfusion
    · cases refused
  · rename_i error
    cases refused
    exact error

/-- What is parsed for a set is the attribute alone in a zeroed record, and the
stored node takes it too. -/
theorem policerParse_set {vendor : SaiStatus} {parsed : Policer}
    (isOk : policerParseUpdateAttributes .zero [attr] .set vendor = .ok parsed) (node : Policer) :
    parsed.params = attr.change Policer.zero.params ∧ ∃ next, policerAttrSet node attr true = .ok next := by
  have alone : policerAttrSet .zero attr false = .ok parsed := by
    unfold policerParseUpdateAttributes policerAttrLoop at isOk
    split at isOk
    · cases set : policerAttrSet .zero attr false with
      | error status =>
        rw [set] at isOk
        cases isOk
      | ok next =>
        rw [set] at isOk
        dsimp only [policerAttrLoop] at isOk
        split at isOk
        · cases isOk
        split at isOk
        · cases isOk
        · exact isOk
    · cases isOk
  unfold policerAttrSet at alone ⊢
  cases attr with
  | packetAction color value =>
    dsimp only at alone ⊢
    cases valid : qosPolicerValidateAction value with
    | success =>
      rw [valid] at alone
      cases alone
      exact ⟨rfl, _, rfl⟩
    | _ =>
      rw [valid] at alone
      cases alone
  | enableCounterList => cases alone
  | unknown => cases alone
  | _ =>
    cases alone
    exact ⟨rfl, _, rfl⟩

end Ports

section Set
variable {modeOf : ObjectId → PolicerMode} {s : PolicerState} {told : PolicerNpu} {policerId : ObjectId}
  {status : SaiStatus}

theorem PolicerSetRight.error_iff (error : status ≠ .success) :
    PolicerSetRight s npu policerId node attr (s, told, status) ↔ ∀ port ∈ node.ports, told port = npu port :=
  ⟨fun right => (right.error error).2, fun kept =>
    ⟨fun _ => ⟨rfl, kept⟩, fun success => absurd success error⟩⟩

theorem PolicerSetRight.refused (error : status ≠ .success) :
    PolicerSetRight s npu policerId node attr (s, npu, status) :=
  (error_iff error).mpr fun _ _ => rfl

theorem PolicerSetRight.success_iff (written : policerAttrSet node attr true = .ok next) :
    PolicerSetRight s npu policerId node attr
        ({ s with policerTree := s.policerTree.put policerId next }, told, .success) ↔
      ∀ port ∈ node.ports, told port = some (attr.change node.params) := by
  have params := policerAttrSet_change written
  have inTree : (s.policerTree.put policerId next).get policerId = some next := KeyTree.get_put_self _ _ _
  constructor
  · intro right
    obtain ⟨found, isIt, changed, has⟩ := right.success rfl
    rw [changed] at has
    exact has
  · intro has
    rw [← params] at has
    exact ⟨fun error => absurd rfl error, fun _ => ⟨next, inTree, params, has⟩⟩

theorem npuPolicerWrite_success (written : policerAttrSet node attr true = .ok next) :
    npuPolicerWrite s policerId node attr (told, .success) =
      ({ s with policerTree := s.policerTree.put policerId next }, told, .success) := by
  unfold npuPolicerWrite
  dsimp only
  rw [written]

theorem npuPolicerWrite_error (error : status ≠ .success) :
    npuPolicerWrite s policerId node attr (told, status) = (s, told, status) := by
  unfold npuPolicerWrite
  split
  · rename_i isIt
    cases isIt
    exact absurd rfl error
  · rename_i isIt
    cases isIt
    rfl

/-- A set that reaches the ports ends right exactly when they hold what they are told. -/
theorem policerTold_iff {record : Policer} (storm : modeOf policerId = .stormControl)
    (alone : record.params = attr.change Policer.zero.params) (written : policerAttrSet node attr true = .ok next) :
    PolicerSetRight s npu policerId node attr (npuPolicerWrite s policerId node attr
          (npuPolicerUsersUpdate modeOf policerId node record.params attr env npu)) ↔
      PolicerTold npu node attr env := by
  unfold npuPolicerUsersUpdate PolicerTold
  rw [storm]
  dsimp only
  by_cases kept : env.hwPortListSupported = true
  · rw [if_pos kept, if_pos kept, npuPolicerWrite_success written, PolicerSetRight.success_iff written]
    refine forall₂_congr fun port member => ?_
    rw [if_pos member]
  rw [if_neg kept, if_neg kept, npuPolicerUpdatePortList_eq, alone]
  have ok : (Push.run .success (fun port => env.policerPortSet port.1 port.2)
      (fun _ => some (attr.change Policer.zero.params)) node.ports npu).2 = .success ↔ _ :=
    Push.run_ok_iff node.ports npu
  have same : (∀ port ∈ node.ports, (Push.run .success (fun port => env.policerPortSet port.1 port.2)
      (fun _ => some (attr.change Policer.zero.params)) node.ports npu).1 port = npu port) ↔ _ :=
    Push.run_same_iff fun _ => rfl
  by_cases all : ∀ port ∈ node.ports, env.policerPortSet port.1 port.2 = .success
  · have has : ∀ port ∈ node.ports, (Push.run .success (fun port => env.policerPortSet port.1 port.2)
        (fun _ => some (attr.change Policer.zero.params)) node.ports npu).1 port = _ :=
      fun _ member => Push.run_all (fun _ => rfl) all member
    have accepted := ok.mpr all
    rw [if_pos all]
    generalize Push.run SaiStatus.success _ _ node.ports npu = told at accepted has
    obtain ⟨told, status⟩ := told
    cases accepted
    rw [npuPolicerWrite_success written, PolicerSetRight.success_iff written]
    constructor
    · intro right some
      obtain ⟨port, member⟩ := List.exists_mem_of_ne_nil _ some
      exact Option.some.inj ((right port member).symm.trans (has port member))
    · intro equal port member
      rw [equal (List.ne_nil_of_mem member)]
      exact has port member
  · have failed := mt ok.mp all
    rw [if_neg all, forall₂_congr fun port _ => eq_comm, ← same]
    generalize Push.run SaiStatus.success _ _ node.ports npu = told at failed
    obtain ⟨told, status⟩ := told
    rw [npuPolicerWrite_error failed, PolicerSetRight.error_iff failed]

/-- In every state a set of a storm-control policer gives its ports the policer's
new parameters, or leaves them, exactly when `PolicerSetWhen` says so. -/
theorem policerSet_reachesAll (storm : modeOf policerId = .stormControl)
    (stored : s.policerTree.get policerId = some node) :
    PolicerSetRight s npu policerId node attr (npuQosPolicerAttributeSet modeOf s npu policerId attr env) ↔
      PolicerSetWhen npu policerId node attr env := by
  unfold npuQosPolicerAttributeSet PolicerSetWhen
  by_cases kind : policerId.objType = .policer
  swap
  · rw [if_pos kind]
    exact iff_of_true (.refused SaiStatus.noConfusion) fun is => absurd is kind
  rw [if_neg (not_not.mpr kind), stored, imp_iff_right kind]
  dsimp only
  cases parsed : policerParseUpdateAttributes .zero [attr] .set env.vendor with
  | error status =>
    refine iff_of_true (.refused (policerParse_error parsed)) ?_
    rintro ⟨_, isIt⟩
    cases isIt
  | ok record =>
    obtain ⟨alone, next, written⟩ := policerParse_set parsed node
    rw [imp_iff_right ⟨record, rfl⟩]
    cases answer : env.npu with
    | success =>
      rw [imp_iff_right rfl]
      exact policerTold_iff storm alone written
    | _ => exact iff_of_true (.refused SaiStatus.noConfusion) fun is => by cases is

end Set

def stormSampleNode : Policer :=
  { Policer.zero with
    policerMode := .stormControl
    pir := 100
    portDllHead := fun type => if type = .stormFlood then [⟨.port, 1⟩]
      else if type = .stormBcast then [⟨.port, 2⟩] else [] }

def stormSample : PolicerState where
  portTree := ∅
  policerTree := (∅ : KeyTree ObjectId Policer).put ⟨.policer, 1⟩ stormSampleNode

def stormSampleEnv (hwPortListSupported : Bool) : PolicerSetEnv :=
  ⟨.success, .success, false, .success, hwPortListSupported, fun _ _ => .success⟩

/-- A policer that is zero but for its ports. -/
def stormSampleBlank : Policer := { stormSampleNode with policerMode := .srTcm, pir := 0 }

def stormSampleAt (node : Policer) : PolicerState :=
  { stormSample with policerTree := (∅ : KeyTree ObjectId Policer).put ⟨.policer, 1⟩ node }

theorem policerSet_reachesAll_sample :
    (∀ port ∈ [(PolicerType.stormFlood, ⟨.port, 1⟩), (.stormBcast, ⟨.port, 2⟩)],
      port ∈ stormSampleNode.ports) ∧
    PolicerSetRight stormSample (fun _ => some stormSampleNode.params)
      ⟨.policer, 1⟩ stormSampleNode (.pir 200) (npuQosPolicerAttributeSet (fun _ => .stormControl) stormSample
        (fun _ => some stormSampleNode.params) ⟨.policer, 1⟩ (.pir 200) (stormSampleEnv true)) ∧
    PolicerSetRight (stormSampleAt stormSampleBlank) (fun _ => some stormSampleBlank.params)
      ⟨.policer, 1⟩ stormSampleBlank (.pir 200) (npuQosPolicerAttributeSet (fun _ => .stormControl)
        (stormSampleAt stormSampleBlank) (fun _ => some stormSampleBlank.params) ⟨.policer, 1⟩ (.pir 200)
        (stormSampleEnv false)) := by
  refine ⟨by decide, (policerSet_reachesAll rfl (KeyTree.get_put_self _ _ _)).mpr fun _ _ _ => ?_,
    (policerSet_reachesAll rfl (KeyTree.get_put_self _ _ _)).mpr fun _ _ _ => ?_⟩
  · unfold PolicerTold
    rw [if_pos (show (stormSampleEnv true).hwPortListSupported = true from rfl)]
    exact fun _ _ => rfl
  · unfold PolicerTold
    rw [if_neg (show ¬ (stormSampleEnv false).hwPortListSupported = true from Bool.false_ne_true),
      if_pos (show ∀ port ∈ stormSampleBlank.ports,
        (stormSampleEnv false).policerPortSet port.1 port.2 = .success from fun _ _ => rfl)]
    exact fun _ => rfl

/-- The port is told the new PIR with the mode of a zeroed record. -/
theorem policerSet_not_reachesAll : ¬ ∀ (modeOf : ObjectId → PolicerMode) s npu policerId node attr env,
    modeOf policerId = .stormControl → s.policerTree.get policerId = some node →
    (∀ port ∈ node.ports, npu port = some node.params) →
    PolicerSetRight s npu policerId node attr (npuQosPolicerAttributeSet modeOf s npu policerId attr env) := by
  intro all
  have right := all (fun _ => .stormControl) stormSample (fun _ => some stormSampleNode.params) ⟨.policer, 1⟩
    stormSampleNode (.pir 200) (stormSampleEnv false) rfl (KeyTree.get_put_self _ _ _) fun _ _ => rfl
  obtain ⟨next, _, params, has⟩ := right.success (by decide)
  have told := has (.stormFlood, ⟨.port, 1⟩) (by decide)
  rw [params] at told
  exact absurd told (by decide)

end SaiCommon
