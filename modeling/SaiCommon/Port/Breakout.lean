import SaiCommon.Base

namespace SaiCommon

/-- What is known of the ports whatever their mode; `ports` has the order of the port table. -/
structure PortInfos where
  ports : List ObjectId
  nodup : ports.Nodup
  cpu : ObjectId → Bool
  supports : ObjectId → Nat → SaiStatus × Bool
  group : ObjectId → SaiStatus × Nat
  maxLanes : ObjectId → SaiStatus × Nat
  laneCount : Nat → Nat

/-- What a breakout changes: which ports are valid and in which mode. -/
structure PortsNow where
  valid : ObjectId → Bool
  current : ObjectId → Nat

structure BreakoutModes where
  oneLane : Nat
  fourLane : Nat
  max : Nat

structure PortBreakout where
  mode : Nat
  ports : List ObjectId

inductive BreakoutEvent
  | add
  | delete
deriving DecidableEq

abbrev BreakoutData := List (ObjectId × BreakoutEvent)

/-- Those that port events go to: the internal modules that registered, and the host. -/
inductive PortListener
  | module (index : Nat)
  | host
deriving DecidableEq

structure PortListeners where
  moduleMax : Nat
  registered : Nat → Bool
  hostRegistered : Bool

/-- What leaves the port code: calls of event callbacks, and the breakout call of the NPU. -/
inductive PortSignal
  | told (listener : PortListener) (data : BreakoutData)
  | npuBreakout

def portEventInternalNotf (listeners : PortListeners) (data : BreakoutData) : List PortSignal :=
  ((List.range listeners.moduleMax).filter listeners.registered).map fun index => .told (.module index) data

def portEventNotification (listeners : PortListeners) (data : BreakoutData) : List PortSignal :=
  if listeners.hostRegistered then [.told .host data] else []

def portEventNotify (listeners : PortListeners) (internalNotf : Bool) (data : BreakoutData) : List PortSignal :=
  if internalNotf then portEventInternalNotf listeners data else portEventNotification listeners data

def portBreakoutAddDeleteEvent (listeners : PortListeners) (internalNotf : Bool) (ports : List ObjectId)
    (event : BreakoutEvent) : List PortSignal :=
  portEventNotify listeners internalNotf (ports.map fun port => (port, event))

/-- `sai_port_info_get`: the port table from a port on; it is empty when the port is not there. -/
def portInfoGet (infos : PortInfos) (port : ObjectId) : List ObjectId := infos.ports.dropWhile (· ≠ port)

def portBreakoutLanes : Nat → List ObjectId → List ObjectId × Bool
  | 0, _ => ([], true)
  | _ + 1, [] => ([], false)
  | lanes + 1, port :: info => (port :: (portBreakoutLanes lanes info).1, (portBreakoutLanes lanes info).2)

/-- `port_list` as `sai_port_breakout_add_event_notification` writes it, and whether it goes on to
notify. -/
def portBreakoutNewPorts (infos : PortInfos) (modes : BreakoutModes) (valid : ObjectId → Bool)
    (breakout : PortBreakout) : List ObjectId × Bool :=
  if breakout.mode = modes.fourLane then
    match breakout.ports with
    | [] => ([], false)
    | port :: _ =>
      match infos.maxLanes port with
      | (.success, maxLanes) =>
        match portInfoGet infos port with
        | [] => ([port], false)
        | _ :: info =>
          (port :: (portBreakoutLanes (maxLanes - 1) info).1, (portBreakoutLanes (maxLanes - 1) info).2)
      | _ => ([port], false)
  else if breakout.mode = modes.oneLane then ((breakout.ports.find? valid).toList, true)
  else ([], true)

def portBreakoutAddEvent (infos : PortInfos) (modes : BreakoutModes) (listeners : PortListeners)
    (internalNotf : Bool) (valid : ObjectId → Bool) (breakout : PortBreakout) : List PortSignal :=
  match portBreakoutNewPorts infos modes valid breakout with
  | (portList, true) => portEventNotify listeners internalNotf (portList.map fun port => (port, .add))
  | (_, false) => []

/-- `sai_port_npu_breakout_set_event_notify`; `after` has the ports that the NPU's call leaves valid. -/
def portNpuBreakoutSetEventNotify (infos : PortInfos) (modes : BreakoutModes) (listeners : PortListeners)
    (npu : SaiStatus) (after : ObjectId → Bool) (breakout : PortBreakout) : List PortSignal × SaiStatus :=
  let deleted := portBreakoutAddDeleteEvent listeners true breakout.ports .delete
  match npu with
  | .success =>
    (deleted ++ .npuBreakout :: portBreakoutAddEvent infos modes listeners true after breakout ++
      portBreakoutAddDeleteEvent listeners false breakout.ports .delete ++
      portBreakoutAddEvent infos modes listeners false after breakout, .success)
  | status =>
    (deleted ++ .npuBreakout :: portBreakoutAddDeleteEvent listeners true breakout.ports .add, status)

def portBreakoutModeValidation (infos : PortInfos) (now : PortsNow) (mode : Nat) (port : ObjectId) : SaiStatus :=
  if port.objType ≠ .port then .invalidObjectType
  else if now.valid port = false then .invalidObjectId
  else if infos.cpu port then .attrNotSupported 0
  else match infos.supports port mode with
    | (.success, true) => .success
    | (.success, false) => .attrNotSupported 0
    | (status, _) => status

def portBreakoutValidate (infos : PortInfos) (modes : BreakoutModes) (mode count : Nat) : SaiStatus :=
  if modes.max ≤ mode then .invalidAttrValue 0
  else if count = 0 ∨ count < infos.laneCount mode then .invalidAttrValue 0
  else .success

/-- The walk over the list. `portIdx` starts at one; `port` still points at the first port then. -/
def portBreakoutLoop (infos : PortInfos) (now : PortsNow) (mode portGroup count : Nat) :
    Nat → List ObjectId → SaiStatus
  | _, [] => .success
  | portIdx, port :: next =>
    if portIdx < count then
      match portBreakoutModeValidation infos now mode port with
      | .success =>
        match infos.group port with
        | (.success, tempPortGroup) =>
          if portGroup ≠ tempPortGroup then .invalidObjectId
          else portBreakoutLoop infos now mode portGroup count (portIdx + 1) next
        | (status, _) => status
      | status => status
    else .success

/-- What `sai_port_breakout_set` checks under the port lock. -/
def portBreakoutCheck (infos : PortInfos) (now : PortsNow) (breakout : PortBreakout) : SaiStatus :=
  match breakout.ports with
  | [] => .success
  | port :: _ =>
    if breakout.mode = now.current port then .itemAlreadyExists
    else match portBreakoutModeValidation infos now breakout.mode port with
      | .success =>
        match infos.group port with
        | (.success, portGroup) =>
          portBreakoutLoop infos now breakout.mode portGroup breakout.ports.length 1 breakout.ports
        | (status, _) => status
      | status => status

/-- `sai_port_breakout_set`: what it sends, and its status. -/
def portBreakoutSet (infos : PortInfos) (modes : BreakoutModes) (listeners : PortListeners) (dynBreakout : Bool)
    (now : PortsNow) (npu : SaiStatus) (after : ObjectId → Bool) (breakout : PortBreakout) :
    List PortSignal × SaiStatus :=
  if dynBreakout = false then ([], .attrNotSupported 0)
  else match portBreakoutValidate infos modes breakout.mode breakout.ports.length with
    | .success =>
      match portBreakoutCheck infos now breakout with
      | .success => portNpuBreakoutSetEventNotify infos modes listeners npu after breakout
      | status => ([], status)
    | status => ([], status)

structure BreakoutAdmits (infos : PortInfos) (now : PortsNow) (mode portGroup : Nat) (port : ObjectId) : Prop where
  isPort : port.objType = .port
  valid : now.valid port = true
  notCpu : infos.cpu port = false
  supported : infos.supports port mode = (.success, true)
  group : infos.group port = (.success, portGroup)

/-- Every port of the list may be broken out, in one port group. -/
def BreakoutAdmitted (infos : PortInfos) (now : PortsNow) (breakout : PortBreakout) : Prop :=
  ∃ portGroup, ∀ port ∈ breakout.ports, BreakoutAdmits infos now breakout.mode portGroup port

/-- Only a list of admitted ports reaches a listener or the NPU, and any other is refused. -/
def BreakoutValidated (infos : PortInfos) (now : PortsNow) (breakout : PortBreakout)
    (result : List PortSignal × SaiStatus) : Prop :=
  (result.1 ≠ [] → BreakoutAdmitted infos now breakout) ∧
    (¬ BreakoutAdmitted infos now breakout → result.1 = [] ∧ result.2 ≠ .success)

/-- When nothing else stops the request and all ports before the last are admitted, the last one is
too. -/
def BreakoutLastAdmitted (infos : PortInfos) (modes : BreakoutModes) (dynBreakout : Bool) (now : PortsNow)
    (breakout : PortBreakout) : Prop :=
  ∀ first next last portGroup, breakout.ports = first :: (next ++ [last]) → dynBreakout = true →
    portBreakoutValidate infos modes breakout.mode breakout.ports.length = .success →
    breakout.mode ≠ now.current first →
    (∀ port ∈ first :: next, BreakoutAdmits infos now breakout.mode portGroup port) →
    BreakoutAdmits infos now breakout.mode portGroup last

section Walk
variable {infos : PortInfos} {modes : BreakoutModes} {listeners : PortListeners} {now : PortsNow}

theorem portBreakoutModeValidation_iff {mode portGroup : Nat} {port : ObjectId} :
    portBreakoutModeValidation infos now mode port = .success ∧ infos.group port = (.success, portGroup) ↔
      BreakoutAdmits infos now mode portGroup port := by
  unfold portBreakoutModeValidation
  constructor
  · rintro ⟨valid, group⟩
    split at valid
    · cases valid
    rename_i isPort
    split at valid
    · cases valid
    rename_i isValid
    split at valid
    · cases valid
    rename_i notCpu
    split at valid
    · rename_i supported
      exact ⟨not_not.mp isPort, Bool.not_eq_false _ ▸ isValid, Bool.eq_false_iff.mpr notCpu, supported, group⟩
    · cases valid
    · rename_i status answer notYes notNo supported
      subst valid
      cases answer
      · exact (notNo rfl rfl).elim
      · exact (notYes rfl rfl).elim
  · intro admits
    refine ⟨?_, admits.group⟩
    rw [if_neg (not_not_intro admits.isPort), if_neg (by rw [admits.valid]; exact Bool.noConfusion),
      if_neg (by rw [admits.notCpu]; exact Bool.noConfusion), admits.supported]

theorem portBreakoutLoop_iff {mode portGroup count : Nat} (ports : List ObjectId) (portIdx : Nat) :
    portBreakoutLoop infos now mode portGroup count portIdx ports = .success ↔
      ∀ port ∈ ports.take (count - portIdx), BreakoutAdmits infos now mode portGroup port := by
  induction ports generalizing portIdx with
  | nil => exact ⟨fun _ _ member => (List.not_mem_nil (List.take_nil ▸ member)).elim, fun _ => rfl⟩
  | cons port next ih =>
    unfold portBreakoutLoop
    by_cases within : portIdx < count
    · rw [if_pos within, show count - portIdx = count - (portIdx + 1) + 1 by omega, List.take_succ_cons,
        List.forall_mem_cons, ← ih]
      constructor
      · intro passed
        split at passed
        · rename_i valid
          split at passed
          · rename_i tempPortGroup group
            split at passed
            · cases passed
            rename_i same
            cases not_not.mp same
            exact ⟨portBreakoutModeValidation_iff.mp ⟨valid, group⟩, passed⟩
          · rename_i notOk group
            subst passed
            exact (notOk rfl).elim
        · rename_i notOk
          exact (notOk passed).elim
      · rintro ⟨admits, rest⟩
        obtain ⟨valid, group⟩ := portBreakoutModeValidation_iff.mpr admits
        rw [valid, group]
        dsimp only
        rw [if_neg (not_not_intro rfl)]
        exact rest
    · rw [if_neg within, show count - portIdx = 0 by omega]
      exact ⟨fun _ _ member => (List.not_mem_nil member).elim, fun _ => rfl⟩

theorem portBreakoutCheck_iff {mode : Nat} {first : ObjectId} {rest : List ObjectId} :
    portBreakoutCheck infos now ⟨mode, first :: rest⟩ = .success ↔ mode ≠ now.current first ∧
      ∃ portGroup, ∀ port ∈ first :: rest.dropLast, BreakoutAdmits infos now mode portGroup port := by
  have walk : ∀ portGroup, BreakoutAdmits infos now mode portGroup first →
      (portBreakoutLoop infos now mode portGroup (first :: rest).length 1 (first :: rest) = .success ↔
        ∀ port ∈ first :: rest.dropLast, BreakoutAdmits infos now mode portGroup port) := by
    intro portGroup admits
    rw [portBreakoutLoop_iff]
    cases rest with
    | nil => exact ⟨fun _ => List.forall_mem_singleton.mpr admits, fun _ _ member => (List.not_mem_nil member).elim⟩
    | cons second others => rw [List.dropLast_eq_take, List.length_cons, Nat.add_sub_cancel, List.length_cons,
        List.take_succ_cons, Nat.add_sub_cancel]
  unfold portBreakoutCheck
  dsimp only
  constructor
  · intro passed
    split at passed
    · cases passed
    rename_i differs
    split at passed
    · rename_i valid
      split at passed
      · rename_i portGroup group
        have admits := portBreakoutModeValidation_iff.mp ⟨valid, group⟩
        exact ⟨differs, portGroup, (walk portGroup admits).mp passed⟩
      · rename_i notOk group
        subst passed
        exact (notOk rfl).elim
    · rename_i notOk
      exact (notOk passed).elim
  · rintro ⟨differs, portGroup, admitted⟩
    have admits := admitted first (List.mem_cons_self ..)
    obtain ⟨valid, group⟩ := portBreakoutModeValidation_iff.mpr admits
    rw [if_neg differs, valid, group]
    exact (walk portGroup admits).mpr admitted

theorem portBreakoutSet_passed {dynBreakout : Bool} {npu : SaiStatus} {after : ObjectId → Bool}
    {breakout : PortBreakout} (dyn : dynBreakout = true)
    (valid : portBreakoutValidate infos modes breakout.mode breakout.ports.length = .success)
    (checked : portBreakoutCheck infos now breakout = .success) :
    portBreakoutSet infos modes listeners dynBreakout now npu after breakout =
      portNpuBreakoutSetEventNotify infos modes listeners npu after breakout := by
  unfold portBreakoutSet
  rw [if_neg (by rw [dyn]; exact Bool.noConfusion), valid, checked]

theorem portBreakoutSet_cases (dynBreakout : Bool) (npu : SaiStatus) (after : ObjectId → Bool)
    (breakout : PortBreakout) :
    dynBreakout = true ∧ portBreakoutValidate infos modes breakout.mode breakout.ports.length = .success ∧
        portBreakoutCheck infos now breakout = .success ∨
      (portBreakoutSet infos modes listeners dynBreakout now npu after breakout).1 = [] ∧
        (portBreakoutSet infos modes listeners dynBreakout now npu after breakout).2 ≠ .success := by
  unfold portBreakoutSet
  split
  · exact .inr ⟨rfl, fun same => by cases same⟩
  rename_i dyn
  split
  · rename_i valid
    split
    · rename_i checked
      exact .inl ⟨Bool.not_eq_false _ ▸ dyn, valid, checked⟩
    · rename_i notOk
      exact .inr ⟨rfl, notOk⟩
  · rename_i notOk
    exact .inr ⟨rfl, notOk⟩

theorem portNpuBreakoutSetEventNotify_npu (npu : SaiStatus) (after : ObjectId → Bool) (breakout : PortBreakout) :
    PortSignal.npuBreakout ∈ (portNpuBreakoutSetEventNotify infos modes listeners npu after breakout).1 := by
  unfold portNpuBreakoutSetEventNotify
  cases npu <;> simp

end Walk

/-- The walk looks twice at the first port and never at the last. -/
theorem portBreakout_validated_iff (infos : PortInfos) (modes : BreakoutModes) (listeners : PortListeners)
    (dynBreakout : Bool) (now : PortsNow) (npu : SaiStatus) (after : ObjectId → Bool) (breakout : PortBreakout) :
    BreakoutValidated infos now breakout
        (portBreakoutSet infos modes listeners dynBreakout now npu after breakout) ↔
      BreakoutLastAdmitted infos modes dynBreakout now breakout := by
  constructor
  · rintro ⟨sent, _⟩ first next last portGroup ports dyn valid differs admitted
    have checked : portBreakoutCheck infos now breakout = .success := by
      obtain ⟨mode, list⟩ := breakout
      cases ports
      refine portBreakoutCheck_iff.mpr ⟨differs, portGroup, ?_⟩
      rw [List.dropLast_concat]
      exact admitted
    rw [portBreakoutSet_passed dyn valid checked] at sent
    obtain ⟨common, all⟩ := sent (List.ne_nil_of_mem (portNpuBreakoutSetEventNotify_npu npu after breakout))
    rw [ports] at all
    have group := (admitted first (List.mem_cons_self ..)).group
    rw [(all first (List.mem_cons_self ..)).group] at group
    cases group
    exact all last (List.mem_cons_of_mem _ (List.mem_append_right _ (List.mem_singleton_self last)))
  · intro lastAdmitted
    rcases @portBreakoutSet_cases infos modes listeners now dynBreakout npu after breakout with
      ⟨dyn, valid, checked⟩ | ⟨silent, error⟩
    · have admitted : BreakoutAdmitted infos now breakout := by
        obtain ⟨mode, ports⟩ := breakout
        cases ports with
        | nil => exact ⟨0, fun _ member => (List.not_mem_nil member).elim⟩
        | cons first rest =>
          obtain ⟨differs, portGroup, all⟩ := portBreakoutCheck_iff.mp checked
          refine ⟨portGroup, ?_⟩
          rcases List.eq_nil_or_concat' rest with rfl | ⟨next, last, rfl⟩
          · exact all
          rw [List.dropLast_concat] at all
          have ends := lastAdmitted first next last portGroup rfl dyn valid differs all
          dsimp only
          rw [← List.cons_append, List.forall_mem_append]
          exact ⟨all, List.forall_mem_singleton.mpr ends⟩
      exact ⟨fun _ => admitted, fun not => (not admitted).elim⟩
    · exact ⟨fun sent => (sent silent).elim, fun _ => ⟨silent, error⟩⟩

def sampleBreakoutPort (index : Nat) : ObjectId := ⟨.port, index⟩

def sampleBreakoutInfos : PortInfos where
  ports := (List.range 5).map sampleBreakoutPort
  nodup := by decide
  cpu port := port.npuObjectId = 0
  supports _ _ := (.success, true)
  group _ := (.success, 1)
  maxLanes _ := (.success, 4)
  laneCount mode := if mode = 0 then 4 else 1

def sampleBreakoutModes : BreakoutModes := ⟨0, 2, 3⟩

def sampleBreakoutNow : PortsNow := ⟨fun _ => true, fun _ => 0⟩

/-- The CPU port is broken out when it is the last one of the list. -/
theorem portBreakout_not_validated :
    ¬ ∀ infos modes listeners dynBreakout now npu after breakout, BreakoutValidated infos now breakout
      (portBreakoutSet infos modes listeners dynBreakout now npu after breakout) := by
  intro all
  obtain ⟨_, refused⟩ :=
    all sampleBreakoutInfos sampleBreakoutModes ⟨0, fun _ => false, false⟩ true sampleBreakoutNow
    .success (fun _ => true) ⟨2, [sampleBreakoutPort 1, sampleBreakoutPort 0]⟩
  refine (refused ?_).2 rfl
  rintro ⟨portGroup, admitted⟩
  have notCpu := (admitted (sampleBreakoutPort 0) (List.mem_cons_of_mem _ (List.mem_cons_self ..))).notCpu
  cases notCpu

end SaiCommon
