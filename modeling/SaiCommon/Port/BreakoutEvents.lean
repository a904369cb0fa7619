import SaiCommon.Port.Breakout

namespace SaiCommon

variable {added rest : List ObjectId} {index mode : Nat} {first : ObjectId} {npu : SaiStatus}

def PortSignal.dataFor (listener : PortListener) : PortSignal → BreakoutData
  | .told who data => if who = listener then data else []
  | .npuBreakout => []

/-- All that a listener is told, in order. -/
def toldTo (listener : PortListener) (signals : List PortSignal) : BreakoutData :=
  signals.flatMap (PortSignal.dataFor listener)

/-- The listed ports are deleted, each once, and then the new ones are added, each once. -/
def BreakoutTold (listed : List ObjectId) (new : ObjectId → Prop) (data : BreakoutData) : Prop :=
  ∃ deleted added : List ObjectId,
    data = deleted.map (fun port => (port, BreakoutEvent.delete)) ++ added.map (fun port => (port, .add)) ∧
      deleted.Nodup ∧ (∀ port, port ∈ deleted ↔ port ∈ listed) ∧ added.Nodup ∧
      ∀ port, port ∈ added ↔ new port

/-- A port of the group of the list's first port that the breakout leaves valid. -/
def BreakoutNew (infos : PortInfos) (after : ObjectId → Bool) (breakout : PortBreakout) (port : ObjectId) : Prop :=
  after port = true ∧ ∃ first portGroup, breakout.ports.head? = some first ∧
    infos.group first = (.success, portGroup) ∧ infos.group port = (.success, portGroup)

structure BreakoutEventsRight (infos : PortInfos) (modes : BreakoutModes) (listeners : PortListeners)
    (npu : SaiStatus) (after : ObjectId → Bool) (breakout : PortBreakout) (signals : List PortSignal) : Prop where
  modules : ∀ index < listeners.moduleMax, listeners.registered index = true →
    BreakoutTold breakout.ports
      (fun port => if npu = .success then BreakoutNew infos after breakout port else port ∈ breakout.ports)
      (toldTo (.module index) signals)
  host : npu = .success → listeners.hostRegistered = true →
    BreakoutTold breakout.ports (BreakoutNew infos after breakout) (toldTo .host signals)
  hostSilent : npu ≠ .success → toldTo .host signals = []
  array : npu = .success → (portBreakoutNewPorts infos modes after breakout).1.length ≤ modes.max

/-- The ports a breakout into this mode is announced with: as many ports of the table from the first
listed one on as that one has lanes, or the first listed port that is still valid, or none. -/
def BreakoutAnnounced (infos : PortInfos) (modes : BreakoutModes) (after : ObjectId → Bool)
    (breakout : PortBreakout) (port : ObjectId) : Prop :=
  if breakout.mode = modes.fourLane then
    ∃ first lanes, breakout.ports.head? = some first ∧ infos.maxLanes first = (.success, lanes) ∧
      max lanes 1 ≤ (portInfoGet infos first).length ∧ port ∈ (portInfoGet infos first).take (max lanes 1)
  else breakout.mode = modes.oneLane ∧ breakout.ports.find? after = some port

/-- Somebody hears of a breakout with this end. -/
def BreakoutHeard (listeners : PortListeners) (npu : SaiStatus) : Prop :=
  (∃ index < listeners.moduleMax, listeners.registered index = true) ∨
    npu = .success ∧ listeners.hostRegistered = true

structure BreakoutAnnouncedRight (infos : PortInfos) (modes : BreakoutModes) (listeners : PortListeners)
    (npu : SaiStatus) (after : ObjectId → Bool) (breakout : PortBreakout) : Prop where
  once : BreakoutHeard listeners npu → breakout.ports.Nodup
  announced : npu = .success → BreakoutHeard listeners npu →
    ∀ port, BreakoutAnnounced infos modes after breakout port ↔ BreakoutNew infos after breakout port
  fits : npu = .success → breakout.mode = modes.fourLane → ∀ first lanes, breakout.ports.head? = some first →
    infos.maxLanes first = (.success, lanes) → min lanes (portInfoGet infos first).length ≤ modes.max

theorem toldTo_append (listener : PortListener) (before after : List PortSignal) :
    toldTo listener (before ++ after) = toldTo listener before ++ toldTo listener after := List.flatMap_append

theorem toldTo_npu (listener : PortListener) (after : List PortSignal) :
    toldTo listener (.npuBreakout :: after) = toldTo listener after := rfl

theorem toldTo_modules (listeners : PortListeners) (data : BreakoutData) (listener : PortListener) :
    toldTo listener (portEventInternalNotf listeners data) =
      if ∃ index < listeners.moduleMax, listeners.registered index = true ∧ listener = .module index then data
      else [] := by
  have once : ∀ indices : List Nat, indices.Nodup →
      toldTo listener (indices.map fun index => .told (.module index) data) =
        if ∃ index ∈ indices, listener = .module index then data else [] := by
    intro indices distinct
    induction indices with
    | nil => exact (if_neg (by rintro ⟨_, member, _⟩; cases member)).symm
    | cons index rest ih =>
      rw [List.nodup_cons] at distinct
      rw [List.map_cons, toldTo, List.flatMap_cons, ← toldTo, ih distinct.2]
      simp only [PortSignal.dataFor, List.exists_mem_cons_iff]
      by_cases here : PortListener.module index = listener
      · have absent : ¬ ∃ other ∈ rest, listener = .module other := by
          rintro ⟨other, member, rfl⟩
          cases here
          exact distinct.1 member
        rw [if_pos here, if_neg absent, if_pos (.inl here.symm), List.append_nil]
      · rw [if_neg here, List.nil_append]
        exact if_congr (or_iff_right fun same => here same.symm).symm rfl rfl
  unfold portEventInternalNotf
  rw [once _ (List.nodup_range.filter _)]
  simp only [List.mem_filter, List.mem_range, and_assoc]

theorem toldTo_module {listeners : PortListeners} (within : index < listeners.moduleMax)
    (registered : listeners.registered index = true) (data : BreakoutData) :
    toldTo (.module index) (portEventInternalNotf listeners data) = data := by
  rw [toldTo_modules]
  exact if_pos ⟨index, within, registered, rfl⟩

theorem toldTo_module_host (listeners : PortListeners) (index : Nat) (data : BreakoutData) :
    toldTo (.module index) (portEventNotification listeners data) = [] := by
  unfold portEventNotification
  split <;> rfl

theorem toldTo_host_module (listeners : PortListeners) (data : BreakoutData) :
    toldTo .host (portEventInternalNotf listeners data) = [] := by
  rw [toldTo_modules]
  refine if_neg ?_
  rintro ⟨index, _, _, same⟩
  cases same

theorem toldTo_host {listeners : PortListeners} (registered : listeners.hostRegistered = true) (data : BreakoutData) :
    toldTo .host (portEventNotification listeners data) = data := by
  unfold portEventNotification
  rw [if_pos registered]
  exact List.append_nil data

theorem portBreakoutLanes_eq (lanes : Nat) (info : List ObjectId) :
    portBreakoutLanes lanes info = (info.take lanes, decide (lanes ≤ info.length)) := by
  induction lanes generalizing info with
  | zero => simp [portBreakoutLanes]
  | succ lanes ih =>
    cases info with
    | nil => simp [portBreakoutLanes]
    | cons port info => simp [portBreakoutLanes, ih]

theorem portInfoGet_head {infos : PortInfos} {port next : ObjectId} {info : List ObjectId}
    (found : portInfoGet infos port = next :: info) : next = port := by
  have stops := List.head?_dropWhile_not (fun other => decide (other ≠ port)) infos.ports
  unfold portInfoGet at found
  rw [found] at stops
  exact not_not.mp fun other => by simp [other] at stops

theorem breakoutData_inj {deleted deleted' added' : List ObjectId}
    (same : deleted.map (fun port => (port, BreakoutEvent.delete)) ++ added.map (fun port => (port, .add)) =
      deleted'.map (fun port => (port, BreakoutEvent.delete)) ++ added'.map (fun port => (port, .add))) :
    deleted = deleted' ∧ added = added' := by
  have kept := fun event => congrArg (fun data : BreakoutData =>
    (data.filter fun entry => entry.2 = event).map Prod.fst) same
  have first := kept .delete
  have second := kept .add
  simp [List.filter_map, Function.comp_def] at first second
  exact ⟨first, second⟩

section Told
variable {infos : PortInfos} {modes : BreakoutModes} {listeners : PortListeners} {after : ObjectId → Bool}
  {breakout : PortBreakout}

theorem BreakoutTold.iff {listed : List ObjectId} {new : ObjectId → Prop} (once : added.Nodup) :
    BreakoutTold listed new (listed.map (fun port => (port, .delete)) ++ added.map fun port => (port, .add)) ↔
      listed.Nodup ∧ ∀ port, port ∈ added ↔ new port := by
  constructor
  · rintro ⟨deleted, added', same, distinct, -, -, exact_⟩
    obtain ⟨rfl, rfl⟩ := breakoutData_inj same
    exact ⟨distinct, exact_⟩
  · rintro ⟨distinct, exact_⟩
    exact ⟨listed, added, rfl, distinct, fun _ => Iff.rfl, once, exact_⟩

def breakoutAdded (infos : PortInfos) (modes : BreakoutModes) (after : ObjectId → Bool) (breakout : PortBreakout) :
    List ObjectId :=
  if (portBreakoutNewPorts infos modes after breakout).2 then (portBreakoutNewPorts infos modes after breakout).1
  else []

theorem breakoutAdded_four {lanes : Nat}
    (four : mode = modes.fourLane) (known : infos.maxLanes first = (.success, lanes)) :
    breakoutAdded infos modes after ⟨mode, first :: rest⟩ =
        (if max lanes 1 ≤ (portInfoGet infos first).length then
          (portInfoGet infos first).take (max lanes 1) else []) ∧
      (portBreakoutNewPorts infos modes after ⟨mode, first :: rest⟩).1.length =
        max (min lanes (portInfoGet infos first).length) 1 := by
  unfold breakoutAdded portBreakoutNewPorts
  dsimp only
  rw [if_pos four, known]
  cases found : portInfoGet infos first with
  | nil => simp
  | cons port info =>
    cases portInfoGet_head found
    dsimp only
    rw [show max lanes 1 = lanes - 1 + 1 by omega, List.take_succ_cons]
    simp only [portBreakoutLanes_eq, decide_eq_true_eq, List.length_cons, Nat.add_le_add_iff_right,
      List.length_take, true_and]
    omega

theorem breakoutAdded_unknown (four : mode = modes.fourLane) (unknown : (infos.maxLanes first).1 ≠ .success) :
    portBreakoutNewPorts infos modes after ⟨mode, first :: rest⟩ = ([first], false) := by
  unfold portBreakoutNewPorts
  dsimp only
  rw [if_pos four]
  cases known : infos.maxLanes first with
  | mk status lanes =>
    rw [known] at unknown
    cases status <;> first | exact (unknown rfl).elim | rfl

theorem breakoutAdded_notFour (notFour : breakout.mode ≠ modes.fourLane) :
    portBreakoutNewPorts infos modes after breakout =
      (if breakout.mode = modes.oneLane then (breakout.ports.find? after).toList else [], true) := by
  unfold portBreakoutNewPorts
  rw [if_neg notFour]
  split <;> rfl

theorem breakoutAdded_announced (port : ObjectId) :
    port ∈ breakoutAdded infos modes after breakout ↔ BreakoutAnnounced infos modes after breakout port := by
  obtain ⟨mode, ports⟩ := breakout
  unfold BreakoutAnnounced
  dsimp only
  split
  · rename_i four
    cases ports with
    | nil => simp [breakoutAdded, portBreakoutNewPorts, four]
    | cons first rest =>
      cases known : infos.maxLanes first with
      | mk status lanes =>
        by_cases ok : status = .success
        · subst ok
          rw [(breakoutAdded_four four known).1]
          constructor
          · intro member
            split at member
            · rename_i complete
              exact ⟨first, lanes, rfl, known, complete, member⟩
            · cases member
          · rintro ⟨_, _, same, known', complete, member⟩
            cases same
            cases known.symm.trans known'
            rw [if_pos complete]
            exact member
        · have unknown : (infos.maxLanes first).1 ≠ .success := by rwa [known]
          unfold breakoutAdded
          rw [breakoutAdded_unknown four unknown]
          refine iff_of_false List.not_mem_nil ?_
          rintro ⟨_, _, same, known', -⟩
          cases same
          exact unknown (congrArg Prod.fst known')
  · rename_i notFour
    unfold breakoutAdded
    rw [breakoutAdded_notFour notFour]
    by_cases one : mode = modes.oneLane <;> simp [one]

theorem nodup_breakoutAdded : (breakoutAdded infos modes after breakout).Nodup := by
  obtain ⟨mode, ports⟩ := breakout
  by_cases four : mode = modes.fourLane
  · cases ports with
    | nil => simp [breakoutAdded, portBreakoutNewPorts, four]
    | cons first rest =>
      cases known : infos.maxLanes first with
      | mk status lanes =>
        by_cases ok : status = .success
        · subst ok
          rw [(breakoutAdded_four four known).1]
          split
          · exact (infos.nodup.sublist (List.dropWhile_sublist _)).sublist (List.take_sublist _ _)
          · exact List.nodup_nil
        · unfold breakoutAdded
          rw [breakoutAdded_unknown four (by rwa [known])]
          exact List.nodup_nil
  · unfold breakoutAdded
    rw [breakoutAdded_notFour four]
    dsimp only
    rw [if_pos rfl]
    split
    · cases ports.find? after <;> simp
    · exact List.nodup_nil

theorem toldTo_addEvent (listener : PortListener) (internalNotf : Bool) :
    toldTo listener (portBreakoutAddEvent infos modes listeners internalNotf after breakout) =
      toldTo listener (portEventNotify listeners internalNotf
        ((breakoutAdded infos modes after breakout).map fun port => (port, .add))) := by
  unfold portBreakoutAddEvent breakoutAdded
  cases portBreakoutNewPorts infos modes after breakout with
  | mk written complete =>
    cases complete with
    | true => rfl
    | false =>
      cases internalNotf with
      | true => exact ((toldTo_modules listeners [] listener).trans (ite_self _)).symm
      | false =>
        unfold portEventNotify portEventNotification
        cases listeners.hostRegistered <;> cases listener <;> rfl

theorem portBreakoutNewPorts_fits (mode : Nat) (ports : List ObjectId) (below : mode < modes.max) :
    (portBreakoutNewPorts infos modes after ⟨mode, ports⟩).1.length ≤ modes.max ↔
      (mode = modes.fourLane → ∀ first lanes, ports.head? = some first →
        infos.maxLanes first = (.success, lanes) → min lanes (portInfoGet infos first).length ≤ modes.max) := by
  by_cases four : mode = modes.fourLane
  · cases ports with
    | nil => simp [portBreakoutNewPorts, four]
    | cons first rest =>
      cases known : infos.maxLanes first with
      | mk status lanes =>
        by_cases ok : status = .success
        · subst ok
          rw [(breakoutAdded_four four known).2]
          constructor
          · intro fits _ first' lanes' same known'
            cases same
            cases known.symm.trans known'
            omega
          · intro fits
            have here := fits four first lanes rfl known
            omega
        · rw [breakoutAdded_unknown four (by rwa [known])]
          refine iff_of_true (Nat.succ_le_of_lt (Nat.zero_lt_of_lt below)) fun _ first' lanes' same known' => ?_
          cases same
          cases known.symm.trans known'
          exact (ok rfl).elim
  · rw [breakoutAdded_notFour four]
    refine iff_of_true ?_ fun isFour => (four isFour).elim
    have positive := Nat.zero_lt_of_lt below
    dsimp only
    split
    · cases ports.find? after with
      | none => exact Nat.zero_le _
      | some port => exact positive
    · exact Nat.zero_le _

theorem toldTo_module_succeeded (within : index < listeners.moduleMax)
    (registered : listeners.registered index = true) :
    toldTo (.module index) (portNpuBreakoutSetEventNotify infos modes listeners .success after breakout).1 =
      breakout.ports.map (fun port => (port, .delete)) ++
        (breakoutAdded infos modes after breakout).map fun port => (port, .add) := by
  have own := toldTo_module within registered
  have host := toldTo_module_host listeners index
  simp only [portNpuBreakoutSetEventNotify, portBreakoutAddDeleteEvent, toldTo_append, toldTo_npu,
    toldTo_addEvent]
  simp only [portEventNotify, if_true, Bool.false_eq_true, if_false, own, host, List.append_nil]

theorem toldTo_module_failed (failed : npu ≠ .success)
    (within : index < listeners.moduleMax) (registered : listeners.registered index = true) :
    toldTo (.module index) (portNpuBreakoutSetEventNotify infos modes listeners npu after breakout).1 =
      breakout.ports.map (fun port => (port, .delete)) ++ breakout.ports.map fun port => (port, .add) := by
  have own := toldTo_module within registered
  unfold portNpuBreakoutSetEventNotify
  cases npu <;> first
    | exact (failed rfl).elim
    | simp only [portBreakoutAddDeleteEvent, toldTo_append, toldTo_npu, portEventNotify, if_true, own]

theorem toldTo_host_succeeded (registered : listeners.hostRegistered = true) :
    toldTo .host (portNpuBreakoutSetEventNotify infos modes listeners .success after breakout).1 =
      breakout.ports.map (fun port => (port, .delete)) ++
        (breakoutAdded infos modes after breakout).map fun port => (port, .add) := by
  have own := toldTo_host registered
  have modules := toldTo_host_module listeners
  simp only [portNpuBreakoutSetEventNotify, portBreakoutAddDeleteEvent, toldTo_append, toldTo_npu,
    toldTo_addEvent]
  simp only [portEventNotify, if_true, Bool.false_eq_true, if_false, own, modules, List.nil_append]

theorem toldTo_host_failed (failed : npu ≠ .success) :
    toldTo .host (portNpuBreakoutSetEventNotify infos modes listeners npu after breakout).1 = [] := by
  have modules := toldTo_host_module listeners
  unfold portNpuBreakoutSetEventNotify
  cases npu <;> first
    | exact (failed rfl).elim
    | simp only [portBreakoutAddDeleteEvent, toldTo_append, toldTo_npu, portEventNotify, if_true, modules,
        List.append_nil]

end Told

/-- With more than `modes.max` lanes the array is too small, and into a mode that is neither of the
two named ones no port is added. -/
theorem portBreakout_eventsRight_iff (infos : PortInfos) (modes : BreakoutModes) (listeners : PortListeners)
    (dynBreakout : Bool) (now : PortsNow) (npu : SaiStatus) (after : ObjectId → Bool) (breakout : PortBreakout)
    (dyn : dynBreakout = true)
    (valid : portBreakoutValidate infos modes breakout.mode breakout.ports.length = .success)
    (checked : portBreakoutCheck infos now breakout = .success) :
    BreakoutEventsRight infos modes listeners npu after breakout
        (portBreakoutSet infos modes listeners dynBreakout now npu after breakout).1 ↔
      BreakoutAnnouncedRight infos modes listeners npu after breakout := by
  have below : breakout.mode < modes.max := by
    unfold portBreakoutValidate at valid
    split at valid
    · cases valid
    · exact Nat.lt_of_not_le ‹_›
  rw [portBreakoutSet_passed dyn valid checked]
  have fits := @portBreakoutNewPorts_fits infos modes after breakout.mode breakout.ports below
  by_cases done : npu = .success
  · subst done
    have told : BreakoutTold breakout.ports (BreakoutNew infos after breakout)
        (breakout.ports.map (fun port => (port, .delete)) ++
          (breakoutAdded infos modes after breakout).map fun port => (port, .add)) ↔
        breakout.ports.Nodup ∧ ∀ port, BreakoutAnnounced infos modes after breakout port ↔
          BreakoutNew infos after breakout port := by
      rw [BreakoutTold.iff nodup_breakoutAdded]
      simp only [breakoutAdded_announced]
    constructor
    · intro right
      have heard : BreakoutHeard listeners .success → breakout.ports.Nodup ∧
          ∀ port, BreakoutAnnounced infos modes after breakout port ↔ BreakoutNew infos after breakout port := by
        rintro (⟨index, within, registered⟩ | ⟨_, registered⟩)
        · have module := right.modules index within registered
          rw [toldTo_module_succeeded within registered] at module
          simp only [if_true] at module
          exact told.mp module
        · have host := right.host rfl registered
          rw [toldTo_host_succeeded registered] at host
          exact told.mp host
      exact ⟨fun hears => (heard hears).1, fun _ hears => (heard hears).2, fun _ => fits.mp (right.array rfl)⟩
    · intro right
      have known := fun hears => told.mpr ⟨right.once hears, right.announced rfl hears⟩
      refine ⟨fun index within registered => ?_, fun _ registered => ?_, fun failed => (failed rfl).elim,
        fun _ => fits.mpr (right.fits rfl)⟩
      · rw [toldTo_module_succeeded within registered]
        simp only [if_true]
        exact known (.inl ⟨index, within, registered⟩)
      · rw [toldTo_host_succeeded registered]
        exact known (.inr ⟨rfl, registered⟩)
  · constructor
    · intro right
      refine ⟨?_, fun ok => (done ok).elim, fun ok => (done ok).elim⟩
      rintro (⟨index, within, registered⟩ | ⟨ok, _⟩)
      · obtain ⟨deleted, added, same, distinct, _⟩ := right.modules index within registered
        rw [toldTo_module_failed done within registered] at same
        obtain ⟨rfl, _⟩ := breakoutData_inj same
        exact distinct
      · exact (done ok).elim
    · intro right
      refine ⟨fun index within registered => ?_, fun ok => (done ok).elim, fun _ => toldTo_host_failed done,
        fun ok => (done ok).elim⟩
      have once := right.once (.inl ⟨index, within, registered⟩)
      rw [toldTo_module_failed done within registered]
      simp only [if_neg done]
      exact (BreakoutTold.iff once).mpr ⟨once, fun _ => Iff.rfl⟩

/-- Four lanes joined into one port that is then the only valid one. -/
theorem portBreakout_eventsRight_iff_sample :
    BreakoutEventsRight sampleBreakoutInfos sampleBreakoutModes ⟨1, fun _ => true, true⟩ .success
        (fun port => port = sampleBreakoutPort 2) ⟨0, (List.range' 1 4).map sampleBreakoutPort⟩
        (portBreakoutSet sampleBreakoutInfos sampleBreakoutModes ⟨1, fun _ => true, true⟩ true
          ⟨fun _ => true, fun _ => 2⟩ .success (fun port => port = sampleBreakoutPort 2)
          ⟨0, (List.range' 1 4).map sampleBreakoutPort⟩).1 ↔
      BreakoutAnnouncedRight sampleBreakoutInfos sampleBreakoutModes ⟨1, fun _ => true, true⟩ .success
        (fun port => port = sampleBreakoutPort 2) ⟨0, (List.range' 1 4).map sampleBreakoutPort⟩ :=
  portBreakout_eventsRight_iff _ _ _ _ ⟨fun _ => true, fun _ => 2⟩ _ _ _ rfl rfl rfl

/-- A port with four lanes writes four entries into an array of three. -/
theorem portBreakout_not_eventsRight : ¬ ∀ infos modes listeners now npu after breakout,
      portBreakoutValidate infos modes breakout.mode breakout.ports.length = .success →
      portBreakoutCheck infos now breakout = .success → BreakoutEventsRight infos modes listeners npu after breakout
        (portBreakoutSet infos modes listeners true now npu after breakout).1 := by
  intro all
  have right := all sampleBreakoutInfos sampleBreakoutModes ⟨0, fun _ => false, false⟩ sampleBreakoutNow .success
    (fun _ => true) ⟨2, [sampleBreakoutPort 1]⟩ rfl rfl
  have four : (portBreakoutNewPorts sampleBreakoutInfos sampleBreakoutModes (fun _ => true)
      ⟨2, [sampleBreakoutPort 1]⟩).1.length = 4 := by decide
  have array := right.array rfl
  rw [four] at array
  exact absurd array (by decide)

end SaiCommon
