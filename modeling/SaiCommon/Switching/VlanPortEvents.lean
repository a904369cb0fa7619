import SaiCommon.Switching.VlanMembership

namespace SaiCommon

variable {rest : List PortEventData} {port : VlanPort} {mode : VlanTaggingMode}

/-- `SAI_DEF_VLAN_TAGGING_MODE` and `SAI_DFLT_VLAN_PRIORITY`, which headers outside of this
repository define. -/
structure VlanPortDefaults where
  taggingMode : VlanTaggingMode
  priority : BitVec 8
deriving DecidableEq

/-- The members of the VLANs and the two port attributes that the VLAN module sets. -/
structure VlanPortsState (C : Type) where
  members : VlanMembers C
  portVlanId : ObjectId → Nat
  vlanPriority : ObjectId → BitVec 8

/-- What the calls that are made for one event find: `ports` is for the addition or the
removal, `undo` for the removal after a failed set. -/
structure PortEventEnv where
  ports : VlanPortsEnv
  setVlanId : SaiStatus
  undo : VlanPortsEnv
  setPriority : SaiStatus

inductive PortEvent
  | add
  | delete
  | other
deriving DecidableEq

structure PortEventData where
  portId : ObjectId
  portEvent : PortEvent
  env : PortEventEnv

section Handler
variable {C : Type} (nodes : VlanNodeCache C) (platform : VlanPlatform) (defaults : VlanPortDefaults)

def vlanPortDefaultInit (s : VlanPortsState C) (vlanId : Nat) (portId : ObjectId) (env : PortEventEnv) :
    VlanPortsState C × SaiStatus :=
  match l2AddPortsToVlan nodes platform s.members vlanId [⟨portId, defaults.taggingMode⟩] env.ports with
  | (members, .success) =>
    match env.setVlanId with
    | .success =>
      let portVlanId := Function.update s.portVlanId portId vlanId
      match env.setPriority with
      | .success => (⟨members, portVlanId, Function.update s.vlanPriority portId defaults.priority⟩, .success)
      | error => (⟨members, portVlanId, s.vlanPriority⟩, error)
    | error =>
      let members :=
        (l2RemovePortsFromVlan nodes platform members vlanId [⟨portId, defaults.taggingMode⟩] env.undo).1
      (⟨members, s.portVlanId, s.vlanPriority⟩, error)
  | (members, error) => (⟨members, s.portVlanId, s.vlanPriority⟩, error)

/-- `sai_vlan_port_notification_handler`: the first event that calls for something is the last
one that is looked at. -/
def vlanPortNotificationHandler (s : VlanPortsState C) : List PortEventData → VlanPortsState C × SaiStatus
  | [] => (s, .success)
  | data :: rest =>
    match data.portEvent with
    | .add => vlanPortDefaultInit nodes platform defaults s initDefaultVlan data.portId data.env
    | .delete =>
      if nodes.isMember s.members.cache initDefaultVlan ⟨data.portId, defaults.taggingMode⟩ then
        match l2RemovePortsFromVlan nodes platform s.members initDefaultVlan [⟨data.portId, defaults.taggingMode⟩]
          data.env.ports with
        | (members, status) => (⟨members, s.portVlanId, s.vlanPriority⟩, status)
      else vlanPortNotificationHandler s rest
    | .other => vlanPortNotificationHandler s rest

def portEventsAlone (s : VlanPortsState C) (events : List PortEventData) : VlanPortsState C :=
  events.foldl (fun s data => (vlanPortNotificationHandler nodes platform defaults s [data]).1) s

/-- The calls that are made for the events one by one succeed. -/
def PortEventsSucceed (s : VlanPortsState C) (events : List PortEventData) : Prop :=
  ∀ before data after, events = before ++ data :: after →
    (vlanPortNotificationHandler nodes platform defaults
      (portEventsAlone nodes platform defaults s before) [data]).2 = .success

def lastPortEvent (portId : ObjectId) (events : List PortEventData) : Option PortEvent :=
  (events.filter fun data => data.portId = portId ∧ data.portEvent ≠ .other).getLast?.map PortEventData.portEvent

/-- A batch leaves what its events leave one by one, and a port is in the default VLAN when its
last event is an addition, or when it has none and was there before. -/
structure PortEventsRight (s : VlanPortsState C) (events : List PortEventData) : Prop where
  member : ∀ port,
    nodes.isMember (vlanPortNotificationHandler nodes platform defaults s events).1.members.cache initDefaultVlan port =
      nodes.isMember (portEventsAlone nodes platform defaults s events).members.cache initDefaultVlan port
  npu : ∀ port,
    (initDefaultVlan, port) ∈ (vlanPortNotificationHandler nodes platform defaults s events).1.members.npu ↔
      (initDefaultVlan, port) ∈ (portEventsAlone nodes platform defaults s events).members.npu
  portVlanId : (vlanPortNotificationHandler nodes platform defaults s events).1.portVlanId =
    (portEventsAlone nodes platform defaults s events).portVlanId
  last : ∀ portId,
    (∃ mode, nodes.isMember (vlanPortNotificationHandler nodes platform defaults s events).1.members.cache
        initDefaultVlan ⟨portId, mode⟩ = true) ↔
      lastPortEvent portId events = some .add ∨
        lastPortEvent portId events = none ∧
        ∃ mode, nodes.isMember s.members.cache initDefaultVlan ⟨portId, mode⟩ = true

def PortEventData.ends (s : VlanPortsState C) (data : PortEventData) : Prop :=
  data.portEvent = .add ∨
    data.portEvent = .delete ∧
    nodes.isMember s.members.cache initDefaultVlan ⟨data.portId, defaults.taggingMode⟩ = true

/-- The events behind the one that ends the handling would change nothing in the end: each of
their ports is where its last one puts it, with the port VLAN id of an added port. A port
that is deleted last is not in the default VLAN with another mode. -/
structure PortEventsDropped (s : VlanPortsState C) (events : List PortEventData) : Prop where
  dropped : ∀ before data after, events = before ++ data :: after →
    (∀ early ∈ before, ¬ early.ends nodes defaults s) →
    data.ends nodes defaults s → ∀ portId,
      (∀ event, lastPortEvent portId after = some event → (event = .add ↔
        if data.portId = portId then data.portEvent = .add
        else nodes.isMember s.members.cache initDefaultVlan ⟨portId, defaults.taggingMode⟩ = true)) ∧
      ((∃ late ∈ after, late.portId = portId ∧ late.portEvent = .add) →
        data.portId = portId ∧ data.portEvent = .add ∨ s.portVlanId portId = initDefaultVlan)
  mode : ∀ portId mode, lastPortEvent portId events = some .delete →
    nodes.isMember s.members.cache initDefaultVlan ⟨portId, mode⟩ = true → mode = defaults.taggingMode

end Handler

/-- Whether a port is in the default VLAN after an event, if `before` says so of the time before
it. -/
def PortEventData.leaves (mode : VlanTaggingMode) (data : PortEventData) (port : VlanPort) (before : Bool) : Bool :=
  match data.portEvent with
  | .add => before || decide (port = ⟨data.portId, mode⟩)
  | .delete => before && decide (port ≠ ⟨data.portId, mode⟩)
  | .other => before

section Handled
variable {C : Type} {nodes : VlanNodeCache C} {platform : VlanPlatform} {defaults : VlanPortDefaults}
  {s t : VlanPortsState C} {data : PortEventData} {events : List PortEventData} {portId : ObjectId}

variable (nodes defaults) in
structure PortEventDone (s t : VlanPortsState C) (data : PortEventData) : Prop where
  kept : t.members.Kept nodes
  member : ∀ port, nodes.isMember t.members.cache initDefaultVlan port =
    data.leaves defaults.taggingMode port (nodes.isMember s.members.cache initDefaultVlan port)
  portVlanId : t.portVlanId =
    if data.portEvent = .add then Function.update s.portVlanId data.portId initDefaultVlan else s.portVlanId

theorem vlanPortDefaultInit_done (kept : s.members.Kept nodes) (event : data.portEvent = .add)
    (success : (vlanPortDefaultInit nodes platform defaults s initDefaultVlan data.portId data.env).2 = .success) :
    PortEventDone nodes defaults s
      (vlanPortDefaultInit nodes platform defaults s initDefaultVlan data.portId data.env).1 data := by
  let call := VlanCall.addPorts initDefaultVlan [⟨data.portId, defaults.taggingMode⟩] data.env.ports
  obtain ⟨kept', right⟩ : (s.members.call nodes platform call).1.Kept nodes ∧
    s.members.Right nodes platform call :=
    VlanMembers.kept_call kept call
  have performs := right.performs
  unfold vlanPortDefaultInit at success ⊢
  split at success
  · rename_i members added
    have called : s.members.call nodes platform call = (members, .success) := added
    rw [called] at kept' performs
    have member := performs rfl initDefaultVlan
    split at success
    · split at success
      · refine ⟨kept', fun port => ?_, ?_⟩
        · rw [Bool.eq_iff_iff, member port]
          unfold PortEventData.leaves
          rw [event, Bool.or_eq_true, decide_eq_true_iff, List.mem_singleton]
          exact or_congr_right (and_iff_right rfl)
        · rw [if_pos event]
      · rename_i error
        exact absurd success error
    · rename_i error
      exact absurd success error
  · rename_i error _
    exact absurd success error

theorem portRemoval_done (kept : s.members.Kept nodes) (event : data.portEvent = .delete)
    {members : VlanMembers C} (removed : l2RemovePortsFromVlan nodes platform s.members initDefaultVlan
      [⟨data.portId, defaults.taggingMode⟩] data.env.ports = (members, .success)) :
    PortEventDone nodes defaults s ⟨members, s.portVlanId, s.vlanPriority⟩ data := by
  let call := VlanCall.removePorts initDefaultVlan [⟨data.portId, defaults.taggingMode⟩] data.env.ports
  obtain ⟨kept', right⟩ : (s.members.call nodes platform call).1.Kept nodes ∧
    s.members.Right nodes platform call :=
    VlanMembers.kept_call kept call
  have performs := right.performs
  have called : s.members.call nodes platform call = (members, .success) := removed
  rw [called] at kept' performs
  have member := performs rfl initDefaultVlan
  refine ⟨kept', fun port => ?_, ?_⟩
  · rw [Bool.eq_iff_iff, member port]
    unfold PortEventData.leaves
    rw [event, Bool.and_eq_true, decide_eq_true_iff, List.mem_singleton]
    exact and_congr_right fun _ => not_congr (and_iff_right rfl)
  · rw [if_neg]
    rw [event]
    exact PortEvent.noConfusion

theorem PortEventData.leaves_idle (idle : ¬ data.ends nodes defaults s) (port : VlanPort) :
    data.leaves defaults.taggingMode port (nodes.isMember s.members.cache initDefaultVlan port) =
      nodes.isMember s.members.cache initDefaultVlan port := by
  unfold PortEventData.leaves
  cases event : data.portEvent with
  | add => exact absurd (.inl event) idle
  | delete =>
    dsimp only
    by_cases own : port = ⟨data.portId, defaults.taggingMode⟩
    · have absent : nodes.isMember s.members.cache initDefaultVlan port = false := by
        by_contra present
        exact idle (.inr ⟨event, own ▸ Bool.eq_true_of_not_eq_false present⟩)
      rw [absent, Bool.false_and]
    · rw [decide_eq_true own, Bool.and_true]
  | other => rfl

theorem handler_idle (idle : ¬ data.ends nodes defaults s) :
    vlanPortNotificationHandler nodes platform defaults s (data :: rest) =
      vlanPortNotificationHandler nodes platform defaults s rest := by
  rw [vlanPortNotificationHandler]
  cases event : data.portEvent with
  | add => exact absurd (.inl event) idle
  | delete => exact if_neg fun member => idle (.inr ⟨event, member⟩)
  | other => rfl

theorem handler_ends (ends : data.ends nodes defaults s) :
    vlanPortNotificationHandler nodes platform defaults s (data :: rest) =
      vlanPortNotificationHandler nodes platform defaults s [data] := by
  rw [vlanPortNotificationHandler, vlanPortNotificationHandler]
  rcases ends with event | ⟨event, member⟩
  · rw [event]
  rw [event]
  dsimp only
  rw [if_pos member, if_pos member]

theorem portEvent_done (kept : s.members.Kept nodes)
    (success : (vlanPortNotificationHandler nodes platform defaults s [data]).2 = .success) :
    PortEventDone nodes defaults s (vlanPortNotificationHandler nodes platform defaults s [data]).1 data := by
  by_cases ends : data.ends nodes defaults s
  · rw [vlanPortNotificationHandler] at success ⊢
    rcases ends with event | ⟨event, member⟩
    · rw [event] at success ⊢
      exact vlanPortDefaultInit_done kept event success
    rw [event] at success ⊢
    dsimp only at success ⊢
    rw [if_pos member] at success ⊢
    exact portRemoval_done kept event (Prod.ext rfl success)
  · rw [handler_idle ends]
    refine ⟨kept, fun port => (PortEventData.leaves_idle ends port).symm, ?_⟩
    rw [if_neg fun event => ends (.inl event)]
    rfl

theorem lastPortEvent_concat (portId : ObjectId) (before : List PortEventData) (data : PortEventData) :
    lastPortEvent portId (before ++ [data]) =
      if data.portId = portId ∧ data.portEvent ≠ .other then some data.portEvent else
        lastPortEvent portId before := by
  unfold lastPortEvent
  rw [List.filter_append, List.filter_singleton]
  by_cases own : data.portId = portId ∧ data.portEvent ≠ .other
  · rw [if_pos own, decide_eq_true own, cond_true, List.getLast?_concat]
    rfl
  · rw [if_neg own, decide_eq_false own, cond_false, List.append_nil]

/-- Whether a port is in the default VLAN after the events. -/
def portLeft (mode : VlanTaggingMode) (events : List PortEventData) (port : VlanPort) (before : Bool) : Bool :=
  events.foldl (fun now data => data.leaves mode port now) before

theorem portLeft_concat (mode : VlanTaggingMode) (events : List PortEventData) (data : PortEventData)
    (port : VlanPort) (before : Bool) :
    portLeft mode (events ++ [data]) port before = data.leaves mode port (portLeft mode events port before) := by
  unfold portLeft
  rw [List.foldl_append]
  rfl

theorem PortEventData.leaves_apart (other : port ≠ ⟨data.portId, mode⟩)
    (before : Bool) : data.leaves mode port before = before := by
  unfold PortEventData.leaves
  cases data.portEvent with
  | add => exact (congrArg _ (decide_eq_false other)).trans (Bool.or_false _)
  | delete => exact (congrArg _ (decide_eq_true other)).trans (Bool.and_true _)
  | other => rfl

theorem portLeft_otherMode (events : List PortEventData)
    (other : port.taggingMode ≠ mode) (before : Bool) : portLeft mode events port before = before := by
  induction events using List.reverseRecOn with
  | nil => rfl
  | append_singleton events data ih =>
    rw [portLeft_concat, PortEventData.leaves_apart, ih]
    rintro rfl
    exact other rfl

theorem portLeft_last (mode : VlanTaggingMode) (events : List PortEventData) (portId : ObjectId) (before : Bool) :
    portLeft mode events ⟨portId, mode⟩ before =
      ((lastPortEvent portId events).map fun event => decide (event = .add)).getD before := by
  induction events using List.reverseRecOn with
  | nil => rfl
  | append_singleton events data ih =>
    rw [portLeft_concat, lastPortEvent_concat]
    by_cases own : data.portId = portId
    · subst own
      unfold PortEventData.leaves
      cases event : data.portEvent with
      | add => simp
      | delete => simp
      | other => simpa using ih
    · rw [PortEventData.leaves_apart, if_neg fun both => own both.1, ih]
      exact fun same => own (congrArg VlanPort.portId same).symm

variable (nodes defaults) in
/-- What a list of events that were all handled has done. -/
structure PortEventsDone (s t : VlanPortsState C) (events : List PortEventData) : Prop where
  kept : t.members.Kept nodes
  member : ∀ port, nodes.isMember t.members.cache initDefaultVlan port =
    portLeft defaults.taggingMode events port (nodes.isMember s.members.cache initDefaultVlan port)
  portVlanId : ∀ portId, t.portVlanId portId =
    if ∃ data ∈ events, data.portId = portId ∧ data.portEvent = .add then initDefaultVlan else s.portVlanId portId

theorem PortEventsDone.concat {u : VlanPortsState C} (done : PortEventsDone nodes defaults s t events)
    (handled : PortEventDone nodes defaults t u data) : PortEventsDone nodes defaults s u (events ++ [data]) := by
  refine ⟨handled.kept, fun port => ?_, fun portId => ?_⟩
  · rw [portLeft_concat, handled.member, done.member]
  · rw [handled.portVlanId]
    simp only [List.mem_append, List.mem_singleton, or_and_right, exists_or, exists_eq_left]
    by_cases event : data.portEvent = .add
    · rw [if_pos event]
      by_cases own : data.portId = portId
      · rw [if_pos (.inr ⟨own, event⟩), own, Function.update_self]
      rw [Function.update_of_ne fun same => own same.symm, done.portVlanId]
      refine if_congr ?_ rfl rfl
      rw [or_iff_left fun both => own both.1]
    · rw [if_neg event, done.portVlanId]
      refine if_congr ?_ rfl rfl
      rw [or_iff_left fun both => event both.2]

theorem portEventsAlone_concat (events : List PortEventData) (data : PortEventData) :
    portEventsAlone nodes platform defaults s (events ++ [data]) =
      (vlanPortNotificationHandler nodes platform defaults
        (portEventsAlone nodes platform defaults s events) [data]).1 := by
  unfold portEventsAlone
  rw [List.foldl_append]
  rfl

theorem portEventsAlone_append (before after : List PortEventData) :
    portEventsAlone nodes platform defaults s (before ++ after) =
      portEventsAlone nodes platform defaults (portEventsAlone nodes platform defaults s before) after :=
  List.foldl_append

theorem portEventsAlone_done (kept : s.members.Kept nodes)
    (succeed : PortEventsSucceed nodes platform defaults s events) :
    PortEventsDone nodes defaults s (portEventsAlone nodes platform defaults s events) events := by
  induction events using List.reverseRecOn with
  | nil =>
    refine ⟨kept, fun _ => rfl, fun portId => ?_⟩
    rw [if_neg]
    · rfl
    · rintro ⟨data, member, _⟩
      cases member
  | append_singleton events data ih =>
    rw [portEventsAlone_concat]
    have done := ih fun before early after split => succeed before early (after ++ [data]) (by simp [split])
    exact done.concat (portEvent_done done.kept (succeed events data [] rfl))

variable (nodes defaults) in
/-- Either no event ends the handling, or the first that does is the only one that is handled. -/
theorem handler_cases (platform : VlanPlatform) (s : VlanPortsState C) (events : List PortEventData) :
    (∀ data ∈ events, ¬ data.ends nodes defaults s) ∧
      vlanPortNotificationHandler nodes platform defaults s events = (s, .success) ∨
    ∃ before data after, events = before ++ data :: after ∧
      (∀ early ∈ before, ¬ early.ends nodes defaults s) ∧
      data.ends nodes defaults s ∧ vlanPortNotificationHandler nodes platform defaults s events =
        vlanPortNotificationHandler nodes platform defaults s [data] := by
  induction events with
  | nil => exact .inl ⟨fun _ member => absurd member List.not_mem_nil, rfl⟩
  | cons first rest ih =>
    by_cases ends : first.ends nodes defaults s
    · exact .inr ⟨[], first, rest, rfl, fun _ member => absurd member List.not_mem_nil, ends, handler_ends ends⟩
    rcases ih with ⟨none, same⟩ | ⟨before, data, after, rfl, early, ends', same⟩
    · refine .inl ⟨?_, (handler_idle ends).trans same⟩
      rintro data member
      rcases List.mem_cons.mp member with rfl | later
      · exact ends
      · exact none data later
    · refine .inr ⟨first :: before, data, after, rfl, ?_, ends', (handler_idle ends).trans same⟩
      rintro other member
      rcases List.mem_cons.mp member with rfl | later
      · exact ends
      · exact early other later

theorem portEventsAlone_idle (idle : ∀ data ∈ events, ¬ data.ends nodes defaults s) :
    portEventsAlone nodes platform defaults s events = s := by
  induction events with
  | nil => rfl
  | cons first rest ih =>
    unfold portEventsAlone
    rw [List.foldl_cons, handler_idle (idle first List.mem_cons_self)]
    exact ih fun data member => idle data (List.mem_cons_of_mem _ member)

theorem PortEventDone.own (done : PortEventDone nodes defaults s t data) (ends : data.ends nodes defaults s)
    (portId : ObjectId) : nodes.isMember t.members.cache initDefaultVlan ⟨portId, defaults.taggingMode⟩ = true ↔
      if data.portId = portId then data.portEvent = .add
      else nodes.isMember s.members.cache initDefaultVlan ⟨portId, defaults.taggingMode⟩ = true := by
  rw [done.member]
  split
  · rename_i same
    subst same
    unfold PortEventData.leaves
    rcases ends with event | ⟨event, _⟩
    · rw [event]
      simp
    · rw [event]
      simp
  · rename_i other
    rw [PortEventData.leaves_apart]
    exact fun same => other (congrArg VlanPort.portId same).symm

theorem PortEventDone.vlanId_eq (done : PortEventDone nodes defaults s t data) (portId : ObjectId) :
    t.portVlanId portId = initDefaultVlan ↔
      data.portId = portId ∧ data.portEvent = .add ∨ s.portVlanId portId = initDefaultVlan := by
  rw [done.portVlanId]
  by_cases event : data.portEvent = .add
  · rw [if_pos event]
    by_cases own : data.portId = portId
    · rw [own, Function.update_self]
      exact iff_of_true rfl (.inl ⟨rfl, event⟩)
    · rw [Function.update_of_ne fun same => own same.symm, or_iff_right fun both => own both.1]
  · rw [if_neg event, or_iff_right fun both => event both.2]

/-- A batch is right when the handler leaves the members and the port VLAN ids that the events
leave one by one, and no port that is deleted last is in the VLAN with another mode. -/
theorem portEventsRight_iff (kept : s.members.Kept nodes) (succeed : PortEventsSucceed nodes platform defaults s events)
    (handled : (vlanPortNotificationHandler nodes platform defaults s events).1.members.Kept nodes) :
    PortEventsRight nodes platform defaults s events ↔ (∀ port,
        nodes.isMember (vlanPortNotificationHandler nodes platform defaults s events).1.members.cache initDefaultVlan
            port =
          portLeft defaults.taggingMode events port (nodes.isMember s.members.cache initDefaultVlan port)) ∧
      (vlanPortNotificationHandler nodes platform defaults s events).1.portVlanId =
        (portEventsAlone nodes platform defaults s events).portVlanId ∧
      ∀ portId mode, lastPortEvent portId events = some .delete →
        nodes.isMember s.members.cache initDefaultVlan ⟨portId, mode⟩ = true → mode = defaults.taggingMode := by
  have alone := portEventsAlone_done kept succeed
  constructor
  · intro right
    refine ⟨fun port => (right.member port).trans (alone.member port), right.portVlanId, ?_⟩
    intro portId mode last member
    by_contra other
    have stays : ∃ mode, nodes.isMember
        (vlanPortNotificationHandler nodes platform defaults s events).1.members.cache initDefaultVlan
          ⟨portId, mode⟩ = true := by
      refine ⟨mode, ?_⟩
      rw [right.member, alone.member, portLeft_otherMode events other]
      exact member
    rcases (right.last portId).mp stays with added | ⟨none, _⟩
    · rw [last] at added
      cases added
    · rw [last] at none
      cases none
  · rintro ⟨member, portVlanId, mode⟩
    refine ⟨fun port => (member port).trans (alone.member port).symm, fun port => ?_, portVlanId, fun portId => ?_⟩
    · rw [← handled.agree, ← alone.kept.agree, member, alone.member]
    · simp only [member]
      have own := portLeft_last defaults.taggingMode events portId
      cases last : lastPortEvent portId events with
      | none =>
        simp only [last, Option.map_none, Option.getD_none] at own
        have same : ∀ m, portLeft defaults.taggingMode events ⟨portId, m⟩
            (nodes.isMember s.members.cache initDefaultVlan ⟨portId, m⟩) =
              nodes.isMember s.members.cache initDefaultVlan ⟨portId, m⟩ := by
          intro m
          by_cases isDefault : m = defaults.taggingMode
          · rw [isDefault, own]
          · exact portLeft_otherMode events isDefault _
        simp [same]
      | some event =>
        simp only [last, Option.map_some, Option.getD_some] at own
        rw [or_iff_left (fun both => by cases both.1), Option.some.injEq]
        constructor
        · rintro ⟨m, left⟩
          by_contra notAdd
          have isDelete : event = .delete := by
            have notOther : event ≠ .other := by
              rintro rfl
              obtain ⟨data, found, isOther⟩ := Option.map_eq_some_iff.mp last
              have kind := of_decide_eq_true (List.mem_filter.mp (List.mem_of_getLast? found)).2
              exact kind.2 isOther
            cases event
            · exact absurd rfl notAdd
            · rfl
            · exact absurd rfl notOther
          by_cases isDefault : m = defaults.taggingMode
          · rw [isDefault, own, decide_eq_true_iff] at left
            exact notAdd left
          · rw [portLeft_otherMode events isDefault] at left
            exact isDefault (mode portId m (isDelete ▸ last) left)
        · rintro rfl
          exact ⟨defaults.taggingMode, by rw [own]; rfl⟩

theorem firstEnd_unique {before before' after after' : List PortEventData} {data' : PortEventData}
    (same : before ++ data :: after = before' ++ data' :: after') (early : ∀ e ∈ before, ¬ e.ends nodes defaults s)
    (ends : data.ends nodes defaults s) (early' : ∀ e ∈ before', ¬ e.ends nodes defaults s)
    (ends' : data'.ends nodes defaults s) : before = before' ∧ data = data' ∧ after = after' := by
  induction before generalizing before' with
  | nil =>
    cases before' with
    | nil => exact ⟨rfl, List.cons.inj same⟩
    | cons first rest =>
      obtain ⟨rfl, _⟩ := List.cons.inj same
      exact absurd ends (early' _ List.mem_cons_self)
  | cons first rest ih =>
    cases before' with
    | nil =>
      obtain ⟨rfl, _⟩ := List.cons.inj same
      exact absurd ends' (early _ List.mem_cons_self)
    | cons first' rest' =>
      obtain ⟨rfl, tails⟩ := List.cons.inj same
      obtain ⟨rfl, both⟩ := ih tails (fun e member => early e (List.mem_cons_of_mem _ member))
        fun e member => early' e (List.mem_cons_of_mem _ member)
      exact ⟨rfl, both⟩

theorem PortEventsDone.member_iff (done : PortEventsDone nodes defaults s t events) :
    (∀ port, nodes.isMember s.members.cache initDefaultVlan port =
      nodes.isMember t.members.cache initDefaultVlan port) ↔
      ∀ portId event, lastPortEvent portId events = some event → (event = .add ↔
        nodes.isMember s.members.cache initDefaultVlan ⟨portId, defaults.taggingMode⟩ = true) := by
  constructor
  · intro same portId event last
    rw [same, done.member, portLeft_last, last, Option.map_some, Option.getD_some, decide_eq_true_iff]
  · rintro agree ⟨portId, mode⟩
    rw [done.member]
    by_cases isDefault : mode = defaults.taggingMode
    · rw [isDefault, portLeft_last]
      cases last : lastPortEvent portId events with
      | none => rfl
      | some event =>
        rw [Option.map_some, Option.getD_some, Bool.eq_iff_iff, decide_eq_true_iff]
        exact (agree portId event last).symm
    · exact (portLeft_otherMode events isDefault _).symm

theorem PortEventsDone.portVlanId_iff (done : PortEventsDone nodes defaults s t events) :
    s.portVlanId = t.portVlanId ↔
      ∀ portId, (∃ data ∈ events, data.portId = portId ∧ data.portEvent = .add) →
        s.portVlanId portId = initDefaultVlan := by
  rw [funext_iff]
  refine forall_congr' fun portId => ?_
  rw [done.portVlanId]
  split
  · rename_i added
    exact ⟨fun same _ => same, fun all => all added⟩
  · rename_i none
    exact iff_of_true rfl fun added => absurd added none

theorem VlanMembers.kept_of_reach {m : VlanMembers C}
    (reach : Runs.Reach (VlanMembers.Empty nodes) (fun s call t => t = (s.call nodes platform call).1) m) :
    m.Kept nodes := by
  refine reach.invariant _ (fun _ empty => VlanMembers.kept_empty empty) ?_
  rintro s call _ kept rfl
  exact (VlanMembers.kept_call kept call).1

/-- A batch of port events is handled as its events one by one exactly when what is behind the
first event that ends the handling would change nothing in the end. -/
theorem vlanPortNotificationHandler_right_iff
    (reach : Runs.Reach (VlanMembers.Empty nodes) (fun s call t => t = (s.call nodes platform call).1) s.members)
    (succeed : PortEventsSucceed nodes platform defaults s events) :
    PortEventsRight nodes platform defaults s events ↔ PortEventsDropped nodes defaults s events := by
  have kept := VlanMembers.kept_of_reach reach
  have alone := portEventsAlone_done kept succeed
  rcases handler_cases nodes defaults platform s events with
    ⟨idle, same⟩ | ⟨before, data, after, rfl, early, ends, same⟩
  · rw [portEventsRight_iff kept succeed (by rw [same]; exact kept), same, portEventsAlone_idle idle]
    rw [portEventsAlone_idle idle] at alone
    constructor
    · rintro ⟨_, _, mode⟩
      refine ⟨?_, mode⟩
      rintro before data after rfl _ ends
      exact absurd ends (idle data (List.mem_append_right before List.mem_cons_self))
    · intro dropped
      exact ⟨alone.member, rfl, dropped.mode⟩
  · have still : portEventsAlone nodes platform defaults s before = s := portEventsAlone_idle early
    have success := succeed before data after rfl
    rw [still] at success
    have done := portEvent_done kept success
    have handled := done.kept
    rw [← same] at handled
    have later : PortEventsDone nodes defaults (vlanPortNotificationHandler nodes platform defaults s [data]).1
        (portEventsAlone nodes platform defaults s (before ++ data :: after)) after := by
      have split : portEventsAlone nodes platform defaults s (before ++ data :: after) =
          portEventsAlone nodes platform defaults
          (vlanPortNotificationHandler nodes platform defaults s [data]).1 after := by
        rw [portEventsAlone_append, still]
        rfl
      rw [split]
      refine portEventsAlone_done done.kept fun first next rest isAfter => ?_
      have whole := succeed (before ++ data :: first) next rest (by simp [isAfter])
      rw [portEventsAlone_append, still] at whole
      exact whole
    rw [portEventsRight_iff kept succeed handled, same, later.portVlanId_iff]
    simp only [← alone.member]
    rw [later.member_iff]
    simp only [done.own ends, done.vlanId_eq]
    constructor
    · rintro ⟨member, vlanId, mode⟩
      refine ⟨?_, mode⟩
      intro before' data' after' split early' ends' portId
      obtain ⟨rfl, rfl, rfl⟩ : before' = before ∧ data' = data ∧ after' = after := by
        exact firstEnd_unique split.symm early' ends' early ends
      exact ⟨member portId, vlanId portId⟩
    · intro dropped
      have here := dropped.dropped before data after rfl early ends
      exact ⟨fun portId => (here portId).1, fun portId => (here portId).2, dropped.mode⟩

theorem PortEventsSucceed.nil : PortEventsSucceed nodes platform defaults s [] := by
  intro before data after split
  cases before <;> cases split

theorem PortEventsSucceed.cons {rest : List PortEventData}
    (first : (vlanPortNotificationHandler nodes platform defaults s [data]).2 = .success)
    (others : PortEventsSucceed nodes platform defaults
      (vlanPortNotificationHandler nodes platform defaults s [data]).1 rest) :
    PortEventsSucceed nodes platform defaults s (data :: rest) := by
  intro before data' after split
  cases before with
  | nil =>
    cases split
    exact first
  | cons head before =>
    cases split
    exact others before data' after rfl

end Handled

def sampleVlanDefaults : VlanPortDefaults := ⟨.untagged, 0⟩

def sampleVlanPorts : VlanPortsState (List (Nat × VlanPort)) := ⟨⟨[], ∅⟩, fun _ => 0, fun _ => 0⟩

def samplePortEvent (portId : Nat) (portEvent : PortEvent) : PortEventData :=
  ⟨⟨.port, portId⟩, portEvent, ⟨sampleVlanEnv .success, .success, sampleVlanEnv .success, .success⟩⟩

theorem vlanPortNotificationHandler_right_sample :
    let events := [samplePortEvent 1 .delete, samplePortEvent 2 .add]
    PortEventsRight listNodeCache samplePlatform sampleVlanDefaults sampleVlanPorts events ↔
      PortEventsDropped listNodeCache sampleVlanDefaults sampleVlanPorts events :=
  vlanPortNotificationHandler_right_iff (.start ⟨fun _ _ => rfl, rfl⟩) (.cons rfl (.cons rfl .nil))

/-- Of two ports that are added together only the first enters the default VLAN. -/
theorem vlanPortNotificationHandler_not_right :
    let events := [samplePortEvent 1 .add, samplePortEvent 2 .add]
    PortEventsSucceed listNodeCache samplePlatform sampleVlanDefaults sampleVlanPorts events ∧
      ¬ PortEventsRight listNodeCache samplePlatform sampleVlanDefaults sampleVlanPorts events := by
  refine ⟨.cons rfl (.cons rfl .nil), fun right => ?_⟩
  have member := right.member ⟨⟨.port, 2⟩, .untagged⟩
  revert member
  decide

end SaiCommon
