import SaiCommon.Fib.State

namespace SaiCommon

structure FdbEntry where
  macAddress : Mac
  vlanId : BitVec 16
deriving DecidableEq

@[ext]
structure FdbEntryNode where
  portId : ObjectId
  entryType : BitVec 32
  action : BitVec 32
  metadata : BitVec 32
deriving DecidableEq

/-- The cache of the FDB entries, which is kept outside of this repository;
`insert` is told how it ends. -/
structure FdbNodeCache (C : Type) where
  /-- `sai_get_fdb_entry_node` -/
  get : C → FdbEntry → Option FdbEntryNode
  /-- `sai_insert_fdb_entry_node` -/
  insert : C → FdbEntry → FdbEntryNode → SaiStatus → C
  /-- `sai_delete_fdb_entry_node` -/
  delete : C → FdbEntry → C
  get_insert : ∀ c entry node other, get (insert c entry node .success) other =
    if other = entry then some node else get c other
  get_insert_error : ∀ c entry node status, status ≠ .success → ∀ other,
    get (insert c entry node status) other = get c other
  get_delete : ∀ c entry other, get (delete c entry) other = if other = entry then none else get c other

inductive FdbAttr
  | portId (portId : ObjectId)
  | type (entryType : BitVec 32)
  | packetAction (action : BitVec 32)
  | metaData (metadata : BitVec 32)
  | other
deriving DecidableEq

inductive FdbEventType
  | learned
  | aged
  | flushed
  | other
deriving DecidableEq

/-- A `sai_fdb_event_notification_data_t`, with how an insertion for it ends. -/
structure FdbEventData where
  eventType : FdbEventType
  fdbEntry : FdbEntry
  attrs : List FdbAttr
  insertion : SaiStatus
deriving DecidableEq

/-- The four variables of `sai_common_fdb_event_notification` before its loops. -/
def fdbEventInit : FdbEntryNode := ⟨nullObjectId, 0, 0, 0⟩

def fdbEventAttr (carried : FdbEntryNode) : FdbAttr → FdbEntryNode
  | .portId portId => { carried with portId := portId }
  | .type entryType => { carried with entryType := entryType }
  | .packetAction action => { carried with action := action }
  | .metaData metadata => { carried with metadata := metadata }
  | .other => carried

def fdbEventAttrs (carried : FdbEntryNode) (attrs : List FdbAttr) : FdbEntryNode := attrs.foldl fdbEventAttr carried

section Notification
variable {C : Type} (nodes : FdbNodeCache C)

def fdbEventHandle (c : C) (carried : FdbEntryNode) (data : FdbEventData) : C :=
  match data.eventType with
  | .learned => nodes.insert c data.fdbEntry carried data.insertion
  | .aged => if (nodes.get c data.fdbEntry).isSome then nodes.delete c data.fdbEntry else c
  | .flushed => if (nodes.get c data.fdbEntry).isSome then nodes.delete c data.fdbEntry else c
  | .other => c

/-- The loop over the events; the variables keep what earlier events wrote. -/
def fdbEventLoop (c : C) (carried : FdbEntryNode) : List FdbEventData → C
  | [] => c
  | data :: rest =>
    fdbEventLoop (fdbEventHandle nodes c (fdbEventAttrs carried data.attrs) data)
    (fdbEventAttrs carried data.attrs) rest

def fdbEventNotification (c : C) (events : List FdbEventData) : C :=
  if events = [] then c else fdbEventLoop nodes c fdbEventInit events

def fdbEventsAlone (c : C) (events : List FdbEventData) : C :=
  events.foldl (fun c data => fdbEventNotification nodes c [data]) c

/-- A batch leaves what its events leave one by one: a LEARNED event inserts its entry with
the values of its own attributes, an AGED or FLUSHED event removes its entry and no other. -/
structure FdbNotifiedRight (c : C) (events : List FdbEventData) : Prop where
  alone : ∀ entry, nodes.get (fdbEventNotification nodes c events) entry =
    nodes.get (fdbEventsAlone nodes c events) entry
  learned : ∀ before data after, events = before ++ data :: after → data.eventType = .learned →
    data.insertion = .success → ∀ entry, nodes.get (fdbEventNotification nodes c (before ++ [data])) entry =
      if entry = data.fdbEntry then some (fdbEventAttrs fdbEventInit data.attrs)
      else nodes.get (fdbEventNotification nodes c before) entry
  removed : ∀ before data after, events = before ++ data :: after →
    data.eventType = .aged ∨ data.eventType = .flushed → ∀ entry,
    nodes.get (fdbEventNotification nodes c (before ++ [data])) entry =
      if entry = data.fdbEntry then none else nodes.get (fdbEventNotification nodes c before) entry

end Notification

def FdbAttr.portValue : FdbAttr → Option ObjectId
  | .portId port => some port
  | _ => none

def FdbAttr.typeValue : FdbAttr → Option (BitVec 32)
  | .type entryType => some entryType
  | _ => none

def FdbAttr.actionValue : FdbAttr → Option (BitVec 32)
  | .packetAction action => some action
  | _ => none

def FdbAttr.metadataValue : FdbAttr → Option (BitVec 32)
  | .metaData metadata => some metadata
  | _ => none

/-- The event has an attribute of this kind, or the last one in the events before it is the
value that the variable starts with. -/
def FdbValueOwn {α : Type} (value : FdbAttr → Option α) (zero : α) (before : List FdbEventData)
    (data : FdbEventData) : Prop :=
  data.attrs.filterMap value ≠ [] ∨
    ((before.flatMap FdbEventData.attrs).filterMap value).getLast?.getD zero = zero

/-- Each of the four values is the event's own. -/
structure FdbEventOwn (before : List FdbEventData) (data : FdbEventData) : Prop where
  port : FdbValueOwn FdbAttr.portValue nullObjectId before data
  type : FdbValueOwn FdbAttr.typeValue 0 before data
  action : FdbValueOwn FdbAttr.actionValue 0 before data
  metadata : FdbValueOwn FdbAttr.metadataValue 0 before data

section Values
variable {attrs : List FdbAttr} {carried : FdbEntryNode}

theorem fdbEventAttrs_value {α : Type} (field : FdbEntryNode → α) (value : FdbAttr → Option α)
    (round : ∀ node attr, field (fdbEventAttr node attr) = (value attr).getD (field node)) :
    field (fdbEventAttrs carried attrs) = (attrs.filterMap value).getLast?.getD (field carried) := by
  unfold fdbEventAttrs
  induction attrs generalizing carried with
  | nil => rfl
  | cons attr rest ih =>
    rw [List.foldl_cons, ih, round, List.filterMap_cons]
    cases has : value attr with
    | none => rfl
    | some own =>
      rw [Option.getD_some, List.getLast?_cons, Option.getD_some]

section
variable (node : FdbEntryNode)

theorem fdbEventAttr_port (attr : FdbAttr) : (fdbEventAttr node attr).portId = attr.portValue.getD node.portId := by
  cases attr <;> rfl

theorem fdbEventAttr_type (attr : FdbAttr) :
    (fdbEventAttr node attr).entryType = attr.typeValue.getD node.entryType := by
  cases attr <;> rfl

theorem fdbEventAttr_action (attr : FdbAttr) :
    (fdbEventAttr node attr).action = attr.actionValue.getD node.action := by
  cases attr <;> rfl

theorem fdbEventAttr_metadata (attr : FdbAttr) :
    (fdbEventAttr node attr).metadata = attr.metadataValue.getD node.metadata := by
  cases attr <;> rfl

end

theorem getLast?_getD_eq_iff {α : Type} (values : List α) (carried zero : α) :
    values.getLast?.getD carried = values.getLast?.getD zero ↔ values ≠ [] ∨ carried = zero := by
  cases values with
  | nil => simp
  | cons value rest => simp [List.getLast?_cons]

theorem fdbEventOwn_iff {before : List FdbEventData} {data : FdbEventData} :
    fdbEventAttrs (fdbEventAttrs fdbEventInit (before.flatMap FdbEventData.attrs)) data.attrs =
      fdbEventAttrs fdbEventInit data.attrs ↔ FdbEventOwn before data := by
  rw [FdbEntryNode.ext_iff, fdbEventAttrs_value _ _ fdbEventAttr_port, fdbEventAttrs_value _ _ fdbEventAttr_port,
    fdbEventAttrs_value _ _ fdbEventAttr_port, fdbEventAttrs_value _ _ fdbEventAttr_type,
    fdbEventAttrs_value _ _ fdbEventAttr_type, fdbEventAttrs_value _ _ fdbEventAttr_type,
    fdbEventAttrs_value _ _ fdbEventAttr_action, fdbEventAttrs_value _ _ fdbEventAttr_action,
    fdbEventAttrs_value _ _ fdbEventAttr_action, fdbEventAttrs_value _ _ fdbEventAttr_metadata,
    fdbEventAttrs_value _ _ fdbEventAttr_metadata, fdbEventAttrs_value _ _ fdbEventAttr_metadata,
    getLast?_getD_eq_iff, getLast?_getD_eq_iff, getLast?_getD_eq_iff, getLast?_getD_eq_iff]
  exact ⟨fun all => ⟨all.1, all.2.1, all.2.2.1, all.2.2.2⟩, fun own =>
    ⟨own.port, own.type, own.action, own.metadata⟩⟩

end Values

/-- Every entry that is inserted is inserted with the event's own values. -/
def FdbBatchOwn (events : List FdbEventData) : Prop :=
  ∀ before data after, events = before ++ data :: after → data.eventType = .learned →
    data.insertion = .success →
    FdbEventOwn before data

section Batches
variable {C : Type} {nodes : FdbNodeCache C} {c c' : C} {carried carried' : FdbEntryNode} {data : FdbEventData}

theorem fdbEventNotification_loop (events : List FdbEventData) :
    fdbEventNotification nodes c events = fdbEventLoop nodes c fdbEventInit events := by
  unfold fdbEventNotification
  split
  · rename_i empty
    rw [empty]
    rfl
  · rfl

theorem fdbEventLoop_concat (before : List FdbEventData) : fdbEventLoop nodes c carried (before ++ [data]) =
      fdbEventHandle nodes (fdbEventLoop nodes c carried before)
        (fdbEventAttrs (fdbEventAttrs carried (before.flatMap FdbEventData.attrs)) data.attrs) data := by
  induction before generalizing c carried with
  | nil => rfl
  | cons first rest ih =>
    rw [List.cons_append, List.flatMap_cons]
    unfold fdbEventLoop
    rw [ih]
    unfold fdbEventAttrs
    rw [List.foldl_append]

theorem fdbEventNotification_concat (before : List FdbEventData) : fdbEventNotification nodes c (before ++ [data]) =
      fdbEventHandle nodes (fdbEventNotification nodes c before)
        (fdbEventAttrs (fdbEventAttrs fdbEventInit (before.flatMap FdbEventData.attrs)) data.attrs) data := by
  rw [fdbEventNotification_loop, fdbEventNotification_loop, fdbEventLoop_concat]

theorem fdbEventsAlone_concat (before : List FdbEventData) : fdbEventsAlone nodes c (before ++ [data]) =
      fdbEventHandle nodes (fdbEventsAlone nodes c before) (fdbEventAttrs fdbEventInit data.attrs) data := by
  unfold fdbEventsAlone
  rw [List.foldl_append]
  rfl

theorem fdbEventHandle_removed (kind : data.eventType = .aged ∨ data.eventType = .flushed) (entry : FdbEntry) :
    nodes.get (fdbEventHandle nodes c carried data) entry =
      if entry = data.fdbEntry then none else nodes.get c entry := by
  have removal : nodes.get (if (nodes.get c data.fdbEntry).isSome then nodes.delete c data.fdbEntry else c) entry =
      if entry = data.fdbEntry then none else nodes.get c entry := by
    split
    · exact nodes.get_delete ..
    rename_i absent
    split
    · rename_i same
      rw [same]
      exact Option.not_isSome_iff_eq_none.mp absent
    · rfl
  unfold fdbEventHandle
  rcases kind with aged | flushed
  · rw [aged]
    exact removal
  · rw [flushed]
    exact removal

/-- Caches that hold the same entries hold the same after an event; only an insertion looks
at the values. -/
theorem fdbEventHandle_congr (same : ∀ entry, nodes.get c entry = nodes.get c' entry)
    (own : data.eventType = .learned → data.insertion = .success → carried = carried') (entry : FdbEntry) :
    nodes.get (fdbEventHandle nodes c carried data) entry =
    nodes.get (fdbEventHandle nodes c' carried' data) entry := by
  cases kind : data.eventType with
  | learned =>
    unfold fdbEventHandle
    rw [kind]
    dsimp only
    by_cases ends : data.insertion = .success
    · rw [own kind ends, ends, nodes.get_insert, nodes.get_insert, same]
    · rw [nodes.get_insert_error _ _ _ _ ends, nodes.get_insert_error _ _ _ _ ends, same]
  | aged => rw [fdbEventHandle_removed (.inl kind), fdbEventHandle_removed (.inl kind), same]
  | flushed => rw [fdbEventHandle_removed (.inr kind), fdbEventHandle_removed (.inr kind), same]
  | other =>
    unfold fdbEventHandle
    rw [kind]
    exact same entry

theorem fdbEventHandle_learned (kind : data.eventType = .learned) (ends : data.insertion = .success)
    (entry : FdbEntry) : nodes.get (fdbEventHandle nodes c carried data) entry =
      if entry = data.fdbEntry then some carried else nodes.get c entry := by
  unfold fdbEventHandle
  rw [kind, ends]
  exact nodes.get_insert ..

theorem fdbEventsAlone_same (events : List FdbEventData) (own : FdbBatchOwn events) (entry : FdbEntry) :
    nodes.get (fdbEventNotification nodes c events) entry = nodes.get (fdbEventsAlone nodes c events) entry := by
  induction events using List.reverseRecOn generalizing entry with
  | nil => rfl
  | append_singleton before data ih =>
    rw [fdbEventNotification_concat, fdbEventsAlone_concat]
    refine fdbEventHandle_congr (ih ?_) (fun kind ends => ?_) entry
    · rintro earlier data' after rfl
      refine own earlier data' (after ++ [data]) ?_
      rw [List.append_assoc, List.cons_append]
    · exact fdbEventOwn_iff.mpr (own before data [] rfl kind ends)

variable (nodes c) in
/-- A notification is right exactly when no event takes a value from an earlier one. -/
theorem fdbEventNotification_right_iff (events : List FdbEventData) :
    FdbNotifiedRight nodes c events ↔ FdbBatchOwn events := by
  constructor
  · intro right before data after split kind ends
    have inserted := right.learned before data after split kind ends data.fdbEntry
    rw [fdbEventNotification_concat, fdbEventHandle_learned kind ends, if_pos rfl, if_pos rfl] at inserted
    exact fdbEventOwn_iff.mp (Option.some.inj inserted)
  · intro own
    refine ⟨fdbEventsAlone_same events own, ?_, ?_⟩
    · intro before data after split kind ends entry
      rw [fdbEventNotification_concat, fdbEventHandle_learned kind ends,
        fdbEventOwn_iff.mpr (own before data after split kind ends)]
    · intro before data after split kind entry
      rw [fdbEventNotification_concat, fdbEventHandle_removed kind]

end Batches

/-- A cache that is a tree of the entries. -/
def treeFdbCache : FdbNodeCache (KeyTree FdbEntry FdbEntryNode) where
  get c entry := c.get entry
  insert c entry node status := if status = .success then c.put entry node else c
  delete c entry := c.del entry
  get_insert c entry node other := by
    rw [if_pos rfl]
    exact KeyTree.get_put ..
  get_insert_error c entry node status failed other := by rw [if_neg failed]
  get_delete c entry other := KeyTree.get_del ..

/-- A MAC that is learned on port 5 and one that is learned without a port. -/
def sampleFdbEvents : List FdbEventData :=
  [⟨.learned, ⟨1, 10⟩, [.portId ⟨.port, 5⟩, .type 1], .success⟩,
    ⟨.learned, ⟨2, 10⟩, [.type 1], .success⟩]

/-- The second entry gets the port of the first. -/
theorem fdbEventNotification_not_right : ¬ FdbNotifiedRight treeFdbCache ∅ sampleFdbEvents := by
  intro right
  have inserted := right.learned [_] _ [] rfl rfl rfl ⟨2, 10⟩
  rw [fdbEventNotification_concat] at inserted
  cases inserted

end SaiCommon
