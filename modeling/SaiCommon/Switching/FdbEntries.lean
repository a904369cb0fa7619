import Mathlib.Logic.Function.Basic
import SaiCommon.Lib.Runs
import SaiCommon.Switching.FdbFlush
import SaiCommon.Udf.Group

namespace SaiCommon

variable {source : FdbSource} {insertion : SaiStatus}

/-- The cache of the entries, and the entries that the hardware holds. -/
structure FdbTables where
  cache : FdbNodes
  hardware : FdbNodes

def FdbTables.write (s : FdbTables) (entry : FdbEntry) (value : Option FdbEntryNode) : FdbTables :=
  ⟨Function.update s.cache entry value, Function.update s.hardware entry value⟩

/-- What `sai_fdb_populate_node_from_hardware` meets. -/
structure FdbSource where
  allocOk : Bool
  read : SaiStatus
  treeOk : Bool

structure FdbResult where
  tables : FdbTables
  status : SaiStatus
  /-- The list of a get, with its values. -/
  attrs : List FdbAttr

/-- The node of an entry that is not in the cache. -/
def FdbTables.populateNode (s : FdbTables) (entry : FdbEntry) (source : FdbSource) : FdbTables × Option FdbEntryNode :=
  if source.allocOk = false then (s, none)
  else match source.read, s.hardware entry with
    | .success, some node =>
      if source.treeOk then ({ s with cache := Function.update s.cache entry (some node) }, some node) else (s, none)
    | _, _ => (s, none)

def FdbTables.findNode (s : FdbTables) (entry : FdbEntry) (source : FdbSource) : FdbTables × Option FdbEntryNode :=
  match s.cache entry with
  | some node => (s, some node)
  | none => s.populateNode entry source

/-- The first attribute that a check refuses. -/
def fdbAttrsCheck (check : FdbAttr → SaiStatus) (index : Nat) : List FdbAttr → SaiStatus
  | [] => .success
  | attr :: rest =>
    match check attr with
    | .success => fdbAttrsCheck check (index + 1) rest
    | error => error.indexed index

def FdbAttr.readCheck : FdbAttr → SaiStatus
  | .other => .unknownAttribute 0
  | _ => .success

def FdbAttr.readFrom (node : FdbEntryNode) : FdbAttr → FdbAttr
  | .portId _ => .portId node.portId
  | .type _ => .type node.entryType
  | .packetAction _ => .packetAction node.action
  | .metaData _ => .metaData node.metadata
  | .other => .other

/-- `port_attr_init && type_attr_init && action_attr_init` -/
def fdbMandatoryGiven (attrs : List FdbAttr) : Bool :=
  attrs.any (fun attr => attr.portValue.isSome) && attrs.any (fun attr => attr.typeValue.isSome) &&
    attrs.any (fun attr => attr.actionValue.isSome)

/-- The cache that the notifications work on. -/
def fdbNodesCache : FdbNodeCache FdbNodes where
  get c entry := c entry
  insert c entry node status := if status = .success then Function.update c entry (some node) else c
  delete c entry := Function.update c entry none
  get_insert c entry node other := by
    rw [if_pos rfl, Function.update_apply]
  get_insert_error c entry node status failed other := by rw [if_neg failed]
  get_delete c entry other := Function.update_apply ..

/-- What a set or a get does with the node of its entry. -/
def FdbTables.onNode (s : FdbTables) (entry : FdbEntry) (source : FdbSource) (attrs : List FdbAttr)
    (run : FdbTables → FdbEntryNode → FdbResult) : FdbResult :=
  match s.findNode entry source with
  | (found, none) => ⟨found, .addrNotFound, attrs⟩
  | (found, some node) => run found node

section Calls
variable (p : FdbFlushPlatform) (validAttr : FdbAttr → SaiStatus) (s : FdbTables) (entry : FdbEntry)

def l2CreateFdbEntry (attrs : List FdbAttr) (npu insertion : SaiStatus) : FdbResult :=
  if attrs = [] then ⟨s, .invalidParameter, []⟩
  else if p.validVlanId entry.vlanId = false then ⟨s, .invalidVlanId, []⟩
  else match fdbAttrsCheck validAttr 0 attrs with
    | .success =>
      if fdbMandatoryGiven attrs = false then ⟨s, .mandatoryAttributeMissing, []⟩
      else match npu with
        | .success => -- the answer of the insertion is not looked at
          ⟨⟨fdbNodesCache.insert s.cache entry (fdbEventAttrs fdbEventInit attrs) insertion,
            Function.update s.hardware entry (some (fdbEventAttrs fdbEventInit attrs))⟩, .success, []⟩
        | error => ⟨s, error, []⟩
    | error => ⟨s, error, []⟩

def l2RemoveFdbEntry (npu : SaiStatus) : FdbResult :=
  if p.validVlanId entry.vlanId = false then ⟨s, .invalidVlanId, []⟩
  else match npu with
    | .success => ⟨s.write entry none, .success, []⟩
    | error => ⟨s, error, []⟩

def l2SetFdbEntryAttribute (attr : FdbAttr) (source : FdbSource) (npu : SaiStatus) : FdbResult :=
  if p.validVlanId entry.vlanId = false then ⟨s, .invalidVlanId, []⟩
  else match validAttr attr with
    | .success =>
      s.onNode entry source [] fun found node =>
        match npu with
        | .success => ⟨found.write entry (some (fdbEventAttr node attr)), .success, []⟩
        | error => ⟨found, error, []⟩ -- the node gets its old values back
    | error => ⟨s, error, []⟩

def l2GetFdbEntryAttribute (attrs : List FdbAttr) (source : FdbSource) : FdbResult :=
  if attrs = [] then ⟨s, .invalidParameter, attrs⟩
  else if p.validVlanId entry.vlanId = false then ⟨s, .invalidVlanId, attrs⟩
  else match fdbAttrsCheck FdbAttr.readCheck 0 attrs with
    | .success =>
      s.onNode entry source attrs fun found node => ⟨found, .success, attrs.map (FdbAttr.readFrom node)⟩
    | error => ⟨s, error, attrs⟩

instance (args : FdbFlushArgs) (entry : FdbEntry) (node : FdbEntryNode) : Decidable (args.Selects p entry node) :=
  inferInstanceAs (Decidable (_ ∧ _ ∧ _))

/-- The hardware gives up what a call of `flush_all_fdb_entries` selects. -/
def fdbHardwareFlush (hardware : FdbNodes) (args : FdbFlushArgs) : FdbNodes :=
  fun entry => (hardware entry).filter fun node => ¬ args.Selects p entry node

def fdbFlushTables (attrs : List FdbFlushAttr) (npu : SaiStatus) : FdbResult :=
  let result := l2FlushFdbEntry p s.cache attrs npu
  ⟨⟨result.nodes, if npu = .success then result.calls.foldl (fdbHardwareFlush p) s.hardware else s.hardware⟩,
    result.status, []⟩

/-- What the hardware does by itself, and tells with all four attributes of the entry. -/
def fdbHardwareEvent (eventType : FdbEventType) (node : FdbEntryNode) (insertion : SaiStatus) : FdbResult :=
  ⟨⟨fdbEventNotification fdbNodesCache s.cache [⟨eventType, entry,
      [.portId node.portId, .type node.entryType, .packetAction node.action, .metaData node.metadata], insertion⟩],
    match eventType with
    | .learned => Function.update s.hardware entry (some node)
    | .aged => Function.update s.hardware entry none
    | .flushed => Function.update s.hardware entry none
    | .other => s.hardware⟩, .success, []⟩

end Calls

inductive FdbCall
  | create (entry : FdbEntry) (attrs : List FdbAttr) (npu insertion : SaiStatus)
  | remove (entry : FdbEntry) (npu : SaiStatus)
  | set (entry : FdbEntry) (attr : FdbAttr) (source : FdbSource) (npu : SaiStatus)
  | get (entry : FdbEntry) (attrs : List FdbAttr) (source : FdbSource)
  | flush (attrs : List FdbFlushAttr) (npu : SaiStatus)
  | event (eventType : FdbEventType) (entry : FdbEntry) (node : FdbEntryNode) (insertion : SaiStatus)

def FdbCall.result (p : FdbFlushPlatform) (validAttr : FdbAttr → SaiStatus) (s : FdbTables) : FdbCall → FdbResult
  | .create entry attrs npu insertion => l2CreateFdbEntry p validAttr s entry attrs npu insertion
  | .remove entry npu => l2RemoveFdbEntry p s entry npu
  | .set entry attr source npu => l2SetFdbEntryAttribute p validAttr s entry attr source npu
  | .get entry attrs source => l2GetFdbEntryAttribute p s entry attrs source
  | .flush attrs npu => fdbFlushTables p s attrs npu
  | .event eventType entry node insertion => fdbHardwareEvent s entry eventType node insertion

/-- A call, and what the other modules say of ports, VLANs and attributes when it is made. -/
structure FdbRequest where
  platform : FdbFlushPlatform
  validAttr : FdbAttr → SaiStatus
  call : FdbCall

def FdbRequest.result (s : FdbTables) (request : FdbRequest) : FdbResult :=
  request.call.result request.platform request.validAttr s

def FdbTables.act (s : FdbTables) (request : FdbRequest) : FdbTables := (request.result s).tables

def FdbTables.reply (s : FdbTables) (request : FdbRequest) : SaiStatus × List FdbAttr :=
  ((request.result s).status, (request.result s).attrs)

def FdbTables.uncached (hardware : FdbNodes) : FdbTables := ⟨fun _ => none, hardware⟩

/-- The hardware holds what is in the cache. -/
def FdbTables.Coherent (s : FdbTables) : Prop :=
  ∀ entry node, s.cache entry = some node → s.hardware entry = some node

def FdbSource.Answers (source : FdbSource) : Prop :=
  source.allocOk = true ∧ source.read = .success ∧ source.treeOk = true

/-- An insertion fails only for an entry that is not in the cache, and the hardware can be read. -/
def FdbCall.Faultless (s : FdbTables) : FdbCall → Prop
  | .create entry _ _ insertion => insertion = .success ∨ s.cache entry = none
  | .set _ _ source _ => source.Answers
  | .get _ _ source => source.Answers
  | .event _ entry _ insertion => insertion = .success ∨ s.cache entry = none
  | _ => True

/-- A result that leaves the tables coherent, and is that of the other tables for all but the cache. -/
structure FdbResult.Follows (result other : FdbResult) : Prop where
  coherent : result.tables.Coherent
  hardware : result.tables.hardware = other.tables.hardware
  status : result.status = other.status
  attrs : result.attrs = other.attrs

section Coherent
variable {p : FdbFlushPlatform} {validAttr : FdbAttr → SaiStatus} {s : FdbTables} {entry : FdbEntry}

theorem FdbTables.uncached_coherent (hardware : FdbNodes) : (FdbTables.uncached hardware).Coherent := by
  intro entry node cached
  cases cached

theorem FdbTables.Coherent.write (coherent : s.Coherent) (entry : FdbEntry) (value : Option FdbEntryNode) :
    (s.write entry value).Coherent := by
  intro other node
  unfold FdbTables.write
  dsimp only
  rw [Function.update_apply, Function.update_apply]
  split
  · exact id
  · exact coherent other node

theorem FdbTables.Coherent.insert (coherent : s.Coherent) {insertion : SaiStatus}
    (faultless : insertion = .success ∨ s.cache entry = none) (node : FdbEntryNode) :
    (FdbTables.mk (fdbNodesCache.insert s.cache entry node insertion)
      (Function.update s.hardware entry (some node))).Coherent := by
  by_cases inserted : insertion = .success
  · have written : fdbNodesCache.insert s.cache entry node insertion = Function.update s.cache entry (some node) :=
      if_pos inserted
    rw [written]
    exact coherent.write entry _
  · have kept : fdbNodesCache.insert s.cache entry node insertion = s.cache := if_neg inserted
    rw [kept]
    intro other old cached
    dsimp only at cached ⊢
    have apart : other ≠ entry := by
      rintro rfl
      rw [faultless.resolve_left inserted] at cached
      cases cached
    rw [Function.update_of_ne apart]
    exact coherent other old cached

/-- With a hardware that can be read, the node that is found is the one of the hardware. -/
theorem FdbTables.Coherent.findNode (coherent : s.Coherent) (entry : FdbEntry)
    (answers : source.Answers) : ∃ found, s.findNode entry source = (found, s.hardware entry) ∧
      found.hardware = s.hardware ∧ found.Coherent := by
  obtain ⟨alloc, read, tree⟩ := answers
  unfold FdbTables.findNode
  cases cached : s.cache entry with
  | some node => exact ⟨s, by rw [coherent entry node cached], rfl, coherent⟩
  | none =>
    dsimp only
    unfold FdbTables.populateNode
    rw [alloc, if_neg Bool.noConfusion, read, tree]
    cases held : s.hardware entry with
    | none => exact ⟨s, rfl, rfl, coherent⟩
    | some node =>
      refine ⟨_, rfl, rfl, ?_⟩
      have both := coherent.write entry (some node)
      unfold FdbTables.write at both
      rw [← held, Function.update_eq_self, held] at both
      exact both

theorem FdbTables.Coherent.onNode (coherent : s.Coherent) (answers : source.Answers)
    (attrs : List FdbAttr) {run : FdbTables → FdbEntryNode → FdbResult}
    (each : ∀ found found' node, found.Coherent → found.hardware = found'.hardware →
      (run found node).Follows (run found' node)) :
    (s.onNode entry source attrs run).Follows ((FdbTables.uncached s.hardware).onNode entry source attrs run) := by
  obtain ⟨found, finds, same, kept⟩ := coherent.findNode entry answers
  obtain ⟨found', finds', same', -⟩ := (FdbTables.uncached_coherent s.hardware).findNode entry answers
  have agree : found.hardware = found'.hardware := same.trans same'.symm
  have held : (FdbTables.uncached s.hardware).hardware entry = s.hardware entry := rfl
  unfold FdbTables.onNode
  rw [finds, finds', held]
  cases s.hardware entry with
  | none => exact ⟨kept, agree, rfl, rfl⟩
  | some node => exact each found found' node kept agree

theorem l2CreateFdbEntry_follows (coherent : s.Coherent) (attrs : List FdbAttr) (npu : SaiStatus)
    (faultless : insertion = .success ∨ s.cache entry = none) :
    (l2CreateFdbEntry p validAttr s entry attrs npu insertion).Follows
      (l2CreateFdbEntry p validAttr (.uncached s.hardware) entry attrs npu insertion) := by
  unfold l2CreateFdbEntry
  split
  · exact ⟨coherent, rfl, rfl, rfl⟩
  split
  · exact ⟨coherent, rfl, rfl, rfl⟩
  split
  · split
    · exact ⟨coherent, rfl, rfl, rfl⟩
    split
    · exact ⟨coherent.insert faultless _, rfl, rfl, rfl⟩
    · exact ⟨coherent, rfl, rfl, rfl⟩
  · exact ⟨coherent, rfl, rfl, rfl⟩

theorem l2RemoveFdbEntry_follows (coherent : s.Coherent) (npu : SaiStatus) :
    (l2RemoveFdbEntry p s entry npu).Follows (l2RemoveFdbEntry p (.uncached s.hardware) entry npu) := by
  unfold l2RemoveFdbEntry
  split
  · exact ⟨coherent, rfl, rfl, rfl⟩
  split
  · exact ⟨coherent.write entry none, rfl, rfl, rfl⟩
  · exact ⟨coherent, rfl, rfl, rfl⟩

theorem l2SetFdbEntryAttribute_follows (coherent : s.Coherent) (attr : FdbAttr)
    (answers : source.Answers) (npu : SaiStatus) :
    (l2SetFdbEntryAttribute p validAttr s entry attr source npu).Follows
      (l2SetFdbEntryAttribute p validAttr (.uncached s.hardware) entry attr source npu) := by
  unfold l2SetFdbEntryAttribute
  split
  · exact ⟨coherent, rfl, rfl, rfl⟩
  split
  · refine coherent.onNode answers [] fun found found' node kept agree => ?_
    split
    · exact ⟨kept.write entry _, congrArg (fun held => Function.update held entry _) agree, rfl, rfl⟩
    · exact ⟨kept, agree, rfl, rfl⟩
  · exact ⟨coherent, rfl, rfl, rfl⟩

theorem l2GetFdbEntryAttribute_follows (coherent : s.Coherent) (attrs : List FdbAttr)
    (answers : source.Answers) : (l2GetFdbEntryAttribute p s entry attrs source).Follows
      (l2GetFdbEntryAttribute p (.uncached s.hardware) entry attrs source) := by
  unfold l2GetFdbEntryAttribute
  split
  · exact ⟨coherent, rfl, rfl, rfl⟩
  split
  · exact ⟨coherent, rfl, rfl, rfl⟩
  split
  · exact coherent.onNode answers attrs fun found found' node kept agree => ⟨kept, agree, rfl, rfl⟩
  · exact ⟨coherent, rfl, rfl, rfl⟩

theorem FdbTables.Coherent.flushed (coherent : s.Coherent) (args : FdbFlushArgs) :
    (FdbTables.mk (fdbFlushNodes p s.cache args) (fdbHardwareFlush p s.hardware args)).Coherent := by
  intro entry node
  dsimp only
  unfold fdbHardwareFlush
  rw [fdbFlushNodes_eq_some, Option.filter_eq_some_iff, decide_eq_true_eq]
  rintro ⟨cached, stays⟩
  exact ⟨coherent entry node cached, stays⟩

theorem fdbFlushTables_follows (coherent : s.Coherent) (attrs : List FdbFlushAttr) (npu : SaiStatus) :
    (fdbFlushTables p s attrs npu).Follows (fdbFlushTables p (.uncached s.hardware) attrs npu) := by
  unfold fdbFlushTables l2FlushFdbEntry
  split
  · exact ⟨by split <;> exact coherent, rfl, rfl, rfl⟩
  split
  · cases npu with
    | success => exact ⟨coherent.flushed _, rfl, rfl, rfl⟩
    | _ => exact ⟨coherent, rfl, rfl, rfl⟩
  · exact ⟨by split <;> exact coherent, rfl, rfl, rfl⟩

theorem fdbHardwareEvent_follows (coherent : s.Coherent) (eventType : FdbEventType) (node : FdbEntryNode)
    (faultless : insertion = .success ∨ s.cache entry = none) :
    (fdbHardwareEvent s entry eventType node insertion).Follows
      (fdbHardwareEvent (.uncached s.hardware) entry eventType node insertion) := by
  have gone : (if (s.cache entry).isSome then Function.update s.cache entry none else s.cache) =
      Function.update s.cache entry none := by
    split
    · rfl
    · next absent => exact (Function.update_eq_self_iff.mpr (Option.not_isSome_iff_eq_none.mp absent).symm).symm
  have removed := coherent.write entry none
  unfold FdbTables.write at removed
  rw [← gone] at removed
  refine ⟨?_, rfl, rfl, rfl⟩
  cases eventType with
  | learned => exact coherent.insert faultless node
  | aged => exact removed
  | flushed => exact removed
  | other => exact coherent

variable (p validAttr) in
theorem FdbCall.follows (coherent : s.Coherent) {call : FdbCall} (faultless : call.Faultless s) :
    (call.result p validAttr s).Follows (call.result p validAttr (.uncached s.hardware)) := by
  cases call with
  | create entry attrs npu insertion => exact l2CreateFdbEntry_follows coherent attrs npu faultless
  | remove entry npu => exact l2RemoveFdbEntry_follows coherent npu
  | set entry attr source npu => exact l2SetFdbEntryAttribute_follows coherent attr faultless npu
  | get entry attrs source => exact l2GetFdbEntryAttribute_follows coherent attrs faultless
  | flush attrs npu => exact fdbFlushTables_follows coherent attrs npu
  | event eventType entry node insertion => exact fdbHardwareEvent_follows coherent eventType node faultless

end Coherent

/-- The cache cannot be seen: a run answers what it answers where every call finds the cache empty,
and it leaves the same hardware, which holds all that is in the cache. -/
theorem fdbRun_transparent {s : FdbTables} (coherent : s.Coherent) {requests : List FdbRequest}
    (faultless : Runs.AllowedRun (fun s request => request.call.Faultless s) FdbTables.act s requests) :
    (requests.foldl FdbTables.act s).Coherent ∧
      (requests.foldl FdbTables.act s).hardware =
        requests.foldl (fun hardware request => ((FdbTables.uncached hardware).act request).hardware) s.hardware ∧
      Runs.answers FdbTables.act FdbTables.reply s requests =
        Runs.answers (fun hardware request => ((FdbTables.uncached hardware).act request).hardware)
          (fun hardware => (FdbTables.uncached hardware).reply) s.hardware requests := by
  refine Runs.answers_eq_of_step ?_ coherent faultless
  intro s request coherent faultless
  have follows := FdbCall.follows request.platform request.validAttr coherent faultless
  exact ⟨follows.coherent, follows.hardware, Prod.ext follows.status follows.attrs⟩

def sampleFdbRequests : List FdbRequest :=
  ([.create ⟨1, 10⟩ [.portId ⟨.port, 5⟩, .type 1, .packetAction 0] .success .success,
    .get ⟨1, 10⟩ [.portId nullObjectId] ⟨true, .success, true⟩] : List FdbCall).map
      (FdbRequest.mk sampleFdbPlatform fun _ => .success)

def sampleFdbTables : FdbTables := sampleFdbRequests.foldl FdbTables.act (.uncached fun _ => none)

theorem fdbRun_transparent_sample :
    sampleFdbTables.Coherent ∧ sampleFdbTables.cache ⟨1, 10⟩ = some ⟨⟨.port, 5⟩, 1, 0, 0⟩ := by
  have faultless : Runs.AllowedRun (fun s request => request.call.Faultless s) FdbTables.act
      (.uncached fun _ => none) sampleFdbRequests := ⟨.inl rfl, ⟨rfl, rfl, rfl⟩, trivial⟩
  exact ⟨(fdbRun_transparent (FdbTables.uncached_coherent _) faultless).1, by decide⟩

end SaiCommon
