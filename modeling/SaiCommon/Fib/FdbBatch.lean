import SaiCommon.Fib.RefCount

namespace SaiCommon

variable {before : List FdbEvent} {portId : ObjectId}

/-- An update of the FDB, with what the NPU answers while it is handled. -/
structure FdbEvent where
  update : FdbNotification
  npu : NhRef → SaiStatus

/-- The loop of `sai_neighbor_fdb_callback`, with answers of its own for every update. -/
def neighborFdbEvents (s : FibState) (portId : ObjectId) : List FdbEvent → FibState
  | [] => s
  | event :: rest =>
    let portId := if event.update.learned then event.update.portId else portId
    neighborFdbEvents (fibNeighborPortIdSet s event.update.fdbEntry portId event.npu) portId rest

theorem neighborFdbEvents_callback (npu : NhRef → SaiStatus) (updates : List FdbNotification) :
    ∀ s portId, neighborFdbEvents s portId (updates.map fun update => ⟨update, npu⟩) =
      neighborFdbCallback npu s portId updates := by
  induction updates with
  | nil => exact fun _ _ => rfl
  | cons update rest ih => exact fun _ _ => ih _ _

def fdbBatch (s : FibState) (events : List FdbEvent) : FibState := neighborFdbEvents s nullObjectId events

def fdbOneByOne (s : FibState) (events : List FdbEvent) : FibState :=
  events.foldl (fun s event => fdbBatch s [event]) s

def neighborPort (s : FibState) (ref : NhRef) : Option ObjectId := (s.nhTree.get ref).map Nh.portId

/-- The neighbor is linked under the VLAN and the MAC of the update, and the NPU does not
refuse it. -/
def FdbEvent.reaches (s : FibState) (event : FdbEvent) (ref : NhRef) : Bool :=
  decide (ref ∈ (s.neighborMacTree.get event.update.fdbEntry).getD []) && decide (event.npu ref = .success)

/-- The port that the learned updates alone give to a neighbor. -/
def fdbPortBy (s : FibState) (ref : NhRef) (events : List FdbEvent) (portId : ObjectId) : ObjectId :=
  events.foldl (fun portId event =>
    if event.update.learned = true ∧ event.update.portId ≠ nullObjectId ∧ event.reaches s ref = true then
      event.update.portId
    else portId) portId

/-- The variable of the loop: the port of the last learned update. -/
def fdbCarried (portId : ObjectId) (events : List FdbEvent) : ObjectId :=
  events.foldl (fun portId event => if event.update.learned then event.update.portId else portId) portId

/-- A batch leaves the ports that its updates leave one by one, a learned update gives its
port to the neighbors that it reaches, and no other update changes a port. -/
structure FdbBatchRight (s : FibState) (events : List FdbEvent) : Prop where
  oneByOne : ∀ ref, neighborPort (fdbBatch s events) ref = neighborPort (fdbOneByOne s events) ref
  learned : ∀ before event after, events = before ++ event :: after → event.update.learned = true → ∀ ref,
    neighborPort (fdbBatch s (before ++ [event])) ref =
      if event.reaches s ref then (neighborPort (fdbBatch s before) ref).map fun _ => event.update.portId
      else neighborPort (fdbBatch s before) ref
  others : ∀ before event after, events = before ++ event :: after → event.update.learned = false → ∀ ref,
    neighborPort (fdbBatch s (before ++ [event])) ref = neighborPort (fdbBatch s before) ref

/-- An update that is not learned finds no port of an earlier one, or no neighbor to give it
to: every one that it reaches has that port already. The same holds of the NULL port of a
learned one. -/
def FdbBatchSafe (s : FibState) (events : List FdbEvent) : Prop :=
  ∀ before event after, events = before ++ event :: after → ∀ ref portId, neighborPort s ref = some portId →
    event.reaches s ref = true →
    (event.update.learned = true → event.update.portId = nullObjectId →
      fdbPortBy s ref before portId = nullObjectId) ∧
    (event.update.learned = false → fdbCarried nullObjectId before ≠ nullObjectId →
      fdbPortBy s ref before portId = fdbCarried nullObjectId before)

section Ports
variable {s : FibState} {events : List FdbEvent}

theorem neighborPort_modify (ref other : NhRef) (portId : ObjectId) :
    neighborPort (s.modifyNh ref fun node => { node with portId := portId }) other =
      if other = ref then (neighborPort s other).map fun _ => portId else neighborPort s other := by
  unfold neighborPort FibState.modifyNh
  dsimp only
  rw [KeyTree.get_modify]
  split
  · rw [Option.map_map, Option.map_map]
    rfl
  · rfl

theorem fibNeighborPortIdLoop_port (portId : ObjectId) (npu : NhRef → SaiStatus) (linked : List NhRef) :
    ∀ (s : FibState) (ref : NhRef), neighborPort (fibNeighborPortIdLoop portId npu s linked) ref =
      if ref ∈ linked ∧ npu ref = .success then (neighborPort s ref).map fun _ => portId else
        neighborPort s ref := by
  induction linked with
  | nil => exact fun s ref => (if_neg fun both => absurd both.1 List.not_mem_nil).symm
  | cons first rest ih =>
    intro s ref
    -- a round that leaves the port of the first neighbor as it should be
    have round : ∀ t, (∀ other, neighborPort t other =
        if other = first ∧ npu first = .success then (neighborPort s other).map fun _ => portId
        else neighborPort s other) →
        neighborPort (fibNeighborPortIdLoop portId npu t rest) ref =
          if ref ∈ first :: rest ∧ npu ref = .success then (neighborPort s ref).map fun _ => portId
          else neighborPort s ref := by
      intro t after
      have now := after ref
      rw [ih]
      by_cases here : ref = first
      · subst here
        by_cases accepts : npu ref = .success
        · have reached : ref ∈ ref :: rest ∧ npu ref = .success := ⟨List.mem_cons_self, accepts⟩
          rw [if_pos ⟨rfl, accepts⟩] at now
          rw [now, if_pos reached]
          split
          · rw [Option.map_map]
            rfl
          · rfl
        · rw [if_neg fun both => accepts both.2] at now
          rw [now, if_neg fun both => accepts both.2, if_neg fun both => accepts both.2]
      · rw [if_neg fun both => here both.1] at now
        rw [now]
        refine if_congr (and_congr_left fun _ => ?_) rfl rfl
        rw [List.mem_cons, or_iff_right here]
    unfold fibNeighborPortIdLoop
    cases stored : s.nhTree.get first with
    | none =>
      refine round s fun other => ?_
      split
      · next both =>
        unfold neighborPort
        rw [both.1, stored]
        rfl
      · rfl
    | some node =>
      dsimp only
      split
      · next same =>
        refine round s fun other => ?_
        split
        · next both =>
          unfold neighborPort
          rw [both.1, stored, Option.map_some, Option.map_some, same]
        · rfl
      · split
        · next accepts =>
          refine round _ fun other => ?_
          rw [neighborPort_modify]
          exact if_congr (and_iff_left accepts).symm rfl rfl
        · next refuses =>
          refine round s fun other => ?_
          rw [if_neg fun both => refuses both.2]

theorem fibNeighborPortIdLoop_macTree (portId : ObjectId) (npu : NhRef → SaiStatus) (linked : List NhRef) :
    ∀ s : FibState, (fibNeighborPortIdLoop portId npu s linked).neighborMacTree = s.neighborMacTree := by
  induction linked with
  | nil => exact fun _ => rfl
  | cons first rest ih =>
    intro s
    unfold fibNeighborPortIdLoop
    split
    · exact ih s
    split
    · exact ih s
    split
    · exact ih _
    · exact ih s

theorem fibNeighborPortIdSet_macTree (s : FibState) (key : NeighborMacKey) (portId : ObjectId)
    (npu : NhRef → SaiStatus) : (fibNeighborPortIdSet s key portId npu).neighborMacTree = s.neighborMacTree := by
  unfold fibNeighborPortIdSet
  split
  · rfl
  split
  · rfl
  · exact fibNeighborPortIdLoop_macTree _ _ _ _

theorem fibNeighborPortIdSet_port (event : FdbEvent) (portId : ObjectId) (ref : NhRef) :
    neighborPort (fibNeighborPortIdSet s event.update.fdbEntry portId event.npu) ref =
      if portId ≠ nullObjectId ∧ event.reaches s ref = true then (neighborPort s ref).map fun _ => portId
      else neighborPort s ref := by
  unfold fibNeighborPortIdSet FdbEvent.reaches
  by_cases null : portId = nullObjectId
  · rw [if_pos null, if_neg fun both => both.1 null]
  rw [if_neg null]
  cases s.neighborMacTree.get event.update.fdbEntry with
  | none => exact (if_neg fun both => by simp at both).symm
  | some linked =>
    dsimp only
    rw [fibNeighborPortIdLoop_port]
    refine if_congr ?_ rfl rfl
    rw [Bool.and_eq_true, decide_eq_true_eq, decide_eq_true_eq]
    exact (and_iff_right null).symm

theorem neighborFdbEvents_macTree (events : List FdbEvent) :
    ∀ s portId, (neighborFdbEvents s portId events).neighborMacTree = s.neighborMacTree := by
  induction events with
  | nil => exact fun _ _ => rfl
  | cons event rest ih => exact fun s portId => (ih _ _).trans (fibNeighborPortIdSet_macTree ..)

theorem neighborFdbEvents_append (before after : List FdbEvent) : ∀ s portId,
    neighborFdbEvents s portId (before ++ after) =
      neighborFdbEvents (neighborFdbEvents s portId before) (fdbCarried portId before) after := by
  induction before with
  | nil => exact fun _ _ => rfl
  | cons event rest ih => exact fun s portId => ih _ _

theorem reaches_congr {t : FibState} (trees : t.neighborMacTree = s.neighborMacTree) (event : FdbEvent) (ref : NhRef) :
    event.reaches t ref = event.reaches s ref := by
  unfold FdbEvent.reaches
  rw [trees]

theorem fdbCarried_concat (portId : ObjectId) (before : List FdbEvent) (event : FdbEvent) :
    fdbCarried portId (before ++ [event]) =
      if event.update.learned then event.update.portId else fdbCarried portId before :=
  List.foldl_append

theorem fdbCarried_learned {event : FdbEvent}
    (learned : event.update.learned = true) : fdbCarried portId (before ++ [event]) = event.update.portId := by
  rw [fdbCarried_concat, if_pos learned]

theorem fdbCarried_other {event : FdbEvent}
    (unlearned : event.update.learned = false) : fdbCarried portId (before ++ [event]) = fdbCarried portId before := by
  rw [fdbCarried_concat, if_neg (by rw [unlearned]; exact Bool.noConfusion)]

theorem fdbPortBy_concat (ref : NhRef) (before : List FdbEvent) (event : FdbEvent) :
    fdbPortBy s ref (before ++ [event]) = fun portId =>
      if event.update.learned = true ∧ event.update.portId ≠ nullObjectId ∧ event.reaches s ref = true then
        event.update.portId else fdbPortBy s ref before portId :=
  funext fun _ => List.foldl_append

theorem fdbBatch_concat (before : List FdbEvent) (event : FdbEvent) (ref : NhRef) :
    neighborPort (fdbBatch s (before ++ [event])) ref =
      if fdbCarried nullObjectId (before ++ [event]) ≠ nullObjectId ∧ event.reaches s ref = true then
        (neighborPort (fdbBatch s before) ref).map fun _ => fdbCarried nullObjectId (before ++ [event])
      else neighborPort (fdbBatch s before) ref := by
  have last : fdbBatch s (before ++ [event]) = fibNeighborPortIdSet (fdbBatch s before) event.update.fdbEntry
      (fdbCarried nullObjectId (before ++ [event])) event.npu := by
    rw [fdbCarried_concat]
    exact neighborFdbEvents_append before [event] s nullObjectId
  have trees : (fdbBatch s before).neighborMacTree = s.neighborMacTree :=
    neighborFdbEvents_macTree before s nullObjectId
  rw [last, fibNeighborPortIdSet_port, reaches_congr trees]

theorem fdbOneByOne_macTree (events : List FdbEvent) : (fdbOneByOne s events).neighborMacTree = s.neighborMacTree := by
  induction events using List.reverseRecOn with
  | nil => rfl
  | append_singleton before event ih =>
    unfold fdbOneByOne at ih ⊢
    rw [List.foldl_append]
    exact (neighborFdbEvents_macTree _ _ _).trans ih

theorem fdbOneByOne_port (ref : NhRef) (events : List FdbEvent) :
    neighborPort (fdbOneByOne s events) ref = (neighborPort s ref).map (fdbPortBy s ref events) := by
  induction events using List.reverseRecOn with
  | nil => exact Option.map_id'.symm
  | append_singleton before event ih =>
    have trees := @fdbOneByOne_macTree s before
    have alone := @fdbBatch_concat (fdbOneByOne s before) [] event ref
    have step : fdbOneByOne s (before ++ [event]) = fdbBatch (fdbOneByOne s before) ([] ++ [event]) :=
      List.foldl_append
    have start : fdbBatch (fdbOneByOne s before) [] = fdbOneByOne s before := rfl
    rw [step, alone, reaches_congr trees, start, ih, fdbCarried_concat, fdbPortBy_concat]
    cases learned : event.update.learned with
    | false =>
      rw [if_neg fun both => both.1 rfl]
      simp only [Bool.false_eq_true, false_and, if_false]
    | true =>
      simp only [if_true, true_and]
      split
      · exact Option.map_map ..
      · rfl

theorem fdbBatch_port {after : List FdbEvent} (split : events = before ++ after) (ref : NhRef)
    (idle : ∀ first event rest, events = first ++ event :: rest → event.update.learned = false →
      neighborPort (fdbBatch s first) ref = (neighborPort s ref).map (fdbPortBy s ref first) →
      neighborPort (fdbBatch s (first ++ [event])) ref = neighborPort (fdbBatch s first) ref) :
    neighborPort (fdbBatch s before) ref = (neighborPort s ref).map (fdbPortBy s ref before) := by
  induction before using List.reverseRecOn generalizing after with
  | nil => exact Option.map_id'.symm
  | append_singleton before event ih =>
    rw [List.append_assoc] at split
    have until_now := ih split
    rw [fdbPortBy_concat]
    cases learned : event.update.learned with
    | false =>
      rw [idle before event after split learned until_now, until_now]
      simp only [Bool.false_eq_true, false_and, if_false]
    | true =>
      rw [fdbBatch_concat, fdbCarried_learned learned, until_now]
      simp only [true_and]
      split
      · exact Option.map_map ..
      · rfl

theorem fdbBatch_right_iff : FdbBatchRight s events ↔ FdbBatchSafe s events := by
  constructor
  · intro right before event after split ref portId stored reached
    have port : neighborPort (fdbBatch s before) ref = some (fdbPortBy s ref before portId) := by
      rw [fdbBatch_port split ref fun first other rest place unlearned _ =>
        right.others first other rest place unlearned ref, stored]
      rfl
    have moved := @fdbBatch_concat s before event ref
    constructor
    · intro learned null
      have given := right.learned before event after split learned ref
      rw [fdbCarried_learned learned, if_neg fun both => both.1 null] at moved
      rw [if_pos reached, moved, port, null] at given
      exact Option.some.inj given
    · intro unlearned carried
      have given := right.others before event after split unlearned ref
      rw [fdbCarried_other unlearned, if_pos ⟨carried, reached⟩, given, port] at moved
      exact Option.some.inj moved
  · intro safe
    have idle : ∀ ref first event rest, events = first ++ event :: rest → event.update.learned = false →
        neighborPort (fdbBatch s first) ref = (neighborPort s ref).map (fdbPortBy s ref first) →
        neighborPort (fdbBatch s (first ++ [event])) ref = neighborPort (fdbBatch s first) ref := by
      intro ref first event rest split unlearned until_now
      rw [fdbBatch_concat, fdbCarried_other unlearned, until_now]
      split
      · next both =>
        cases stored : neighborPort s ref with
        | none => rfl
        | some portId =>
          exact congrArg some ((safe first event rest split ref portId stored both.2).2 unlearned both.1).symm
      · rfl
    have port : ∀ {before after} ref, events = before ++ after →
        neighborPort (fdbBatch s before) ref = (neighborPort s ref).map (fdbPortBy s ref before) :=
      fun ref split => fdbBatch_port split ref (idle ref)
    refine ⟨fun ref => ?_, fun before event after split learned ref => ?_,
      fun before event after split unlearned ref => idle ref before event after split unlearned (port ref split)⟩
    · rw [port ref (List.append_nil events).symm, fdbOneByOne_port]
    · rw [fdbBatch_concat, fdbCarried_learned learned]
      by_cases null : event.update.portId = nullObjectId
      · rw [if_neg fun both => both.1 null]
        split
        · next reached =>
          rw [port ref split]
          cases stored : neighborPort s ref with
          | none => rfl
          | some portId =>
            exact congrArg some (((safe before event after split ref portId stored reached).1 learned null).trans
              null.symm)
        · rfl
      · exact if_congr (and_iff_right null) rfl rfl

end Ports

def fdbSampleNeighbor (addr : BitVec 32) (mac : Mac) : FibCall :=
  .neighborCreate ⟨⟨.routerInterface, 1⟩, .v4 addr⟩ [.dstMacAddress mac] ⟨true, true⟩
    ⟨.error .failure, fun _ => .ok ⟨.port, 5⟩, ⟨true, true, .success⟩, .success⟩

def fdbSampleRun : List FibCall :=
  [fibSampleVrf, fibSampleRif [.type .vlan, .vlanId 2] 7 1, fdbSampleNeighbor 10 1, fdbSampleNeighbor 11 2]

def fdbSample : FibState := fdbSampleRun.foldl fibSampleStep fibSample

def fdbSampleEvents : List FdbEvent :=
  [⟨⟨true, ⟨2, 1⟩, ⟨.port, 7⟩⟩, fun _ => .success⟩,
    ⟨⟨false, ⟨2, 2⟩, ⟨.port, 5⟩⟩, fun _ => .success⟩]

/-- The neighbor whose MAC ages gets the port that the other one was learned on. -/
theorem fdbBatch_not_right : ¬ ∀ p s events, Runs.Reach FibFresh (fibStep p fun _ _ => True) s →
    FdbBatchRight s events := by
  intro all
  have right := all fibSamplePlatform fdbSample fdbSampleEvents
    (Runs.Reach.run (.start fibSample_fresh) (Runs.allowedRun_of_forall (fun _ _ => trivial) _ _))
  have kept := right.oneByOne ⟨⟨.virtualRouter, 1⟩, .ip, ⟨.routerInterface, 1⟩, .v4 11⟩
  revert kept
  decide

end SaiCommon
