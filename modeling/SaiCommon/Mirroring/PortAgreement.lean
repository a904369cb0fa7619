import SaiCommon.Mirroring.PortRuns

namespace SaiCommon

variable {sessionId : ObjectId}

inductive MirrorEvent
  | sessionCreate (lookups : MirrorLookups) (attrs : List MirrorAttr) (env : MirrorCreateEnv)
  | sessionRemove (sessionId : ObjectId) (npu : SaiStatus)
  | handlePerPort (isPortValid : ObjectId → Bool) (portId : ObjectId) (direction : MirrorDirection)
    (sessions : List ObjectId) (env : MirrorPortEnv)

variable (order : KeyRank MirrorSessionPerPort)

def MirrorEvent.run (s : MirrorState) : MirrorEvent → MirrorState × SaiStatus
  | .sessionCreate lookups attrs env => mirrorSessionCreate s lookups attrs env
  | .sessionRemove sessionId npu => mirrorSessionRemove s sessionId npu
  | .handlePerPort isPortValid portId direction sessions env =>
    mirrorHandlePerPort s isPortValid order portId direction sessions env

def MirrorEvent.step (s : MirrorState) (event : MirrorEvent) : MirrorState := (event.run order s).1

/-- The NPU gives a new session an id that no stored one has, and undo calls
succeed. -/
def MirrorEvent.ordered (s : MirrorState) : MirrorEvent → Prop
  | .sessionCreate _ _ env => s.mirrorSessionsTree.get ⟨.mirrorSession, env.npuObjectId⟩ = none
  | .sessionRemove _ _ => True
  | .handlePerPort _ _ _ _ env => ∀ index, (env.add index).npuUndo = .success

/-- The sessions that a port has in one direction. -/
def MirrorState.known (s : MirrorState) (portId : ObjectId) (direction : MirrorDirection) : List ObjectId :=
  ((s.portSessions portId).filter fun node => node.mirrorDirection = direction).map MirrorSessionPerPort.sessionId

/-- All additions and removals that the list asks for succeed, or the first of
them is refused. -/
def MirrorHandleKept (s : MirrorState) (isPortValid : ObjectId → Bool) (portId : ObjectId)
    (direction : MirrorDirection) (sessions : List ObjectId) (env : MirrorPortEnv) : Prop :=
  let additions := mirrorAdditions (s.known portId direction) 0 sessions
  let removals := (s.portSessions portId).filter fun node => mirrorOutdated direction sessions node
  env.portNodeOk = false ∨ s.portTrees.get portId = none ∧ env.portTreeOk = false ∨
    (∀ a ∈ additions, MirrorAccepted s isPortValid portId env a.1 a.2) ∧
      (∀ node ∈ removals, MirrorReleased isPortValid portId env node) ∨
    (∃ a later, additions = a :: later ∧ MirrorRefused s isPortValid portId env a.1 a.2) ∨
    additions = [] ∧ ∃ node later, removals = node :: later ∧ ¬ MirrorReleased isPortValid portId env node

def MirrorEvent.kept (s : MirrorState) : MirrorEvent → Prop
  | .handlePerPort isPortValid portId direction sessions env =>
    MirrorHandleKept s isPortValid portId direction sessions env
  | _ => True

/-- After SUCCESS the port has the listed sessions in the direction and what it
had before in the other; after an error it has what it had before. -/
def MirrorHandleExact (s t : MirrorState) (status : SaiStatus) (portId : ObjectId) (direction : MirrorDirection)
    (sessions : List ObjectId) : Prop :=
  (status = .success → ∀ link, t.listed link ↔
    if link.mirrorPort = portId ∧ link.mirrorDirection = direction then link.sessionId ∈ sessions
    else s.listed link) ∧
  (status ≠ .success → ∀ link, t.listed link ↔ s.listed link)

variable {order} {s : MirrorState}

theorem MirrorState.mem_known {portId : ObjectId} {direction : MirrorDirection} :
    sessionId ∈ s.known portId direction ↔ s.listed ⟨sessionId, portId, direction⟩ := by
  unfold known listed
  rw [List.mem_map]
  constructor
  · rintro ⟨⟨k, d⟩, member, same⟩
    obtain ⟨here, sameDirection⟩ := List.mem_filter.mp member
    cases of_decide_eq_true sameDirection
    cases same
    exact here
  · intro here
    exact ⟨_, List.mem_filter.mpr ⟨here, decide_eq_true rfl⟩, rfl⟩

theorem mem_of_mirrorAdditions {known : List ObjectId} (sessions : List ObjectId) : ∀ index,
    mirrorAdditions known index sessions = [] → ∀ sessionId ∈ sessions, sessionId ∈ known := by
  induction sessions with
  | nil => exact fun _ _ sessionId member => absurd member List.not_mem_nil
  | cons head rest ih =>
    intro index none sessionId member
    unfold mirrorAdditions at none
    split at none
    · rename_i here
      rcases List.mem_cons.mp member with rfl | later
      · exact here
      · exact ih _ none sessionId later
    · cases none

section Handle
variable {isPortValid : ObjectId → Bool} {portId : ObjectId} {direction : MirrorDirection}
  {sessions : List ObjectId} {env : MirrorPortEnv}

variable (portId) in
theorem MirrorState.portSessions_putSame :
    (s.putPortTree portId (s.portSessions portId)).portSessions = s.portSessions := by
  funext other
  rw [portSessions_putPortTree]
  split
  · rename_i same
    rw [same]
  · rfl

theorem mirrorHandlePerPort_kept (kept : MirrorKept order s) (undo : ∀ index, (env.add index).npuUndo = .success)
    (condition : MirrorHandleKept s isPortValid portId direction sessions env) :
    let handled := mirrorHandlePerPort s isPortValid order portId direction sessions env
    MirrorKept order handled.1 ∧ MirrorHandleExact s handled.1 handled.2 portId direction sessions := by
  intro handled
  have unchanged : ∀ t : MirrorState × SaiStatus, handled = t → t.2 ≠ .success → MirrorKept order t.1 →
      (∀ link, t.1.listed link ↔ s.listed link) →
      MirrorKept order handled.1 ∧ MirrorHandleExact s handled.1 handled.2 portId direction sessions := by
    intro t result failed kept' same
    rw [result]
    exact ⟨kept', fun success => absurd success failed, fun _ => same⟩
  by_cases node : env.portNodeOk = false
  · exact unchanged (s, .failure) (if_pos node) (fun same => by cases same) kept fun _ => Iff.rfl
  by_cases tree : s.portTrees.get portId = none ∧ env.portTreeOk = false
  · exact unchanged (s, .failure) ((if_neg node).trans (if_pos tree)) (fun same => by cases same) kept
      fun _ => Iff.rfl
  let s' := s.putPortTree portId (s.portSessions portId)
  have kept' : MirrorKept order s' := kept.of_same rfl rfl (MirrorState.portSessions_putSame portId)
  have listed' : ∀ link, s'.listed link ↔ s.listed link := fun link => by
    unfold MirrorState.listed
    rw [MirrorState.portSessions_putSame portId]
  have knows : ∀ sessionId, sessionId ∈ s.known portId direction ↔ s'.listed ⟨sessionId, portId, direction⟩ :=
    fun sessionId => MirrorState.mem_known.trans (listed' _).symm
  have handledEq : handled = _ := (if_neg node).trans (if_neg tree)
  dsimp only at handledEq
  rcases condition with noNode | noTree | ⟨accepted, released⟩ | ⟨a, later, first, refused⟩ |
    ⟨none, node, later, first, refused⟩
  · exact absurd noNode node
  · exact absurd noTree tree
  · have accepted' : ∀ a ∈ mirrorAdditions (s.known portId direction) 0 sessions,
        MirrorAccepted s' isPortValid portId env a.1 a.2 := fun a member =>
      ⟨mirrorAddable_putPortTree.mpr (accepted a member).addable, (accepted a member).alloc,
        (accepted a member).inserted⟩
    obtain ⟨t, added, keptT, listedT⟩ := mirrorPortAddLoop_accepted undo sessions _ 0 s' kept' knows accepted'
    rw [added] at handledEq
    have releasedT : ∀ node ∈ t.portSessions portId, mirrorOutdated direction sessions node →
        MirrorReleased isPortValid portId env node := by
      intro node member old
      rcases (listedT ⟨node.sessionId, portId, node.mirrorDirection⟩).mp member with ⟨_, _, here⟩ | before
      · exact absurd here old.2
      · exact released node (List.mem_filter.mpr ⟨(listed' _).mp before, decide_eq_true old⟩)
    obtain ⟨u, removed, keptU, listedU⟩ :=
      mirrorRemoveMirrorPerPort_released isPortValid portId direction sessions env keptT releasedT
    rw [handledEq]
    dsimp only
    rw [removed]
    refine ⟨keptU, fun _ link => ?_, fun failed => absurd rfl failed⟩
    rw [listedU, listedT, listed']
    unfold mirrorOutdated
    by_cases port : link.mirrorPort = portId
    · by_cases dir : link.mirrorDirection = direction
      · rw [if_pos ⟨port, dir⟩]
        simp only [port, dir, true_and, not_not]
        exact ⟨fun both => both.2, fun here => ⟨.inl here, here⟩⟩
      · rw [if_neg fun both => dir both.2]
        simp only [dir, false_and, and_false, false_or, not_false_eq_true, and_true]
    · rw [if_neg fun both => port both.1]
      simp only [port, false_and, false_or, not_false_eq_true, and_true]
  · have refused' : MirrorRefused s' isPortValid portId env a.1 a.2 :=
      fun addable => refused (mirrorAddable_putPortTree.mp addable)
    obtain ⟨failed, same⟩ := mirrorPortAddLoop_refused undo kept' knows refused' sessions 0 first
    refine unchanged (mirrorPortAddLoop isPortValid order portId direction env s' 0 sessions) ?_ failed ?_ ?_
    · rw [handledEq]
      split
      · rename_i result
        rw [result] at failed
        exact absurd rfl failed
      · rename_i result
        exact result.symm
    · rw [same]
      exact kept'
    · rw [same]
      exact listed'
  · have listed : ∀ sessionId ∈ sessions, s'.listed ⟨sessionId, portId, direction⟩ := fun sessionId member =>
      (knows sessionId).mp (mem_of_mirrorAdditions sessions 0 none sessionId member)
    rw [mirrorPortAddLoop_listed sessions 0 listed] at handledEq
    rw [← MirrorState.portSessions_putSame portId] at first
    obtain ⟨failed, same⟩ :=
      mirrorRemoveMirrorPerPort_refused isPortValid portId direction sessions env kept' first refused
    refine unchanged _ handledEq failed ?_ ?_
    · rw [same]
      exact kept'
    · rw [same]
      exact listed'

end Handle

section Sessions

theorem mirrorFillLoop_sources {lookups : MirrorLookups} {validate : Nat → SaiStatus} (attrs : List MirrorAttr) :
    ∀ index session filled, mirrorFillLoop lookups validate index session attrs = .ok filled →
      filled.sourcePortsTree = session.sourcePortsTree := by
  have fill : ∀ index session attr,
      (mirrorFillAttributeParams lookups index session attr).1.sourcePortsTree = session.sourcePortsTree := by
    intro index session attr
    unfold mirrorFillAttributeParams
    repeat' split
    all_goals rfl
  induction attrs with
  | nil =>
    intro index session filled result
    cases result
    rfl
  | cons attr rest ih =>
    intro index session filled result
    unfold mirrorFillLoop at result
    have same := fill index session attr
    split at result
    · rename_i next parsed
      split at result
      · rw [ih _ _ _ result, ← same, parsed]
      · cases result
    · cases result

section
variable (kept : MirrorKept order s)
include kept

theorem MirrorKept.npuDestroy
    (none : ∀ portId direction, ¬ s.listed ⟨sessionId, portId, direction⟩) : s.npuDestroy sessionId = s := by
  unfold MirrorState.npuDestroy
  have same : (fun link : MirrorLink => if link.sessionId = sessionId then false else s.npuMirrors link) =
      s.npuMirrors := by
    funext link
    split
    · rename_i here
      refine ((Bool.not_eq_true _).mp fun on => ?_).symm
      refine none link.mirrorPort link.mirrorDirection ?_
      rw [← here]
      exact (kept.views.hardware link).mp on
    · rfl
  rw [same]

theorem MirrorKept.resession
    {tree : KeyTree ObjectId MirrorSession}
    (others : ∀ k, k ≠ sessionId → tree.get k = s.mirrorSessionsTree.get k)
    (before : ∀ session, s.mirrorSessionsTree.get sessionId = some session → session.sourcePortsTree = ∅)
    (after : ∀ session, tree.get sessionId = some session →
      session.sourcePortsTree = ∅ ∧ sessionId.objType = .mirrorSession) :
    MirrorKept order { s with mirrorSessionsTree := tree } := by
  refine ⟨⟨fun link => ?_, kept.views.hardware⟩, kept.sorted, fun k session stored => ?_⟩
  · refine Iff.trans ?_ (kept.views.sources link)
    unfold MirrorState.sources
    dsimp only
    by_cases here : link.sessionId = sessionId
    · rw [here]
      constructor
      · rintro ⟨session, stored, member⟩
        rw [(after session stored).1] at member
        exact absurd member (Finset.notMem_empty _)
      · rintro ⟨session, stored, member⟩
        rw [before session stored] at member
        exact absurd member (Finset.notMem_empty _)
    · rw [others _ here]
  · dsimp only at stored
    by_cases here : k = sessionId
    · rw [here] at stored ⊢
      exact (after session stored).2
    · rw [others k here] at stored
      exact kept.typed k session stored

theorem MirrorKept.unlisted
    (empty : ∀ session, s.mirrorSessionsTree.get sessionId = some session → session.sourcePortsTree = ∅)
    (portId : ObjectId) (direction : MirrorDirection) : ¬ s.listed ⟨sessionId, portId, direction⟩ := by
  intro listed
  obtain ⟨session, stored, member⟩ := (kept.views.sources _).mpr listed
  rw [empty session stored] at member
  exact Finset.notMem_empty _ member

theorem mirrorSessionCreate_kept (lookups : MirrorLookups) (attrs : List MirrorAttr)
    {env : MirrorCreateEnv} (fresh : s.mirrorSessionsTree.get ⟨.mirrorSession, env.npuObjectId⟩ = none) :
    MirrorKept order (mirrorSessionCreate s lookups attrs env).1 := by
  have same : s.npuDestroy ⟨.mirrorSession, env.npuObjectId⟩ = s := by
    refine kept.npuDestroy (kept.unlisted fun session stored => ?_)
    rw [fresh] at stored
    cases stored
  unfold mirrorSessionCreate
  split
  · exact kept
  split
  · exact kept
  rename_i session filled
  split
  · exact kept
  split
  swap
  · exact kept
  dsimp only
  rw [fresh]
  cases env.insertOk with
  | false =>
    dsimp only
    rw [same]
    exact kept
  | true =>
    dsimp only
    split
    · rw [same]
      exact kept
    refine kept.resession (fun k other => KeyTree.get_put_ne other) (fun other stored => ?_) fun other stored => ?_
    · rw [fresh] at stored
      cases stored
    · rw [KeyTree.get_put_self] at stored
      cases stored
      exact ⟨mirrorFillLoop_sources attrs 0 .zero session filled, rfl⟩

theorem mirrorSessionRemove_kept (sessionId : ObjectId) (npu : SaiStatus) :
    MirrorKept order (mirrorSessionRemove s sessionId npu).1 := by
  unfold mirrorSessionRemove
  split
  · exact kept
  split
  · exact kept
  rename_i session stored
  split
  · exact kept
  rename_i empty
  have noSources : ∀ other, s.mirrorSessionsTree.get sessionId = some other → other.sourcePortsTree = ∅ := by
    intro other stored'
    rw [stored] at stored'
    cases stored'
    exact not_not.mp empty
  split
  · rw [kept.npuDestroy (kept.unlisted noSources)]
    refine kept.resession (fun k other => KeyTree.get_del_ne other) noSources fun other stored' => ?_
    rw [KeyTree.get_del_self] at stored'
    cases stored'
  · exact kept

end

end Sessions

structure MirrorFresh (s : MirrorState) : Prop where
  noSessions : s.mirrorSessionsTree = ∅
  noTrees : s.portTrees = ∅
  noMirrors : ∀ link, s.npuMirrors link = false

theorem MirrorFresh.kept (fresh : MirrorFresh s) : MirrorKept order s := by
  have empty : ∀ portId, s.portSessions portId = [] := by
    intro portId
    unfold MirrorState.portSessions
    rw [fresh.noTrees, KeyTree.get_empty]
    rfl
  have unlisted : ∀ link, ¬ s.listed link := by
    intro link listed
    unfold MirrorState.listed at listed
    rw [empty] at listed
    exact List.not_mem_nil listed
  refine ⟨⟨fun link => ?_, fun link => ?_⟩, fun portId => ?_, fun k session stored => ?_⟩
  · refine iff_of_false ?_ (unlisted link)
    rintro ⟨session, stored, _⟩
    rw [fresh.noSessions, KeyTree.get_empty] at stored
    cases stored
  · refine iff_of_false ?_ (unlisted link)
    rw [fresh.noMirrors]
    exact Bool.false_ne_true
  · rw [empty]
    exact List.Pairwise.nil
  · rw [fresh.noSessions, KeyTree.get_empty] at stored
    cases stored

theorem MirrorKept.step (kept : MirrorKept order s) (event : MirrorEvent) (ordered : event.ordered s)
    (condition : event.kept s) : MirrorKept order (event.step order s) := by
  cases event with
  | sessionCreate lookups attrs env => exact mirrorSessionCreate_kept kept lookups attrs ordered
  | sessionRemove sessionId npu => exact mirrorSessionRemove_kept kept sessionId npu
  | handlePerPort isPortValid portId direction sessions env => exact (mirrorHandlePerPort_kept kept ordered condition).1

variable (order) in
/-- In every run of ordered and kept calls the sessions, the ports and the NPU
agree, and setting a port's sessions is exact or without effect. -/
theorem mirrorViews_agree (reach : Runs.Reach MirrorFresh
      (Runs.guarded (fun s event => MirrorEvent.ordered s event ∧ MirrorEvent.kept s event)
        (MirrorEvent.step order)) s) :
    MirrorViews s ∧ ∀ isPortValid portId direction sessions env,
      (MirrorEvent.handlePerPort isPortValid portId direction sessions env).ordered s →
      (MirrorEvent.handlePerPort isPortValid portId direction sessions env).kept s →
      MirrorHandleExact s (mirrorHandlePerPort s isPortValid order portId direction sessions env).1
        (mirrorHandlePerPort s isPortValid order portId direction sessions env).2 portId direction sessions := by
  have kept : MirrorKept order s := by
    refine reach.invariant (MirrorKept order) (fun _ fresh => fresh.kept) ?_
    intro s event t kept moved
    rw [moved.2]
    exact kept.step event moved.1.1 moved.1.2
  exact ⟨kept.views, fun isPortValid portId direction sessions env ordered condition =>
    (mirrorHandlePerPort_kept kept ordered condition).2⟩

def MirrorDirection.rank : MirrorDirection → Nat
  | .ingress => 0
  | .egress => 1

/-- The nodes of a port's tree by session number, session type and direction. -/
def mirrorSessionRank : KeyRank MirrorSessionPerPort where
  rank node :=
    (node.sessionId.npuObjectId * 32 + node.sessionId.objType.ctorIdx) * 2 + node.mirrorDirection.rank
  injective := by
    rintro ⟨⟨a, n⟩, d⟩ ⟨⟨b, m⟩, e⟩ same
    dsimp only at same
    have small : ∀ kind : ObjectType, kind.ctorIdx < 32 := by
      intro kind
      cases kind <;> decide
    have smallA := small a
    have smallB := small b
    have bits : ∀ direction : MirrorDirection, direction.rank < 2 := by
      intro direction
      cases direction <;> decide
    have bitD := bits d
    have bitE := bits e
    have sameNumber : n = m := by omega
    have sameKind : a.ctorIdx = b.ctorIdx := by omega
    have sameDirection : d.rank = e.rank := by omega
    have kinds : a = b := by
      rw [← ObjectType.ofNat_ctorIdx a, ← ObjectType.ofNat_ctorIdx b, sameKind]
    have directions : d = e := by
      cases d <;> cases e <;> first | rfl | cases sameDirection
    rw [sameNumber, kinds, directions]

def mirrorStart : MirrorState := ⟨∅, ∅, fun _ => false⟩

theorem mirrorStart_fresh : MirrorFresh mirrorStart := ⟨rfl, rfl, fun _ => rfl⟩

def mirrorLookups : MirrorLookups := ⟨fun _ => false, fun _ => true, fun _ => true, fun _ => true, fun _ => true⟩

def mirrorPortEnv : MirrorPortEnv where
  portNodeOk := true
  portTreeOk := true
  add _ := ⟨true, .success, true, .success⟩
  callocOk _ := true
  insertOk _ := true
  remove _ := .success

def mirrorCreate : MirrorEvent :=
  .sessionCreate mirrorLookups [.type .local, .monitorPort ⟨.port, 9⟩]
    ⟨true, fun _ => .success, .success, 1, true, true⟩

theorem mirrorCreate_reach : Runs.Reach MirrorFresh
      (Runs.guarded (fun s event => MirrorEvent.ordered s event ∧ MirrorEvent.kept s event)
        (MirrorEvent.step mirrorSessionRank))
      ([mirrorCreate].foldl (MirrorEvent.step mirrorSessionRank) mirrorStart) :=
  Runs.Reach.run (.start mirrorStart_fresh) ⟨⟨rfl, trivial⟩, trivial⟩

theorem mirrorViews_agree_sample :
    MirrorViews ([mirrorCreate].foldl (MirrorEvent.step mirrorSessionRank) mirrorStart) ∧
      MirrorHandleExact ([mirrorCreate].foldl (MirrorEvent.step mirrorSessionRank) mirrorStart)
        (mirrorHandlePerPort ([mirrorCreate].foldl (MirrorEvent.step mirrorSessionRank) mirrorStart) (fun _ => true)
          mirrorSessionRank ⟨.port, 1⟩ .ingress [⟨.mirrorSession, 1⟩] mirrorPortEnv).1
        (mirrorHandlePerPort ([mirrorCreate].foldl (MirrorEvent.step mirrorSessionRank) mirrorStart) (fun _ => true)
          mirrorSessionRank ⟨.port, 1⟩ .ingress [⟨.mirrorSession, 1⟩] mirrorPortEnv).2
        ⟨.port, 1⟩ .ingress [⟨.mirrorSession, 1⟩] := by
  obtain ⟨views, exact⟩ := mirrorViews_agree mirrorSessionRank mirrorCreate_reach
  refine ⟨views,
    exact (fun _ => true) ⟨.port, 1⟩ .ingress [⟨.mirrorSession, 1⟩] mirrorPortEnv (fun _ => rfl) ?_⟩
  refine .inr (.inr (.inl ⟨fun a member => ?_, fun node member => absurd member List.not_mem_nil⟩))
  cases List.mem_singleton.mp (show a ∈ [(0, (⟨.mirrorSession, 1⟩ : ObjectId))] from member)
  exact ⟨⟨rfl, rfl, by decide, rfl, rfl, rfl⟩, rfl, rfl⟩

/-- A list with an unknown session after a good one fails with the good one added. -/
theorem mirrorViews_not_exact : ¬ ∀ (order : KeyRank MirrorSessionPerPort) s,
      Runs.Reach MirrorFresh (Runs.guarded MirrorEvent.ordered (MirrorEvent.step order)) s →
      ∀ isPortValid portId direction sessions env,
        (MirrorEvent.handlePerPort isPortValid portId direction sessions env).ordered s →
        MirrorHandleExact s (mirrorHandlePerPort s isPortValid order portId direction sessions env).1
          (mirrorHandlePerPort s isPortValid order portId direction sessions env).2 portId direction sessions := by
  intro all
  have reached := mirrorCreate_reach.mono (fun _ fresh => fresh)
    (fun s event t moved => (⟨moved.1.1, moved.2⟩ : Runs.guarded MirrorEvent.ordered _ s event t))
  have unchanged := (all mirrorSessionRank _ reached (fun _ => true) ⟨.port, 1⟩ .ingress
    [⟨.mirrorSession, 1⟩, ⟨.mirrorSession, 2⟩] mirrorPortEnv fun _ => rfl).2 (by decide)
  have added :=
    (unchanged ⟨⟨.mirrorSession, 1⟩, ⟨.port, 1⟩, .ingress⟩).mp (by unfold MirrorState.listed; decide)
  unfold MirrorState.listed at added
  revert added
  decide

end SaiCommon
