import SaiCommon.Lib.Runs
import SaiCommon.Mirroring.Port

namespace SaiCommon

variable {tree : List MirrorSessionPerPort} {link : MirrorLink} {index : Nat} {direction : MirrorDirection}
  {portId : ObjectId}

section Views
variable (s : MirrorState)

def MirrorState.sources (link : MirrorLink) : Prop :=
  ∃ session, s.mirrorSessionsTree.get link.sessionId = some session ∧
    ⟨link.mirrorPort, link.mirrorDirection⟩ ∈ session.sourcePortsTree

def MirrorState.listed (link : MirrorLink) : Prop :=
  ⟨link.sessionId, link.mirrorDirection⟩ ∈ s.portSessions link.mirrorPort

/-- The sessions, the ports and the NPU agree on who is mirrored where. -/
structure MirrorViews : Prop where
  sources : ∀ link, s.sources link ↔ s.listed link
  hardware : ∀ link, s.npuMirrors link = true ↔ s.listed link

end Views

variable {order : KeyRank MirrorSessionPerPort} {s : MirrorState}

variable (order) in
/-- The agreement together with what the walk over a port's tree rests on. -/
structure MirrorKept (s : MirrorState) : Prop where
  views : MirrorViews s
  sorted : ∀ portId, order.Sorted (s.portSessions portId)
  typed : ∀ sessionId session, s.mirrorSessionsTree.get sessionId = some session →
    sessionId.objType = .mirrorSession

theorem MirrorState.portSessions_putPortTree (portId other : ObjectId) (tree : List MirrorSessionPerPort) :
    (s.putPortTree portId tree).portSessions other = if other = portId then tree else s.portSessions other := by
  unfold portSessions putPortTree
  dsimp only
  rw [KeyTree.get_put]
  split
  · rfl
  · rfl

theorem MirrorState.sources_putSources {sessionId : ObjectId} {session : MirrorSession}
    {tree : Finset MirrorPortInfo} (link : MirrorLink) : (s.putSources sessionId session tree).sources link ↔
      if link.sessionId = sessionId then ⟨link.mirrorPort, link.mirrorDirection⟩ ∈ tree else s.sources link := by
  unfold sources putSources
  dsimp only
  rw [KeyTree.get_put]
  split
  · simp only [Option.some.injEq, exists_eq_left']
  · exact Iff.rfl

theorem MirrorLink.eq_iff {sessionId : ObjectId} : link = ⟨sessionId, portId, direction⟩ ↔
      link.sessionId = sessionId ∧ link.mirrorPort = portId ∧ link.mirrorDirection = direction := by
  obtain ⟨a, b, c⟩ := link
  rw [MirrorLink.mk.injEq]

section Link
variable {sessionId : ObjectId} {session : MirrorSession}

theorem MirrorKept.relink (kept : MirrorKept order s) (stored : s.mirrorSessionsTree.get sessionId = some session)
    (mirrored : Bool) {sources : Finset MirrorPortInfo}
    (sorted : order.Sorted tree)
    (sourceHere : (⟨portId, direction⟩ : MirrorPortInfo) ∈ sources ↔ mirrored = true)
    (sourceOther : ∀ info : MirrorPortInfo, info ≠ ⟨portId, direction⟩ →
      (info ∈ sources ↔ info ∈ session.sourcePortsTree))
    (treeHere : (⟨sessionId, direction⟩ : MirrorSessionPerPort) ∈ tree ↔ mirrored = true)
    (treeOther : ∀ node : MirrorSessionPerPort, node ≠ ⟨sessionId, direction⟩ →
      (node ∈ tree ↔ node ∈ s.portSessions portId)) :
    let t := ((s.npuPut ⟨sessionId, portId, direction⟩ mirrored).putSources sessionId session sources).putPortTree
      portId tree
    MirrorKept order t ∧
      (∀ link, t.listed link ↔
        if link = ⟨sessionId, portId, direction⟩ then mirrored = true else s.listed link) ∧
      ∀ k, t.mirrorSessionsTree.get k = none ↔ s.mirrorSessionsTree.get k = none := by
  intro t
  have listed : ∀ link, t.listed link ↔
      if link = ⟨sessionId, portId, direction⟩ then mirrored = true else s.listed link := by
    intro link
    unfold MirrorState.listed
    rw [MirrorState.portSessions_putPortTree]
    by_cases same : link = ⟨sessionId, portId, direction⟩
    · rw [if_pos same, same, if_pos rfl]
      exact treeHere
    rw [if_neg same]
    split
    · rename_i samePort
      have other :
        (⟨link.sessionId, link.mirrorDirection⟩ : MirrorSessionPerPort) ≠ ⟨sessionId, direction⟩ := by
        intro both
        obtain ⟨sameSession, sameDirection⟩ := MirrorSessionPerPort.mk.inj both
        exact same (MirrorLink.eq_iff.mpr ⟨sameSession, samePort, sameDirection⟩)
      rw [treeOther _ other, samePort]
    · exact Iff.rfl
  refine ⟨⟨⟨fun link => ?_, fun link => ?_⟩, fun other => ?_, fun k other found => ?_⟩, listed, fun k => ?_⟩
  · rw [listed]
    change ((s.npuPut _ mirrored).putSources sessionId session sources).sources link ↔ _
    rw [MirrorState.sources_putSources]
    by_cases same : link = ⟨sessionId, portId, direction⟩
    · rw [if_pos same, same, if_pos rfl]
      exact sourceHere
    rw [if_neg same, ← kept.views.sources link]
    split
    · rename_i sameSession
      have other : (⟨link.mirrorPort, link.mirrorDirection⟩ : MirrorPortInfo) ≠ ⟨portId, direction⟩ := by
        intro both
        obtain ⟨samePort, sameDirection⟩ := MirrorPortInfo.mk.inj both
        exact same (MirrorLink.eq_iff.mpr ⟨sameSession, samePort, sameDirection⟩)
      rw [sourceOther _ other]
      unfold MirrorState.sources
      rw [sameSession, stored]
      simp only [Option.some.injEq, exists_eq_left']
    · exact Iff.rfl
  · rw [listed]
    change Function.update s.npuMirrors _ mirrored link = true ↔ _
    by_cases same : link = ⟨sessionId, portId, direction⟩
    · rw [if_pos same, same, Function.update_self]
    · rw [if_neg same, Function.update_of_ne same]
      exact kept.views.hardware link
  · rw [MirrorState.portSessions_putPortTree]
    split
    · exact sorted
    · exact kept.sorted other
  · change (s.mirrorSessionsTree.put sessionId _).get k = some other at found
    rw [KeyTree.get_put] at found
    split at found
    · rename_i same
      rw [same]
      exact kept.typed sessionId session stored
    · exact kept.typed k other found
  · exact KeyTree.get_put_eq_none stored

variable (isPortValid : ObjectId → Bool)

/-- Everything that adding a port to a session asks for is there. -/
structure MirrorAddable (s : MirrorState) (portId : ObjectId) (env : MirrorAddEnv)
    (sessionId : ObjectId) : Prop where
  kind : sessionId.objType = .mirrorSession
  valid : isPortValid portId = true
  stored : s.mirrorSessionsTree.get sessionId ≠ none
  alloc : env.allocOk = true
  accepted : env.npu = .success
  inserted : env.insertOk = true

theorem MirrorState.npuPut_back (off : s.npuMirrors link = false) : (s.npuPut link true).npuPut link false = s := by
  unfold npuPut
  dsimp only
  rw [Function.update_idem, ← off, Function.update_eq_self]

theorem mirrorSessionPortAdd_cases (kept : MirrorKept order s)
    (unlisted : ¬ s.listed ⟨sessionId, portId, direction⟩) {env : MirrorAddEnv} (undo : env.npuUndo = .success) :
    MirrorAddable isPortValid s portId env sessionId ∧
        (∃ session, s.mirrorSessionsTree.get sessionId = some session ∧
          (⟨portId, direction⟩ : MirrorPortInfo) ∉ session.sourcePortsTree ∧
          mirrorSessionPortAdd s isPortValid sessionId portId direction env =
            ((s.npuPut ⟨sessionId, portId, direction⟩ true).putSources sessionId session
              (insert ⟨portId, direction⟩ session.sourcePortsTree), .success)) ∨
      ¬ MirrorAddable isPortValid s portId env sessionId ∧
        (mirrorSessionPortAdd s isPortValid sessionId portId direction env).2 ≠ .success ∧
        (mirrorSessionPortAdd s isPortValid sessionId portId direction env).1 = s := by
  have off : s.npuMirrors ⟨sessionId, portId, direction⟩ = false :=
    (Bool.not_eq_true _).mp fun on => unlisted ((kept.views.hardware _).mp on)
  unfold mirrorSessionPortAdd
  by_cases kind : sessionId.objType = .mirrorSession
  swap
  · rw [if_pos kind]
    exact .inr ⟨fun addable => kind addable.kind, fun same => (by cases same), rfl⟩
  by_cases valid : isPortValid portId = false
  · rw [if_neg (not_not.mpr kind), if_pos valid]
    exact .inr ⟨fun addable => Bool.false_ne_true (valid.symm.trans addable.valid), fun same =>
      (by cases same), rfl⟩
  rw [if_neg (not_not.mpr kind), if_neg valid]
  cases stored : s.mirrorSessionsTree.get sessionId with
  | none => exact .inr ⟨fun addable => addable.stored stored, fun same => (by cases same), rfl⟩
  | some session =>
    have absent : (⟨portId, direction⟩ : MirrorPortInfo) ∉ session.sourcePortsTree :=
      fun member => unlisted ((kept.views.sources _).mp ⟨session, stored, member⟩)
    dsimp only
    rw [if_neg absent]
    by_cases alloc : env.allocOk = false
    · rw [if_pos alloc]
      exact .inr ⟨fun addable => Bool.false_ne_true (alloc.symm.trans addable.alloc), fun same =>
        (by cases same), rfl⟩
    rw [if_neg alloc]
    by_cases accepted : env.npu = .success
    · rw [accepted]
      dsimp only
      by_cases inserted : env.insertOk = false
      · rw [if_pos inserted]
        refine .inr ⟨fun addable => Bool.false_ne_true (inserted.symm.trans addable.inserted),
          fun same => (by cases same), ?_⟩
        unfold MirrorState.npuPortRemove
        rw [if_pos undo]
        exact MirrorState.npuPut_back off
      · rw [if_neg inserted]
        refine .inl ⟨⟨kind, (Bool.not_eq_false _).mp valid, ?_, (Bool.not_eq_false _).mp alloc, accepted,
          (Bool.not_eq_false _).mp inserted⟩, session, rfl, absent, rfl⟩
        rw [stored]
        exact Option.some_ne_none session
    · split
      · contradiction
      · rename_i error
        exact .inr ⟨fun addable => accepted addable.accepted, error, rfl⟩

/-- A listed session gives the port back exactly when the port is valid and the
NPU agrees. -/
theorem mirrorSessionPortRemove_cases (kept : MirrorKept order s)
    (listed : s.listed ⟨sessionId, portId, direction⟩) (npu : SaiStatus) :
    (isPortValid portId = true ∧ npu = .success) ∧
    (∃ session, s.mirrorSessionsTree.get sessionId = some session ∧
          mirrorSessionPortRemove s isPortValid sessionId portId direction npu =
            ((s.npuPut ⟨sessionId, portId, direction⟩ false).putSources sessionId session
              (session.sourcePortsTree.erase ⟨portId, direction⟩), .success)) ∨
      ¬ (isPortValid portId = true ∧ npu = .success) ∧
        (mirrorSessionPortRemove s isPortValid sessionId portId direction npu).2 ≠ .success ∧
        (mirrorSessionPortRemove s isPortValid sessionId portId direction npu).1 = s := by
  obtain ⟨session, stored, member⟩ := (kept.views.sources _).mpr listed
  dsimp only at stored member
  unfold mirrorSessionPortRemove
  rw [if_neg (not_not.mpr (kept.typed _ _ stored))]
  by_cases valid : isPortValid portId = false
  · rw [if_pos valid]
    refine .inr ⟨fun both => ?_, fun same => (by cases same), rfl⟩
    rw [valid] at both
    cases both.1
  rw [if_neg valid, stored]
  dsimp only
  rw [if_neg (not_not.mpr member)]
  by_cases accepted : npu = .success
  · rw [accepted]
    exact .inl ⟨⟨(Bool.not_eq_false _).mp valid, rfl⟩, session, rfl, rfl⟩
  split
  · contradiction
  · rename_i error
    exact .inr ⟨fun both => accepted both.2, error, rfl⟩

variable {isPortValid} in
theorem MirrorState.added_removed (stored : s.mirrorSessionsTree.get sessionId = some session)
    (kind : sessionId.objType = .mirrorSession) (valid : isPortValid portId = true)
    (absent : (⟨portId, direction⟩ : MirrorPortInfo) ∉ session.sourcePortsTree)
    (off : s.npuMirrors ⟨sessionId, portId, direction⟩ = false) :
    (mirrorSessionPortRemove ((s.npuPut ⟨sessionId, portId, direction⟩ true).putSources sessionId session
      (insert ⟨portId, direction⟩ session.sourcePortsTree)) isPortValid sessionId portId direction .success).1 =
      s := by
  have added : ((s.npuPut ⟨sessionId, portId, direction⟩ true).putSources sessionId session
      (insert ⟨portId, direction⟩ session.sourcePortsTree)).mirrorSessionsTree.get sessionId =
        some { session with sourcePortsTree := insert ⟨portId, direction⟩ session.sourcePortsTree } :=
    KeyTree.get_put_self _ _ _
  unfold mirrorSessionPortRemove
  rw [if_neg (not_not.mpr kind), if_neg fun no => Bool.false_ne_true (no.symm.trans valid), added]
  dsimp only
  rw [if_neg (not_not.mpr (Finset.mem_insert_self _ _)), Finset.erase_insert absent]
  have back := MirrorState.npuPut_back off
  unfold npuPut at back
  unfold npuPut putSources
  dsimp only at back ⊢
  rw [KeyTree.put_put, KeyTree.put_same stored]
  exact back

end Link

section Adds
variable {isPortValid : ObjectId → Bool} {env : MirrorPortEnv}

structure MirrorAccepted (s : MirrorState) (isPortValid : ObjectId → Bool) (portId : ObjectId) (env : MirrorPortEnv)
    (index : Nat) (sessionId : ObjectId) : Prop where
  addable : MirrorAddable isPortValid s portId (env.add index) sessionId
  alloc : env.callocOk index = true
  inserted : env.insertOk index = true

theorem mirrorAddable_putPortTree {addEnv : MirrorAddEnv} {sessionId : ObjectId} :
    MirrorAddable isPortValid (s.putPortTree portId tree) portId addEnv sessionId ↔
      MirrorAddable isPortValid s portId addEnv sessionId :=
  ⟨fun a => ⟨a.kind, a.valid, a.stored, a.alloc, a.accepted, a.inserted⟩,
    fun a => ⟨a.kind, a.valid, a.stored, a.alloc, a.accepted, a.inserted⟩⟩

/-- The addition fails, and not for want of memory for the port's own node. -/
def MirrorRefused (s : MirrorState) (isPortValid : ObjectId → Bool) (portId : ObjectId) (env : MirrorPortEnv)
    (index : Nat) (sessionId : ObjectId) : Prop :=
  MirrorAddable isPortValid s portId (env.add index) sessionId →
    env.callocOk index = true ∧ env.insertOk index = false

theorem mirrorPortAddSession_listed {sessionId : ObjectId} (listed : s.listed ⟨sessionId, portId, direction⟩) :
    mirrorPortAddSession s isPortValid order portId direction env index sessionId = (s, .success) :=
  if_pos listed

theorem mirrorPortAddSession_unlisted {sessionId : ObjectId}
    (unlisted : ¬ s.listed ⟨sessionId, portId, direction⟩) :
    mirrorPortAddSession s isPortValid order portId direction env index sessionId =
      match mirrorSessionPortAdd s isPortValid sessionId portId direction (env.add index) with
      | (s, .success) =>
        if env.callocOk index = false then (s, .noMemory)
        else if env.insertOk index = false then
          ((mirrorSessionPortRemove s isPortValid sessionId portId direction (env.add index).npuUndo).1, .failure)
        else (s.putPortTree portId (order.insert ⟨sessionId, direction⟩ (s.portSessions portId)), .success)
      | (s, error) => (s, error) :=
  if_neg unlisted

theorem mirrorPortAddSession_accepted (kept : MirrorKept order s) {sessionId : ObjectId}
    (unlisted : ¬ s.listed ⟨sessionId, portId, direction⟩) (undo : (env.add index).npuUndo = .success)
    (accepted : MirrorAccepted s isPortValid portId env index sessionId) :
    ∃ t, mirrorPortAddSession s isPortValid order portId direction env index sessionId = (t, .success) ∧
      MirrorKept order t ∧
      (∀ link, t.listed link ↔ link = ⟨sessionId, portId, direction⟩ ∨ s.listed link) ∧
      ∀ k, t.mirrorSessionsTree.get k = none ↔ s.mirrorSessionsTree.get k = none := by
  rcases mirrorSessionPortAdd_cases isPortValid kept unlisted undo with
    ⟨_, session, stored, absent, added⟩ | ⟨notAddable, _⟩
  swap
  · exact absurd accepted.addable notAddable
  have source : ∀ info : MirrorPortInfo, info ≠ ⟨portId, direction⟩ →
      (info ∈ insert (⟨portId, direction⟩ : MirrorPortInfo) session.sourcePortsTree ↔
        info ∈ session.sourcePortsTree) :=
    fun info other => by rw [Finset.mem_insert, or_iff_right other]
  have node : ∀ node : MirrorSessionPerPort, node ≠ ⟨sessionId, direction⟩ →
      (node ∈ order.insert ⟨sessionId, direction⟩ (s.portSessions portId) ↔ node ∈ s.portSessions portId) :=
    fun node other => by rw [order.mem_insert, or_iff_right other]
  obtain ⟨kept', listed, present⟩ := kept.relink stored true
    (KeyRank.Sorted.insert order (kept.sorted portId) unlisted) (iff_of_true (Finset.mem_insert_self _ _) rfl) source
    (iff_of_true (order.mem_insert.mpr (.inl rfl)) rfl) node
  refine ⟨_, ?_, kept', fun link => ?_, present⟩
  · rw [mirrorPortAddSession_unlisted unlisted, added]
    dsimp only
    rw [if_neg fun no => Bool.false_ne_true (no.symm.trans accepted.alloc),
      if_neg fun no => Bool.false_ne_true (no.symm.trans accepted.inserted)]
    rfl
  · rw [listed]
    split
    · rename_i same
      exact iff_of_true rfl (.inl same)
    · rename_i other
      exact (or_iff_right other).symm

theorem mirrorPortAddSession_refused (kept : MirrorKept order s) {sessionId : ObjectId}
    (unlisted : ¬ s.listed ⟨sessionId, portId, direction⟩) (undo : (env.add index).npuUndo = .success)
    (refused : MirrorRefused s isPortValid portId env index sessionId) :
    (mirrorPortAddSession s isPortValid order portId direction env index sessionId).2 ≠ .success ∧
      (mirrorPortAddSession s isPortValid order portId direction env index sessionId).1 = s := by
  rw [mirrorPortAddSession_unlisted unlisted]
  rcases mirrorSessionPortAdd_cases isPortValid kept unlisted undo with
    ⟨addable, session, stored, absent, added⟩ | ⟨_, failed, same⟩
  · have off : s.npuMirrors ⟨sessionId, portId, direction⟩ = false :=
      (Bool.not_eq_true _).mp fun on => unlisted ((kept.views.hardware _).mp on)
    obtain ⟨alloc, notInserted⟩ := refused addable
    rw [added]
    dsimp only
    rw [if_neg fun no => Bool.false_ne_true (no.symm.trans alloc), if_pos notInserted, undo]
    exact ⟨fun success => (by cases success),
      MirrorState.added_removed stored addable.kind addable.valid absent off⟩
  · split
    · rename_i result
      rw [result] at failed
      exact absurd rfl failed
    · rename_i t error _ result
      rw [result] at failed same
      exact ⟨failed, same⟩

theorem mirrorPortAddLoop_listed (sessions : List ObjectId) : ∀ index,
    (∀ sessionId ∈ sessions, s.listed ⟨sessionId, portId, direction⟩) →
    mirrorPortAddLoop isPortValid order portId direction env s index sessions = (s, .success) := by
  induction sessions with
  | nil => exact fun _ _ => rfl
  | cons sessionId rest ih =>
    intro index listed
    unfold mirrorPortAddLoop
    rw [mirrorPortAddSession_listed (listed sessionId List.mem_cons_self)]
    exact ih (index + 1) fun k later => listed k (List.mem_cons_of_mem _ later)

/-- The sessions of a list that a port does not know yet, with their places. -/
def mirrorAdditions (known : List ObjectId) (index : Nat) : List ObjectId → List (Nat × ObjectId)
  | [] => []
  | sessionId :: rest =>
    if sessionId ∈ known then mirrorAdditions known (index + 1) rest
    else (index, sessionId) :: mirrorAdditions (sessionId :: known) (index + 1) rest

variable (undo : ∀ index, (env.add index).npuUndo = .success)
include undo

theorem mirrorPortAddLoop_accepted (sessions : List ObjectId) : ∀ known index s, MirrorKept order s →
    (∀ sessionId, sessionId ∈ known ↔ s.listed ⟨sessionId, portId, direction⟩) →
    (∀ a ∈ mirrorAdditions known index sessions, MirrorAccepted s isPortValid portId env a.1 a.2) →
    ∃ t, mirrorPortAddLoop isPortValid order portId direction env s index sessions = (t, .success) ∧
      MirrorKept order t ∧ (∀ link, t.listed link ↔
        link.mirrorPort = portId ∧ link.mirrorDirection = direction ∧ link.sessionId ∈ sessions ∨
        s.listed link) := by
  induction sessions with
  | nil =>
    intro known index s kept _ _
    refine ⟨s, rfl, kept, fun link => ?_⟩
    simp only [List.not_mem_nil, and_false, false_or]
  | cons sessionId rest ih =>
    intro known index s kept knows accepted
    unfold mirrorAdditions at accepted
    unfold mirrorPortAddLoop
    by_cases member : sessionId ∈ known
    · rw [if_pos member] at accepted
      have listed := (knows sessionId).mp member
      rw [mirrorPortAddSession_listed listed]
      obtain ⟨t, result, kept', listed'⟩ := ih known (index + 1) s kept knows accepted
      refine ⟨t, result, kept', fun link => ?_⟩
      rw [listed' link, List.mem_cons]
      constructor
      · rintro (⟨port, dir, inRest⟩ | before)
        · exact .inl ⟨port, dir, .inr inRest⟩
        · exact .inr before
      · rintro (⟨port, dir, same | inRest⟩ | before)
        · refine .inr ?_
          rw [MirrorLink.eq_iff.mpr ⟨same, port, dir⟩]
          exact listed
        · exact .inl ⟨port, dir, inRest⟩
        · exact .inr before
    · rw [if_neg member] at accepted
      have unlisted : ¬ s.listed ⟨sessionId, portId, direction⟩ := fun listed =>
        member ((knows sessionId).mpr listed)
      obtain ⟨t, added, kept', listed', present⟩ := mirrorPortAddSession_accepted kept unlisted (undo index)
        (accepted (index, sessionId) List.mem_cons_self)
      rw [added]
      have knows' : ∀ k, k ∈ sessionId :: known ↔ t.listed ⟨k, portId, direction⟩ := by
        intro k
        rw [listed', List.mem_cons, knows k, MirrorLink.eq_iff]
        simp only [and_true]
      have accepted' : ∀ a ∈ mirrorAdditions (sessionId :: known) (index + 1) rest,
          MirrorAccepted t isPortValid portId env a.1 a.2 := by
        intro a later
        obtain ⟨addable, alloc, inserted⟩ := accepted a (List.mem_cons_of_mem _ later)
        refine ⟨⟨addable.kind, addable.valid, fun none => ?_, addable.alloc, addable.accepted, addable.inserted⟩,
          alloc, inserted⟩
        exact addable.stored ((present a.2).mp none)
      obtain ⟨u, result, kept'', listed''⟩ := ih _ (index + 1) t kept' knows' accepted'
      refine ⟨u, result, kept'', fun link => ?_⟩
      rw [listed'' link, listed' link, List.mem_cons, MirrorLink.eq_iff]
      constructor
      · rintro (⟨port, dir, inRest⟩ | ⟨same, port, dir⟩ | before)
        · exact .inl ⟨port, dir, .inr inRest⟩
        · exact .inl ⟨port, dir, .inl same⟩
        · exact .inr before
      · rintro (⟨port, dir, same | inRest⟩ | before)
        · exact .inr (.inl ⟨same, port, dir⟩)
        · exact .inl ⟨port, dir, inRest⟩
        · exact .inr (.inr before)

theorem mirrorPortAddLoop_refused (kept : MirrorKept order s) {known : List ObjectId}
    (knows : ∀ sessionId, sessionId ∈ known ↔ s.listed ⟨sessionId, portId, direction⟩)
    {a : Nat × ObjectId} {later : List (Nat × ObjectId)} (refused : MirrorRefused s isPortValid portId env a.1 a.2)
    (sessions : List ObjectId) : ∀ index, mirrorAdditions known index sessions = a :: later →
    (mirrorPortAddLoop isPortValid order portId direction env s index sessions).2 ≠ .success ∧
      (mirrorPortAddLoop isPortValid order portId direction env s index sessions).1 = s := by
  induction sessions with
  | nil =>
    intro index first
    cases first
  | cons sessionId rest ih =>
    intro index first
    unfold mirrorAdditions at first
    unfold mirrorPortAddLoop
    by_cases member : sessionId ∈ known
    · rw [if_pos member] at first
      rw [mirrorPortAddSession_listed ((knows sessionId).mp member)]
      exact ih (index + 1) first
    rw [if_neg member] at first
    obtain ⟨rfl, _⟩ := List.cons.inj first
    have unlisted : ¬ s.listed ⟨sessionId, portId, direction⟩ := fun listed =>
      member ((knows sessionId).mpr listed)
    obtain ⟨failed, same⟩ := mirrorPortAddSession_refused kept unlisted (undo index) refused
    split
    · rename_i t result
      rw [result] at failed
      exact absurd rfl failed
    · rename_i t error _ result
      rw [result] at failed same
      exact ⟨failed, same⟩

end Adds
end SaiCommon
