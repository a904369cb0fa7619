import SaiCommon.Lib.Runs
import SaiCommon.Samplepacket.Session

namespace SaiCommon

open KeyTree

variable {tree : KeyTree SamplePortKey SamplePortNode} {h : SampleHistory}

inductive SampleEvent
  | sessionCreate (platform : SamplePlatform) (attrs : List SampleAttr) (env : SampleCreateEnv)
  | sessionRemove (sessionId : ObjectId) (npu : SaiStatus)
  | portAdd (sessionId portId : ObjectId) (direction : SampleDirection) (mode : SampleMode) (env : SampleAddEnv)
  | portRemove (sessionId portId : ObjectId) (direction : SampleDirection) (mode : SampleMode) (npu : SaiStatus)

def SampleEvent.run (s : SampleState) : SampleEvent → SampleState × SaiStatus
  | .sessionCreate platform attrs env => samplepacketSessionCreate s platform attrs env
  | .sessionRemove sessionId npu => samplepacketSessionRemove s sessionId npu
  | .portAdd sessionId portId direction mode env => samplepacketSessionPortAdd s sessionId portId direction mode env
  | .portRemove sessionId portId direction mode npu =>
    samplepacketSessionPortRemove s sessionId portId direction mode npu

/-- What the callers have attached: whether the port is sampled by itself, and
how often ACL rules sample on it. -/
structure SampleUse where
  port : Bool
  flow : Nat
deriving DecidableEq

structure SampleHistory where
  state : SampleState
  uses : ObjectId → SamplePortKey → SampleUse

def SampleUse.add (use : SampleUse) : SampleMode → SampleUse
  | .portBased => { use with port := true }
  | .flowBased => { use with flow := use.flow + 1 }

def SampleUse.remove (use : SampleUse) : SampleMode → SampleUse
  | .portBased => { use with port := false }
  | .flowBased => { use with flow := use.flow - 1 }

def SampleUse.holds (use : SampleUse) : SampleMode → Prop
  | .portBased => use.port = true
  | .flowBased => 0 < use.flow

def SampleHistory.use (h : SampleHistory) (sessionId : ObjectId) (key : SamplePortKey)
    (g : SampleUse → SampleUse) : ObjectId → SamplePortKey → SampleUse :=
  Function.update h.uses sessionId (Function.update (h.uses sessionId) key (g (h.uses sessionId key)))

/-- A flow-based removal that finds other users answers OBJECT_IN_USE and counts
as done. -/
def SampleMode.removed (mode : SampleMode) (status : SaiStatus) : Prop :=
  status = .success ∨ mode = .flowBased ∧ status = .objectInUse

instance (mode : SampleMode) (status : SaiStatus) : Decidable (mode.removed status) :=
  inferInstanceAs (Decidable (_ ∨ _))

def SampleEvent.step (h : SampleHistory) (event : SampleEvent) : SampleHistory where
  state := (event.run h.state).1
  uses :=
    match event with
    | .portAdd sessionId portId direction mode _ =>
      if (event.run h.state).2 = .success then h.use sessionId ⟨portId, direction⟩ fun use =>
        use.add mode else h.uses
    | .portRemove sessionId portId direction mode _ =>
      if mode.removed (event.run h.state).2 then h.use sessionId ⟨portId, direction⟩ fun use => use.remove mode
      else h.uses
    | _ => h.uses

/-- A caller removes a mode only after having added it. -/
def SampleEvent.ordered (h : SampleHistory) : SampleEvent → Prop
  | .portRemove sessionId portId direction mode _ => (h.uses sessionId ⟨portId, direction⟩).holds mode
  | _ => True

/-- The node of a port says how it is used, and there is none for an unused one. -/
def SampleUse.Shown (use : SampleUse) (node : Option SamplePortNode) : Prop :=
  node = if use.port = true ∨ 0 < use.flow then some ⟨use.port, decide (0 < use.flow), use.flow, false⟩ else none

structure SampledExact (h : SampleHistory) : Prop where
  shown : ∀ sessionId session, h.state.sessionTree.get sessionId = some session →
    ∀ key, (h.uses sessionId key).Shown (session.portTree.get key)
  absent : ∀ sessionId, h.state.sessionTree.get sessionId = none → ∀ key, h.uses sessionId key = ⟨false, 0⟩

/-- An addition that the NPU refuses finds the port unused in the other mode, and
a removal that the NPU accepts leaves no other use; the last flow-based removal is
accepted. -/
def SampleEvent.kept (h : SampleHistory) : SampleEvent → Prop
  | .portAdd sessionId portId direction mode env =>
    match mode with
    | .portBased => env.npu ≠ .success → (h.uses sessionId ⟨portId, direction⟩).port = false →
      (h.uses sessionId ⟨portId, direction⟩).flow = 0
    | .flowBased => env.npu ≠ .success → (h.uses sessionId ⟨portId, direction⟩).flow = 0 →
      (h.uses sessionId ⟨portId, direction⟩).port = false
  | .portRemove sessionId portId direction mode npu =>
    match mode with
    | .portBased => npu = .success → (h.uses sessionId ⟨portId, direction⟩).flow = 0
    | .flowBased => (h.uses sessionId ⟨portId, direction⟩).flow = 1 →
      npu = .success ∧ (h.uses sessionId ⟨portId, direction⟩).port = false
  | _ => True

theorem SampleUse.Shown.none_iff {use : SampleUse} {node : Option SamplePortNode} (shown : use.Shown node) :
    node = none ↔ use = ⟨false, 0⟩ := by
  unfold SampleUse.Shown at shown
  split at shown
  · rename_i used
    rw [shown]
    refine iff_of_false (Option.some_ne_none _) ?_
    rintro rfl
    rcases used with port | flow
    · cases port
    · exact absurd flow (lt_irrefl 0)
  · rename_i unused
    refine iff_of_true shown ?_
    obtain ⟨port, flow⟩ := use
    obtain ⟨noPort, noFlow⟩ := not_or.mp unused
    cases (Bool.not_eq_true _).mp noPort
    cases Nat.eq_zero_of_not_pos noFlow
    rfl

theorem SampleUse.Shown.node {use : SampleUse} {node : SamplePortNode} (shown : use.Shown (some node)) :
    node = ⟨use.port, decide (0 < use.flow), use.flow, false⟩ := by
  unfold SampleUse.Shown at shown
  split at shown
  · exact Option.some.inj shown
  · cases shown

theorem SampleUse.shown_of_used {use : SampleUse} {node : SamplePortNode} (used : use.port = true ∨ 0 < use.flow)
    (isNode : node = ⟨use.port, decide (0 < use.flow), use.flow, false⟩) : use.Shown (some node) := by
  unfold SampleUse.Shown
  rw [if_pos used, isNode]

theorem SampleUse.shown_none : SampleUse.Shown ⟨false, 0⟩ none :=
  (if_neg (by decide)).symm

theorem SampleHistory.use_apply (h : SampleHistory) (sessionId : ObjectId) (key : SamplePortKey)
    (g : SampleUse → SampleUse) (k : ObjectId) (k' : SamplePortKey) : h.use sessionId key g k k' =
      if k = sessionId ∧ k' = key then g (h.uses sessionId key) else h.uses k k' := by
  unfold SampleHistory.use
  by_cases same : k = sessionId
  · rw [same, Function.update_self]
    by_cases sameKey : k' = key
    · rw [sameKey, Function.update_self, if_pos ⟨rfl, rfl⟩]
    · rw [Function.update_of_ne sameKey, if_neg fun both => sameKey both.2]
  · rw [Function.update_of_ne same, if_neg fun both => same both.1]

section Step
variable {sessionId : ObjectId} {session : SampleSession} {key : SamplePortKey}

theorem SampledExact.put (exact : SampledExact h) (stored : h.state.sessionTree.get sessionId = some session)
    {g : SampleUse → SampleUse}
    (others : ∀ other, other ≠ key → tree.get other = session.portTree.get other)
    (here : (g (h.uses sessionId key)).Shown (tree.get key)) :
    SampledExact ⟨h.state.putPorts sessionId session tree, h.use sessionId key g⟩ := by
  refine ⟨fun k other found k' => ?_, fun k missing k' => ?_⟩
  · dsimp only [SampleState.putPorts] at found
    dsimp only
    rw [SampleHistory.use_apply]
    rw [get_put] at found
    by_cases same : k = sessionId
    · rw [if_pos same] at found
      cases found
      rw [same]
      by_cases sameKey : k' = key
      · rw [sameKey, if_pos ⟨rfl, rfl⟩]
        exact here
      rw [if_neg fun both => sameKey both.2]
      dsimp only
      rw [others k' sameKey]
      exact exact.shown sessionId session stored k'
    · rw [if_neg same] at found
      rw [if_neg fun both => same both.1]
      exact exact.shown k other found k'
  · dsimp only [SampleState.putPorts] at missing
    dsimp only
    rw [SampleHistory.use_apply]
    rw [get_put] at missing
    by_cases same : k = sessionId
    · rw [if_pos same] at missing
      cases missing
    · rw [if_neg same] at missing
      rw [if_neg fun both => same both.1]
      exact exact.absent k missing k'

/-- What a port's node and its use become when the NPU is asked to add it. An
error leaves the tree as it was. -/
theorem samplepacketPortTreeAdd_shown {node : SamplePortNode}
    {use : SampleUse} {mode : SampleMode} {npu : SaiStatus} (shown : use.Shown (tree.get key))
    (isNode : node = ⟨use.port, decide (0 < use.flow), use.flow, false⟩) (fresh : ¬ use.holds mode)
    (kept : npu ≠ .success → use = ⟨false, 0⟩) :
    (samplepacketPortTreeAdd tree key node mode npu).2 = .success ∧
        (use.add mode).Shown ((samplepacketPortTreeAdd tree key node mode npu).1.get key) ∧
        (∀ other, other ≠ key → (samplepacketPortTreeAdd tree key node mode npu).1.get other = tree.get other) ∨
      (samplepacketPortTreeAdd tree key node mode npu).2 ≠ .success ∧
        (samplepacketPortTreeAdd tree key node mode npu).1 = tree := by
  by_cases accepted : npu = .success
  · rw [accepted]
    cases mode with
    | portBased =>
      refine .inl ⟨rfl, ?_, fun other away => get_put_ne away⟩
      change SampleUse.Shown _ ((tree.put key _).get key)
      rw [get_put_self, isNode]
      exact SampleUse.shown_of_used (.inl rfl) rfl
    | flowBased =>
      refine .inl ⟨rfl, ?_, fun other away => get_put_ne away⟩
      change SampleUse.Shown _ ((tree.put key _).get key)
      rw [get_put_self, isNode]
      have positive : 0 < use.flow + 1 := Nat.succ_pos _
      refine SampleUse.shown_of_used (.inr positive) ?_
      simp only [SampleUse.add, positive, decide_true, Int.natCast_add]
      rfl
  · have unused := kept accepted
    have missing : tree.get key = none := shown.none_iff.mpr unused
    have untouched : tree.del key = tree := by
      refine KeyTree.ext fun k => ?_
      rw [get_del]
      split
      · rename_i same
        rw [same, missing]
      · rfl
    have zeroed : node = .zero := by
      rw [isNode, unused]
      rfl
    refine .inr ?_
    rw [zeroed]
    cases mode with
    | portBased =>
      unfold samplepacketPortTreeAdd
      split
      · exact absurd rfl accepted
      · exact ⟨accepted, untouched⟩
      · contradiction
      · contradiction
    | flowBased =>
      unfold samplepacketPortTreeAdd
      split
      · contradiction
      · contradiction
      · exact absurd rfl accepted
      · exact ⟨accepted, untouched⟩

theorem samplepacketSessionPortRemove_cases (exact : SampledExact h) (portId : ObjectId) (direction : SampleDirection)
    (mode : SampleMode) (npu : SaiStatus) (held : (h.uses sessionId ⟨portId, direction⟩).holds mode)
    (kept : SampleEvent.kept h (.portRemove sessionId portId direction mode npu)) :
    mode.removed (samplepacketSessionPortRemove h.state sessionId portId direction mode npu).2 ∧
        SampledExact ⟨(samplepacketSessionPortRemove h.state sessionId portId direction mode npu).1,
          h.use sessionId ⟨portId, direction⟩ fun use => use.remove mode⟩ ∨
      ¬ mode.removed (samplepacketSessionPortRemove h.state sessionId portId direction mode npu).2 ∧
        (samplepacketSessionPortRemove h.state sessionId portId direction mode npu).2 ≠ .success ∧
        (samplepacketSessionPortRemove h.state sessionId portId direction mode npu).1 = h.state := by
  have refused : ∀ status : SaiStatus, status ≠ .success → status ≠ .objectInUse →
    ¬ mode.removed status := by
    intro status error notInUse removed
    rcases removed with success | ⟨_, inUse⟩
    · exact error success
    · exact notInUse inUse
  unfold samplepacketSessionPortRemove
  split
  · exact .inr ⟨refused _ SaiStatus.noConfusion SaiStatus.noConfusion, SaiStatus.noConfusion, rfl⟩
  split
  · exact .inr ⟨refused _ SaiStatus.noConfusion SaiStatus.noConfusion, SaiStatus.noConfusion, rfl⟩
  rename_i session stored
  dsimp only
  have shown := exact.shown sessionId session stored ⟨portId, direction⟩
  split
  · exact .inr ⟨refused _ SaiStatus.noConfusion SaiStatus.noConfusion, SaiStatus.noConfusion, rfl⟩
  rename_i node found
  rw [found] at shown
  have isNode := shown.node
  cases mode with
  | portBased =>
    dsimp only
    split
    · have noFlow : (h.uses sessionId ⟨portId, direction⟩).flow = 0 := kept rfl
      refine .inl ⟨.inl rfl, exact.put stored (fun other away => ?_) ?_⟩
      · unfold samplepacketPortTreeRelease
        split
        · exact get_del_ne away
        · exact get_put_ne away
      · unfold samplepacketPortTreeRelease
        have zero : node.refCount = 0 := by
          rw [isNode]
          change ((h.uses sessionId ⟨portId, direction⟩).flow : Int) = 0
          omega
        rw [if_pos zero, get_del_self]
        unfold SampleUse.remove
        dsimp only
        rw [noFlow]
        exact SampleUse.shown_none
    · rename_i error
      refine .inr ⟨?_, error, rfl⟩
      rintro (success | ⟨isMode, _⟩)
      · exact error success
      · cases isMode
  | flowBased =>
    dsimp only
    have positive : 0 < (h.uses sessionId ⟨portId, direction⟩).flow := held
    have count : node.refCount = (h.uses sessionId ⟨portId, direction⟩).flow := by rw [isNode]
    split
    · rename_i last
      have one : (h.uses sessionId ⟨portId, direction⟩).flow = 1 := by omega
      obtain ⟨accepted, noPort⟩ := kept one
      rw [accepted]
      refine .inl ⟨.inl rfl, exact.put stored (fun other away => ?_) ?_⟩
      · unfold samplepacketPortTreeRelease
        rw [if_pos last]
        exact get_del_ne away
      · unfold samplepacketPortTreeRelease
        rw [if_pos last, get_del_self]
        unfold SampleUse.remove
        dsimp only
        rw [one, noPort]
        exact SampleUse.shown_none
    · rename_i others
      have more : 0 < (h.uses sessionId ⟨portId, direction⟩).flow - 1 := by omega
      refine .inl ⟨.inr ⟨rfl, rfl⟩, exact.put stored (fun other away => get_put_ne away) ?_⟩
      rw [get_put_self]
      refine SampleUse.shown_of_used (.inr more) ?_
      have lowered : node.refCount - 1 = (((h.uses sessionId ⟨portId, direction⟩).flow - 1 : Nat) : Int) := by omega
      rw [lowered, isNode]
      unfold SampleUse.remove
      dsimp only
      rw [decide_eq_true positive, decide_eq_true more]

theorem samplepacketSessionPortAdd_cases (exact : SampledExact h) (portId : ObjectId) (direction : SampleDirection)
    (mode : SampleMode) (env : SampleAddEnv)
    (kept : SampleEvent.kept h (.portAdd sessionId portId direction mode env)) :
    (samplepacketSessionPortAdd h.state sessionId portId direction mode env).2 = .success ∧
        SampledExact ⟨(samplepacketSessionPortAdd h.state sessionId portId direction mode env).1,
          h.use sessionId ⟨portId, direction⟩ fun use => use.add mode⟩ ∨
      (samplepacketSessionPortAdd h.state sessionId portId direction mode env).2 ≠ .success ∧
        (samplepacketSessionPortAdd h.state sessionId portId direction mode env).1 = h.state := by
  unfold samplepacketSessionPortAdd
  split
  · exact .inr ⟨SaiStatus.noConfusion, rfl⟩
  split
  · exact .inr ⟨SaiStatus.noConfusion, rfl⟩
  rename_i session stored
  dsimp only
  have shown := exact.shown sessionId session stored ⟨portId, direction⟩
  have same : h.state.putPorts sessionId session session.portTree = h.state := by
    unfold SampleState.putPorts
    rw [put_same stored]
  have go : ∀ node, node = ⟨(h.uses sessionId ⟨portId, direction⟩).port,
      decide (0 < (h.uses sessionId ⟨portId, direction⟩).flow),
        (h.uses sessionId ⟨portId, direction⟩).flow, false⟩ →
      ¬ (h.uses sessionId ⟨portId, direction⟩).holds mode →
      (samplepacketPortTreeAdd session.portTree ⟨portId, direction⟩ node mode env.npu).2 = .success ∧
        SampledExact ⟨h.state.putPorts sessionId session
          (samplepacketPortTreeAdd session.portTree ⟨portId, direction⟩ node mode env.npu).1,
          h.use sessionId ⟨portId, direction⟩ fun use => use.add mode⟩ ∨
      (samplepacketPortTreeAdd session.portTree ⟨portId, direction⟩ node mode env.npu).2 ≠ .success ∧
        h.state.putPorts sessionId session
          (samplepacketPortTreeAdd session.portTree ⟨portId, direction⟩ node mode env.npu).1 = h.state := by
    intro node isNode fresh
    have unused : env.npu ≠ .success → h.uses sessionId ⟨portId, direction⟩ = ⟨false, 0⟩ := by
      intro refused
      cases use : h.uses sessionId ⟨portId, direction⟩ with
      | mk port flow =>
        dsimp only [SampleEvent.kept] at kept
        rw [use] at kept fresh
        cases mode with
        | portBased =>
          have noPort : port = false := (Bool.not_eq_true _).mp fresh
          have noFlow : flow = 0 := kept refused noPort
          rw [noPort, noFlow]
        | flowBased =>
          have noFlow : flow = 0 := Nat.eq_zero_of_not_pos fresh
          have noPort : port = false := kept refused noFlow
          rw [noPort, noFlow]
    rcases samplepacketPortTreeAdd_shown shown isNode fresh unused with
      ⟨success, here, others⟩ | ⟨error, untouched⟩
    · exact .inl ⟨success, exact.put stored others here⟩
    · refine .inr ⟨error, ?_⟩
      rw [untouched, same]
  split
  · rename_i missing
    have unused := shown.none_iff.mp missing
    split
    · exact .inr ⟨SaiStatus.noConfusion, rfl⟩
    split
    · exact .inr ⟨SaiStatus.noConfusion, rfl⟩
    refine go .zero ?_ ?_
    · rw [unused]
      rfl
    · rw [unused]
      cases mode with
      | portBased => exact fun held => by cases held
      | flowBased => exact fun held => absurd held (lt_irrefl 0)
  · rename_i node found
    rw [found] at shown
    have isNode := shown.node
    split
    · exact .inr ⟨SaiStatus.noConfusion, rfl⟩
    rename_i notPort
    split
    · rename_i already
      obtain ⟨rfl, flow⟩ := already
      refine .inl ⟨rfl, exact.put stored (fun other away => get_put_ne away) ?_⟩
      rw [get_put_self]
      have positive : 0 < (h.uses sessionId ⟨portId, direction⟩).flow + 1 := Nat.succ_pos _
      rw [isNode] at flow ⊢
      refine SampleUse.shown_of_used (.inr positive) ?_
      have flowing := of_decide_eq_true flow
      simp only [SampleUse.add, positive, flowing, decide_true, Int.natCast_add]
      rfl
    · rename_i notFlow
      refine go node isNode fun held => ?_
      rw [isNode] at notPort notFlow
      cases mode with
      | portBased => exact notPort ⟨rfl, held⟩
      | flowBased => exact notFlow ⟨rfl, decide_eq_true held⟩

end Step

theorem samplepacketFillLoop_portTree {platform : SamplePlatform} (attrs : List SampleAttr) :
    ∀ index session next, samplepacketFillLoop platform index session attrs = .ok next →
      next.portTree = session.portTree := by
  induction attrs with
  | nil =>
    intro index session next done
    cases done
    rfl
  | cons attr rest ih =>
    intro index session next done
    unfold samplepacketFillLoop at done
    split at done
    · cases done
    rename_i filled one
    rw [ih _ _ _ done]
    unfold samplepacketFillAttributeParams at one
    split at one
    · split at one <;> cases one
      rfl
    · split at one <;> cases one
      rfl
    · cases one

section Events

theorem SampledExact.sessionCreate (exact : SampledExact h) (platform : SamplePlatform) (attrs : List SampleAttr)
    (env : SampleCreateEnv) : SampledExact ⟨(samplepacketSessionCreate h.state platform attrs env).1, h.uses⟩ ∧
      ((samplepacketSessionCreate h.state platform attrs env).2 ≠ .success →
        (samplepacketSessionCreate h.state platform attrs env).1 = h.state) := by
  unfold samplepacketSessionCreate
  split
  · exact ⟨exact, fun _ => rfl⟩
  split
  · exact ⟨exact, fun _ => rfl⟩
  rename_i session filled
  split
  · exact ⟨exact, fun _ => rfl⟩
  split
  · dsimp only
    split
    · rename_i missing
      split
      · exact ⟨exact, fun _ => rfl⟩
      refine ⟨⟨fun k other found key => ?_, fun k absent key => ?_⟩, fun error => absurd rfl error⟩
      · dsimp only at found
        rw [get_put] at found
        split at found
        · rename_i same
          cases found
          rw [samplepacketFillLoop_portTree attrs _ _ _ filled, get_empty]
          change SampleUse.Shown (h.uses k key) none
          rw [exact.absent k (same ▸ missing) key]
          exact SampleUse.shown_none
        · exact exact.shown k other found key
      · dsimp only at absent
        rw [get_put] at absent
        split at absent
        · cases absent
        · exact exact.absent k absent key
    · exact ⟨exact, fun _ => rfl⟩
  · exact ⟨exact, fun _ => rfl⟩

theorem SampledExact.sessionRemove (exact : SampledExact h) (sessionId : ObjectId) (npu : SaiStatus) :
    SampledExact ⟨(samplepacketSessionRemove h.state sessionId npu).1, h.uses⟩ ∧
      ((samplepacketSessionRemove h.state sessionId npu).2 ≠ .success →
        (samplepacketSessionRemove h.state sessionId npu).1 = h.state) := by
  unfold samplepacketSessionRemove
  split
  · exact ⟨exact, fun _ => rfl⟩
  split
  · exact ⟨exact, fun _ => rfl⟩
  rename_i session stored
  split
  · exact ⟨exact, fun _ => rfl⟩
  rename_i empty
  split
  · refine ⟨⟨fun k other found key => ?_, fun k absent key => ?_⟩, fun error => absurd rfl error⟩
    · dsimp only at found
      exact exact.shown k other (get_of_del found) key
    · dsimp only at absent
      rw [get_del] at absent
      split at absent
      · rename_i same
        have shown := exact.shown sessionId session stored key
        rw [not_not.mp empty, get_empty] at shown
        rw [same]
        exact shown.none_iff.mp rfl
      · exact exact.absent k absent key
  · exact ⟨exact, fun _ => rfl⟩

/-- An ordered and kept call keeps every node exact, and one that fails changes
nothing. -/
theorem SampledExact.step (exact : SampledExact h) (event : SampleEvent) (ordered : event.ordered h)
    (kept : event.kept h) : SampledExact (event.step h) ∧
      ((event.run h.state).2 ≠ .success → (event.run h.state).2 ≠ .objectInUse →
        (event.run h.state).1 = h.state) := by
  cases event with
  | sessionCreate platform attrs env =>
    obtain ⟨next, unchanged⟩ := exact.sessionCreate platform attrs env
    exact ⟨next, fun error _ => unchanged error⟩
  | sessionRemove sessionId npu =>
    obtain ⟨next, unchanged⟩ := exact.sessionRemove sessionId npu
    exact ⟨next, fun error _ => unchanged error⟩
  | portAdd sessionId portId direction mode env =>
    unfold SampleEvent.step SampleEvent.run
    dsimp only
    rcases samplepacketSessionPortAdd_cases exact portId direction mode env kept with
      ⟨success, next⟩ | ⟨error, unchanged⟩
    · rw [if_pos success]
      exact ⟨next, fun error => absurd success error⟩
    · rw [if_neg error, unchanged]
      exact ⟨exact, fun _ _ => rfl⟩
  | portRemove sessionId portId direction mode npu =>
    unfold SampleEvent.step SampleEvent.run
    dsimp only
    rcases samplepacketSessionPortRemove_cases exact portId direction mode npu ordered kept with
      ⟨removed, next⟩ | ⟨notRemoved, _, unchanged⟩
    · rw [if_pos removed]
      refine ⟨next, fun error notInUse => ?_⟩
      rcases removed with success | ⟨_, inUse⟩
      · exact absurd success error
      · exact absurd inUse notInUse
    · rw [if_neg notRemoved, unchanged]
      exact ⟨exact, fun _ _ => rfl⟩

end Events

structure SampleFresh (h : SampleHistory) : Prop where
  sessions : h.state.sessionTree = ∅
  uses : ∀ sessionId key, h.uses sessionId key = ⟨false, 0⟩

theorem SampleFresh.exact (fresh : SampleFresh h) : SampledExact h := by
  refine ⟨fun k session found => ?_, fun k _ key => fresh.uses k key⟩
  rw [fresh.sessions, get_empty] at found
  cases found

/-- A port has a node in a session's tree exactly when it is attached to it, with
the bits and the count of its attachments, and no node there is freed. -/
structure SampledPortsExact (h : SampleHistory) : Prop where
  present : ∀ sessionId session, h.state.sessionTree.get sessionId = some session → ∀ key,
    session.portTree.get key ≠ none ↔ (h.uses sessionId key).port = true ∨ 0 < (h.uses sessionId key).flow
  node : ∀ sessionId session, h.state.sessionTree.get sessionId = some session → ∀ key node,
    session.portTree.get key = some node →
      node.portBased = (h.uses sessionId key).port ∧ node.refCount = (h.uses sessionId key).flow ∧
        (node.flowBased = true ↔ 0 < node.refCount) ∧ 0 ≤ node.refCount ∧ node.freed = false

theorem SampledExact.ports (exact : SampledExact h) : SampledPortsExact h := by
  refine ⟨fun k session stored key => ?_, fun k session stored key node found => ?_⟩
  · have shown := exact.shown k session stored key
    unfold SampleUse.Shown at shown
    rw [shown]
    split
    · rename_i used
      exact iff_of_true (Option.some_ne_none _) used
    · rename_i unused
      exact iff_of_false (not_not.mpr rfl) unused
  · have shown := exact.shown k session stored key
    rw [found] at shown
    rw [shown.node]
    refine ⟨rfl, rfl, ?_, Int.natCast_nonneg _, rfl⟩
    rw [decide_eq_true_iff]
    change 0 < (h.uses k key).flow ↔ (0 : Int) < ((h.uses k key).flow : Int)
    omega

/-- In every run of ordered and kept calls the nodes are exact, and a call that
fails with anything but OBJECT_IN_USE changes nothing. -/
theorem sampledPorts_exact {h : SampleHistory} (reach : Runs.Reach SampleFresh
      (Runs.guarded (fun h event => SampleEvent.ordered h event ∧ SampleEvent.kept h event) SampleEvent.step) h) :
    SampledPortsExact h ∧ ∀ event : SampleEvent, event.ordered h → event.kept h →
      (event.run h.state).2 ≠ .success → (event.run h.state).2 ≠ .objectInUse →
      (event.run h.state).1 = h.state := by
  have exact : SampledExact h := by
    refine reach.invariant SampledExact (fun _ fresh => fresh.exact) ?_
    intro h event t exact moved
    rw [moved.2]
    exact (exact.step event moved.1.1 moved.1.2).1
  exact ⟨exact.ports, fun event ordered kept => (exact.step event ordered kept).2⟩

def sampleHistory : SampleHistory := ⟨⟨∅⟩, fun _ _ => ⟨false, 0⟩⟩

theorem sampleHistory_fresh : SampleFresh sampleHistory := ⟨rfl, fun _ _ => rfl⟩

def sampleRun : List SampleEvent :=
  [.sessionCreate ⟨0⟩ [.sampleRate 100] ⟨true, .success, 1, true, true⟩,
    .portAdd ⟨.samplePacket, 1⟩ ⟨.port, 1⟩ .ingress .flowBased ⟨true, true, .success⟩,
    .portAdd ⟨.samplePacket, 1⟩ ⟨.port, 1⟩ .ingress .flowBased ⟨true, true, .success⟩]

theorem sampledPorts_exact_sample : SampledPortsExact (sampleRun.foldl SampleEvent.step sampleHistory) ∧
      ∀ event : SampleEvent, event.ordered (sampleRun.foldl SampleEvent.step sampleHistory) →
        event.kept (sampleRun.foldl SampleEvent.step sampleHistory) →
        (event.run (sampleRun.foldl SampleEvent.step sampleHistory).state).2 ≠ .success →
        (event.run (sampleRun.foldl SampleEvent.step sampleHistory).state).2 ≠ .objectInUse →
        (event.run (sampleRun.foldl SampleEvent.step sampleHistory).state).1 =
          (sampleRun.foldl SampleEvent.step sampleHistory).state := by
  refine sampledPorts_exact
    (Runs.Reach.run (.start sampleHistory_fresh)
      ⟨⟨trivial, trivial⟩, ⟨trivial, ?_⟩, ⟨trivial, ?_⟩, trivial⟩)
  · exact fun refused => absurd rfl refused
  · exact fun refused => absurd rfl refused

def sampleRunBoth : List SampleEvent :=
  sampleRun ++
    [.portAdd ⟨.samplePacket, 1⟩ ⟨.port, 1⟩ .ingress .portBased ⟨true, true, .success⟩,
      .portRemove ⟨.samplePacket, 1⟩ ⟨.port, 1⟩ .ingress .portBased .success]

/-- The removal of one mode frees the node that the other mode needs. -/
theorem sampledPorts_not_exact :
    ¬ ∀ h, Runs.Reach SampleFresh (Runs.guarded SampleEvent.ordered SampleEvent.step) h →
      ∀ sessionId session, h.state.sessionTree.get sessionId = some session →
        ∀ key node, session.portTree.get key = some node → node.freed = false := by
  intro all
  have reached : Runs.Reach SampleFresh (Runs.guarded SampleEvent.ordered SampleEvent.step)
      (sampleRunBoth.foldl SampleEvent.step sampleHistory) :=
    Runs.Reach.run (.start sampleHistory_fresh) ⟨trivial, trivial, trivial, trivial, rfl, trivial⟩
  obtain ⟨session, stored⟩ := Option.isSome_iff_exists.mp (by decide :
    ((sampleRunBoth.foldl SampleEvent.step sampleHistory).state.sessionTree.get ⟨.samplePacket, 1⟩).isSome = true)
  have freed : ((sampleRunBoth.foldl SampleEvent.step sampleHistory).state.sessionTree.get ⟨.samplePacket, 1⟩).bind
      (fun session => session.portTree.get ⟨⟨.port, 1⟩, .ingress⟩) = some ⟨true, true, 2, true⟩ := by decide
  rw [stored] at freed
  have live := all _ reached _ _ stored _ _ freed
  cases live

end SaiCommon
