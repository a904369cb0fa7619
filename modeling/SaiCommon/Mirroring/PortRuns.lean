import SaiCommon.Mirroring.PortViews

namespace SaiCommon

variable {node : MirrorSessionPerPort} {t s : MirrorState} {order : KeyRank MirrorSessionPerPort}

theorem MirrorKept.of_same (kept : MirrorKept order s)
    (tree : t.mirrorSessionsTree = s.mirrorSessionsTree) (hardware : t.npuMirrors = s.npuMirrors)
    (ports : t.portSessions = s.portSessions) : MirrorKept order t := by
  refine ⟨⟨fun link => ?_, fun link => ?_⟩, fun portId => ?_, fun k session stored => ?_⟩
  · have agree := kept.views.sources link
    unfold MirrorState.sources MirrorState.listed at agree ⊢
    rw [tree, ports]
    exact agree
  · have agree := kept.views.hardware link
    unfold MirrorState.listed at agree ⊢
    rw [hardware, ports]
    exact agree
  · rw [ports]
    exact kept.sorted portId
  · rw [tree] at stored
    exact kept.typed k session stored

section Removes
variable (isPortValid : ObjectId → Bool) (portId : ObjectId) (direction : MirrorDirection) (sessions : List ObjectId)
  (env : MirrorPortEnv)

/-- A session of the direction that is not listed any more. -/
def mirrorOutdated (node : MirrorSessionPerPort) : Prop :=
  node.mirrorDirection = direction ∧ node.sessionId ∉ sessions

instance : DecidablePred (mirrorOutdated direction sessions) := fun _ => inferInstanceAs (Decidable (_ ∧ _))

def MirrorReleased (node : MirrorSessionPerPort) : Prop :=
  isPortValid portId = true ∧ env.remove node.sessionId = .success

theorem mirrorPortVisit_current (node : MirrorSessionPerPort) (current : ¬ mirrorOutdated direction sessions node) :
    mirrorPortVisit isPortValid portId direction sessions env node s = (s, .success) := by
  unfold mirrorPortVisit
  by_cases other : node.mirrorDirection ≠ direction
  · exact if_pos other
  rw [if_neg other]
  refine if_pos ?_
  by_contra unlisted
  exact current ⟨not_not.mp other, unlisted⟩

theorem mirrorPortVisit_outdated (outdated : mirrorOutdated direction sessions node) :
    mirrorPortVisit isPortValid portId direction sessions env node s =
      match mirrorSessionPortRemove s isPortValid node.sessionId portId direction (env.remove node.sessionId) with
      | (s, .success) => (s.putPortTree portId (KeyRank.remove node (s.portSessions portId)), .success)
      | (s, error) => (s, error) := by
  unfold mirrorPortVisit
  exact (if_neg (not_not.mpr outdated.1)).trans (if_neg outdated.2)

variable {portId direction sessions} in
theorem mirrorPortVisit_cases (kept : MirrorKept order s)
    (outdated : mirrorOutdated direction sessions node) (listed : node ∈ s.portSessions portId) :
    MirrorReleased isPortValid portId env node ∧
        (∃ t, mirrorPortVisit isPortValid portId direction sessions env node s = (t, .success) ∧
          MirrorKept order t ∧
          ∀ link, t.listed link ↔ s.listed link ∧ link ≠ ⟨node.sessionId, portId, node.mirrorDirection⟩) ∨
      ¬ MirrorReleased isPortValid portId env node ∧
        (mirrorPortVisit isPortValid portId direction sessions env node s).2 ≠ .success ∧
        (mirrorPortVisit isPortValid portId direction sessions env node s).1 = s := by
  obtain ⟨sessionId, nodeDirection⟩ := node
  obtain ⟨rfl, unlisted⟩ := outdated
  rw [mirrorPortVisit_outdated isPortValid portId nodeDirection sessions env ⟨rfl, unlisted⟩]
  dsimp only
  rcases mirrorSessionPortRemove_cases isPortValid kept listed (env.remove sessionId) with
    ⟨released, session, stored, removed⟩ | ⟨refused, failed, same⟩
  · refine .inl ⟨released, ?_⟩
    rw [removed]
    have source : ∀ info : MirrorPortInfo, info ≠ ⟨portId, nodeDirection⟩ →
        (info ∈ session.sourcePortsTree.erase ⟨portId, nodeDirection⟩ ↔ info ∈ session.sourcePortsTree) :=
      fun info other => by rw [Finset.mem_erase, and_iff_right other]
    have nodes : ∀ node : MirrorSessionPerPort, node ≠ ⟨sessionId, nodeDirection⟩ →
        (node ∈ KeyRank.remove ⟨sessionId, nodeDirection⟩ (s.portSessions portId) ↔
          node ∈ s.portSessions portId) :=
      fun node other => by rw [KeyRank.mem_remove, and_iff_left other]
    obtain ⟨kept', listed', _⟩ := kept.relink stored false
      (KeyRank.Sorted.remove order (kept.sorted portId) ⟨sessionId, nodeDirection⟩)
      (iff_of_false (Finset.notMem_erase _ _) Bool.false_ne_true) source
      (iff_of_false (fun member => (KeyRank.mem_remove.mp member).2 rfl) Bool.false_ne_true) nodes
    refine ⟨_, rfl, kept', fun link => ?_⟩
    refine (listed' link).trans ?_
    split
    · rename_i same
      exact iff_of_false Bool.false_ne_true fun both => both.2 same
    · rename_i other
      exact (and_iff_left other).symm
  · refine .inr ⟨refused, ?_⟩
    split
    · rename_i result
      rw [result] at failed
      exact absurd rfl failed
    · rename_i t error _ result
      rw [result] at failed same
      exact ⟨failed, same⟩

variable (order) in
/-- What a walk has left of the keys that it still has to visit. -/
structure MirrorLeft (s : MirrorState) (nodes : List MirrorSessionPerPort) (t : MirrorState) : Prop where
  kept : MirrorKept order t
  nodup : nodes.Nodup
  ahead : ∀ node ∈ nodes, node ∈ t.portSessions portId
  listed : ∀ link, t.listed link ↔ s.listed link ∧
    ¬ (link.mirrorPort = portId ∧ mirrorOutdated direction sessions ⟨link.sessionId, link.mirrorDirection⟩ ∧
      (⟨link.sessionId, link.mirrorDirection⟩ : MirrorSessionPerPort) ∉ nodes)

variable {portId direction sessions env} in
theorem MirrorLeft.visit {rest : List MirrorSessionPerPort}
    (left : MirrorLeft order portId direction sessions s (node :: rest) t) :
    let visited := mirrorPortVisit isPortValid portId direction sessions env node t
    (mirrorOutdated direction sessions node → MirrorReleased isPortValid portId env node) ∧ visited.2 = .success ∧
        MirrorLeft order portId direction sessions s rest visited.1 ∨
      ¬ (mirrorOutdated direction sessions node → MirrorReleased isPortValid portId env node) ∧
        visited.2 ≠ .success ∧ MirrorLeft order portId direction sessions s (node :: rest) visited.1 := by
  intro visited
  obtain ⟨notLater, nodup⟩ := List.nodup_cons.mp left.nodup
  by_cases outdated : mirrorOutdated direction sessions node
  · rcases mirrorPortVisit_cases isPortValid env left.kept outdated (left.ahead node List.mem_cons_self) with
      ⟨released, u, result, kept, listed⟩ | ⟨refused, failed, same⟩
    · refine .inl ⟨fun _ => released, congrArg Prod.snd result, ?_⟩
      rw [congrArg Prod.fst result]
      refine ⟨kept, nodup, fun k later => ?_, fun link => ?_⟩
      · refine (listed ⟨k.sessionId, portId, k.mirrorDirection⟩).mpr
          ⟨left.ahead k (List.mem_cons_of_mem _ later), ?_⟩
        intro same
        obtain ⟨sameSession, _, sameDirection⟩ := MirrorLink.mk.inj same
        have sameNode : k = node := by
          obtain ⟨a, b⟩ := node
          exact congrArg₂ MirrorSessionPerPort.mk sameSession sameDirection
        rw [sameNode] at later
        exact notLater later
      · rw [listed link, left.listed link]
        constructor
        · rintro ⟨⟨before, notGone⟩, other⟩
          refine ⟨before, ?_⟩
          rintro ⟨port, old, notRest⟩
          refine notGone ⟨port, old, fun member => ?_⟩
          rcases List.mem_cons.mp member with same | inRest
          · refine other (MirrorLink.eq_iff.mpr ⟨?_, port, ?_⟩)
            · rw [← same]
            · rw [← same]
          · exact notRest inRest
        · rintro ⟨before, notGone⟩
          refine ⟨⟨before, ?_⟩, ?_⟩
          · rintro ⟨port, old, notIn⟩
            exact notGone ⟨port, old, fun inRest => notIn (List.mem_cons_of_mem _ inRest)⟩
          · rintro rfl
            exact notGone ⟨rfl, outdated, notLater⟩
    · refine .inr ⟨fun all => refused (all outdated), failed, ?_⟩
      rw [same]
      exact left
  · have current : visited = (t, .success) :=
      mirrorPortVisit_current isPortValid portId direction sessions env node outdated
    refine .inl ⟨fun yes => absurd yes outdated, congrArg Prod.snd current, ?_⟩
    rw [congrArg Prod.fst current]
    refine ⟨left.kept, nodup, fun k later => left.ahead k (List.mem_cons_of_mem _ later), fun link => ?_⟩
    rw [left.listed link]
    constructor
    · rintro ⟨before, notGone⟩
      refine ⟨before, ?_⟩
      rintro ⟨port, old, notRest⟩
      refine notGone ⟨port, old, fun member => ?_⟩
      rcases List.mem_cons.mp member with same | inRest
      · rw [same] at old
        exact outdated old
      · exact notRest inRest
    · rintro ⟨before, notGone⟩
      refine ⟨before, ?_⟩
      rintro ⟨port, old, notIn⟩
      exact notGone ⟨port, old, fun inRest => notIn (List.mem_cons_of_mem _ inRest)⟩

theorem mirrorPortVisit_edits (node : MirrorSessionPerPort) (s : MirrorState) :
    (mirrorPortVisit isPortValid portId direction sessions env node s).1.portSessions portId = s.portSessions portId ∨
      (mirrorPortVisit isPortValid portId direction sessions env node s).1.portSessions portId =
        KeyRank.remove node (s.portSessions portId) := by
  have frame : ∀ sessionId npu, (mirrorSessionPortRemove s isPortValid sessionId portId direction npu).1.portSessions
      portId = s.portSessions portId := by
    intro sessionId npu
    unfold mirrorSessionPortRemove
    dsimp only
    repeat' split
    all_goals rfl
  unfold mirrorPortVisit
  split
  · exact .inl rfl
  split
  · exact .inl rfl
  have same := frame node.sessionId (env.remove node.sessionId)
  split
  · rename_i t result
    rw [result] at same
    refine .inr ?_
    dsimp only at same ⊢
    rw [MirrorState.portSessions_putPortTree, if_pos rfl, same]
  · rename_i t error _ result
    rw [result] at same
    exact .inl same

theorem mirrorRemoveMirrorPerPort_walk (kept : MirrorKept order s) :
    order.walk .success (fun s => s.portSessions portId) (mirrorPortVisit isPortValid portId direction sessions env)
        (s.portSessions portId).length (s.portSessions portId).head? s =
      ErrorLoop.run .success (mirrorPortVisit isPortValid portId direction sessions env) (s.portSessions portId) s :=
  order.walk_eq_run (mirrorPortVisit_edits isPortValid portId direction sessions env) _ _ [] s rfl (kept.sorted portId)
    (Nat.le_refl _)

theorem MirrorState.portSessions_drop (empty : s.portSessions portId = []) :
    ({ s with portTrees := s.portTrees.del portId } : MirrorState).portSessions = s.portSessions := by
  funext other
  unfold portSessions at empty ⊢
  dsimp only
  rw [KeyTree.get_del]
  split
  · rename_i same
    rw [same, empty]
    rfl
  · rfl

theorem mirrorRemoveMirrorPerPort_released (kept : MirrorKept order s)
    (released : ∀ node ∈ s.portSessions portId, mirrorOutdated direction sessions node →
      MirrorReleased isPortValid portId env node) :
    ∃ t, mirrorRemoveMirrorPerPort s isPortValid order portId direction sessions env = (t, .success) ∧
      MirrorKept order t ∧ ∀ link, t.listed link ↔ s.listed link ∧
        ¬ (link.mirrorPort = portId ∧
          mirrorOutdated direction sessions ⟨link.sessionId, link.mirrorDirection⟩) := by
  have nodup : (s.portSessions portId).Nodup :=
    (kept.sorted portId).imp fun below same => by
      rw [same] at below
      exact Nat.lt_irrefl _ below
  have start : MirrorLeft order portId direction sessions s (s.portSessions portId) s := by
    refine ⟨kept, nodup, fun node member => member, fun link => ?_⟩
    refine (and_iff_left_of_imp ?_).symm
    rintro listed ⟨port, _, notIn⟩
    refine notIn ?_
    rw [← port]
    exact listed
  have loop := ErrorLoop.run_removes .success (mirrorPortVisit isPortValid portId direction sessions env)
    (fun node => mirrorOutdated direction sessions node → MirrorReleased isPortValid portId env node)
    (MirrorLeft order portId direction sessions s) (fun node rest t left => left.visit isPortValid)
    (s.portSessions portId) s start
  rw [← mirrorRemoveMirrorPerPort_walk isPortValid portId direction sessions env kept] at loop
  rcases loop with ⟨_, success, left⟩ | ⟨notAll, _⟩
  swap
  · exact absurd released notAll
  have listed : ∀ link, ((order.walk .success (fun s => s.portSessions portId)
      (mirrorPortVisit isPortValid portId direction sessions env) (s.portSessions portId).length
      (s.portSessions portId).head? s).1.listed link ↔ s.listed link ∧
        ¬ (link.mirrorPort = portId ∧
          mirrorOutdated direction sessions ⟨link.sessionId, link.mirrorDirection⟩)) := by
    intro link
    rw [left.listed link]
    simp only [List.not_mem_nil, not_false_eq_true, and_true]
  unfold mirrorRemoveMirrorPerPort
  dsimp only
  rw [success]
  refine ⟨_, rfl, ?_, fun link => ?_⟩
  · split
    · rename_i empty
      exact left.kept.of_same rfl rfl (MirrorState.portSessions_drop portId empty)
    · exact left.kept
  · rw [← listed link]
    split
    · rename_i empty
      unfold MirrorState.listed
      rw [MirrorState.portSessions_drop portId empty]
    · exact Iff.rfl

theorem mirrorRemoveMirrorPerPort_refused (kept : MirrorKept order s) {later : List MirrorSessionPerPort}
    (first : ((s.portSessions portId).filter fun k => mirrorOutdated direction sessions k) = node :: later)
    (refused : ¬ MirrorReleased isPortValid portId env node) :
    (mirrorRemoveMirrorPerPort s isPortValid order portId direction sessions env).2 ≠ .success ∧
      (mirrorRemoveMirrorPerPort s isPortValid order portId direction sessions env).1 = s := by
  obtain ⟨listed, old⟩ := List.mem_filter.mp (show node ∈ _ from first ▸ List.mem_cons_self)
  rcases mirrorPortVisit_cases isPortValid env kept (of_decide_eq_true old) listed with
    ⟨released, _⟩ | ⟨_, failed, same⟩
  · exact absurd released refused
  have loop := ErrorLoop.run_refused
    (mirrorPortVisit_current (s := s) isPortValid portId direction sessions env) failed _ first
  unfold mirrorRemoveMirrorPerPort
  dsimp only
  rw [mirrorRemoveMirrorPerPort_walk isPortValid portId direction sessions env kept, loop]
  refine ⟨failed, ?_⟩
  rw [same]
  refine if_neg fun empty => ?_
  rw [empty] at listed
  exact List.not_mem_nil listed

end Removes
end SaiCommon
