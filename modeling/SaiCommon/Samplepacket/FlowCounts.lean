import SaiCommon.Samplepacket.AclInfo

namespace SaiCommon

variable {aclInfo : KeyTree SampleInfoKey Unit} {list : List ObjectId}

/-- How often rules sample to a session, in a direction, on a port. -/
abbrev SampleFlows := ObjectId → SampleDirection → ObjectId → Nat

namespace SampleFlows

def add (n : SampleFlows) (id : ObjectId) (direction : SampleDirection) (list : List ObjectId) : SampleFlows :=
  fun id' direction' p => n id' direction' p + if id' = id ∧ direction' = direction then list.count p else 0

/-- The session is taken back once on every place of the list, where it is applied. -/
def sub (n : SampleFlows) (id : ObjectId) (direction : SampleDirection) (list : List ObjectId) : SampleFlows :=
  fun id' direction' p => n id' direction' p - if id' = id ∧ direction' = direction then list.count p else 0

variable (n : SampleFlows) (id : ObjectId) (direction : SampleDirection)

theorem add_nil : n.add id direction [] = n := by
  funext id' direction' p
  unfold add
  rw [List.count_nil, ite_self, Nat.add_zero]

theorem sub_nil : n.sub id direction [] = n := by
  funext id' direction' p
  unfold sub
  rw [List.count_nil, ite_self, Nat.sub_zero]

theorem add_cons (p : ObjectId) (rest : List ObjectId) :
    n.add id direction (p :: rest) = (n.add id direction [p]).add id direction rest := by
  funext id' direction' q
  unfold add
  split
  · rw [List.count_cons, List.count_singleton]
    omega
  · rfl

theorem sub_cons (p : ObjectId) (rest : List ObjectId) :
    n.sub id direction (p :: rest) = (n.sub id direction [p]).sub id direction rest := by
  funext id' direction' q
  unfold sub
  split
  · rw [List.count_cons, List.count_singleton]
    omega
  · rfl

theorem add_sub (list : List ObjectId) (has : ∀ p, list.count p ≤ n id direction p) :
    (n.sub id direction list).add id direction list = n := by
  funext id' direction' p
  unfold add sub
  split
  · rename_i here
    rw [here.1, here.2]
    exact Nat.sub_add_cancel (has p)
  · rfl

theorem singleton_count (p : ObjectId) (id' : ObjectId) (direction' : SampleDirection) (q : ObjectId) :
    (if id' = id ∧ direction' = direction then [p].count q else 0) =
      if id' = id ∧ direction' = direction ∧ q = p then 1 else 0 := by
  rw [List.count_singleton, ← ite_and]
  simp only [beq_iff_eq, and_assoc, eq_comm (a := p)]

theorem add_singleton (p : ObjectId) (id' : ObjectId) (direction' : SampleDirection) (q : ObjectId) :
    n.add id direction [p] id' direction' q =
      if id' = id ∧ direction' = direction ∧ q = p then n id direction p + 1 else n id' direction' q := by
  unfold add
  rw [singleton_count]
  split
  · rename_i same
    rw [same.1, same.2.1, same.2.2]
  · rfl

theorem sub_singleton (p : ObjectId) (id' : ObjectId) (direction' : SampleDirection) (q : ObjectId) :
    n.sub id direction [p] id' direction' q =
      if id' = id ∧ direction' = direction ∧ q = p then n id direction p - 1 else n id' direction' q := by
  unfold sub
  rw [singleton_count]
  split
  · rename_i same
    rw [same.1, same.2.1, same.2.2]
  · rfl

end SampleFlows

/-- The node of a port that rules sample on `count` times. -/
def flowNode (count : Nat) : Option SamplePortNode := if count = 0 then none else some ⟨false, true, count, false⟩

/-- Every session's nodes, and the entries of the ports, are those of the flows;
on a port and in a direction rules sample to one session. -/
structure SampledFlows (s : SampleAcl) (n : SampleFlows) : Prop where
  typed : ∀ id, s.sessions.sessionTree.get id ≠ none → id.objType = .samplePacket
  nodes : ∀ id session, s.sessions.sessionTree.get id = some session → ∀ key : SamplePortKey,
    session.portTree.get key = flowNode (n id key.samplepacketDirection key.samplepacketPort)
  absent : ∀ id, s.sessions.sessionTree.get id = none → ∀ direction p, n id direction p = 0
  entries : ∀ p, p ≠ nullObjectId → ∀ id direction,
    s.aclInfo.get ⟨p, id, direction⟩ ≠ none ↔ 0 < n id direction p
  noNull : ∀ id direction, n id direction nullObjectId = 0
  single : ∀ p direction id id', 0 < n id direction p → 0 < n id' direction p → id = id'

def SampleFlows.Free (n : SampleFlows) (id : ObjectId) (direction : SampleDirection) (list : List ObjectId) : Prop :=
  ∀ p ∈ list, ∀ id', 0 < n id' direction p → id' = id

/-- The outside refuses nothing. -/
def SampleEnv.grants (env : SampleEnv) : Prop := ∀ path, env path = ⟨⟨true, true, .success⟩, true, .success⟩

section Ports
variable {s : SampleAcl} {n : SampleFlows} {id p : ObjectId} {direction : SampleDirection} {session : SampleSession}

section
variable (sampled : SampledFlows s n)
include sampled

theorem SampledFlows.live (used : 0 < n id direction p) :
    ∃ session, s.sessions.sessionTree.get id = some session := by
  refine Option.ne_none_iff_exists'.mp fun gone => ?_
  have unused := sampled.absent id gone direction p
  omega

theorem SampledFlows.write (stored : s.sessions.sessionTree.get id = some session)
    (named : p ≠ nullObjectId) {count : Nat} {portTree : KeyTree SamplePortKey SamplePortNode} {n' : SampleFlows}
    (flows : ∀ id' direction' q, n' id' direction' q =
      if id' = id ∧ direction' = direction ∧ q = p then count else n id' direction' q)
    (tree : ∀ key, portTree.get key = if key = ⟨p, direction⟩ then flowNode count else session.portTree.get key)
    (entry : aclInfo.get ⟨p, id, direction⟩ ≠ none ↔ 0 < count)
    (others : ∀ key, key ≠ ⟨p, id, direction⟩ → aclInfo.get key = s.aclInfo.get key)
    (free : 0 < count → ∀ id', 0 < n id' direction p → id' = id) :
    SampledFlows ⟨s.sessions.putPorts id session portTree, aclInfo, s.portList⟩ n' := by
  have get : ∀ k, (s.sessions.putPorts id session portTree).sessionTree.get k =
      if k = id then some { session with portTree := portTree } else s.sessions.sessionTree.get k :=
    fun k => KeyTree.get_put _ _ _ _
  refine ⟨fun k live => ?_, fun k other found key => ?_, fun k gone direction' q => ?_,
    fun q notNull k direction' => ?_, fun k direction' => ?_, fun q direction' k k' used used' => ?_⟩
  · rw [get k] at live
    split at live
    · rename_i same
      rw [same]
      exact sampled.typed id (by rw [stored]; exact Option.some_ne_none _)
    · exact sampled.typed k live
  · rw [get k] at found
    rw [flows]
    split at found
    · rename_i same
      cases found
      rw [tree, same]
      by_cases here : key = ⟨p, direction⟩
      · rw [if_pos here, here, if_pos ⟨rfl, rfl, rfl⟩]
      rw [if_neg here, if_neg fun all => here (by
        rw [show key = ⟨key.samplepacketPort, key.samplepacketDirection⟩ from rfl, all.2.1, all.2.2])]
      exact sampled.nodes id session stored key
    · rename_i other
      rw [if_neg fun all => other all.1]
      exact sampled.nodes k _ found key
  · rw [get k] at gone
    split at gone
    · cases gone
    rename_i other
    rw [flows, if_neg fun all => other all.1]
    exact sampled.absent k gone direction' q
  · rw [flows]
    by_cases here : k = id ∧ direction' = direction ∧ q = p
    · rw [if_pos here, here.1, here.2.1, here.2.2]
      exact entry
    have apart : (⟨q, k, direction'⟩ : SampleInfoKey) ≠ ⟨p, id, direction⟩ := by
      intro same
      cases same
      exact here ⟨rfl, rfl, rfl⟩
    rw [if_neg here]
    dsimp only
    rw [others _ apart]
    exact sampled.entries q notNull k direction'
  · rw [flows, if_neg fun all => named all.2.2.symm]
    exact sampled.noNull k direction'
  · rw [flows] at used used'
    have both : ∀ k, (0 < if k = id ∧ direction' = direction ∧ q = p then count else n k direction' q) →
        direction' = direction ∧ q = p ∧ 0 < count → k = id := by
      intro k used here
      split at used
      · rename_i this
        exact this.1
      · rw [here.1, here.2.1] at used
        exact free here.2.2 k used
    by_cases here : direction' = direction ∧ q = p ∧ 0 < count
    · exact (both k used here).trans (both k' used' here).symm
    have old : ∀ k, (0 < if k = id ∧ direction' = direction ∧ q = p then count else n k direction' q) →
        0 < n k direction' q := by
      intro k used
      split at used
      · rename_i this
        exact absurd ⟨this.2.1, this.2.2, used⟩ here
      · exact used
    exact sampled.single q direction' k k' (old k used) (old k' used')

theorem SampledFlows.portAdd (stored : s.sessions.sessionTree.get id = some session)
    (p : ObjectId) (direction : SampleDirection) : ∃ portTree, (∀ key, portTree.get key =
        if key = ⟨p, direction⟩ then flowNode (n id direction p + 1) else session.portTree.get key) ∧
      samplepacketSessionPortAdd s.sessions id p direction .flowBased ⟨true, true, .success⟩ =
        (s.sessions.putPorts id session portTree, .success) := by
  have kind := sampled.typed id (by rw [stored]; exact Option.some_ne_none _)
  have node := sampled.nodes id session stored ⟨p, direction⟩
  refine ⟨session.portTree.put ⟨p, direction⟩ ⟨false, true, ((n id direction p + 1 : Nat) : Int), false⟩,
    fun key => KeyTree.get_put _ _ _ _, ?_⟩
  unfold samplepacketSessionPortAdd
  rw [if_neg (not_not_intro kind), stored]
  dsimp only at node ⊢
  rw [node]
  unfold flowNode
  by_cases unused : n id direction p = 0
  · rw [if_pos unused, unused]
    rfl
  · rw [if_neg unused]
    rfl

theorem SampledFlows.portRemove (stored : s.sessions.sessionTree.get id = some session)
    (used : 0 < n id direction p) : ∃ portTree, (∀ key, portTree.get key =
        if key = ⟨p, direction⟩ then flowNode (n id direction p - 1) else session.portTree.get key) ∧
      samplepacketSessionPortRemove s.sessions id p direction .flowBased .success =
        (s.sessions.putPorts id session portTree, if n id direction p = 1 then .success else .objectInUse) := by
  have kind := sampled.typed id (by rw [stored]; exact Option.some_ne_none _)
  have node := sampled.nodes id session stored ⟨p, direction⟩
  obtain ⟨count, isCount⟩ : ∃ count, n id direction p = count + 1 := ⟨n id direction p - 1, by omega⟩
  unfold flowNode at node
  dsimp only at node
  rw [isCount, if_neg (Nat.succ_ne_zero count)] at node
  unfold samplepacketSessionPortRemove
  rw [if_neg (not_not_intro kind), stored]
  dsimp only
  rw [node, isCount]
  dsimp only
  by_cases last : count = 0
  · subst last
    refine ⟨session.portTree.del ⟨p, direction⟩, fun key => ?_, ?_⟩
    · rw [KeyTree.get_del]
      rfl
    · rfl
  · have positive : ((count + 1 : Nat) : Int) - 1 ≠ 0 := by omega
    refine ⟨_, fun key => ?_, by rw [if_neg positive, if_neg (by omega)]⟩
    rw [KeyTree.get_put]
    unfold flowNode
    rw [Nat.add_sub_cancel, if_neg last]
    have same : ((count + 1 : Nat) : Int) - 1 = (count : Int) := by omega
    rw [same]

end

/-- Ports and sessions stay; only what the sessions count changes. -/
def SampleAcl.SameSessions (s t : SampleAcl) : Prop :=
  t.portList = s.portList ∧ ∀ k, t.sessions.sessionTree.get k = none ↔ s.sessions.sessionTree.get k = none

theorem SampleAcl.SameSessions.refl (s : SampleAcl) : s.SameSessions s := ⟨rfl, fun _ => Iff.rfl⟩

theorem SampleAcl.SameSessions.trans {t u : SampleAcl} (one : s.SameSessions t) (two : t.SameSessions u) :
    s.SameSessions u :=
  ⟨two.1.trans one.1, fun k => (two.2 k).trans (one.2 k)⟩

theorem SampleAcl.sameSessions_putPorts (stored : s.sessions.sessionTree.get id = some session)
    (portTree : KeyTree SamplePortKey SamplePortNode) (aclInfo : KeyTree SampleInfoKey Unit) :
    s.SameSessions ⟨s.sessions.putPorts id session portTree, aclInfo, s.portList⟩ :=
  ⟨rfl, fun _ => KeyTree.get_put_eq_none stored⟩

theorem SampledFlows.addPort (sampled : SampledFlows s n) (live : s.sessions.sessionTree.get id ≠ none)
    (named : p ≠ nullObjectId) (free : ∀ id', 0 < n id' direction p → id' = id) :
    ∃ sessions t, samplepacketSessionPortAdd s.sessions id p direction .flowBased ⟨true, true, .success⟩ =
        (sessions, .success) ∧
      samplepacketCheckAndInsertAclInfo { s with sessions := sessions } id direction p true = (t, .success) ∧
      s.SameSessions t ∧ SampledFlows t (n.add id direction [p]) := by
  obtain ⟨session, stored⟩ := Option.ne_none_iff_exists'.mp live
  obtain ⟨portTree, tree, added⟩ := sampled.portAdd stored p direction
  have flows := n.add_singleton id direction p
  cases found : s.aclInfo.get ⟨p, id, direction⟩ with
  | some entry =>
    refine ⟨_, _, added, ?_, SampleAcl.sameSessions_putPorts stored portTree s.aclInfo, ?_⟩
    · unfold samplepacketCheckAndInsertAclInfo
      dsimp only
      rw [found]
    · refine sampled.write stored named flows tree (iff_of_true ?_ (Nat.succ_pos _)) (fun _ _ => rfl)
        fun _ => free
      rw [found]
      exact Option.some_ne_none _
  | none =>
    refine ⟨_, _, added, ?_,
      SampleAcl.sameSessions_putPorts stored portTree (s.aclInfo.put ⟨p, id, direction⟩ ()),
      ?_⟩
    · unfold samplepacketCheckAndInsertAclInfo
      dsimp only
      rw [found]
      rfl
    · refine sampled.write stored named flows tree (iff_of_true ?_ (Nat.succ_pos _))
        (fun _ other => KeyTree.get_put_ne other) fun _ => free
      rw [KeyTree.get_put_self]
      exact Option.some_ne_none _

theorem SampleFlows.Free.tail (free : n.Free id direction (p :: list)) :
    (n.add id direction [p]).Free id direction list := by
  intro q member id' used
  rw [SampleFlows.add_singleton] at used
  split at used
  · rename_i here
    exact here.1
  · exact free q (List.mem_cons_of_mem p member) id' used

theorem SampledFlows.updateLoop {env : SampleEnv} (granted : env.grants) (sampled : SampledFlows s n)
    (live : s.sessions.sessionTree.get id ≠ none) (named : nullObjectId ∉ list)
    (free : n.Free id direction list) (place : Nat) :
    ∃ t, samplepacketUpdateObjectOnPortlist id direction env s place .success list = (t, .success) ∧
      s.SameSessions t ∧ SampledFlows t (n.add id direction list) := by
  induction list generalizing s n place with
  | nil => exact ⟨s, rfl, .refl s, by rw [SampleFlows.add_nil]; exact sampled⟩
  | cons p rest ih =>
    have notNull : p ≠ nullObjectId := fun same => named (same ▸ List.mem_cons_self)
    obtain ⟨sessions, t, added, inserted, same, counted⟩ :=
      sampled.addPort live notNull (free p List.mem_cons_self)
    obtain ⟨u, later, sameLater, all⟩ := ih counted (fun gone => live ((same.2 id).mp gone))
      (fun member => named (List.mem_cons_of_mem p member)) free.tail (place + 1)
    refine ⟨u, ?_, same.trans sameLater, ?_⟩
    · unfold samplepacketUpdateObjectOnPortlist
      rw [granted [place], added]
      dsimp only
      rw [inserted]
      exact later
    · rw [SampleFlows.add_cons]
      exact all

theorem samplepacketUpdateObjectOnPortlist_dead (direction : SampleDirection) (env : SampleEnv)
    (dead : s.sessions.sessionTree.get id = none) (some : list ≠ []) (place : Nat)
    (rc : SaiStatus) : ∃ error, error ≠ SaiStatus.success ∧
      samplepacketUpdateObjectOnPortlist id direction env s place rc list = (s, error) := by
  cases list with
  | nil => exact absurd rfl some
  | cons p rest =>
    have refused : ∃ error, error ≠ SaiStatus.success ∧
        samplepacketSessionPortAdd s.sessions id p direction .flowBased (env [place]).add = (s.sessions, error) := by
      unfold samplepacketSessionPortAdd
      split
      · exact ⟨.invalidObjectType, by decide, rfl⟩
      · rw [dead]
        exact ⟨.invalidObjectId, by decide, rfl⟩
    obtain ⟨error, isError, added⟩ := refused
    refine ⟨error, isError, ?_⟩
    simp only [samplepacketUpdateObjectOnPortlist, added]

theorem SampledFlows.removePort (sampled : SampledFlows s n) (named : p ≠ nullObjectId)
    (used : 0 < n id direction p) :
    ∃ sessions, samplepacketSessionPortRemove s.sessions id p direction .flowBased .success =
        (sessions, if n id direction p = 1 then .success else .objectInUse) ∧
      s.SameSessions { s with sessions := sessions } ∧
      SampledFlows ⟨sessions, if n id direction p = 1 then s.aclInfo.del ⟨p, id, direction⟩ else s.aclInfo,
        s.portList⟩ (n.sub id direction [p]) := by
  obtain ⟨session, stored⟩ := sampled.live used
  obtain ⟨portTree, tree, removed⟩ := sampled.portRemove stored used
  have flows := n.sub_singleton id direction p
  refine ⟨_, removed, SampleAcl.sameSessions_putPorts stored portTree s.aclInfo, ?_⟩
  refine sampled.write stored named flows tree ?_ (fun key other => ?_)
    fun _ id' used' => sampled.single p direction id' id used' used
  · split
    · rename_i last
      rw [KeyTree.get_del_self, last]
      exact iff_of_false (not_not_intro rfl) (lt_irrefl 0)
    · exact iff_of_true ((sampled.entries p named id direction).mpr used) (by omega)
  · split
    · exact KeyTree.get_del_ne other
    · rfl

/-- A removal, granted: a status other than the given one comes from the last
port that is counted. -/
theorem SampledFlows.removeLoop {env : SampleEnv} (granted : env.grants) (sampled : SampledFlows s n)
    (id : ObjectId) (direction : SampleDirection) (named : nullObjectId ∉ list) (place : Nat) (rc : SaiStatus) :
    ∃ t rc', samplepacketRemoveObjectLoop id direction env s place rc list = (t, rc') ∧
      s.SameSessions t ∧ SampledFlows t (n.sub id direction list) ∧
      ((∀ p ∈ list, n id direction p = 0) → t = s ∧ rc' = rc) ∧
      ((∀ p, list.count p ≤ n id direction p) →
        (∀ p, list.getLast? = some p → n id direction p = list.count p) → (list = [] → rc = .success) →
          rc' = .success) := by
  induction list generalizing s n place rc with
  | nil => exact ⟨s, rc, rfl, .refl s, by rw [SampleFlows.sub_nil]; exact sampled, fun _ => ⟨rfl, rfl⟩,
      fun _ _ ok => ok rfl⟩
  | cons p rest ih =>
    have notNull : p ≠ nullObjectId := fun same => named (same ▸ List.mem_cons_self)
    have restNamed : nullObjectId ∉ rest := fun member => named (List.mem_cons_of_mem p member)
    have entry := sampled.entries p notNull id direction
    rw [SampleFlows.sub_cons]
    by_cases used : 0 < n id direction p
    · obtain ⟨sessions, removed, same, counted⟩ := sampled.removePort notNull used
      obtain ⟨present, found⟩ := Option.ne_none_iff_exists'.mp (entry.mpr used)
      obtain ⟨t, rc', walked, sameLater, all, _, last⟩ := ih counted restNamed (place + 1)
        (if n id direction p = 1 then .success else .objectInUse)
      refine ⟨t, rc', ?_, same.trans sameLater, all, fun none => ?_, fun has ends _ => last (fun q => ?_) ?_ ?_⟩
      · rw [← walked]
        simp only [samplepacketRemoveObjectLoop, found, granted [place], removed]
        by_cases one : n id direction p = 1
        · simp only [one, if_true]
        · simp only [one, if_false]
      · have zero := none p List.mem_cons_self
        omega
      · have before := has q
        rw [List.count_cons] at before
        rw [SampleFlows.sub_singleton]
        split
        · rename_i here
          rw [here.2.2] at before ⊢
          rw [beq_self_eq_true, if_pos rfl] at before
          omega
        · omega
      · intro q isLast
        have ending := ends q (by rw [List.getLast?_cons, isLast]; rfl)
        rw [List.count_cons] at ending
        rw [SampleFlows.sub_singleton]
        by_cases same : q = p
        · rw [same] at ending ⊢
          rw [if_pos ⟨rfl, rfl, rfl⟩, ending, beq_self_eq_true, if_pos rfl]
          exact Nat.add_sub_cancel _ _
        · rw [if_neg fun all => same all.2.2, ending, beq_eq_false_iff_ne.mpr fun eq => same eq.symm]
          rfl
      · intro isEmpty
        have ending := ends p (by rw [isEmpty]; rfl)
        rw [isEmpty, List.count_singleton_self] at ending
        rw [if_pos ending]
    · have unused : n id direction p = 0 := by omega
      have absent : s.aclInfo.get ⟨p, id, direction⟩ = none := by
        by_contra present
        exact used (entry.mp present)
      have same : n.sub id direction [p] = n := by
        funext id' direction' q
        rw [SampleFlows.sub_singleton]
        split
        · rename_i here
          rw [here.1, here.2.1, here.2.2, unused]
        · rfl
      rw [same]
      obtain ⟨t, rc', walked, sessions, counted, idle, last⟩ := ih sampled restNamed (place + 1) rc
      refine ⟨t, rc', ?_, sessions, counted, fun none => idle fun q member => none q (List.mem_cons_of_mem p member),
        fun has => ?_⟩
      · unfold samplepacketRemoveObjectLoop
        rw [absent]
        exact walked
      · have positive := has p
        rw [List.count_cons_self] at positive
        omega

end Ports

/-- The ports that a list names, NULL naming all. -/
def SampleAcl.ports (s : SampleAcl) (portlist : Option (List ObjectId)) : List ObjectId := portlist.getD s.portList

/-- The session can be applied on the ports of a list. -/
def SampleAcl.Attachable (s : SampleAcl) (id : ObjectId) (direction : SampleDirection)
    (portlist : Option (List ObjectId)) : Prop :=
  portlist = some [] ∨ s.sessions.sessionTree.get id ≠ none ∧ s.ports portlist ≠ [] ∧
    samplepacketValidateObjectOnPortlist s id direction (s.ports portlist) = .success

section Objects
variable {s : SampleAcl} {n : SampleFlows} {id : ObjectId} {direction : SampleDirection} {env : SampleEnv}
  {portlist : Option (List ObjectId)}

theorem SampledFlows.null_unused (sampled : SampledFlows s n) (direction : SampleDirection) (p : ObjectId) :
    n nullObjectId direction p = 0 := by
  refine sampled.absent nullObjectId ?_ direction p
  by_contra live
  have kind := sampled.typed nullObjectId live
  cases kind

variable (id direction) in
theorem SampledFlows.isSame_iff (sampled : SampledFlows s n) {p : ObjectId} (named : p ≠ nullObjectId) :
    samplepacketAclIsSameSampleOnPort s id direction p = .success ↔ ∀ id', 0 < n id' direction p → id' = id := by
  have noEntry : s.aclInfo.get ⟨p, nullObjectId, direction⟩ = none := by
    by_contra present
    have used := (sampled.entries p named nullObjectId direction).mp present
    rw [sampled.null_unused] at used
    omega
  unfold samplepacketAclIsSameSampleOnPort
  rw [noEntry]
  dsimp only
  split
  · rename_i conflict
    refine iff_of_false (fun same => by cases same) fun free => ?_
    obtain ⟨key, entry, found, isIt⟩ := KeyTree.exists_of_tally conflict
    simp only [Bool.and_eq_true, beq_iff_eq, bne_iff_ne, ne_eq] at isIt
    obtain ⟨⟨samePort, other⟩, sameDirection⟩ := isIt
    refine other (free key.sampleObject ((sampled.entries p named key.sampleObject direction).mp ?_))
    rw [← samePort, ← sameDirection, found]
    exact Option.some_ne_none _
  · rename_i clear
    refine iff_of_true rfl fun id' used => ?_
    by_contra other
    obtain ⟨entry, found⟩ := Option.ne_none_iff_exists'.mp ((sampled.entries p named id' direction).mpr used)
    refine clear (KeyTree.tally_pos found ?_)
    simp only [beq_self_eq_true, Bool.true_and, Bool.and_true, bne_iff_ne, ne_eq]
    exact other

theorem SampledFlows.validate_iff (sampled : SampledFlows s n) (named : nullObjectId ∉ list) :
    samplepacketValidateObjectOnPortlist s id direction list = .success ↔ n.Free id direction list := by
  induction list with
  | nil => exact iff_of_true rfl fun _ member => (List.not_mem_nil member).elim
  | cons p rest ih =>
    have notNull : p ≠ nullObjectId := fun same => named (same ▸ List.mem_cons_self)
    have here := sampled.isSame_iff id direction notNull
    have later := ih fun member => named (List.mem_cons_of_mem p member)
    unfold samplepacketValidateObjectOnPortlist SampleFlows.Free
    split
    · rename_i isSame
      rw [later]
      constructor
      · intro free q member
        rcases List.mem_cons.mp member with rfl | tail
        · exact here.mp isSame
        · exact free q tail
      · exact fun free q member => free q (List.mem_cons_of_mem p member)
    · rename_i refused
      exact iff_of_false refused fun free => refused (here.mpr (free p List.mem_cons_self))

theorem SampledFlows.entryNull (sampled : SampledFlows s n)
    (others : ∀ key, key.portId ≠ nullObjectId → aclInfo.get key = s.aclInfo.get key) :
    SampledFlows { s with aclInfo := aclInfo } n := by
  refine ⟨sampled.typed, sampled.nodes, sampled.absent, fun p named id direction => ?_, sampled.noNull,
    sampled.single⟩
  dsimp only
  rw [others ⟨p, id, direction⟩ named]
  exact sampled.entries p named id direction

variable (id direction) in
theorem SampledFlows.insertNull (sampled : SampledFlows s n) :
    ∃ t, samplepacketCheckAndInsertAclInfo s id direction nullObjectId true = (t, .success) ∧ s.SameSessions t ∧
      SampledFlows t n := by
  unfold samplepacketCheckAndInsertAclInfo
  split
  · exact ⟨s, rfl, .refl s, sampled⟩
  refine ⟨_, rfl, ⟨rfl, fun _ => Iff.rfl⟩, sampled.entryNull fun key named => ?_⟩
  refine KeyTree.get_put_ne fun same => named ?_
  rw [same]

theorem SampledFlows.attach (granted : env.grants) (sampled : SampledFlows s n)
    (live : s.sessions.sessionTree.get id ≠ none) (some : s.ports portlist ≠ [])
    (named : nullObjectId ∉ s.ports portlist) (free : n.Free id direction (s.ports portlist)) (validate : Bool) :
    ∃ t, samplepacketValidateObject s id direction env portlist validate true = (t, .success) ∧ s.SameSessions t ∧
      SampledFlows t (n.add id direction (s.ports portlist)) := by
  have valid : (if validate = true then
      samplepacketValidateObjectOnPortlist s id direction (s.ports portlist) else .success) = .success := by
    split
    · exact (sampled.validate_iff named).mpr free
    · rfl
  have subGranted : (env.sub 1).grants := fun path => granted (1 :: path)
  obtain ⟨t, updated, same, counted⟩ := sampled.updateLoop subGranted live named free 0
  cases portlist with
  | some list =>
    refine ⟨t, ?_, same, counted⟩
    change (if validate = true then samplepacketValidateObjectOnPortlist s id direction list else .success) =
      .success at valid
    change samplepacketUpdateObjectOnPortlist id direction (env.sub 1) s 0 .success list = (t, .success) at updated
    simp only [samplepacketValidateObject, Bool.true_eq_false, and_false, if_false, valid, updated]
  | none =>
    change (if validate = true then samplepacketValidateObjectOnPortlist s id direction s.portList else .success) =
      .success at valid
    change samplepacketUpdateObjectOnPortlist id direction (env.sub 1) s 0 .success s.portList = (t, .success)
      at updated
    obtain ⟨u, inserted, sameNull, kept⟩ := counted.insertNull id direction
    refine ⟨u, ?_, same.trans sameNull, kept⟩
    have somePorts : s.portList ≠ [] := some
    simp only [samplepacketValidateObject, granted [0], granted [2], Bool.true_eq_false, and_false, if_false,
      somePorts, valid, updated, inserted]

section
variable (granted : env.grants)
include granted

theorem samplepacketValidateObject_dead (dead : s.sessions.sessionTree.get id = none)
    (some : s.ports portlist ≠ []) (validate : Bool) : ∃ error, error ≠ SaiStatus.success ∧
      samplepacketValidateObject s id direction env portlist validate true = (s, error) := by
  obtain ⟨error, isError, updated⟩ :=
    samplepacketUpdateObjectOnPortlist_dead direction (env.sub 1) dead some 0 .success
  cases portlist with
  | some list =>
    change samplepacketUpdateObjectOnPortlist id direction (env.sub 1) s 0 .success list = (s, error) at updated
    unfold samplepacketValidateObject
    simp only [Bool.true_eq_false, and_false, if_false, updated]
    split
    · exact ⟨error, isError, rfl⟩
    · rename_i refused
      exact ⟨_, refused, rfl⟩
  | none =>
    have somePorts : s.portList ≠ [] := some
    change samplepacketUpdateObjectOnPortlist id direction (env.sub 1) s 0 .success s.portList = (s, error) at updated
    unfold samplepacketValidateObject
    simp only [granted [0], Bool.true_eq_false, and_false, if_false, somePorts, updated]
    split
    · exact ⟨error, isError, rfl⟩
    · rename_i refused
      exact ⟨_, refused, rfl⟩

theorem samplepacketValidateObject_conflict
    (conflict : samplepacketValidateObjectOnPortlist s id direction (s.ports portlist) ≠ .success) (update : Bool) :
    ∃ error, error ≠ SaiStatus.success ∧
      samplepacketValidateObject s id direction env portlist true update = (s, error) := by
  cases portlist with
  | some list =>
    change samplepacketValidateObjectOnPortlist s id direction list ≠ .success at conflict
    refine ⟨_, conflict, ?_⟩
    unfold samplepacketValidateObject
    simp only [Bool.true_eq_false, false_and, if_false, if_true]
  | none =>
    change samplepacketValidateObjectOnPortlist s id direction s.portList ≠ .success at conflict
    have somePorts : s.portList ≠ [] := fun isEmpty => conflict (by rw [isEmpty]; rfl)
    refine ⟨_, conflict, ?_⟩
    unfold samplepacketValidateObject
    simp only [granted [0], Bool.true_eq_false, false_and, if_false, if_true, somePorts]

theorem samplepacketValidateObject_refused (refused : ¬ s.Attachable id direction portlist) :
    ∃ error, error ≠ SaiStatus.success ∧
      samplepacketValidateObject s id direction env portlist true true = (s, error) := by
  obtain ⟨notEmpty, cannot⟩ := not_or.mp refused
  by_cases some : s.ports portlist = []
  · cases portlist with
    | some list => exact absurd (congrArg Option.some some) notEmpty
    | none =>
      refine ⟨.failure, by decide, ?_⟩
      have noPorts : s.portList = [] := some
      unfold samplepacketValidateObject
      simp only [granted [0], Bool.true_eq_false, false_and, if_false, if_true, noPorts]
  · cases dead : s.sessions.sessionTree.get id with
    | none => exact samplepacketValidateObject_dead granted dead some true
    | some session =>
      refine samplepacketValidateObject_conflict granted (fun valid => cannot ⟨?_, some, valid⟩) true
      rw [dead]
      exact Option.some_ne_none _

theorem samplepacketValidateObject_validate : samplepacketValidateObject s id direction env portlist true false =
      (s, if portlist = none ∧ s.portList = [] then .failure
        else samplepacketValidateObjectOnPortlist s id direction (s.ports portlist)) := by
  cases portlist with
  | some list =>
    have listed : s.ports (some list) = list := rfl
    unfold samplepacketValidateObject
    simp only [Bool.true_eq_false, false_and, if_false, if_true, listed, reduceCtorEq]
    split
    · rename_i valid
      rw [valid]
    · rfl
  | none =>
    have listed : s.ports none = s.portList := rfl
    unfold samplepacketValidateObject
    simp only [granted [0], Bool.true_eq_false, false_and, if_false, if_true, listed, true_and]
    split
    · rfl
    split
    · rename_i valid
      rw [valid]
    · rfl

end

theorem SampledFlows.detach (sampled : SampledFlows s n) (id : ObjectId) (direction : SampleDirection)
    (granted : env.grants) (named : nullObjectId ∉ s.ports portlist) :
    ∃ t rc, samplepacketRemoveObject s id direction env portlist = (t, rc) ∧ s.SameSessions t ∧
      SampledFlows t (n.sub id direction (s.ports portlist)) ∧
      ((∀ p ∈ s.ports portlist, n id direction p = 0) → rc = .success) ∧
      ((∀ p, (s.ports portlist).count p ≤ n id direction p) →
        (∀ p, (s.ports portlist).getLast? = some p → n id direction p = (s.ports portlist).count p) →
          rc = .success) := by
  cases portlist with
  | some list =>
    obtain ⟨t, rc, removed, same, counted, idle, last⟩ := sampled.removeLoop granted id direction named 0
      .success
    exact ⟨t, rc, removed, same, counted, fun none => (idle none).2, fun has ends => last has ends fun _ => rfl⟩
  | none =>
    have kept : SampledFlows { s with aclInfo := s.aclInfo.del ⟨nullObjectId, id, direction⟩ } n := by
      refine sampled.entryNull fun key named => KeyTree.get_del_ne fun same => named ?_
      rw [same]
    obtain ⟨t, rc, removed, same, counted, idle, last⟩ := kept.removeLoop granted id direction named 0
      .success
    exact ⟨t, rc, removed, same, counted, fun none => (idle none).2, fun has ends => last has ends fun _ => rfl⟩

end Objects
end SaiCommon
