import SaiCommon.Fib.Consistent

namespace SaiCommon

open KeyTree

variable {s : FibState} {p : Platform}

/-- What a route may hold: an owned next hop or a group with an id. -/
def RouteTarget (s : FibState) : RouteNh → Prop
  | .none => True
  | .nextHop ref => fibIsOwnerNextHop s ref = true
  | .group group => ∃ id, s.nhGroupTree.get id = some group

def routeTargetCount (s : FibState) : RouteNh → Option Nat
  | .none => none
  | .nextHop ref => (s.nhTree.get ref).map Nh.refCount
  | .group group => (s.groups.get group).map NhGroup.refCount

def routesTo (routeTree : KeyTree RouteKey Route) (nhInfo : RouteNh) : Nat :=
  routeTree.tally fun _ route => route.nhInfo = nhInfo

def Nh.uncounted (node : Nh) : Nh := { node with refCount := 0 }

def NhGroup.uncounted (node : NhGroup) : NhGroup := { node with refCount := 0 }

structure FibCountsOnly (s t : FibState) : Prop where
  frame : ∃ nhTree groups, t = { s with nhTree := nhTree, groups := groups }
  nhs : ∀ ref, (t.nhTree.get ref).map Nh.uncounted = (s.nhTree.get ref).map Nh.uncounted
  groups : ∀ group, (t.groups.get group).map NhGroup.uncounted = (s.groups.get group).map NhGroup.uncounted

section Count
variable {t u : FibState}

theorem FibCountsOnly.refl (s : FibState) : FibCountsOnly s s :=
  ⟨⟨s.nhTree, s.groups, rfl⟩, fun _ => rfl, fun _ => rfl⟩

theorem FibCountsOnly.trans (first : FibCountsOnly s t) (second : FibCountsOnly t u) : FibCountsOnly s u := by
  refine ⟨?_, fun ref => (second.nhs ref).trans (first.nhs ref), fun g => (second.groups g).trans (first.groups g)⟩
  obtain ⟨_, _, rfl⟩ := first.frame
  obtain ⟨nhTree, groups, rfl⟩ := second.frame
  exact ⟨nhTree, groups, rfl⟩

theorem FibCountsOnly.nh {W : Type} (only : FibCountsOnly s t) (read : Nh → W)
    (blind : ∀ node, read (Nh.uncounted node) = read node) (ref : NhRef) :
    (t.nhTree.get ref).map read = (s.nhTree.get ref).map read := by
  have same := congrArg (Option.map read) (only.nhs ref)
  rw [Option.map_map, Option.map_map] at same
  rwa [show read ∘ Nh.uncounted = read from funext blind] at same

theorem FibCountsOnly.group {W : Type} (only : FibCountsOnly s t) (read : NhGroup → W)
    (blind : ∀ node, read (NhGroup.uncounted node) = read node) (group : GroupPtr) :
    (t.groups.get group).map read = (s.groups.get group).map read := by
  have same := congrArg (Option.map read) (only.groups group)
  rw [Option.map_map, Option.map_map] at same
  rwa [show read ∘ NhGroup.uncounted = read from funext blind] at same

theorem FibCountsOnly.owners (only : FibCountsOnly s t) (ref : NhRef) :
    fibIsOwnerNextHop t ref = fibIsOwnerNextHop s ref := by
  rw [fibIsOwnerNextHop_eq, fibIsOwnerNextHop_eq]
  refine congrArg (Option.getD · false) (only.nh (fun node => node.ownerFlag.nextHop) ?_ ref)
  exact fun _ => rfl

/-- What both updates of a route's target do: its count is `change` of what it was. -/
def FibState.changeTarget (s : FibState) (route : Route) (change : Nat → Nat) : FibState :=
  match route.nhInfo with
  | .nextHop ref => s.modifyNh ref fun node => { node with refCount := change node.refCount }
  | .group group => s.modifyGroup group fun node => { node with refCount := change node.refCount }
  | .none => s

theorem fibRouteNhRefCountIncr_change (s : FibState) (route : Route) :
    fibRouteNhRefCountIncr s route = s.changeTarget route (· + 1) := rfl

theorem fibRouteNhRefCountDecr_change (s : FibState) (route : Route) :
    fibRouteNhRefCountDecr s route = s.changeTarget route (· - 1) := rfl

theorem changeTarget_only (s : FibState) (route : Route) (change : Nat → Nat) :
    FibCountsOnly s (s.changeTarget route change) := by
  unfold FibState.changeTarget
  split
  · refine ⟨⟨_, s.groups, rfl⟩, map_get_modify ?_, fun _ => rfl⟩
    exact fun _ => rfl
  · refine ⟨⟨s.nhTree, _, rfl⟩, fun _ => rfl, map_get_modify ?_⟩
    exact fun _ => rfl
  · exact .refl s

theorem fibRouteNhRefCountIncr_only (s : FibState) (route : Route) :
    FibCountsOnly s (fibRouteNhRefCountIncr s route) :=
  changeTarget_only s route (· + 1)

theorem fibRouteNhRefCountDecr_only (s : FibState) (route : Route) :
    FibCountsOnly s (fibRouteNhRefCountDecr s route) :=
  changeTarget_only s route (· - 1)

theorem fibRouteNhRefCountIncr_put (s : FibState) (route : Route) (routeTree : KeyTree RouteKey Route) :
    fibRouteNhRefCountIncr { s with routeTree := routeTree } route =
      { fibRouteNhRefCountIncr s route with routeTree := routeTree } := by
  unfold fibRouteNhRefCountIncr
  cases route.nhInfo <;> rfl

theorem routeTargetCount_change (s : FibState) (route : Route) (change : Nat → Nat) (nhInfo : RouteNh) :
    routeTargetCount (s.changeTarget route change) nhInfo =
      (routeTargetCount s nhInfo).map fun n => if route.nhInfo = nhInfo then change n else n := by
  unfold FibState.changeTarget
  cases nhInfo with
  | none => split <;> rfl
  | nextHop ref =>
    split
    · rename_i other held
      simp only [routeTargetCount, FibState.modifyNh, held, get_modify, RouteNh.nextHop.injEq, eq_comm]
      split
      · rw [Option.map_map, Option.map_map]
        rfl
      · simp only [Option.map_id']
    · rename_i held
      simp only [routeTargetCount, FibState.modifyGroup, held, reduceCtorEq, if_false, Option.map_id']
    · rename_i held
      simp only [routeTargetCount, held, reduceCtorEq, if_false, Option.map_id']
  | group group =>
    split
    · rename_i held
      simp only [routeTargetCount, FibState.modifyNh, held, reduceCtorEq, if_false, Option.map_id']
    · rename_i other held
      simp only [routeTargetCount, FibState.modifyGroup, held, get_modify, RouteNh.group.injEq, eq_comm]
      split
      · rw [Option.map_map, Option.map_map]
        rfl
      · simp only [Option.map_id']
    · rename_i held
      simp only [routeTargetCount, held, reduceCtorEq, if_false, Option.map_id']

theorem routeTargetCount_incr (s : FibState) (route : Route) (nhInfo : RouteNh) :
    routeTargetCount (fibRouteNhRefCountIncr s route) nhInfo =
      (routeTargetCount s nhInfo).map fun n => n + if route.nhInfo = nhInfo then 1 else 0 := by
  rw [fibRouteNhRefCountIncr_change, routeTargetCount_change]
  split <;> rfl

theorem routeTargetCount_decr (s : FibState) (route : Route) (nhInfo : RouteNh) :
    routeTargetCount (fibRouteNhRefCountDecr s route) nhInfo =
      (routeTargetCount s nhInfo).map fun n => n - if route.nhInfo = nhInfo then 1 else 0 := by
  rw [fibRouteNhRefCountDecr_change, routeTargetCount_change]
  split <;> rfl

theorem FibCounts.routed (counts : FibCounts s) {nhInfo : RouteNh} {n : Nat}
    (found : routeTargetCount s nhInfo = some n) : n = routesTo s.routeTree nhInfo := by
  cases nhInfo with
  | none => cases found
  | nextHop ref => exact counts.nhRef ref n found
  | group group => exact counts.groupRef group n found

theorem FibCounts.target (counts : FibCounts s) {key : RouteKey} {route : Route}
    (stored : s.routeTree.get key = some route) : RouteTarget s route.nhInfo := by
  have named : (s.routeTree.get key).map Route.nhInfo = some route.nhInfo := by rw [stored, Option.map_some]
  cases held : route.nhInfo with
  | none => trivial
  | nextHop ref =>
    rw [held] at named
    exact counts.routeNh key ref named
  | group group =>
    rw [held] at named
    exact counts.routeGroup key group named

theorem FibConsistent.reroute (consistent : FibConsistent s) (routeTree : KeyTree RouteKey Route)
    (only : FibCountsOnly s t)
    (exact : ∀ nhInfo n, routeTargetCount t nhInfo = some n → n = routesTo routeTree nhInfo)
    (targets : ∀ key route, routeTree.get key = some route →
      s.vrfTree.get key.vrfId ≠ none ∧ RouteTarget s route.nhInfo) :
    FibConsistent { t with routeTree := routeTree } := by
  obtain ⟨names, counts, members⟩ := consistent
  have owners := only.owners
  have nhIds : ∀ ref, fibNhNextHopId t ref = fibNhNextHopId s ref := by
    intro ref
    rw [fibNhNextHopId_eq, fibNhNextHopId_eq]
    exact congrArg (Option.getD · nullObjectId) (only.nh Nh.nextHopId (fun _ => rfl) ref)
  have groupIds := only.group NhGroup.groupId fun _ => rfl
  have stored : ∀ ref, t.nhTree.get ref = none ↔ s.nhTree.get ref = none := by
    intro ref
    rw [← Option.map_eq_none_iff (f := Nh.uncounted), only.nhs, Option.map_eq_none_iff]
  have nhLinks : ∀ ref, nhGroupLinks t ref = nhGroupLinks s ref := by
    intro ref
    rw [nhGroupLinks_eq, nhGroupLinks_eq]
    exact congrArg (Option.getD · []) (only.nh Nh.nhGroupList (fun _ => rfl) ref)
  have groupLinks : ∀ g, groupNhLinks t g = groupNhLinks s g := by
    intro g
    rw [groupNhLinks_eq, groupNhLinks_eq]
    exact congrArg (Option.getD · []) (only.group NhGroup.nhList (fun _ => rfl) g)
  have groupCounts : ∀ g, fibNhGroupCount t g = fibNhGroupCount s g := by
    intro g
    rw [fibNhGroupCount_eq, fibNhGroupCount_eq]
    exact congrArg (Option.getD · 0) (only.group NhGroup.nhCount (fun _ => rfl) g)
  have rifRefs : ∀ rifId, (t.nhTree.tally fun ref _ => ref.key.rifId = rifId) =
      s.nhTree.tally fun ref _ => ref.key.rifId = rifId := by
    intro rifId
    refine tally_congr_get fun ref => ?_
    exact only.nh (fun _ => decide (ref.key.rifId = rifId)) (fun _ => rfl) ref
  obtain ⟨nhTree, groups, rfl⟩ := only.frame
  refine ⟨names.congr owners nhIds rfl groupIds rfl, ⟨counts.rifVrf, counts.numRif, ?_, ?_, ?_, ?_, ?_, ?_, ?_⟩,
    members.congr owners nhLinks groupLinks groupCounts⟩
  · intro ref there
    exact counts.nhRif ref fun absent => there ((stored ref).mpr absent)
  · intro rifId n found
    exact (counts.rifRef rifId n found).trans (rifRefs rifId).symm
  · exact fun ref n found => exact (.nextHop ref) n found
  · exact fun group n found => exact (.group group) n found
  · intro key there
    obtain ⟨route, found⟩ := Option.ne_none_iff_exists'.mp there
    exact (targets key route found).1
  · intro key ref named
    obtain ⟨route, found, held⟩ := Option.map_eq_some_iff.mp named
    have target := (targets key route found).2
    rw [held] at target
    exact (owners ref).trans target
  · intro key group named
    obtain ⟨route, found, held⟩ := Option.map_eq_some_iff.mp named
    have target := (targets key route found).2
    rw [held] at target
    exact target

end Count

section Parse
variable {metaRange : Except SaiStatus (BitVec 32 × BitVec 32)}

theorem fibRouteAttrSet_target {route next : Route} {attr : RouteAttr} (names : FibNames s)
    (target : RouteTarget s route.nhInfo) (run : fibRouteAttrSet p s metaRange route attr = .ok next) :
    RouteTarget s next.nhInfo := by
  cases attr with
  | nextHopId oid =>
    simp only [fibRouteAttrSet] at run
    split at run
    · unfold fibRouteNhIdAttrSet at run
      split at run
      · cases run
      rename_i ref found
      cases run
      exact names.owned oid ref found
    · split at run
      · unfold fibRouteNhGrpIdAttrSet at run
        split at run
        · cases run
        rename_i group found
        cases run
        exact ⟨oid, found⟩
      · cases run
  | packetAction pktAction =>
    simp only [fibRouteAttrSet] at run
    split at run <;> cases run
    exact target
  | trapPriority value =>
    cases run
    exact target
  | metaData value =>
    simp only [fibRouteAttrSet] at run
    split at run
    · cases run
    · split at run <;> cases run
      exact target
  | other => cases run

theorem fibRouteAttributesLoop_target (names : FibNames s) (attrs : List RouteAttr) :
    ∀ (listIdx : Nat) (route parsed : Route), RouteTarget s route.nhInfo →
      fibRouteAttributesLoop p s metaRange attrs listIdx route = .ok parsed → RouteTarget s parsed.nhInfo := by
  induction attrs with
  | nil =>
    intro listIdx route parsed target run
    cases run
    exact target
  | cons attr rest ih =>
    intro listIdx route parsed target run
    unfold fibRouteAttributesLoop at run
    split at run
    · cases run
    · rename_i next set
      exact ih _ _ _ (fibRouteAttrSet_target names target set) run

theorem fibRouteAttributesParse_target (route : Route) {parsed : Route} {attrs : List RouteAttr} (names : FibNames s)
    (target : RouteTarget s route.nhInfo)
    (run : fibRouteAttributesParse p s metaRange route attrs = .ok parsed) : RouteTarget s parsed.nhInfo := by
  unfold fibRouteAttributesParse at run
  split at run
  · cases run
  rename_i loop
  split at run <;> cases run
  exact fibRouteAttributesLoop_target names attrs _ _ _ target loop

end Parse

section Calls

theorem FibConsistent.routeCreate (consistent : FibConsistent s) (entry : RouteEntry) (attrs : List RouteAttr)
    (env : RouteCreateEnv) : FibConsistent (fibRouteCreate p s entry attrs env).1 := by
  unfold fibRouteCreate
  split
  · split
    · exact consistent
    rename_i vrf known
    split
    · exact consistent
    rename_i absent
    split
    · exact consistent
    split
    · exact consistent
    rename_i route parsed
    split
    · split
      · exact consistent
      have target : RouteTarget s route.nhInfo :=
        fibRouteAttributesParse_target fibRouteNodeInit consistent.names trivial parsed
      have counted := consistent.reroute (s.routeTree.put (fibRouteKey p entry) route)
        (fibRouteNhRefCountIncr_only s route) ?_ ?_
      · show FibConsistent (fibRouteNhRefCountIncr
          { s with routeTree := s.routeTree.put (fibRouteKey p entry) route } route)
        rw [fibRouteNhRefCountIncr_put]
        exact counted
      · intro nhInfo n found
        rw [routeTargetCount_incr] at found
        obtain ⟨k, old, grown⟩ := Option.map_eq_some_iff.mp found
        have exact := consistent.counts.routed old
        unfold routesTo at exact ⊢
        rw [tally_put_new absent]
        simp only [decide_eq_true_eq]
        omega
      · intro key other found
        rw [get_put] at found
        split at found
        · rename_i here
          cases found
          refine ⟨?_, target⟩
          have vrfId : key.vrfId = entry.vrId := by
            rw [here]
            unfold fibRouteKey
            split <;> rfl
          rw [vrfId, show s.vrfTree.get entry.vrId = some vrf from known]
          exact Option.some_ne_none vrf
        · exact ⟨consistent.counts.routeVrf key (by rw [found]; exact Option.some_ne_none other),
            consistent.counts.target found⟩
    · exact consistent
  · exact consistent

theorem FibConsistent.routeRemove (consistent : FibConsistent s) (entry : RouteEntry) (npu : SaiStatus) :
    FibConsistent (fibRouteRemove p s entry npu).1 := by
  unfold fibRouteRemove
  split
  · split
    · exact consistent
    split
    · exact consistent
    rename_i route stored
    split
    · have routes : (fibRouteNhRefCountDecr s route).routeTree = s.routeTree := by
        obtain ⟨_, _, frame⟩ := (fibRouteNhRefCountDecr_only s route).frame
        rw [frame]
      simp only [routes]
      refine consistent.reroute _ (fibRouteNhRefCountDecr_only s route) ?_ ?_
      · intro nhInfo n found
        rw [routeTargetCount_decr] at found
        obtain ⟨k, old, shrunk⟩ := Option.map_eq_some_iff.mp found
        have exact := consistent.counts.routed old
        have taken := tally_del_old (p := fun _ (route : Route) => decide (route.nhInfo = nhInfo)) stored
        simp only [decide_eq_true_eq] at taken
        unfold routesTo at exact ⊢
        omega
      · intro key other found
        replace found := get_of_del found
        exact ⟨consistent.counts.routeVrf key (by rw [found]; exact Option.some_ne_none other),
          consistent.counts.target found⟩
    · exact consistent
  · exact consistent

theorem FibConsistent.routeAttributeSet (consistent : FibConsistent s) (entry : RouteEntry) (attr : RouteAttr)
    (env : RouteSetEnv) : FibConsistent (fibRouteAttributeSet p s entry attr env).1 := by
  unfold fibRouteAttributeSet
  split
  · split
    · exact consistent
    split
    · exact consistent
    rename_i route stored
    split
    · exact consistent
    rename_i parsed run
    split
    · have target := fibRouteAttributesParse_target _ consistent.names (consistent.counts.target stored) run
      have moved := (fibRouteNhRefCountDecr_only s route).trans
        (fibRouteNhRefCountIncr_only (fibRouteNhRefCountDecr s route) parsed)
      have targets : ∀ key other, (s.routeTree.put (fibRouteKey p entry) parsed).get key = some other →
          s.vrfTree.get key.vrfId ≠ none ∧ RouteTarget s other.nhInfo := by
        intro key other found
        rw [get_put] at found
        split at found
        · rename_i here
          cases found
          refine ⟨consistent.counts.routeVrf key ?_, target⟩
          rw [here, stored]
          exact Option.some_ne_none route
        · exact ⟨consistent.counts.routeVrf key (by rw [found]; exact Option.some_ne_none other),
            consistent.counts.target found⟩
      have put : ∀ nhInfo, (if route.nhInfo = nhInfo then 1 else 0) +
          routesTo (s.routeTree.put (fibRouteKey p entry) parsed) nhInfo =
          (if parsed.nhInfo = nhInfo then 1 else 0) + routesTo s.routeTree nhInfo := by
        intro nhInfo
        have replaced := tally_put_old (v := parsed)
          (p := fun _ (route : Route) => decide (route.nhInfo = nhInfo)) stored
        simp only [decide_eq_true_eq] at replaced
        exact replaced
      simp only
      split
      · rename_i same
        refine consistent.reroute _ (.refl s) (fun nhInfo n found => ?_) targets
        have exact := consistent.counts.routed found
        have moves := put nhInfo
        rw [same] at moves
        omega
      · have routes : (fibRouteNhRefCountIncr (fibRouteNhRefCountDecr s route) parsed).routeTree =
            s.routeTree := by
          obtain ⟨_, _, frame⟩ := moved.frame
          rw [frame]
        rw [routes]
        refine consistent.reroute _ moved (fun nhInfo n found => ?_) targets
        rw [routeTargetCount_incr, routeTargetCount_decr] at found
        obtain ⟨m, shrunk, grown⟩ := Option.map_eq_some_iff.mp found
        obtain ⟨k, old, less⟩ := Option.map_eq_some_iff.mp shrunk
        have exact := consistent.counts.routed old
        have moves := put nhInfo
        have held : (if route.nhInfo = nhInfo then 1 else 0) ≤ routesTo s.routeTree nhInfo := by
          split
          · rename_i same
            exact tally_pos (m := s.routeTree) (p := fun _ route => route.nhInfo = nhInfo) stored
              (decide_eq_true same)
          · exact Nat.zero_le _
        omega
    · exact consistent
  · exact consistent

end Calls
end SaiCommon
