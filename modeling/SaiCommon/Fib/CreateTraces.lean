import SaiCommon.Fib.NextHopGroupUndo
import SaiCommon.Fib.NodesOwned

namespace SaiCommon

open KeyTree

variable {result : Except SaiStatus NhRef} {attrs : List RouteAttr} {env : NextHopCreateEnv} {f : Nh → Nh}
  {s t : FibState} {p : Platform} {status error : SaiStatus} {info : NhInfo}

/-- The next hops and the routes of the NPU, one entry for each that it was told
to create. Its groups are in the state. -/
structure NpuObjects where
  nextHops : List ObjectId
  routes : List RouteKey
deriving DecidableEq

structure FibNpu where
  fib : FibState
  npu : NpuObjects

section Npu

/-- `nexthop_create`: a call that fails changes nothing. -/
def npuNexthopCreate (npu : NpuObjects) (nextHopId : ObjectId) (status : SaiStatus) : NpuObjects :=
  if status = .success then { npu with nextHops := nextHopId :: npu.nextHops } else npu

def npuNexthopRemove (npu : NpuObjects) (nextHopId : ObjectId) (status : SaiStatus) : NpuObjects :=
  if status = .success then { npu with nextHops := npu.nextHops.erase nextHopId } else npu

def npuRouteCreate (npu : NpuObjects) (key : RouteKey) (status : SaiStatus) : NpuObjects :=
  if status = .success then { npu with routes := key :: npu.routes } else npu

end Npu

section Creates
variable (p : Platform) (w : FibNpu)

def FibNpu.ipNextHopOwn (w : FibNpu) (ref : NhRef) (env : NextHopCreateEnv) : FibNpu × Except SaiStatus NhRef :=
  let owned := w.fib.modifyNh ref Nh.setOwnerNextHop
  let nextHopId : ObjectId := ⟨.nextHop, env.npuObjectId⟩
  let called := npuNexthopCreate w.npu nextHopId env.npu
  match env.npu with
  | .success => (⟨owned.modifyNh ref fun node => { node with nextHopId := nextHopId }, called⟩, .ok ref)
  | error =>
    (⟨(fibCheckAndDeleteIpNextHopNode (owned.modifyNh ref fibNextHopInfoReset) ref).1, called⟩, .error error)

def FibNpu.ipNextHopCreate (info : NhInfo) (env : NextHopCreateEnv) : FibNpu × Except SaiStatus NhRef :=
  match fibIpNextHopNodeGet w.fib info.ref.key.rifId info.ref.key.ipAddr with
  | some ref =>
    if fibIsOwnerNextHop w.fib ref then (w, .error .itemAlreadyExists) else w.ipNextHopOwn ref env
  | none =>
    match fibIpNextHopNodeCreate w.fib info env.node with
    | .error error => (w, .error error)
    | .ok t => FibNpu.ipNextHopOwn ⟨t, w.npu⟩ info.ref env

def FibNpu.ipNextHopRemove (ref : NhRef) (npu : SaiStatus) : FibNpu × SaiStatus :=
  if fibIsNextHopInNhGroup w.fib ref then (w, .failure)
  else
    let called := npuNexthopRemove w.npu (fibNhNextHopId w.fib ref) npu
    match npu with
    | .success =>
      (⟨(fibCheckAndDeleteIpNextHopNode (w.fib.modifyNh ref fibNextHopInfoReset) ref).1, called⟩, .success)
    | error => (⟨w.fib, called⟩, error)

def FibNpu.nextHopCreate (attrs : List NextHopAttr) (env : NextHopCreateEnv) : FibNpu × SaiStatus :=
  match fibNextHopInfoFill p w.fib (fibNextHopDefaultAttrSet nhInfoInit) attrs with
  | .error error => (w, error)
  | .ok info =>
    if info.ref.key.nhType = .ip then
      match w.ipNextHopCreate info env with
      | (made, .error error) => (made, error)
      | (made, .ok ref) =>
        match fibInsertNhNodeInNhIdDatabase made.fib ref env.idTreeOk with
        | (u, .success) => (⟨u, made.npu⟩, .success)
        | (u, error) => ((FibNpu.ipNextHopRemove ⟨u, made.npu⟩ ref env.npuRemove).1, error)
    else (w, .notSupported)

def FibNpu.nextHopGroupCreate (attrs : List NhGroupAttr) (alloc : NhGroupAllocEnv) (env : NhGroupCreateEnv) :
    FibNpu × SaiStatus :=
  let (t, status) := fibNextHopGroupCreate w.fib attrs alloc env
  (⟨t, w.npu⟩, status)

/-- `sai_fib_route_create` with what it does in the NPU: a tree that refuses the
route frees the node and leaves the NPU as it is. -/
def FibNpu.routeCreate (entry : RouteEntry) (attrs : List RouteAttr) (env : RouteCreateEnv) : FibNpu × SaiStatus :=
  match fibRouteInputParamsValidate entry attrs.length with
  | .success =>
    match fibVrfNodeGet w.fib entry.vrId with
    | none => (w, .invalidObjectId)
    | some _ =>
      match w.fib.routeTree.get (fibRouteKey p entry) with
      | some _ => (w, .itemAlreadyExists)
      | none =>
        if env.allocOk = false then (w, .noMemory)
        else match fibRouteAttributesParse p w.fib env.metaRange fibRouteNodeInit attrs with
          | .error error => (w, error)
          | .ok route =>
            let called := npuRouteCreate w.npu (fibRouteKey p entry) env.npu
            match env.npu with
            | .success =>
              if env.treeOk = false then (⟨w.fib, called⟩, .failure)
              else
                let inserted := { w.fib with routeTree := w.fib.routeTree.put (fibRouteKey p entry) route }
                (⟨fibRouteNhRefCountIncr inserted route, called⟩, .success)
            | error => (⟨w.fib, called⟩, error)
  | error => (w, error)

end Creates

inductive FibCreate
  | nextHopGroup (attrs : List NhGroupAttr) (alloc : NhGroupAllocEnv) (env : NhGroupCreateEnv)
  | nextHop (attrs : List NextHopAttr) (env : NextHopCreateEnv)
  | route (entry : RouteEntry) (attrs : List RouteAttr) (env : RouteCreateEnv)

def FibCreate.call : FibCreate → FibCall
  | .nextHopGroup attrs alloc env => .nextHopGroupCreate attrs alloc env
  | .nextHop attrs env => .nextHopCreate attrs env
  | .route entry attrs env => .routeCreate entry attrs env

def FibCreate.run (p : Platform) (w : FibNpu) : FibCreate → FibNpu × SaiStatus
  | .nextHopGroup attrs alloc env => w.nextHopGroupCreate attrs alloc env
  | .nextHop attrs env => w.nextHopCreate p attrs env
  | .route entry attrs env => w.routeCreate p entry attrs env

/-- What comes from outside makes sense: the NPU takes back what it is asked to
take back, and an error is not the status of a success. -/
def FibCreate.Answered : FibCreate → Prop
  | .nextHopGroup _ _ _ => True
  | .nextHop _ env => env.npuRemove = .success
  | .route _ _ env => env.metaRange ≠ .error .success

/-- The new object is in its tree and in the NPU. -/
def FibCreate.Found (p : Platform) (v : FibNpu) : FibCreate → Prop
  | .nextHopGroup _ alloc env => ∃ group, alloc.node = some group ∧
    v.fib.nhGroupTree.get ⟨.nextHopGroup, env.npuObjectId⟩ = some group ∧
    v.fib.npuGroups.members.get group ≠ none
  | .nextHop _ env => ∃ ref, v.fib.nhIdTree.get ⟨.nextHop, env.npuObjectId⟩ = some ref ∧
    v.fib.nhTree.get ref ≠ none ∧ ⟨.nextHop, env.npuObjectId⟩ ∈ v.npu.nextHops
  | .route entry _ _ => v.fib.routeTree.get (fibRouteKey p entry) ≠ none ∧ fibRouteKey p entry ∈ v.npu.routes

/-- The trees hold the same objects, the next hops are in the same groups, the
counters stand where they stood and the NPU holds what it held. -/
structure FibTraceless (w v : FibNpu) : Prop where
  vrfs : v.fib.vrfTree.keys = w.fib.vrfTree.keys
  rifs : v.fib.routerInterfaceTree.keys = w.fib.routerInterfaceTree.keys
  nextHops : v.fib.nhTree.keys = w.fib.nhTree.keys
  nextHopIds : v.fib.nhIdTree.keys = w.fib.nhIdTree.keys
  groupIds : v.fib.nhGroupTree.keys = w.fib.nhGroupTree.keys
  routes : v.fib.routeTree.keys = w.fib.routeTree.keys
  macEntries : v.fib.neighborMacTree.keys = w.fib.neighborMacTree.keys
  groupLists : ∀ ref, nhGroupLinks v.fib ref = nhGroupLinks w.fib ref
  nhCounts : ∀ ref, (v.fib.nhTree.get ref).map Nh.refCount = (w.fib.nhTree.get ref).map Nh.refCount
  rifCounts : ∀ rifId, (v.fib.routerInterfaceTree.get rifId).map Rif.refCount =
    (w.fib.routerInterfaceTree.get rifId).map Rif.refCount
  npuGroups : v.fib.npuGroups.members.keys = w.fib.npuGroups.members.keys
  npuNextHops : v.npu.nextHops.Perm w.npu.nextHops
  npuRoutes : v.npu.routes.Perm w.npu.routes

/-- A create that succeeds can be found, and one that fails leaves no trace. -/
def FibCreateRight (p : Platform) (w : FibNpu) (create : FibCreate) : Prop :=
  ((create.run p w).2 = .success → create.Found p (create.run p w).1) ∧
  ((create.run p w).2 ≠ .success → FibTraceless w (create.run p w).1)

/-- The list is accepted for a group that has just been allocated. -/
def fibNhGroupAttrsAccepted (s : FibState) (group : GroupPtr) (attrs : List NhGroupAttr)
    (env : Nat → NhLinkEnv) : Prop :=
  (fibNextHopGroupInfoFill { s with groups := s.groups.put group fibNhGroupNodeInit } group attrs (fibNhListAlloc s)
    env).2.2 = .success

def FibCreate.RefusedLate (p : Platform) (s : FibState) : FibCreate → Prop
  | .nextHopGroup attrs alloc env => ∃ group, fibNhGroupNodeAlloc s alloc.node = some group ∧
    alloc.listOk = true ∧
    fibNhGroupAttrsAccepted s group attrs env.links ∧ env.npu = .success ∧
    (env.treeOk = false ∨ s.nhGroupTree.get ⟨.nextHopGroup, env.npuObjectId⟩ ≠ none)
  | .nextHop _ _ => False
  | .route entry attrs env => fibRouteInputParamsValidate entry attrs.length = .success ∧
    fibVrfNodeGet s entry.vrId ≠ none ∧ s.routeTree.get (fibRouteKey p entry) = none ∧ env.allocOk = true ∧
    (∃ route, fibRouteAttributesParse p s env.metaRange fibRouteNodeInit attrs = .ok route) ∧
    env.npu = .success ∧ env.treeOk = false

theorem fibCreateRight_iff {w v : FibNpu} (create : FibCreate)
    (run : create.run p w = (v, status)) : FibCreateRight p w create ↔
      (status = .success → create.Found p v) ∧ (status ≠ .success → FibTraceless w v) := by
  rw [FibCreateRight, run]

section Forget
variable (p : Platform) (w : FibNpu)

theorem FibNpu.ipNextHopOwn_fib (ref : NhRef) (env : NextHopCreateEnv) :
    ((w.ipNextHopOwn ref env).1.fib, (w.ipNextHopOwn ref env).2) = fibIpNextHopOwn w.fib ref env := by
  unfold FibNpu.ipNextHopOwn fibIpNextHopOwn
  generalize env.npu = npu
  cases npu <;> rfl

theorem FibNpu.ipNextHopCreate_fib (info : NhInfo) (env : NextHopCreateEnv) :
    ((w.ipNextHopCreate info env).1.fib, (w.ipNextHopCreate info env).2) = fibIpNextHopCreate w.fib info env := by
  unfold FibNpu.ipNextHopCreate fibIpNextHopCreate
  cases fibIpNextHopNodeGet w.fib info.ref.key.rifId info.ref.key.ipAddr with
  | some ref =>
    cases owner : fibIsOwnerNextHop w.fib ref with
    | true => simp only [owner, if_true]
    | false =>
      simp only [owner, Bool.false_eq_true, if_false]
      exact w.ipNextHopOwn_fib ref env
  | none =>
    cases fibIpNextHopNodeCreate w.fib info env.node with
    | error error => rfl
    | ok t => exact FibNpu.ipNextHopOwn_fib ⟨t, w.npu⟩ info.ref env

theorem FibNpu.ipNextHopRemove_fib (ref : NhRef) (npu : SaiStatus) :
    ((w.ipNextHopRemove ref npu).1.fib, (w.ipNextHopRemove ref npu).2) = fibIpNextHopRemove w.fib ref npu := by
  unfold FibNpu.ipNextHopRemove fibIpNextHopRemove
  cases grouped : fibIsNextHopInNhGroup w.fib ref with
  | true => rfl
  | false =>
    simp only [Bool.false_eq_true, if_false]
    cases npu <;> rfl

theorem FibNpu.nextHopCreate_fib (attrs : List NextHopAttr) (env : NextHopCreateEnv) :
    ((w.nextHopCreate p attrs env).1.fib, (w.nextHopCreate p attrs env).2) = fibNextHopCreate p w.fib attrs env := by
  unfold FibNpu.nextHopCreate fibNextHopCreate
  cases fibNextHopInfoFill p w.fib (fibNextHopDefaultAttrSet nhInfoInit) attrs with
  | error error => rfl
  | ok info =>
    by_cases ip : info.ref.key.nhType = .ip
    · simp only [if_pos ip]
      rw [← w.ipNextHopCreate_fib info env]
      obtain ⟨made, result⟩ := w.ipNextHopCreate info env
      cases result with
      | error error => rfl
      | ok ref =>
        simp only
        obtain ⟨u, inserted⟩ := fibInsertNhNodeInNhIdDatabase made.fib ref env.idTreeOk
        have removed := congrArg Prod.fst (FibNpu.ipNextHopRemove_fib ⟨u, made.npu⟩ ref env.npuRemove)
        cases inserted <;> first | rfl | exact congrArg (Prod.mk · _) removed
    · simp only [if_neg ip]

theorem FibNpu.routeCreate_fib (entry : RouteEntry) (attrs : List RouteAttr) (env : RouteCreateEnv) :
    ((w.routeCreate p entry attrs env).1.fib, (w.routeCreate p entry attrs env).2) =
      fibRouteCreate p w.fib entry attrs env := by
  unfold FibNpu.routeCreate fibRouteCreate
  generalize fibRouteInputParamsValidate entry attrs.length = validated
  cases validated <;> try rfl
  cases fibVrfNodeGet w.fib entry.vrId with
  | none => rfl
  | some vrf =>
    cases w.fib.routeTree.get (fibRouteKey p entry) with
    | some route => rfl
    | none =>
      cases allocated : env.allocOk with
      | false => rfl
      | true =>
        cases fibRouteAttributesParse p w.fib env.metaRange fibRouteNodeInit attrs with
        | error error => rfl
        | ok route =>
          generalize env.npu = npu
          cases env.treeOk <;> cases npu <;> rfl

theorem FibCreate.run_fib (create : FibCreate) :
    ((create.run p w).1.fib, (create.run p w).2) = create.call.run p w.fib := by
  cases create with
  | nextHopGroup attrs alloc env => rfl
  | nextHop attrs env => exact w.nextHopCreate_fib p attrs env
  | route entry attrs env => exact w.routeCreate_fib p entry attrs env

end Forget

section Groups
variable {group : GroupPtr}

theorem NhGroupEdited.npuGroups (edited : NhGroupEdited group s t) (npuGroups : NpuNhGroups) :
    NhGroupEdited group { s with npuGroups := npuGroups } { t with npuGroups := npuGroups } := by
  refine ⟨?_, edited.nhs, edited.others⟩
  obtain ⟨nhTree, groups, rfl⟩ := edited.frame
  exact ⟨nhTree, groups, rfl⟩

/-- The NPU's groups after a create of a group: as before, the fault flag apart,
or with the new one. -/
theorem fibNhGroupCreate_npuFails (s : FibState) (group : GroupPtr) (nhCount : Nat) (array : NhArray)
    {npu : SaiStatus} (failed : npu ≠ .success) : ∃ fault, (npuNhGroupCreate s group nhCount array npu).1 =
      { s with npuGroups := ⟨s.npuGroups.members, fault⟩ } := by
  unfold npuNhGroupCreate
  simp only [if_neg failed]
  exact ⟨_, rfl⟩

theorem fibNhGroupCreate_npuTakes (s : FibState) (group : GroupPtr) (nhCount : Nat) (array : NhArray) :
    ∃ nextHops fault, (npuNhGroupCreate s group nhCount array .success).1 =
      { s with npuGroups := ⟨s.npuGroups.members.put group nextHops, fault⟩ } :=
  ⟨_, _, rfl⟩

/-- The three ways a create of a group ends: it failed and left the routing
database as it was, up to the fault flag; the group is in its tree; or the tree
refused it. -/
theorem nextHopGroupCreateLocked_cases {attrs : List NhGroupAttr} {env : NhGroupCreateEnv}
    (consistent : FibConsistent s) (absent : s.groups.get group = none) {read : NhArray}
    (run : fibNextHopGroupCreateLocked s group (fibNhListAlloc s) attrs env = (t, read, status)) :
    (status ≠ .success ∧ (fibNhGroupAttrsAccepted s group attrs env.links → env.npu ≠ .success) ∧
      ∃ fault, t = { s with npuGroups := ⟨s.npuGroups.members, fault⟩ }) ∨
    (status = .success ∧ fibNhGroupAttrsAccepted s group attrs env.links ∧ env.npu = .success ∧
      ((env.treeOk = true ∧ s.nhGroupTree.get ⟨.nextHopGroup, env.npuObjectId⟩ = none ∧
        t.nhGroupTree.get ⟨.nextHopGroup, env.npuObjectId⟩ = some group ∧
        t.npuGroups.members.get group ≠ none) ∨
      ((env.treeOk = false ∨ s.nhGroupTree.get ⟨.nextHopGroup, env.npuObjectId⟩ ≠ none) ∧
        t.nhGroupTree = s.nhGroupTree))) := by
  have fresh : NhGroupFilled { s with groups := s.groups.put group fibNhGroupNodeInit } group := by
    refine ⟨consistent.putGroup absent, consistent.names.unnamed_of_absent absent, ?_⟩
    rw [get_put_self]
    exact Option.some_ne_none _
  have filled := fresh.infoFill env.links attrs (fibNhListAlloc s)
  have edited := nhGroupEdited_infoFill group
    { s with groups := s.groups.put group fibNhGroupNodeInit } attrs (fibNhListAlloc s) env.links
  unfold fibNextHopGroupCreateLocked at run
  unfold fibNhGroupAttrsAccepted
  simp only at run
  split at run
  · rename_i u next done
    rw [done] at filled edited ⊢
    have ids : u.nhGroupTree = s.nhGroupTree := by
      obtain ⟨_, _, rfl⟩ := edited.frame
      rfl
    split at run
    · rename_i took
      right
      split at run
      · rename_i ok free
        cases run
        refine ⟨rfl, rfl, took, Or.inl ⟨ok, ?_, get_put_self _ _ _, ?_⟩⟩
        · rw [← ids]
          exact free
        · obtain ⟨nextHops, fault, called⟩ := fibNhGroupCreate_npuTakes u group (fibNhGroupCount u group) next
          rw [took, called]
          show (u.npuGroups.members.put group nextHops).get group ≠ none
          rw [get_put_self]
          exact Option.some_ne_none _
      · rename_i refused
        cases run
        refine ⟨rfl, rfl, took, Or.inr ⟨?_, ids⟩⟩
        cases tree : env.treeOk with
        | false => exact Or.inl rfl
        | true =>
          refine Or.inr fun free => refused tree ?_
          rw [← ids] at free
          exact free
    · rename_i failed
      cases run
      left
      refine ⟨failed, fun _ => failed, ?_⟩
      obtain ⟨fault, called⟩ := fibNhGroupCreate_npuFails u group (fibNhGroupCount u group) next failed
      have same : u.npuGroups = s.npuGroups := by
        obtain ⟨_, _, rfl⟩ := edited.frame
        rfl
      refine ⟨fault, ?_⟩
      rw [called, same]
      exact fibNhGroup_discarded (consistent.quiet (fibQuiet_npuGroups s _)) absent (edited.npuGroups _)
        (filled.consistent.quiet (fibQuiet_npuGroups u _)).members
  · rename_i u next failed error done
    rw [done] at filled edited ⊢
    cases run
    left
    refine ⟨error, fun accepted => absurd accepted error, s.npuGroups.fault, ?_⟩
    exact fibNhGroup_discarded consistent absent edited filled.consistent.members

theorem FibTraceless.of_fault {w v : FibNpu} (fault : Bool)
    (fib : v.fib = { w.fib with npuGroups := ⟨w.fib.npuGroups.members, fault⟩ }) (npu : v.npu = w.npu) :
    FibTraceless w v := by
  obtain ⟨fib', npu'⟩ := v
  cases fib
  cases npu
  exact ⟨rfl, rfl, rfl, rfl, rfl, rfl, rfl, fun _ => rfl, fun _ => rfl, fun _ => rfl, rfl, .refl _, .refl _⟩

theorem FibTraceless.refl (w : FibNpu) : FibTraceless w w :=
  .of_fault w.fib.npuGroups.fault rfl rfl

/-- A group whose create fails is gone, and one whose create succeeds is found
unless the tree refused it. -/
theorem nextHopGroupCreate_right_iff (w : FibNpu) (consistent : FibConsistent w.fib) (attrs : List NhGroupAttr)
    (alloc : NhGroupAllocEnv) (env : NhGroupCreateEnv) : FibCreateRight p w (.nextHopGroup attrs alloc env) ↔
      ¬ FibCreate.RefusedLate p w.fib (.nextHopGroup attrs alloc env) := by
  unfold FibCreateRight FibCreate.run FibNpu.nextHopGroupCreate fibNextHopGroupCreate
  simp only [FibCreate.RefusedLate]
  cases allocated : fibNhGroupNodeAlloc w.fib alloc.node with
  | none =>
    simp only [reduceCtorEq, false_and, exists_false, not_false_eq_true, iff_true]
    exact ⟨fun success => success.elim, fun _ => .refl w⟩
  | some group =>
    have absent := fibNhGroupNodeAlloc_some allocated
    have node : alloc.node = some group := by
      unfold fibNhGroupNodeAlloc at allocated
      split at allocated
      · cases allocated
      split at allocated
      · cases allocated
        rename_i same _
        exact same
      · cases allocated
    cases listed : alloc.listOk with
    | false =>
      simp only [if_true, Bool.false_eq_true, false_and, and_false, exists_false, not_false_eq_true, iff_true]
      exact ⟨fun success => SaiStatus.noConfusion success, fun _ => .refl w⟩
    | true =>
      simp only [Bool.true_eq_false, if_false, true_and, Option.some.injEq, exists_eq_left']
      cases run : fibNextHopGroupCreateLocked w.fib group (fibNhListAlloc w.fib) attrs env with
      | mk t rest =>
        obtain ⟨read, status⟩ := rest
        simp only
        rcases nextHopGroupCreateLocked_cases consistent absent run with
          ⟨error, reason, fault, same⟩ |
          ⟨success, accepted, took, ⟨ok, free, found, held⟩ | ⟨refused, ids⟩⟩
        · refine iff_of_true ⟨fun success => absurd success error, fun _ => .of_fault fault same rfl⟩ ?_
          rintro ⟨accepted, took, _⟩
          exact reason accepted took
        · refine iff_of_true ⟨fun _ => ⟨group, node, found, held⟩, fun error => absurd success error⟩ ?_
          rintro ⟨_, _, closed | there⟩
          · rw [ok] at closed
            cases closed
          · exact there free
        · refine iff_of_false ?_ (not_not.mpr ⟨accepted, took, refused⟩)
          rintro ⟨found, _⟩
          obtain ⟨other, this, named, _⟩ := found success
          rw [node] at this
          cases this
          have named : t.nhGroupTree.get ⟨.nextHopGroup, env.npuObjectId⟩ = some group := named
          rw [ids] at named
          exact consistent.names.unnamed_of_absent absent _ named

end Groups

section Routes

theorem fibAttrStatusCodeGet_error (error : status ≠ .success) (index : Nat) :
    fibAttrStatusCodeGet status index ≠ .success := by
  cases status <;> first | exact absurd rfl error | exact SaiStatus.noConfusion

section
variable {metaRange : Except SaiStatus (BitVec 32 × BitVec 32)} (range : metaRange ≠ .error .success)
include range

theorem fibRouteAttrSet_error {route : Route} {attr : RouteAttr}
    (run : fibRouteAttrSet p s metaRange route attr = .error error) : error ≠ .success := by
  cases attr with
  | nextHopId oid =>
    simp only [fibRouteAttrSet, fibRouteNhIdAttrSet, fibRouteNhGrpIdAttrSet] at run
    split at run
    · split at run <;> cases run
      exact SaiStatus.noConfusion
    split at run
    · split at run <;> cases run
      exact SaiStatus.noConfusion
    · cases run
      exact SaiStatus.noConfusion
  | packetAction pktAction =>
    simp only [fibRouteAttrSet] at run
    split at run <;> cases run
    exact SaiStatus.noConfusion
  | trapPriority value => cases run
  | metaData value =>
    simp only [fibRouteAttrSet] at run
    split at run
    · cases run
      rintro rfl
      exact range rfl
    · split at run <;> cases run
      exact SaiStatus.noConfusion
  | other =>
    cases run
    exact SaiStatus.noConfusion

theorem fibRouteAttributesLoop_error (attrs : List RouteAttr) : ∀ listIdx route,
    fibRouteAttributesLoop p s metaRange attrs listIdx route = .error error → error ≠ .success := by
  induction attrs with
  | nil =>
    intro listIdx route run
    cases run
  | cons attr rest ih =>
    intro listIdx route run
    unfold fibRouteAttributesLoop at run
    split at run
    · rename_i first failed
      cases run
      exact fibAttrStatusCodeGet_error (fibRouteAttrSet_error range failed) listIdx
    · exact ih _ _ run

theorem fibRouteAttributesParse_error {route : Route}
    (run : fibRouteAttributesParse p s metaRange route attrs = .error error) : error ≠ .success := by
  unfold fibRouteAttributesParse at run
  split at run
  · rename_i first failed
    cases run
    exact fibRouteAttributesLoop_error range attrs 0 route failed
  · split at run
    · cases run
      exact SaiStatus.noConfusion
    · cases run

end

theorem npuRouteCreate_fails {npu : NpuObjects} {key : RouteKey} (failed : status ≠ .success) :
    npuRouteCreate npu key status = npu := if_neg failed

theorem fibRouteNhRefCountIncr_routes (s : FibState) (route : Route) :
    (fibRouteNhRefCountIncr s route).routeTree = s.routeTree := by
  unfold fibRouteNhRefCountIncr
  split <;> rfl

theorem routeCreate_cases {w v : FibNpu} {entry : RouteEntry} {env : RouteCreateEnv}
    (range : env.metaRange ≠ .error .success) (run : w.routeCreate p entry attrs env = (v, status)) :
    (status ≠ .success ∧ v = w ∧ ¬ FibCreate.RefusedLate p w.fib (.route entry attrs env)) ∨
    (status = .success ∧ (FibCreate.route entry attrs env).Found p v ∧ env.treeOk = true) ∨
    (status ≠ .success ∧ v.npu.routes = fibRouteKey p entry :: w.npu.routes ∧
      FibCreate.RefusedLate p w.fib (.route entry attrs env)) := by
  unfold FibNpu.routeCreate at run
  split at run
  · rename_i validated
    split at run
    · rename_i vrf
      cases run
      exact Or.inl ⟨SaiStatus.noConfusion, rfl, fun refused => refused.2.1 vrf⟩
    rename_i vrfNode vrf
    split at run
    · rename_i route stored
      cases run
      refine Or.inl ⟨SaiStatus.noConfusion, rfl, fun refused => ?_⟩
      have absent := refused.2.2.1
      rw [stored] at absent
      cases absent
    · rename_i absent
      split at run
      · rename_i full
        cases run
        refine Or.inl ⟨SaiStatus.noConfusion, rfl, fun refused => ?_⟩
        have allocated := refused.2.2.2.1
        rw [full] at allocated
        cases allocated
      · rename_i allocated
        split at run
        · rename_i error failed
          cases run
          refine Or.inl ⟨fibRouteAttributesParse_error range failed, rfl, fun refused => ?_⟩
          obtain ⟨route, parsed⟩ := refused.2.2.2.2.1
          rw [failed] at parsed
          cases parsed
        · rename_i route parsed
          simp only at run
          split at run
          · rename_i took
            split at run
            · rename_i refused
              cases run
              refine Or.inr (Or.inr ⟨SaiStatus.noConfusion, ?_, validated, ?_, absent,
                Bool.eq_true_of_not_eq_false allocated, ⟨route, parsed⟩, took, refused⟩)
              · rw [took]
                rfl
              · rw [vrf]
                exact Option.some_ne_none vrfNode
            · rename_i ok
              cases run
              refine Or.inr (Or.inl ⟨rfl, ⟨?_, ?_⟩, Bool.eq_true_of_not_eq_false ok⟩)
              · rw [fibRouteNhRefCountIncr_routes, get_put_self]
                exact Option.some_ne_none route
              · rw [took]
                exact List.mem_cons_self
          · rename_i failed
            cases run
            refine Or.inl ⟨failed, ?_, fun refused => failed refused.2.2.2.2.2.1⟩
            rw [npuRouteCreate_fails failed]
  · rename_i failed
    cases run
    exact Or.inl ⟨failed, rfl, fun refused => failed refused.1⟩

/-- A route that the tree refuses stays in the NPU; every other failure leaves
nothing. -/
theorem routeCreate_right_iff (w : FibNpu) (entry : RouteEntry) (attrs : List RouteAttr) (env : RouteCreateEnv)
    (range : env.metaRange ≠ .error .success) :
    FibCreateRight p w (.route entry attrs env) ↔ ¬ FibCreate.RefusedLate p w.fib (.route entry attrs env) := by
  cases run : w.routeCreate p entry attrs env with
  | mk v status =>
    rw [fibCreateRight_iff (.route entry attrs env) run]
    rcases routeCreate_cases range run with
      ⟨error, rfl, fine⟩ | ⟨success, found, ok⟩ | ⟨error, routes, refused⟩
    · exact iff_of_true ⟨fun success => absurd success error, fun _ => .refl v⟩ fine
    · refine iff_of_true ⟨fun _ => found, fun error => absurd success error⟩ fun refused => ?_
      have closed := refused.2.2.2.2.2.2
      rw [ok] at closed
      cases closed
    · refine iff_of_false (fun right => ?_) (not_not.mpr refused)
      have more := (right.2 error).npuRoutes.length_eq
      rw [routes, List.length_cons] at more
      omega

end Routes

section NextHops
variable {w v : FibNpu} {ref : NhRef}

theorem fibNextHopAttrSet_error {attr : NextHopAttr}
    (run : fibNextHopAttrSet p s info attr = .error error) : error ≠ .success := by
  cases attr with
  | type nhType =>
    simp only [fibNextHopAttrSet, fibNextHopTypeSet] at run
    split at run <;> cases run
    exact SaiStatus.noConfusion
  | ip ipAddr =>
    simp only [fibNextHopAttrSet, fibNextHopIpAddrSet] at run
    split at run <;> cases run
    exact SaiStatus.noConfusion
  | routerInterfaceId rifId =>
    simp only [fibNextHopAttrSet, fibNextHopRifSet] at run
    split at run
    · cases run
      exact SaiStatus.noConfusion
    split at run
    · cases run
      exact SaiStatus.noConfusion
    · split at run <;> cases run
      exact SaiStatus.noConfusion
  | other =>
    cases run
    exact SaiStatus.noConfusion

theorem fibNextHopInfoLoop_error (attrs : List NextHopAttr) : ∀ attrIndex info,
    fibNextHopInfoLoop p s attrs attrIndex info = .error error → error ≠ .success := by
  induction attrs with
  | nil =>
    intro attrIndex info run
    cases run
  | cons attr rest ih =>
    intro attrIndex info run
    unfold fibNextHopInfoLoop at run
    split at run
    · rename_i first failed
      cases run
      exact fibAttrStatusCodeGet_error (fibNextHopAttrSet_error failed) attrIndex
    · exact ih _ _ run

theorem fibNextHopInfoFill_error {attrs : List NextHopAttr}
    (run : fibNextHopInfoFill p s info attrs = .error error) : error ≠ .success := by
  unfold fibNextHopInfoFill at run
  split at run
  · cases run
    exact SaiStatus.noConfusion
  split at run
  · rename_i first failed
    cases run
    exact fibNextHopInfoLoop_error attrs 0 info failed
  · split at run
    · cases run
      exact SaiStatus.noConfusion
    · split at run <;> cases run
      exact SaiStatus.noConfusion

/-- A change of a node that takes the next hop's owner bit off it. -/
structure NhDisowns (f : Nh → Nh) : Prop where
  owner : ∀ node, (f node).ownerFlag = { node.ownerFlag with nextHop := false }
  groups : ∀ node, (f node).nhGroupList = node.nhGroupList
  counted : ∀ node, (f node).refCount = node.refCount

/-- The node that the create works on can be given back. -/
structure NhUndoable (w : FibNpu) (t : FibState) (ref : NhRef) : Prop where
  stored : t.nhTree.get ref ≠ none
  ungrouped : nhGroupLinks t ref = []
  undone : ∀ f, NhDisowns f → FibTraceless w ⟨(fibCheckAndDeleteIpNextHopNode (t.modifyNh ref f) ref).1, w.npu⟩

theorem FibTraceless.modifyNh (disowns : NhDisowns f) : FibTraceless w ⟨w.fib.modifyNh ref f, w.npu⟩ := by
  refine ⟨rfl, rfl, ?_, rfl, rfl, rfl, rfl, fun other => nhGroupLinks_modifyNh w.fib ref other disowns.groups,
    map_get_modify disowns.counted, fun _ => rfl, rfl, .refl _, .refl _⟩
  refine Finset.ext fun other => ?_
  rw [KeyTree.mem_keys, KeyTree.mem_keys]
  have gone := get_modify_eq_none (m := w.fib.nhTree) (k := ref) (j := other) (f := f)
  rw [Option.isSome_iff_ne_none, Option.isSome_iff_ne_none]
  exact not_congr gone

theorem nhUndoable_shared (consistent : FibConsistent w.fib) (owned : FibNodesOwned w.fib)
    (stored : w.fib.nhTree.get ref ≠ none) (free : fibIsOwnerNextHop w.fib ref = false) : NhUndoable w w.fib ref := by
  refine ⟨stored, (consistent.unnamed free).noGroup, fun f disowns => ?_⟩
  obtain ⟨node, found⟩ := Option.ne_none_iff_exists'.mp stored
  have nextHop : node.ownerFlag.nextHop = false := by
    rw [fibIsOwnerNextHop, found] at free
    exact free
  have owner : (f node).ownerFlag ≠ ⟨false, false⟩ := by
    intro unowned
    have some := owned ref
    rw [nhOwner, found, Option.map_some] at some
    refine some (congrArg Option.some ?_)
    rw [disowns.owner] at unowned
    have neighbor : node.ownerFlag.neighbor = false := congrArg NhOwner.neighbor unowned
    exact congrArg₂ NhOwner.mk nextHop neighbor
  have here : (w.fib.modifyNh ref f).nhTree.get ref = some (f node) := by
    rw [FibState.modifyNh, get_modify_self, found, Option.map_some]
  have same : (fibCheckAndDeleteIpNextHopNode (w.fib.modifyNh ref f) ref).1 = w.fib.modifyNh ref f := by
    unfold fibCheckAndDeleteIpNextHopNode
    simp only [here, if_pos owner]
  rw [same]
  exact .modifyNh disowns

theorem fibIpNextHopNode_takenBack {node : Nh} (absent : s.nhTree.get ref = none)
    (vrf : s.vrfTree.get ref.vrfId ≠ none) (disowns : NhDisowns f) (unowned : node.ownerFlag = ⟨false, false⟩) :
    (fibCheckAndDeleteIpNextHopNode ((fibNhRifRefCountIncr { s with
      nhTree := s.nhTree.put ref { node with nhGroupList := [] } } ref).modifyNh ref f) ref).1 = s := by
  obtain ⟨vrfNode, atVrf⟩ := Option.ne_none_iff_exists'.mp vrf
  have free : (f { node with nhGroupList := [] }).ownerFlag = ⟨false, false⟩ := by
    rw [disowns.owner]
    exact congrArg (fun owner : NhOwner => { owner with nextHop := false }) unowned
  have here : ((fibNhRifRefCountIncr { s with nhTree := s.nhTree.put ref { node with nhGroupList := [] } }
      ref).modifyNh ref f).nhTree.get ref = some (f { node with nhGroupList := [] }) := by
    show ((s.nhTree.put ref { node with nhGroupList := [] }).modify ref f).get ref = _
    rw [get_modify_self, get_put_self, Option.map_some]
  have atVrf :
    fibVrfNodeGet ((fibNhRifRefCountIncr { s with nhTree := s.nhTree.put ref { node with nhGroupList := [] } }
      ref).modifyNh ref f) ref.vrfId = some vrfNode := atVrf
  have nhs : ((s.nhTree.put ref { node with nhGroupList := [] }).modify ref f).del ref = s.nhTree := by
    refine KeyTree.ext fun other => ?_
    rw [get_del]
    split
    · rename_i this
      rw [this, absent]
    · rename_i apart
      rw [get_modify_ne apart, get_put_ne apart]
  have rifs : ((s.routerInterfaceTree.modify ref.key.rifId fun rif => { rif with refCount := rif.refCount + 1 }).modify
      ref.key.rifId fun rif => { rif with refCount := rif.refCount - 1 }) = s.routerInterfaceTree := by
    rw [modify_modify]
    exact modify_same fun rif _ => rfl
  unfold fibCheckAndDeleteIpNextHopNode
  simp only [here, if_neg (not_not.mpr free), atVrf]
  exact congrArg₂ (fun nhTree rifs => ({ s with nhTree := nhTree, routerInterfaceTree := rifs } : FibState)) nhs rifs

theorem nhUndoable_fresh {env : NhNodeEnv} (blank : NhBlank info.node)
    (run : fibIpNextHopNodeCreate w.fib info env = .ok t) : NhUndoable w t info.ref := by
  have stored := (fibIpNextHopNodeCreate_stored blank run).1
  obtain ⟨vrf, absent, rfl⟩ := fibIpNextHopNodeCreate_cases run
  have node : (w.fib.nhTree.put info.ref { info.node with nhGroupList := [] }).get info.ref =
      some { info.node with nhGroupList := [] } := get_put_self _ _ _
  refine ⟨stored, ?_, fun f disowns => ?_⟩
  · rw [nhGroupLinks_eq]
    exact congrArg (fun node => (Option.map Nh.nhGroupList node).getD []) node
  · have same := fibIpNextHopNode_takenBack absent vrf disowns blank.noOwner
    rw [same]
    exact .refl w

/-- Either the create stops at the node with nothing done, or it goes on with a
node that it can give back. -/
theorem ipNextHopCreate_cases
    (consistent : FibConsistent w.fib) (owned : FibNodesOwned w.fib) (blank : NhBlank info.node)
    (run : w.ipNextHopCreate info env = (v, result)) :
    (∃ error, result = .error error ∧ error ≠ .success ∧ v = w) ∨
    ∃ t ref, NhUndoable w t ref ∧ FibNpu.ipNextHopOwn ⟨t, w.npu⟩ ref env = (v, result) := by
  unfold FibNpu.ipNextHopCreate at run
  split at run
  · rename_i ref found
    split at run
    · cases run
      exact Or.inl ⟨_, rfl, SaiStatus.noConfusion, rfl⟩
    rename_i free
    have stored := (fibIpNextHopNodeGet_some found).1
    exact Or.inr ⟨w.fib, ref, nhUndoable_shared consistent owned stored (Bool.eq_false_iff.mpr free), run⟩
  · split at run
    · rename_i error failed
      cases run
      refine Or.inl ⟨error, rfl, ?_, rfl⟩
      unfold fibIpNextHopNodeCreate at failed
      split at failed
      · cases failed
        exact SaiStatus.noConfusion
      split at failed
      · cases failed
        exact SaiStatus.noConfusion
      · split at failed <;> cases failed
        exact SaiStatus.noConfusion
    · rename_i t created
      exact Or.inr ⟨t, info.ref, nhUndoable_fresh blank created, run⟩

def nhTaken (npuObjectId : Nat) (node : Nh) : Nh :=
  { node.setOwnerNextHop with nextHopId := ⟨.nextHop, npuObjectId⟩ }

theorem FibState.modifyNh_modifyNh (s : FibState) (ref : NhRef) (f g : Nh → Nh) :
    (s.modifyNh ref f).modifyNh ref g = s.modifyNh ref fun node => g (f node) :=
  congrArg (fun nhTree => ({ s with nhTree := nhTree } : FibState)) (modify_modify s.nhTree ref f g)

theorem ipNextHopOwn_cases (undoable : NhUndoable w t ref)
    (run : FibNpu.ipNextHopOwn ⟨t, w.npu⟩ ref env = (v, result)) :
    (∃ error, result = .error error ∧ error ≠ .success ∧ FibTraceless w v) ∨
    (result = .ok ref ∧ v = ⟨t.modifyNh ref (nhTaken env.npuObjectId),
      { w.npu with nextHops := ⟨.nextHop, env.npuObjectId⟩ :: w.npu.nextHops }⟩) := by
  unfold FibNpu.ipNextHopOwn at run
  simp only at run
  split at run
  · rename_i took
    cases run
    right
    rw [FibState.modifyNh_modifyNh, took]
    exact ⟨rfl, rfl⟩
  · rename_i failed
    cases run
    refine Or.inl ⟨env.npu, rfl, failed, ?_⟩
    rw [FibState.modifyNh_modifyNh, npuNexthopCreate, if_neg failed]
    exact undoable.undone _ ⟨fun _ => rfl, fun _ => rfl, fun _ => rfl⟩

theorem nhTaken_stored (undoable : NhUndoable w t ref) (npuObjectId : Nat) :
    (t.modifyNh ref (nhTaken npuObjectId)).nhTree.get ref ≠ none ∧
    fibNhNextHopId (t.modifyNh ref (nhTaken npuObjectId)) ref = ⟨.nextHop, npuObjectId⟩ := by
  obtain ⟨node, found⟩ := Option.ne_none_iff_exists'.mp undoable.stored
  have here : (t.modifyNh ref (nhTaken npuObjectId)).nhTree.get ref = some (nhTaken npuObjectId node) := by
    rw [FibState.modifyNh, get_modify_self, found, Option.map_some]
  rw [fibNhNextHopId, here]
  exact ⟨Option.some_ne_none _, rfl⟩

theorem fibInsertNhId_cases (s : FibState) (ref : NhRef) (idTreeOk : Bool) :
    fibInsertNhNodeInNhIdDatabase s ref idTreeOk =
      ({ s with nhIdTree := s.nhIdTree.put (fibNhNextHopId s ref) ref }, .success) ∨
    fibInsertNhNodeInNhIdDatabase s ref idTreeOk = (s, .failure) := by
  unfold fibInsertNhNodeInNhIdDatabase
  split
  · exact Or.inl rfl
  · exact Or.inr rfl

theorem ipNextHopRemove_undone (undoable : NhUndoable w t ref) (npuObjectId : Nat) :
    FibTraceless w (FibNpu.ipNextHopRemove ⟨t.modifyNh ref (nhTaken npuObjectId),
      { w.npu with nextHops := ⟨.nextHop, npuObjectId⟩ :: w.npu.nextHops }⟩ ref .success).1 := by
  have links : nhGroupLinks (t.modifyNh ref (nhTaken npuObjectId)) ref = [] := by
    refine (nhGroupLinks_modifyNh t ref ref ?_).trans undoable.ungrouped
    exact fun _ => rfl
  obtain ⟨stored, named⟩ := nhTaken_stored undoable npuObjectId
  have outside : fibIsNextHopInNhGroup (t.modifyNh ref (nhTaken npuObjectId)) ref = false := by
    obtain ⟨node, here⟩ := Option.ne_none_iff_exists'.mp stored
    rw [nhGroupLinks, here] at links
    simp only [fibIsNextHopInNhGroup, here]
    exact decide_eq_false (not_not.mpr links)
  unfold FibNpu.ipNextHopRemove
  simp only [outside, named, Bool.false_eq_true, if_false, npuNexthopRemove, if_true, List.erase_cons_head]
  rw [FibState.modifyNh_modifyNh]
  exact undoable.undone _ ⟨fun _ => rfl, fun _ => rfl, fun _ => rfl⟩

theorem nextHopCreate_right (consistent : FibConsistent w.fib) (owned : FibNodesOwned w.fib) (attrs : List NextHopAttr)
    (env : NextHopCreateEnv) (undone : env.npuRemove = .success) : FibCreateRight p w (.nextHop attrs env) := by
  have failed {error : SaiStatus} {v : FibNpu} (isError : error ≠ .success) (same : FibTraceless w v)
      (run : w.nextHopCreate p attrs env = (v, error)) : FibCreateRight p w (.nextHop attrs env) :=
    (fibCreateRight_iff (.nextHop attrs env) run).mpr ⟨fun success => absurd success isError, fun _ => same⟩
  cases filled : fibNextHopInfoFill p w.fib (fibNextHopDefaultAttrSet nhInfoInit) attrs with
  | error error =>
    refine failed (fibNextHopInfoFill_error filled) (.refl w) ?_
    simp only [FibNpu.nextHopCreate, filled]
  | ok info =>
    have blank : NhBlank info.node := by
      rw [(fibNextHopInfoFill_ok filled).1]
      exact nhBlank_nextHopDefault
    by_cases ip : info.ref.key.nhType = .ip
    · cases created : w.ipNextHopCreate info env with
      | mk v result =>
        rcases ipNextHopCreate_cases consistent owned blank created with
          ⟨error, rfl, isError, rfl⟩ | ⟨t, ref, undoable, own⟩
        · refine failed isError (.refl v) ?_
          simp only [FibNpu.nextHopCreate, filled, if_pos ip, created]
        · rcases ipNextHopOwn_cases undoable own with ⟨error, rfl, isError, same⟩ | ⟨rfl, rfl⟩
          · refine failed isError same ?_
            simp only [FibNpu.nextHopCreate, filled, if_pos ip, created]
          rcases fibInsertNhId_cases (t.modifyNh ref (nhTaken env.npuObjectId)) ref env.idTreeOk with put | refused
          · obtain ⟨there, named⟩ := nhTaken_stored undoable env.npuObjectId
            rw [named] at put
            have run : w.nextHopCreate p attrs env = (⟨{ t.modifyNh ref (nhTaken env.npuObjectId) with
                nhIdTree := (t.modifyNh ref (nhTaken env.npuObjectId)).nhIdTree.put
                  ⟨.nextHop, env.npuObjectId⟩ ref },
                { w.npu with nextHops := ⟨.nextHop, env.npuObjectId⟩ :: w.npu.nextHops }⟩, .success) := by
              simp only [FibNpu.nextHopCreate, filled, if_pos ip, created, put]
            refine (fibCreateRight_iff (.nextHop attrs env) run).mpr
              ⟨fun _ => ⟨ref, get_put_self _ _ _, there, List.mem_cons_self⟩, fun error =>
                absurd rfl error⟩
          · have refusal : SaiStatus.failure ≠ .success := SaiStatus.noConfusion
            refine failed refusal (ipNextHopRemove_undone undoable env.npuObjectId) ?_
            simp only [FibNpu.nextHopCreate, filled, if_pos ip, created, refused, undone]
    · have unsupported : SaiStatus.notSupported ≠ .success := SaiStatus.noConfusion
      refine failed unsupported (.refl w) ?_
      simp only [FibNpu.nextHopCreate, filled, if_neg ip]

end NextHops

/-- In every reachable state a create that succeeds can be found and one that
fails leaves no trace, unless a tree refuses a group or a route that the NPU has
taken: the group is reported as created, and the route stays in the NPU. -/
theorem fibCreates_right_iff (p : Platform) (w : FibNpu)
    (reach : Runs.Reach FibFresh (fibStep p fun _ _ => True) w.fib) (create : FibCreate) (answered : create.Answered) :
    FibCreateRight p w create ↔ ¬ create.RefusedLate p w.fib := by
  have consistent := fibReach_consistent reach
  cases create with
  | nextHopGroup attrs alloc env => exact nextHopGroupCreate_right_iff w consistent attrs alloc env
  | nextHop attrs env =>
    exact iff_of_true (nextHopCreate_right consistent (fibReach_owned reach) attrs env answered) not_false
  | route entry attrs env => exact routeCreate_right_iff w entry attrs env answered

section Sample

def createSampleRun : List FibCall :=
  [fibSampleVrf, fibSampleRif [.type .port, .portId ⟨.port, 1⟩] 7 1, fibSampleNextHop 10 1]

def createSample : FibNpu where
  fib := createSampleRun.foldl fibSampleStep fibSample
  npu := ⟨[⟨.nextHop, 1⟩], []⟩

theorem createSample_reach : Runs.Reach FibFresh (fibStep fibSamplePlatform fun _ _ => True) createSample.fib :=
  Runs.Reach.run (.start fibSample_fresh) (Runs.allowedRun_of_forall (fun _ _ => trivial) _ _)

def createSampleNextHop : FibCreate :=
  .nextHop [.type .ip, .ip (.v4 11), .routerInterfaceId ⟨.routerInterface, 1⟩]
    ⟨⟨true, true⟩, .success, 2, false, .success⟩

theorem fibCreates_right_sample : FibCreateRight fibSamplePlatform createSample createSampleNextHop ∧
    (createSampleNextHop.run fibSamplePlatform createSample).2 = .failure :=
  ⟨(fibCreates_right_iff fibSamplePlatform createSample createSample_reach createSampleNextHop rfl).mpr not_false,
    by decide⟩

def createSampleGroup : FibCreate :=
  .nextHopGroup [.type .ecmp, .nextHopList [⟨.nextHop, 1⟩]] ⟨some 0, true⟩
    ⟨fun _ => ⟨fun _ => true, fun _ => true⟩, .success, 1, false⟩

/-- The create of the group returns a success, and there is no such group. -/
theorem fibCreates_not_right : ¬ ∀ p w create, Runs.Reach FibFresh (fibStep p fun _ _ => True) w.fib →
    create.Answered → FibCreateRight p w create := by
  intro right
  have created := (right fibSamplePlatform createSample createSampleGroup createSample_reach trivial).1 (by decide)
  obtain ⟨group, _, named, _⟩ := created
  have absent :
    (createSampleGroup.run fibSamplePlatform createSample).1.fib.nhGroupTree.get ⟨.nextHopGroup, 1⟩ = none := by
    decide
  rw [absent] at named
  cases named

/-- A route that the tree refuses stays in the NPU. -/
example : ((FibCreate.route ⟨⟨.virtualRouter, 1⟩, .v4 0 0xffffff00⟩ [.packetAction .drop]
    ⟨true, .error .failure, .success, false⟩).run fibSamplePlatform createSample).1.npu.routes =
    [⟨⟨.virtualRouter, 1⟩, false, 24, 0⟩] := by decide

end Sample
end SaiCommon
