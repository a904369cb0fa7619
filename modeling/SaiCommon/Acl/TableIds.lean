import SaiCommon.Acl.Ownership

namespace SaiCommon

variable {env : AclTableCreateEnv} {next : AclTableWorld} {allocOk : Bool} {number : Nat} {status : SaiStatus}
  {s : AclState} {table : AclTable} {lookups : AclLookups} {attrs : List AclTableAttr}

/-- The ACL database, and the table nodes that the NPU holds a table for. -/
structure AclTableWorld where
  acl : AclState
  npuTables : Nat → Bool

/-- The locked part of a table creation with the NPU beside the database. -/
def npuCreateAclTableLocked (platform : AclPlatform) (w : AclTableWorld) (attrs : List AclTableAttr)
    (env : AclTableCreateEnv) : AclTableWorld × SaiStatus :=
  let node := w.acl.allocated
  let s := { w.acl with allocated := node + 1 }
  match aclTablePopulate env.lookups (.zero node) attrs with
  | .error status => (⟨s, w.npuTables⟩, status)
  | .ok table =>
    match env.validateField with
    | .success =>
      match aclTableIdAlloc platform s with
      | none => (⟨s, w.npuTables⟩, .tableFull)
      | some number =>
        let table := table.withId number
        match if table.needsNpuTable then env.npuCreate else .success with
        | .success =>
          let npuTables := if table.needsNpuTable then Function.update w.npuTables node true else w.npuTables
          match env.treeOk, s.tableTree.get table.tableId with
          | true, none =>
            (⟨{ s.markTableId number true with
              tableTree := s.tableTree.put table.tableId { table with npuTable := table.needsNpuTable } },
              npuTables⟩, .success)
          -- The NPU keeps its table.
          | _, _ => (⟨s.markTableId number false, npuTables⟩, .failure)
        | error => (⟨s.markTableId number false, w.npuTables⟩, error)
    | error => (⟨s, w.npuTables⟩, error)

def npuCreateAclTable (platform : AclPlatform) (w : AclTableWorld) (attrs : List AclTableAttr) (lookups : AclLookups)
    (allocOk : Bool) (env : AclTableCreateEnv) : AclTableWorld × SaiStatus :=
  match createAclTableBegin w.acl lookups attrs allocOk with
  | .success => npuCreateAclTableLocked platform w attrs env
  | error => (w, error)

def npuDeleteAclTable (w : AclTableWorld) (tableId : ObjectId) (npu : SaiStatus) : AclTableWorld × SaiStatus :=
  if tableId.objType ≠ .aclTable then (w, .invalidObjectType)
  else match w.acl.tableTree.get tableId with
    | none => (w, .invalidObjectId)
    | some table =>
      if 0 < table.ruleCount then (w, .objectInUse)
      else if 0 < table.numCounters then (w, .objectInUse)
      else match npu with
        | .success =>
          (⟨{ w.acl.markTableId tableId.npuObjectId false with tableTree := w.acl.tableTree.del tableId },
            Function.update w.npuTables table.node false⟩, .success)
        | error =>
          (⟨{ w.acl with tableTree := (w.acl.tableTree.del tableId).put tableId table }, w.npuTables⟩, error)

theorem npuCreateAclTableLocked_database (platform : AclPlatform) (w : AclTableWorld) (attrs : List AclTableAttr)
    (env : AclTableCreateEnv) :
    ((npuCreateAclTableLocked platform w attrs env).1.acl, (npuCreateAclTableLocked platform w attrs env).2) =
      createAclTableLocked platform w.acl attrs env := by
  unfold npuCreateAclTableLocked createAclTableLocked
  dsimp only
  cases aclTablePopulate env.lookups (.zero w.acl.allocated) attrs with
  | error status => rfl
  | ok table =>
    cases env.validateField with
    | success =>
      dsimp only
      cases aclTableIdAlloc platform { w.acl with allocated := w.acl.allocated + 1 } with
      | none => rfl
      | some number =>
        dsimp only
        generalize (if (table.withId number).needsNpuTable then env.npuCreate else SaiStatus.success) = npu
        cases npu with
        | success =>
          dsimp only
          cases env.treeOk
          · rfl
          · cases w.acl.tableTree.get (table.withId number).tableId <;> rfl
        | _ => rfl
    | _ => rfl

theorem npuCreateAclTable_database (platform : AclPlatform) (w : AclTableWorld) (attrs : List AclTableAttr)
    (lookups : AclLookups) (allocOk : Bool) (env : AclTableCreateEnv) :
    ((npuCreateAclTable platform w attrs lookups allocOk env).1.acl,
      (npuCreateAclTable platform w attrs lookups allocOk env).2) =
      createAclTable platform w.acl attrs lookups allocOk env := by
  unfold npuCreateAclTable createAclTable
  cases createAclTableBegin w.acl lookups attrs allocOk with
  | success => exact npuCreateAclTableLocked_database platform w attrs env
  | _ => rfl

theorem npuDeleteAclTable_database (w : AclTableWorld) (tableId : ObjectId) (npu : SaiStatus) :
    ((npuDeleteAclTable w tableId npu).1.acl, (npuDeleteAclTable w tableId npu).2) =
      deleteAclTable w.acl tableId npu := by
  unfold npuDeleteAclTable deleteAclTable
  split
  · rfl
  cases w.acl.tableTree.get tableId with
  | none => rfl
  | some table =>
    dsimp only
    split
    · rfl
    split
    · rfl
    · cases npu <;> rfl

inductive AclTableCall
  | create (attrs : List AclTableAttr) (lookups : AclLookups) (allocOk : Bool) (env : AclTableCreateEnv)
  | delete (tableId : ObjectId) (npu : SaiStatus)

def AclTableCall.run (platform : AclPlatform) (w : AclTableWorld) : AclTableCall → AclTableWorld × SaiStatus
  | .create attrs lookups allocOk env => npuCreateAclTable platform w attrs lookups allocOk env
  | .delete tableId npu => npuDeleteAclTable w tableId npu

def AclTableCall.step (platform : AclPlatform) (w : AclTableWorld) (call : AclTableCall) : AclTableWorld :=
  (call.run platform w).1

/-- After `sai_acl_table_id_generate`, with nothing stored. -/
def AclTablesInit (w : AclTableWorld) : Prop :=
  w.acl.tableTree = ∅ ∧ (∀ number, w.acl.tableInUse number = false) ∧ ∀ node, w.npuTables node = false

/-- The ids in use, the stored tables and the tables of the NPU agree. -/
structure AclTablesAgree (w : AclTableWorld) : Prop where
  inUse : ∀ number, w.acl.tableInUse number = true ↔
    ∃ k table, w.acl.tableTree.get k = some table ∧ table.tableId = ⟨.aclTable, number⟩
  distinct : ∀ k j table other, w.acl.tableTree.get k = some table → w.acl.tableTree.get j = some other →
    table.tableId = other.tableId → k = j
  npu : ∀ node, w.npuTables node = true → ∃ k table, w.acl.tableTree.get k = some table ∧ table.node = node

def AclTableChooses (s : AclState) (attrs : List AclTableAttr) (lookups : AclLookups) (allocOk : Bool)
    (env : AclTableCreateEnv) : Prop :=
  createAclTableBegin s lookups attrs allocOk = .success ∧
    (∃ table, aclTablePopulate env.lookups (.zero s.allocated) attrs = .ok table) ∧ env.validateField = .success

/-- Neither the NPU nor the UDF module answers with the status of a full id space. -/
structure AclTableNotFull (lookups : AclLookups) (env : AclTableCreateEnv) : Prop where
  udfGroup : ∀ groupId, lookups.udfGroupStatus groupId ≠ .tableFull
  udfHwId : ∀ groupId, (env.lookups.udfHwId groupId).1 ≠ .tableFull
  validateField : env.validateField ≠ .tableFull
  npuCreate : env.npuCreate ≠ .tableFull

/-- What a call should do: a failure leaves everything, and a create is told that
the table is full exactly when it comes to choose an id and all are in use. -/
structure AclTableCallExact (platform : AclPlatform) (w : AclTableWorld) (call : AclTableCall) : Prop where
  agree : AclTablesAgree (call.run platform w).1
  failed : (call.run platform w).2 ≠ .success →
    (call.run platform w).1.acl.tableTree = w.acl.tableTree ∧
    (call.run platform w).1.acl.tableInUse = w.acl.tableInUse ∧ (call.run platform w).1.npuTables = w.npuTables
  full : ∀ attrs lookups allocOk env, call = .create attrs lookups allocOk env → AclTableNotFull lookups env →
    ((call.run platform w).2 = .tableFull ↔ AclTableChooses w.acl attrs lookups allocOk env ∧
      ∀ number, 1 ≤ number → number ≤ platform.tableIdMax → w.acl.tableInUse number = true)

/-- The tree refuses a table that the NPU has made. -/
def AclTableUnkept (platform : AclPlatform) (s : AclState) (attrs : List AclTableAttr) (env : AclTableCreateEnv) :
    Prop :=
  ∃ table number, aclTablePopulate env.lookups (.zero s.allocated) attrs = .ok table ∧
    env.validateField = .success ∧ aclTableIdAlloc platform s = some number ∧
    (table.withId number).needsNpuTable = true ∧ env.npuCreate = .success ∧ env.treeOk = false

def AclTableCall.leaks (platform : AclPlatform) (s : AclState) : AclTableCall → Prop
  | .create attrs lookups allocOk env =>
    createAclTableBegin s lookups attrs allocOk = .success ∧ AclTableUnkept platform s attrs env
  | .delete _ _ => False

theorem aclTableIdAlloc_some {platform : AclPlatform}
    (chosen : aclTableIdAlloc platform s = some number) : s.tableInUse number = false := by
  have free := List.find?_some chosen
  simpa using free

theorem aclTableIdAlloc_none {platform : AclPlatform} : aclTableIdAlloc platform s = none ↔
    ∀ number, 1 ≤ number → number ≤ platform.tableIdMax → s.tableInUse number = true := by
  unfold aclTableIdAlloc
  rw [List.find?_eq_none]
  simp only [List.mem_map, List.mem_range, Bool.not_eq_true', Bool.not_eq_false, forall_exists_index, and_imp]
  constructor
  · intro used number least most
    exact used number (number - 1) (by omega) (by omega)
  · rintro used number index below rfl
    exact used (index + 1) (by omega) (by omega)

/-- The ids agree with the tree, and each stored node is an allocated one of its own. -/
structure AclTablesHeld (w : AclTableWorld) : Prop where
  inUse : ∀ number, w.acl.tableInUse number = true ↔
    ∃ k table, w.acl.tableTree.get k = some table ∧ table.tableId = ⟨.aclTable, number⟩
  keyed : ∀ k table, w.acl.tableTree.get k = some table → table.tableId = k
  allocated : ∀ k table, w.acl.tableTree.get k = some table → table.node < w.acl.allocated
  nodes : ∀ k j table other, w.acl.tableTree.get k = some table → w.acl.tableTree.get j = some other →
    table.node = other.node → k = j
  npu : ∀ node, w.npuTables node = true → ∃ k table, w.acl.tableTree.get k = some table ∧ table.node = node

section Held
variable {platform : AclPlatform} {w : AclTableWorld}

theorem AclTablesHeld.agree (held : AclTablesHeld w) : AclTablesAgree w := by
  refine ⟨held.inUse, ?_, held.npu⟩
  intro k j table other stored kept same
  rw [← held.keyed k table stored, ← held.keyed j other kept, same]

theorem AclTablesInit.held (init : AclTablesInit w) : AclTablesHeld w := by
  obtain ⟨tree, unused, none⟩ := init
  have absent : ∀ k table, w.acl.tableTree.get k ≠ some table := by
    intro k table stored
    rw [tree, KeyTree.get_empty] at stored
    cases stored
  refine ⟨?_, fun k table stored => absurd stored (absent k table),
    fun k table stored => absurd stored (absent k table),
    fun k _ table _ stored => absurd stored (absent k table), ?_⟩
  · intro number
    rw [unused number]
    refine iff_of_false Bool.false_ne_true ?_
    rintro ⟨k, table, stored, -⟩
    exact absent k table stored
  · intro node has
    rw [none node] at has
    exact absurd has Bool.false_ne_true

theorem AclTablesHeld.fresh (held : AclTablesHeld w) (free : w.acl.tableInUse number = false) :
    w.acl.tableTree.get ⟨.aclTable, number⟩ = none := by
  cases stored : w.acl.tableTree.get ⟨.aclTable, number⟩ with
  | none => rfl
  | some table =>
    have used := (held.inUse number).mpr ⟨_, table, stored, held.keyed _ table stored⟩
    exact absurd (free.symm.trans used) Bool.false_ne_true

theorem AclTablesHeld.same (held : AclTablesHeld w)
    (tree : next.acl.tableTree = w.acl.tableTree) (inUse : next.acl.tableInUse = w.acl.tableInUse)
    (npu : next.npuTables = w.npuTables) (allocated : w.acl.allocated ≤ next.acl.allocated) : AclTablesHeld next := by
  refine ⟨?_, ?_, ?_, ?_, ?_⟩
  · intro number
    rw [inUse, tree]
    exact held.inUse number
  · rw [tree]
    exact held.keyed
  · intro k table stored
    rw [tree] at stored
    exact Nat.lt_of_lt_of_le (held.allocated k table stored) allocated
  · rw [tree]
    exact held.nodes
  · rw [tree, npu]
    exact held.npu

theorem AclTablesHeld.insert {next : AclTableWorld} (held : AclTablesHeld w) {number : Nat}
    (free : w.acl.tableInUse number = false) (key : table.tableId = ⟨.aclTable, number⟩)
    (node : table.node = w.acl.allocated)
    (tree : next.acl.tableTree = w.acl.tableTree.put ⟨.aclTable, number⟩ table)
    (inUse : next.acl.tableInUse = Function.update w.acl.tableInUse number true)
    (npu : ∀ other, next.npuTables other = true → w.npuTables other = true ∨ other = w.acl.allocated)
    (allocated : next.acl.allocated = w.acl.allocated + 1) : AclTablesHeld next := by
  have absent := held.fresh free
  have get : ∀ k, next.acl.tableTree.get k =
      if k = ⟨.aclTable, number⟩ then some table else w.acl.tableTree.get k := by
    intro k
    rw [tree, KeyTree.get_put]
  have kept : ∀ k other, w.acl.tableTree.get k = some other → next.acl.tableTree.get k = some other := by
    intro k other stored
    rw [get, if_neg]
    · exact stored
    · rintro rfl
      rw [absent] at stored
      cases stored
  have old : ∀ k other, next.acl.tableTree.get k = some other →
      (k = ⟨.aclTable, number⟩ ∧ other = table) ∨ w.acl.tableTree.get k = some other := by
    intro k other stored
    rw [get] at stored
    split at stored
    · rename_i same
      exact Or.inl ⟨same, (Option.some.inj stored).symm⟩
    · exact Or.inr stored
  have new : next.acl.tableTree.get ⟨.aclTable, number⟩ = some table := by rw [get, if_pos rfl]
  refine ⟨?_, ?_, ?_, ?_, ?_⟩
  · intro one
    rw [inUse]
    by_cases same : one = number
    · rw [same, Function.update_self]
      exact iff_of_true rfl ⟨_, table, new, key⟩
    rw [Function.update_of_ne same, held.inUse one]
    constructor
    · rintro ⟨k, other, stored, named⟩
      exact ⟨k, other, kept k other stored, named⟩
    · rintro ⟨k, other, stored, named⟩
      rcases old k other stored with ⟨-, rfl⟩ | stored
      · rw [key] at named
        exact absurd (ObjectId.mk.inj named).2.symm same
      · exact ⟨k, other, stored, named⟩
  · intro k other stored
    rcases old k other stored with ⟨rfl, rfl⟩ | stored
    · exact key
    · exact held.keyed k other stored
  · intro k other stored
    rw [allocated]
    rcases old k other stored with ⟨-, rfl⟩ | stored
    · omega
    · have below := held.allocated k other stored
      omega
  · intro k j one other stored found same
    rcases old k one stored with ⟨rfl, rfl⟩ | stored
    · rcases old j other found with ⟨rfl, -⟩ | found
      · rfl
      · have below := held.allocated j other found
        omega
    · rcases old j other found with ⟨rfl, rfl⟩ | found
      · have below := held.allocated k one stored
        omega
      · exact held.nodes k j one other stored found same
  · intro other has
    rcases npu other has with has | rfl
    · obtain ⟨k, held, stored, named⟩ := held.npu other has
      exact ⟨k, held, kept k held stored, named⟩
    · exact ⟨_, table, new, node⟩

theorem AclTablesHeld.delete (held : AclTablesHeld w) {tableId : ObjectId}
    (typed : tableId.objType = .aclTable) (stored : w.acl.tableTree.get tableId = some table)
    (tree : next.acl.tableTree = w.acl.tableTree.del tableId)
    (inUse : next.acl.tableInUse = Function.update w.acl.tableInUse tableId.npuObjectId false)
    (npu : next.npuTables = Function.update w.npuTables table.node false)
    (allocated : next.acl.allocated = w.acl.allocated) : AclTablesHeld next := by
  have old : ∀ k other, next.acl.tableTree.get k = some other ↔ k ≠ tableId ∧
    w.acl.tableTree.get k = some other := by
    intro k other
    rw [tree, KeyTree.get_del]
    by_cases same : k = tableId
    · simp [same]
    · simp [same]
  refine ⟨?_, ?_, ?_, ?_, ?_⟩
  · intro number
    rw [inUse]
    by_cases same : number = tableId.npuObjectId
    · rw [same, Function.update_self]
      refine iff_of_false Bool.false_ne_true ?_
      rintro ⟨k, other, found, named⟩
      obtain ⟨differ, found⟩ := (old k other).mp found
      apply differ
      rw [← held.keyed k other found, named, ← typed]
    · rw [Function.update_of_ne same, held.inUse number]
      constructor
      · rintro ⟨k, other, found, named⟩
        refine ⟨k, other, (old k other).mpr ⟨?_, found⟩, named⟩
        rintro rfl
        rw [held.keyed k other found] at named
        rw [named] at same
        exact same rfl
      · rintro ⟨k, other, found, named⟩
        exact ⟨k, other, ((old k other).mp found).2, named⟩
  · intro k other found
    exact held.keyed k other ((old k other).mp found).2
  · intro k other found
    rw [allocated]
    exact held.allocated k other ((old k other).mp found).2
  · intro k j one other found kept same
    exact held.nodes k j one other ((old k one).mp found).2 ((old j other).mp kept).2 same
  · intro node has
    rw [npu] at has
    by_cases same : node = table.node
    · rw [same, Function.update_self] at has
      exact absurd has Bool.false_ne_true
    rw [Function.update_of_ne same] at has
    obtain ⟨k, other, found, named⟩ := held.npu node has
    refine ⟨k, other, (old k other).mpr ⟨?_, found⟩, named⟩
    rintro rfl
    rw [stored] at found
    exact same (named.symm.trans (congrArg AclTable.node (Option.some.inj found)).symm)

theorem aclTablePopulateLoop_error (failed : aclTablePopulateLoop lookups table attrs = .error status) :
    status ≠ .success ∧ ∃ groupId, (lookups.udfHwId groupId).1 = status := by
  induction attrs generalizing table with
  | nil => cases failed
  | cons first rest ih =>
    unfold aclTablePopulateLoop at failed
    cases step : aclTablePopulateAttr lookups table first with
    | ok middle =>
      rw [step] at failed
      exact ih failed
    | error refused =>
      rw [step] at failed
      obtain rfl := Except.error.inj failed
      unfold aclTablePopulateAttr at step
      split at step
      case h_5 groupId =>
        cases answer : lookups.udfHwId groupId with
        | mk hw udfNpuId =>
          rw [answer] at step
          refine ⟨?_, groupId, ?_⟩
          · rintro rfl
            cases hw <;> cases step
          · rw [answer]
            cases hw <;> cases step <;> rfl
      all_goals cases step

theorem aclTablePopulate_error (failed : aclTablePopulate lookups table attrs = .error status) :
    status ≠ .success ∧ (status = .noMemory ∨ ∃ groupId, (lookups.udfHwId groupId).1 = status) := by
  unfold aclTablePopulate at failed
  split at failed
  · obtain rfl := Except.error.inj failed
    exact ⟨SaiStatus.noConfusion, Or.inl rfl⟩
  · obtain ⟨error, named⟩ := aclTablePopulateLoop_error failed
    exact ⟨error, Or.inr named⟩

theorem AclTablesHeld.createLocked (held : AclTablesHeld w) (attrs : List AclTableAttr) (env : AclTableCreateEnv) :
    ((npuCreateAclTableLocked platform w attrs env).2 = .success ∧
      AclTablesHeld (npuCreateAclTableLocked platform w attrs env).1 ∧ ¬AclTableUnkept platform w.acl attrs env) ∨
    ((npuCreateAclTableLocked platform w attrs env).2 ≠ .success ∧
      (npuCreateAclTableLocked platform w attrs env).1.acl.tableTree = w.acl.tableTree ∧
      (npuCreateAclTableLocked platform w attrs env).1.acl.tableInUse = w.acl.tableInUse ∧
      (npuCreateAclTableLocked platform w attrs env).1.acl.allocated = w.acl.allocated + 1 ∧
      ((¬AclTableUnkept platform w.acl attrs env ∧
          (npuCreateAclTableLocked platform w attrs env).1.npuTables = w.npuTables) ∨
        (AclTableUnkept platform w.acl attrs env ∧ (npuCreateAclTableLocked platform w attrs env).1.npuTables =
            Function.update w.npuTables w.acl.allocated true))) := by
  unfold npuCreateAclTableLocked
  dsimp only
  cases populated : aclTablePopulate env.lookups (.zero w.acl.allocated) attrs with
  | error status =>
    refine Or.inr ⟨(aclTablePopulate_error populated).1, rfl, rfl, rfl, Or.inl ⟨?_, rfl⟩⟩
    rintro ⟨table, number, ok, -⟩
    rw [populated] at ok
    cases ok
  | ok table =>
    by_cases validated : env.validateField = .success
    · rw [validated]
      dsimp only
      cases numbered : aclTableIdAlloc platform { w.acl with allocated := w.acl.allocated + 1 } with
      | none =>
        refine Or.inr ⟨SaiStatus.noConfusion, rfl, rfl, rfl, Or.inl ⟨?_, rfl⟩⟩
        rintro ⟨table, number, -, -, chosen, -⟩
        rw [show aclTableIdAlloc platform w.acl = none from numbered] at chosen
        cases chosen
      | some number =>
        have free := aclTableIdAlloc_some numbered
        have absent := held.fresh free
        have unmarked : Function.update w.acl.tableInUse number false = w.acl.tableInUse :=
          Function.update_eq_self_iff.mpr free.symm
        obtain ⟨node, _⟩ := aclTablePopulate_frame populated
        have chosen : ∀ other one, aclTablePopulate env.lookups (.zero w.acl.allocated) attrs = .ok other →
            aclTableIdAlloc platform w.acl = some one → other = table ∧ one = number := by
          intro other one ok alloc
          rw [populated] at ok
          rw [show aclTableIdAlloc platform w.acl = some number from numbered] at alloc
          exact ⟨(Except.ok.inj ok).symm, (Option.some.inj alloc).symm⟩
        dsimp only
        by_cases npu : (if (table.withId number).needsNpuTable then env.npuCreate else SaiStatus.success) = .success
        · rw [npu]
          dsimp only
          cases treeOk : env.treeOk with
          | false =>
            refine Or.inr ⟨SaiStatus.noConfusion, rfl, unmarked, rfl, ?_⟩
            by_cases needs : (table.withId number).needsNpuTable = true
            · rw [if_pos needs] at npu
              refine Or.inr ⟨⟨table, number, populated, validated, numbered, needs, npu, treeOk⟩, ?_⟩
              exact if_pos needs
            · refine Or.inl ⟨?_, if_neg needs⟩
              rintro ⟨other, one, ok, -, alloc, needed, -⟩
              obtain ⟨rfl, rfl⟩ := chosen other one ok alloc
              exact needs needed
          | true =>
            have absent' : w.acl.tableTree.get (table.withId number).tableId = none := absent
            rw [absent']
            refine Or.inl ⟨rfl,
              @AclTablesHeld.insert (table.stored number) w _ held number free rfl node rfl rfl ?_ rfl, ?_⟩
            · intro other has
              by_cases needs : (table.withId number).needsNpuTable = true
              · simp only [if_pos needs] at has
                by_cases same : other = w.acl.allocated
                · exact Or.inr same
                · rw [Function.update_of_ne same] at has
                  exact Or.inl has
              · simp only [if_neg needs] at has
                exact Or.inl has
            · rintro ⟨_, _, _, _, _, _, _, refused⟩
              rw [treeOk] at refused
              cases refused
        · have refused : ¬AclTableUnkept platform w.acl attrs env := by
            rintro ⟨other, one, ok, -, alloc, needed, made, -⟩
            obtain ⟨rfl, rfl⟩ := chosen other one ok alloc
            exact npu ((if_pos needed).trans made)
          cases answer : (if (table.withId number).needsNpuTable then env.npuCreate else SaiStatus.success) with
          | success => exact absurd answer npu
          | _ => exact Or.inr ⟨SaiStatus.noConfusion, rfl, unmarked, rfl, Or.inl ⟨refused, rfl⟩⟩
    · have refused : ¬AclTableUnkept platform w.acl attrs env := by
        rintro ⟨table, number, -, ok, -⟩
        exact validated ok
      cases answer : env.validateField with
      | success => exact absurd answer validated
      | _ => exact Or.inr ⟨SaiStatus.noConfusion, rfl, rfl, rfl, Or.inl ⟨refused, rfl⟩⟩

theorem AclTablesHeld.deleteTable (held : AclTablesHeld w) (tableId : ObjectId) (npu : SaiStatus) :
    ((npuDeleteAclTable w tableId npu).2 = .success ∧ AclTablesHeld (npuDeleteAclTable w tableId npu).1) ∨
    ((npuDeleteAclTable w tableId npu).2 ≠ .success ∧
      (npuDeleteAclTable w tableId npu).1.acl.tableTree = w.acl.tableTree ∧
      (npuDeleteAclTable w tableId npu).1.acl.tableInUse = w.acl.tableInUse ∧
      (npuDeleteAclTable w tableId npu).1.acl.allocated = w.acl.allocated ∧
      (npuDeleteAclTable w tableId npu).1.npuTables = w.npuTables) := by
  unfold npuDeleteAclTable
  by_cases typed : tableId.objType = .aclTable
  · rw [if_neg (not_not_intro typed)]
    cases stored : w.acl.tableTree.get tableId with
    | none => exact Or.inr ⟨SaiStatus.noConfusion, rfl, rfl, rfl, rfl⟩
    | some table =>
      dsimp only
      split
      · exact Or.inr ⟨SaiStatus.noConfusion, rfl, rfl, rfl, rfl⟩
      split
      · exact Or.inr ⟨SaiStatus.noConfusion, rfl, rfl, rfl, rfl⟩
      cases npu with
      | success => exact Or.inl ⟨rfl, held.delete typed stored rfl rfl rfl rfl⟩
      | _ => exact Or.inr ⟨SaiStatus.noConfusion, KeyTree.put_del stored, rfl, rfl, rfl⟩
  · rw [if_pos typed]
    exact Or.inr ⟨SaiStatus.noConfusion, rfl, rfl, rfl, rfl⟩

theorem npuCreateAclTable_begun (begun : createAclTableBegin w.acl lookups attrs allocOk = .success) :
    npuCreateAclTable platform w attrs lookups allocOk env = npuCreateAclTableLocked platform w attrs env := by
  unfold npuCreateAclTable
  rw [begun]

theorem npuCreateAclTable_refused (refused : createAclTableBegin w.acl lookups attrs allocOk ≠ .success) :
    npuCreateAclTable platform w attrs lookups allocOk env =
      (w, createAclTableBegin w.acl lookups attrs allocOk) := by
  unfold npuCreateAclTable
  cases answer : createAclTableBegin w.acl lookups attrs allocOk with
  | success => exact absurd answer refused
  | _ => rfl

theorem AclTablesHeld.call (held : AclTablesHeld w) (call : AclTableCall) :
    ((call.run platform w).2 = .success ∧ AclTablesHeld (call.run platform w).1 ∧ ¬call.leaks platform w.acl) ∨
    ((call.run platform w).2 ≠ .success ∧ (call.run platform w).1.acl.tableTree = w.acl.tableTree ∧
      (call.run platform w).1.acl.tableInUse = w.acl.tableInUse ∧
      w.acl.allocated ≤ (call.run platform w).1.acl.allocated ∧
      ((¬call.leaks platform w.acl ∧ (call.run platform w).1.npuTables = w.npuTables) ∨
        (call.leaks platform w.acl ∧
          (call.run platform w).1.npuTables = Function.update w.npuTables w.acl.allocated true))) := by
  cases call with
  | delete tableId npu =>
    rcases held.deleteTable tableId npu with ⟨success, next⟩ | ⟨failed, tree, inUse, allocated, same⟩
    · exact Or.inl ⟨success, next, not_false⟩
    · exact Or.inr ⟨failed, tree, inUse, allocated.ge, Or.inl ⟨not_false, same⟩⟩
  | create attrs lookups allocOk env =>
    by_cases begun : createAclTableBegin w.acl lookups attrs allocOk = .success
    · have run : AclTableCall.run platform w (.create attrs lookups allocOk env) =
          npuCreateAclTableLocked platform w attrs env := npuCreateAclTable_begun begun
      have leaks : AclTableCall.leaks platform w.acl (.create attrs lookups allocOk env) ↔
          AclTableUnkept platform w.acl attrs env := and_iff_right begun
      rw [run, leaks]
      rcases held.createLocked attrs env with ⟨success, next, kept⟩ | ⟨failed, tree, inUse, allocated, npu⟩
      · exact Or.inl ⟨success, next, kept⟩
      · exact Or.inr ⟨failed, tree, inUse, by omega, npu⟩
    · have kept : ¬AclTableCall.leaks platform w.acl (.create attrs lookups allocOk env) :=
        fun leaks => begun leaks.1
      have run : AclTableCall.run platform w (.create attrs lookups allocOk env) =
          (w, createAclTableBegin w.acl lookups attrs allocOk) := npuCreateAclTable_refused begun
      rw [run]
      exact Or.inr ⟨begun, rfl, rfl, Nat.le_refl _, Or.inl ⟨kept, rfl⟩⟩

theorem AclTablesHeld.step (held : AclTablesHeld w) {call : AclTableCall} (kept : ¬call.leaks platform w.acl) :
    AclTablesHeld (call.step platform w) := by
  rcases held.call call with ⟨-, next, -⟩ | ⟨-, tree, inUse, allocated, ⟨-, npu⟩ | ⟨leaks, -⟩⟩
  · exact next
  · exact held.same tree inUse npu allocated
  · exact absurd leaks kept

theorem AclTablesHeld.leaks_iff (held : AclTablesHeld w) (call : AclTableCall) :
    ((call.run platform w).2 ≠ .success → (call.run platform w).1.acl.tableTree = w.acl.tableTree ∧
      (call.run platform w).1.acl.tableInUse = w.acl.tableInUse ∧
      (call.run platform w).1.npuTables = w.npuTables) ↔ ¬call.leaks platform w.acl := by
  rcases held.call call with ⟨success, -, kept⟩ | ⟨failed, tree, inUse, -, ⟨kept, npu⟩ | ⟨leaks, npu⟩⟩
  · exact iff_of_true (fun failed => absurd success failed) kept
  · exact iff_of_true (fun _ => ⟨tree, inUse, npu⟩) kept
  · refine iff_of_false (fun same => ?_) (not_not_intro leaks)
    have has : w.npuTables w.acl.allocated = true := by
      rw [← (same failed).2.2, npu, Function.update_self]
    obtain ⟨k, table, stored, named⟩ := held.npu _ has
    have below := held.allocated k table stored
    omega

theorem indexedRetVal_tableFull {index : Nat} (notFull : status ≠ .tableFull) :
    indexedRetVal status index ≠ .tableFull := by
  cases status with
  | tableFull => exact absurd rfl notFull
  | _ => exact SaiStatus.noConfusion

theorem aclTableValidateAttr_notFull {stage : AclStage} {index : Nat}
    {attr : AclTableAttr} (notFull : ∀ groupId, lookups.udfGroupStatus groupId ≠ .tableFull) :
    aclTableValidateAttr s lookups stage index attr ≠ .tableFull := by
  unfold aclTableValidateAttr
  split
  case h_6 groupId =>
    split
    · exact SaiStatus.noConfusion
    · exact indexedRetVal_tableFull (notFull groupId)
  all_goals (try split) <;> (try split) <;> exact SaiStatus.noConfusion

theorem aclTableValidateLoop_notFull {stage : AclStage} {index : Nat}
    (notFull : ∀ groupId, lookups.udfGroupStatus groupId ≠ .tableFull) :
    aclTableValidateLoop s lookups stage index attrs ≠ .tableFull := by
  induction attrs generalizing index with
  | nil => exact SaiStatus.noConfusion
  | cons attr rest ih =>
    have checked := @aclTableValidateAttr_notFull s lookups stage index attr notFull
    unfold aclTableValidateLoop
    cases answer : aclTableValidateAttr s lookups stage index attr with
    | success =>
      dsimp only
      cases aclTableDuplicate attr.id (index + 1) rest with
      | none => exact ih
      | some duplicate => exact SaiStatus.noConfusion
    | tableFull => exact absurd answer checked
    | _ => exact SaiStatus.noConfusion

theorem aclTableValidateAttributes_notFull (notFull : ∀ groupId, lookups.udfGroupStatus groupId ≠ .tableFull) :
    aclTableValidateAttributes s lookups attrs ≠ .tableFull := by
  unfold aclTableValidateAttributes
  cases staged : aclTableStageLoop 0 none attrs with
  | error status =>
    obtain ⟨place, rfl⟩ := aclTableStageLoop_error staged
    exact SaiStatus.noConfusion
  | ok stage =>
    have checked := @aclTableValidateLoop_notFull s lookups attrs (stage.getD .ingress) 0 notFull
    dsimp only
    cases answer : aclTableValidateLoop s lookups (stage.getD .ingress) 0 attrs with
    | success =>
      dsimp only
      split
      · exact SaiStatus.noConfusion
      split
      · exact SaiStatus.noConfusion
      · split <;> exact SaiStatus.noConfusion
    | tableFull => exact absurd answer checked
    | _ => exact SaiStatus.noConfusion

theorem createAclTableBegin_notFull (notFull : ∀ groupId, lookups.udfGroupStatus groupId ≠ .tableFull) :
    createAclTableBegin s lookups attrs allocOk ≠ .tableFull := by
  have checked := @aclTableValidateAttributes_notFull s lookups attrs notFull
  unfold createAclTableBegin
  split
  · exact SaiStatus.noConfusion
  cases answer : aclTableValidateAttributes s lookups attrs with
  | success =>
    dsimp only
    split <;> exact SaiStatus.noConfusion
  | tableFull => exact absurd answer checked
  | _ => exact SaiStatus.noConfusion

theorem npuCreateAclTable_tableFull (w : AclTableWorld) (attrs : List AclTableAttr)
    (allocOk : Bool) (notFull : AclTableNotFull lookups env) :
    (npuCreateAclTable platform w attrs lookups allocOk env).2 = .tableFull ↔
      AclTableChooses w.acl attrs lookups allocOk env ∧
        ∀ number, 1 ≤ number → number ≤ platform.tableIdMax → w.acl.tableInUse number = true := by
  by_cases begun : createAclTableBegin w.acl lookups attrs allocOk = .success
  · rw [npuCreateAclTable_begun begun, ← aclTableIdAlloc_none]
    unfold AclTableChooses npuCreateAclTableLocked
    rw [and_iff_right begun]
    dsimp only
    cases populated : aclTablePopulate env.lookups (.zero w.acl.allocated) attrs with
    | error status =>
      refine iff_of_false ?_ ?_
      · rcases (aclTablePopulate_error populated).2 with rfl | ⟨groupId, rfl⟩
        · exact SaiStatus.noConfusion
        · exact notFull.udfHwId groupId
      · rintro ⟨⟨⟨table, ok⟩, -⟩, -⟩
        cases ok
    | ok table =>
      by_cases validated : env.validateField = .success
      · rw [validated]
        dsimp only
        cases numbered : aclTableIdAlloc platform { w.acl with allocated := w.acl.allocated + 1 } with
        | none => exact iff_of_true rfl ⟨⟨⟨table, rfl⟩, rfl⟩, numbered⟩
        | some number =>
          refine iff_of_false ?_ ?_
          · dsimp only
            cases answer : (if (table.withId number).needsNpuTable then env.npuCreate else SaiStatus.success) with
            | success =>
              dsimp only
              cases env.treeOk
              · exact SaiStatus.noConfusion
              · cases w.acl.tableTree.get (table.withId number).tableId <;> exact SaiStatus.noConfusion
            | tableFull =>
              split at answer
              · exact absurd answer notFull.npuCreate
              · cases answer
            | _ => exact SaiStatus.noConfusion
          · rintro ⟨-, free⟩
            rw [show aclTableIdAlloc platform w.acl = some number from numbered] at free
            cases free
      · refine iff_of_false ?_ (fun chooses => validated chooses.1.2)
        cases answer : env.validateField with
        | success => exact absurd answer validated
        | tableFull => exact absurd answer notFull.validateField
        | _ => exact SaiStatus.noConfusion
  · rw [npuCreateAclTable_refused begun]
    exact iff_of_false (createAclTableBegin_notFull notFull.udfGroup) (fun chooses => begun chooses.1.1)

end Held

/-- The ids, the tree and the NPU agree in every run in which the tree takes each
table that the NPU has made. What can break them is exactly a creation that the
tree refuses after the NPU. -/
theorem aclTables_agree {platform : AclPlatform} {w : AclTableWorld} (reach : Runs.Reach AclTablesInit
      (Runs.guarded (fun w call => ¬call.leaks platform w.acl) (AclTableCall.step platform)) w) :
    AclTablesAgree w ∧ ∀ call, AclTableCallExact platform w call ↔ ¬call.leaks platform w.acl := by
  have held : AclTablesHeld w := by
    refine reach.invariant AclTablesHeld (fun s init => init.held) ?_
    rintro s call t held ⟨kept, rfl⟩
    exact held.step kept
  refine ⟨held.agree, fun call => ?_⟩
  constructor
  · intro right
    exact (held.leaks_iff call).mp right.failed
  · intro kept
    refine ⟨(held.step kept).agree, (held.leaks_iff call).mpr kept, ?_⟩
    rintro attrs lookups allocOk env rfl notFull
    exact npuCreateAclTable_tableFull w attrs allocOk notFull

def tableIdSamplePlatform : AclPlatform where
  tableIdMax := 2
  defaultAdminState := true
  policerMode := fun _ => .srTcm

def tableIdSample : AclTableWorld where
  acl :=
    { tableTree := ∅
      ruleTree := ∅
      counterTree := ∅
      tableInUse := fun _ => false
      allocated := 0
      qos := { portTree := ∅, policerTree := ∅ } }
  npuTables := fun _ => false

def tableIdSampleLookups : AclLookups where
  portValid := fun _ => true
  mirrorValid := fun _ => true
  udfGroupStatus := fun _ => .success
  udfHwId := fun _ => (.success, 0)
  listAlloc := true
  valueAlloc := fun _ => true

def tableIdSampleCreate (treeOk : Bool) : AclTableCall :=
  .create [.stage .ingress, .priority 1, .size 16, .field 0] tableIdSampleLookups true
    ⟨tableIdSampleLookups, .success, .success, treeOk⟩

theorem tableIdSample_init : AclTablesInit tableIdSample :=
  ⟨rfl, fun _ => rfl, fun _ => rfl⟩

theorem aclTables_agree_sample : AclTablesAgree ([tableIdSampleCreate true, .delete ⟨.aclTable, 1⟩ .success].foldl
    (AclTableCall.step tableIdSamplePlatform) tableIdSample) := by
  refine (@aclTables_agree tableIdSamplePlatform _ (Runs.Reach.run (.start tableIdSample_init) ?_)).1
  refine ⟨?_, not_false, trivial⟩
  rintro ⟨-, table, number, -, -, -, -, -, refused⟩
  cases refused

/-- The table that was made for the refused node stays in the NPU. -/
theorem aclTables_not_agree : ¬ ∀ platform w,
    Runs.Reach AclTablesInit (Runs.guarded (fun _ _ => True) (AclTableCall.step platform)) w →
    AclTablesAgree w ∧ ∀ call, AclTableCallExact platform w call := by
  intro all
  have right := (all tableIdSamplePlatform tableIdSample (.start tableIdSample_init)).2 (tableIdSampleCreate false)
  obtain ⟨k, table, stored, -⟩ := right.agree.npu 0 rfl
  have none : (AclTableCall.run tableIdSamplePlatform tableIdSample (tableIdSampleCreate false)).1.acl.tableTree.get k =
      none := rfl
  rw [none] at stored
  cases stored

end SaiCommon
