import SaiCommon.Acl.RuleFrames
import SaiCommon.Lib.Attachment
import SaiCommon.Lib.Runs

namespace SaiCommon

open KeyTree

variable {k : ObjectId} {lookups : AclLookups} {next : AclRule} {index : Nat} {platform : AclPlatform} {t : AclState}
  {table : AclTable}

/-- The ACL database and the creations that have passed the checks before the
lock and wait for it: tables with their attributes, rules with the pointer to
the table they found. -/
structure AclSystem where
  db : AclState
  tables : List (List AclTableAttr)
  rules : List (AclTable × List AclRuleAttr)

/-- One atomic step of some client. A waiting creation is named by its place. -/
inductive AclEvent
  | beginTable (attrs : List AclTableAttr) (lookups : AclLookups) (allocOk : Bool)
  | lockTable (place : Nat) (env : AclTableCreateEnv)
  | beginRule (attrs : List AclRuleAttr) (allocOk : Bool)
  | lockRule (place : Nat) (env : AclRuleCreateEnv)
  | deleteTable (tableId : ObjectId) (npu : SaiStatus)
  | createCounter (attrs : List AclCounterAttr) (env : AclCounterCreateEnv)
  | deleteCounter (counterId : ObjectId) (sharedCount : Nat) (npu : SaiStatus)
  | deleteRule (ruleId : ObjectId) (env : AclRuleDeleteEnv)
  | setRule (ruleId : ObjectId) (attr : AclRuleAttr) (env : AclRuleSetEnv)

def AclEvent.step (platform : AclPlatform) (s : AclSystem) : AclEvent → AclSystem
  | .beginTable attrs lookups allocOk =>
    match createAclTableBegin s.db lookups attrs allocOk with
    | .success => { s with tables := s.tables ++ [attrs] }
    | _ => s
  | .lockTable place env =>
    match s.tables[place]? with
    | none => s
    | some attrs =>
      { s with db := (createAclTableLocked platform s.db attrs env).1, tables := s.tables.eraseIdx place }
  | .beginRule attrs allocOk =>
    match createAclRuleBegin s.db attrs allocOk with
    | .error _ => s
    | .ok table => { s with rules := s.rules ++ [(table, attrs)] }
  | .lockRule place env =>
    match s.rules[place]? with
    | none => s
    | some (table, attrs) =>
      { s with db := (createAclRuleLocked platform s.db table attrs env).1, rules := s.rules.eraseIdx place }
  | .deleteTable tableId npu => { s with db := (deleteAclTable s.db tableId npu).1 }
  | .createCounter attrs env => { s with db := (createAclCounter s.db attrs env).1 }
  | .deleteCounter counterId sharedCount npu => { s with db := (deleteAclCounter s.db counterId sharedCount npu).1 }
  | .deleteRule ruleId env => { s with db := (deleteAclRule s.db ruleId env).1 }
  | .setRule ruleId attr env => { s with db := (setAclRule platform s.db ruleId attr env).1 }

def ruleTableOf (s : AclState) : ObjectId → Option ObjectId :=
  Attached.nameIn s.ruleTree fun rule => some rule.tableId

def ruleHeads (s : AclState) : ObjectId → Option (List ObjectId) :=
  Attached.ofTree s.tableTree AclTable.ruleHead

def countersOf (s : AclState) (tableId : ObjectId) : Nat :=
  s.counterTree.tally fun _ counter => decide (counter.tableId = tableId)

/-- What holds of the database between the atomic steps. -/
structure AclOwned (s : AclState) : Prop where
  keys : ∀ k table, s.tableTree.get k = some table → table.tableId = k
  rules : Attached (ruleHeads s) (ruleTableOf s)
  ruleCounts : ∀ k table, s.tableTree.get k = some table → table.ruleCount = table.ruleHead.length
  counters : ∀ k table, s.tableTree.get k = some table → table.numCounters = countersOf s k
  counterLive : ∀ counterId counter, s.counterTree.get counterId = some counter →
    s.tableTree.get counter.tableId ≠ none
  priorities : ∀ k table k' table', s.tableTree.get k = some table → s.tableTree.get k' = some table' →
    table.aclStage = table'.aclStage → table.aclTablePriority = table'.aclTablePriority → k = k'

/-- A waiting rule creation has the pointer to the table that its list names. -/
def AclWaiting (rules : List (AclTable × List AclRuleAttr)) : Prop :=
  ∀ table attrs, (table, attrs) ∈ rules → table.tableId = aclRuleTableId nullObjectId attrs

def RuleStores (platform : AclPlatform) (s : AclState) (table : AclTable) (attrs : List AclRuleAttr)
    (env : AclRuleCreateEnv) : Prop :=
  ∃ rule, RuleAccepted platform s table attrs env rule ∧
    (rule.policerId ≠ nullObjectId → s.qos.policerTree.get rule.policerId ≠ none) ∧
    env.treeOk = true ∧ s.ruleTree.get env.ruleId = none

/-- A table creation that stores the node `table` under the id with `number`. -/
structure TableStores (platform : AclPlatform) (s : AclState) (attrs : List AclTableAttr) (env : AclTableCreateEnv)
    (table : AclTable) (number : Nat) : Prop where
  populated : aclTablePopulate env.lookups (.zero s.allocated) attrs = .ok table
  validated : env.validateField = .success
  numbered : aclTableIdAlloc platform s = some number
  npu : (table.withId number).needsNpuTable = true → env.npuCreate = .success
  treeOk : env.treeOk = true
  fresh : s.tableTree.get ⟨.aclTable, number⟩ = none

/-- What was checked before the lock still holds under it: the table of a rule
that is stored is the one that was found, and no table was stored meanwhile with
the stage and the priority of a table that is stored. -/
def AclEvent.undisturbed (platform : AclPlatform) (s : AclSystem) : AclEvent → Prop
  | .lockRule place env => ∀ table attrs, s.rules[place]? = some (table, attrs) →
    RuleStores platform s.db table attrs env → s.db.isLive table
  | .lockTable place env => ∀ attrs table number, s.tables[place]? = some attrs →
    TableStores platform s.db attrs env table number → ∀ k other, s.db.tableTree.get k = some other →
      ¬ (other.aclStage = table.aclStage ∧ other.aclTablePriority = table.aclTablePriority)
  | _ => True

section Tables
variable {s : AclState}

theorem ruleHeads_of_get (stored : s.tableTree.get k = some table) : ruleHeads s k = some table.ruleHead := by
  unfold ruleHeads Attached.ofTree
  rw [stored]
  rfl

theorem ruleHeads_eq_none : ruleHeads s k = none ↔ s.tableTree.get k = none :=
  Option.map_eq_none_iff

def AclTable.face (table : AclTable) : ObjectId × AclStage × Nat × List ObjectId × Nat × Nat :=
  (table.tableId, table.aclStage, table.aclTablePriority, table.ruleHead, table.ruleCount, table.numCounters)

theorem AclOwned.congr (owned : AclOwned s)
    (tables : ∀ k, (t.tableTree.get k).map AclTable.face = (s.tableTree.get k).map AclTable.face)
    (rules : ∀ k, ruleTableOf t k = ruleTableOf s k) (counters : t.counterTree = s.counterTree) : AclOwned t := by
  have back : ∀ k table, t.tableTree.get k = some table → ∃ old, s.tableTree.get k = some old ∧
    old.face = table.face := by
    intro k table stored
    have same := tables k
    rw [stored] at same
    exact Option.map_eq_some_iff.mp same.symm
  have heads : ∀ k, ruleHeads t k = ruleHeads s k := by
    intro k
    have same := congrArg (Option.map fun face => face.2.2.2.1) (tables k)
    rw [Option.map_map, Option.map_map] at same
    exact same
  have live : ∀ k, s.tableTree.get k ≠ none → t.tableTree.get k ≠ none := by
    intro k present absent
    have same := tables k
    rw [absent] at same
    exact present (Option.map_eq_none_iff.mp same.symm)
  refine ⟨?_, owned.rules.congr heads rules, ?_, ?_, ?_, ?_⟩
  · intro k table stored
    obtain ⟨old, oldStored, face⟩ := back k table stored
    have same := congrArg Prod.fst face
    exact same.symm.trans (owned.keys k old oldStored)
  · intro k table stored
    obtain ⟨old, oldStored, face⟩ := back k table stored
    simp only [AclTable.face, Prod.mk.injEq] at face
    rw [← face.2.2.2.2.1, ← face.2.2.2.1]
    exact owned.ruleCounts k old oldStored
  · intro k table stored
    obtain ⟨old, oldStored, face⟩ := back k table stored
    simp only [AclTable.face, Prod.mk.injEq] at face
    unfold countersOf
    rw [← face.2.2.2.2.2, counters]
    exact owned.counters k old oldStored
  · intro counterId counter stored
    rw [counters] at stored
    exact live _ (owned.counterLive counterId counter stored)
  · intro k table k' table' stored stored' stage priority
    obtain ⟨old, oldStored, face⟩ := back k table stored
    obtain ⟨old', oldStored', face'⟩ := back k' table' stored'
    simp only [AclTable.face, Prod.mk.injEq] at face face'
    refine owned.priorities k old k' old' oldStored oldStored' ?_ ?_
    · rw [face.2.1, face'.2.1]
      exact stage
    · rw [face.2.2.1, face'.2.2.1]
      exact priority

def AclTable.OwnsNothing (table : AclTable) : Prop :=
  table.ruleHead = [] ∧ table.ruleCount = 0 ∧ table.numCounters = 0

theorem aclTableStageLoop_error {stage : Option AclStage} {attrs : List AclTableAttr}
    {status : SaiStatus} (failed : aclTableStageLoop index stage attrs = .error status) :
    ∃ place, status = .invalidAttrValue place := by
  induction attrs generalizing index stage with
  | nil => cases failed
  | cons attr rest ih =>
    cases attr with
    | stage value =>
      unfold aclTableStageLoop at failed
      split at failed
      · exact ⟨index, (Except.error.inj failed).symm⟩
      · exact ih failed
    | _ => exact ih failed

def AclTable.stored (table : AclTable) (number : Nat) : AclTable :=
  { table.withId number with npuTable := (table.withId number).needsNpuTable }

theorem createAclTableLocked_cases (platform : AclPlatform) (s : AclState) (attrs : List AclTableAttr)
    (env : AclTableCreateEnv) : ((createAclTableLocked platform s attrs env).1.ruleTree = s.ruleTree ∧
      (createAclTableLocked platform s attrs env).1.counterTree = s.counterTree) ∧
    ((createAclTableLocked platform s attrs env).1.tableTree = s.tableTree ∨
      ∃ table number, TableStores platform s attrs env table number ∧
        (createAclTableLocked platform s attrs env).1.tableTree =
          s.tableTree.put ⟨.aclTable, number⟩ (table.stored number)) := by
  unfold createAclTableLocked
  dsimp only
  split
  · exact ⟨⟨rfl, rfl⟩, .inl rfl⟩
  rename_i table populated
  split
  · rename_i validated
    split
    · exact ⟨⟨rfl, rfl⟩, .inl rfl⟩
    rename_i number numbered
    split
    · rename_i npu
      split
      · rename_i treeOk fresh
        refine ⟨⟨rfl, rfl⟩, .inr ⟨table, number,
          ⟨populated, validated, numbered, fun needs => ?_, treeOk, fresh⟩,
          rfl⟩⟩
        rw [if_pos needs] at npu
        exact npu
      · exact ⟨⟨rfl, rfl⟩, .inl rfl⟩
    · exact ⟨⟨rfl, rfl⟩, .inl rfl⟩
  · exact ⟨⟨rfl, rfl⟩, .inl rfl⟩

theorem ruleTableOf_congr (tree : t.ruleTree = s.ruleTree) (k : ObjectId) : ruleTableOf t k = ruleTableOf s k := by
  unfold ruleTableOf
  rw [tree]

theorem AclOwned.insertTable (owned : AclOwned s) (empty : table.OwnsNothing)
    (absent : s.tableTree.get k = none) (key : table.tableId = k)
    (single : ∀ j other, s.tableTree.get j = some other →
      ¬ (other.aclStage = table.aclStage ∧ other.aclTablePriority = table.aclTablePriority))
    (tables : t.tableTree = s.tableTree.put k table) (rules : t.ruleTree = s.ruleTree)
    (counters : t.counterTree = s.counterTree) : AclOwned t := by
  obtain ⟨noRules, noCount, noCounters⟩ := empty
  have get : ∀ j, t.tableTree.get j = if j = k then some table else s.tableTree.get j := by
    intro j
    rw [tables, get_put]
  have noHead : ruleHeads s k = none := ruleHeads_eq_none.mpr absent
  refine ⟨?_, ?_, ?_, ?_, ?_, ?_⟩
  · intro j other stored
    rw [get j] at stored
    split at stored
    · rename_i same
      cases stored
      rw [same]
      exact key
    · exact owned.keys j other stored
  · refine (owned.rules.insert noHead).congr (fun j => ?_) (ruleTableOf_congr rules)
    unfold ruleHeads
    rw [tables, Attached.ofTree_put, noRules]
  · intro j other stored
    rw [get j] at stored
    split at stored
    · cases stored
      rw [noCount, noRules, List.length_nil]
    · exact owned.ruleCounts j other stored
  · intro j other stored
    rw [get j] at stored
    unfold countersOf
    rw [counters]
    split at stored
    · rename_i same
      cases stored
      rw [noCounters]
      refine (tally_eq_zero fun counterId counter found => ?_).symm
      refine decide_eq_false fun isIt => owned.counterLive counterId counter found ?_
      rw [isIt, same]
      exact absent
    · exact owned.counters j other stored
  · intro counterId counter found
    rw [counters] at found
    rw [get]
    split
    · exact Option.some_ne_none _
    · exact owned.counterLive counterId counter found
  · intro j one j' two stored stored' stage priority
    rw [get j] at stored
    rw [get j'] at stored'
    split at stored
    · rename_i same
      cases stored
      split at stored'
      · rename_i same'
        rw [same, same']
      · exact absurd ⟨stage.symm, priority.symm⟩ (single j' two stored')
    · split at stored'
      · cases stored'
        exact absurd ⟨stage, priority⟩ (single j one stored)
      · exact owned.priorities j one j' two stored stored' stage priority

theorem AclOwned.createTable (owned : AclOwned s) {attrs : List AclTableAttr} {env : AclTableCreateEnv}
    (single : ∀ table number, TableStores platform s attrs env table number →
      ∀ k other, s.tableTree.get k = some other →
        ¬ (other.aclStage = table.aclStage ∧ other.aclTablePriority = table.aclTablePriority)) :
    AclOwned (createAclTableLocked platform s attrs env).1 := by
  obtain ⟨⟨rules, counters⟩, same | ⟨table, number, stores, put⟩⟩ :=
    createAclTableLocked_cases platform s attrs env
  · exact owned.congr (fun k => by rw [same]) (ruleTableOf_congr rules) counters
  · obtain ⟨_, populated⟩ := aclTablePopulate_frame stores.populated
    have empty : (table.stored number).OwnsNothing := populated
    exact owned.insertTable empty stores.fresh rfl (single table number stores) put rules counters

theorem deleteAclTable_cases (s : AclState) (tableId : ObjectId) (npu : SaiStatus) :
    ((deleteAclTable s tableId npu).1.ruleTree = s.ruleTree ∧
      (deleteAclTable s tableId npu).1.counterTree = s.counterTree) ∧
    ((deleteAclTable s tableId npu).1.tableTree = s.tableTree ∨
      ∃ table, s.tableTree.get tableId = some table ∧ table.ruleCount = 0 ∧ table.numCounters = 0 ∧
        (deleteAclTable s tableId npu).1.tableTree = s.tableTree.del tableId) := by
  unfold deleteAclTable
  split
  · exact ⟨⟨rfl, rfl⟩, .inl rfl⟩
  split
  · exact ⟨⟨rfl, rfl⟩, .inl rfl⟩
  rename_i table stored
  split
  · exact ⟨⟨rfl, rfl⟩, .inl rfl⟩
  split
  · exact ⟨⟨rfl, rfl⟩, .inl rfl⟩
  split
  · exact ⟨⟨rfl, rfl⟩, .inr ⟨table, stored, by omega, by omega, rfl⟩⟩
  · exact ⟨⟨rfl, rfl⟩, .inl (put_del stored)⟩

theorem AclOwned.deleteTable (owned : AclOwned s) (tableId : ObjectId) (npu : SaiStatus) :
    AclOwned (deleteAclTable s tableId npu).1 := by
  obtain ⟨⟨rules, counters⟩, same | ⟨table, stored, noRules, noCounters, removed⟩⟩ :=
    deleteAclTable_cases s tableId npu
  · exact owned.congr (fun k => by rw [same]) (ruleTableOf_congr rules) counters
  · have get : ∀ j, (deleteAclTable s tableId npu).1.tableTree.get j =
        if j = tableId then none else s.tableTree.get j := by
      intro j
      rw [removed, get_del]
    have old : ∀ j other, (deleteAclTable s tableId npu).1.tableTree.get j = some other →
        s.tableTree.get j = some other := by
      intro j other found
      rw [get j] at found
      split at found
      · cases found
      · exact found
    have empty : ruleHeads s tableId = some [] := by
      have length := owned.ruleCounts tableId table stored
      rw [noRules] at length
      rw [ruleHeads_of_get stored, List.eq_nil_of_length_eq_zero length.symm]
    refine ⟨fun j other found => owned.keys j other (old j other found), ?_,
      fun j other found => owned.ruleCounts j other (old j other found), ?_, ?_, ?_⟩
    · refine (owned.rules.erase empty).congr (fun j => ?_) (ruleTableOf_congr rules)
      unfold ruleHeads
      rw [removed, Attached.ofTree_del]
    · intro j other found
      unfold countersOf
      rw [counters]
      exact owned.counters j other (old j other found)
    · intro counterId counter found
      rw [counters] at found
      rw [get]
      split
      · rename_i isIt
        have counted := tally_pos (p := fun _ counter => decide (counter.tableId = tableId)) found
          (decide_eq_true isIt)
        have none := owned.counters tableId table stored
        unfold countersOf at none
        omega
      · exact owned.counterLive counterId counter found
    · intro j one j' two found found'
      exact owned.priorities j one j' two (old j one found) (old j' two found')

end Tables

section Counters
variable {s : AclState}

section
variable (owned : AclOwned s)
include owned

theorem AclOwned.markTable (stored : s.tableTree.get k = some table) :
    AclOwned { s with tableTree := s.tableTree.put k { table with npuTable := true } } := by
  refine owned.congr (fun j => ?_) (fun _ => rfl) rfl
  dsimp only
  rw [get_put]
  split
  · rename_i same
    rw [same, stored]
    rfl
  · rfl

theorem AclOwned.editTable {node : AclTable}
    (stored : s.tableTree.get k = some table) (tables : t.tableTree = s.tableTree.put k node)
    (key : node.tableId = table.tableId) (stage : node.aclStage = table.aclStage)
    (priority : node.aclTablePriority = table.aclTablePriority)
    (rules : Attached (ruleHeads t) (ruleTableOf t)) (count : node.ruleCount = node.ruleHead.length)
    (here : node.numCounters = countersOf t k) (others : ∀ j, j ≠ k → countersOf t j = countersOf s j)
    (live : ∀ counterId counter, t.counterTree.get counterId = some counter →
      s.tableTree.get counter.tableId ≠ none) : AclOwned t := by
  have get : ∀ j, t.tableTree.get j = if j = k then some node else s.tableTree.get j := by
    intro j
    rw [tables, get_put]
  refine ⟨?_, rules, ?_, ?_, ?_, ?_⟩
  · intro j other found
    rw [get j] at found
    split at found
    · rename_i same
      cases found
      rw [same, key]
      exact owned.keys k table stored
    · exact owned.keys j other found
  · intro j other found
    rw [get j] at found
    split at found
    · cases found
      exact count
    · exact owned.ruleCounts j other found
  · intro j other found
    rw [get j] at found
    split at found
    · rename_i same
      cases found
      rw [same]
      exact here
    · rename_i other'
      rw [others j other']
      exact owned.counters j other found
  · intro counterId counter found
    rw [get]
    split
    · exact Option.some_ne_none _
    · exact live counterId counter found
  · intro j one j' two found found'
    rw [get j] at found
    rw [get j'] at found'
    split at found
    · rename_i same
      cases found
      rw [stage, priority]
      split at found'
      · rename_i same'
        exact fun _ _ => same.trans same'.symm
      · rw [same]
        exact owned.priorities k table j' two stored found'
    · split at found'
      · rename_i same'
        cases found'
        rw [stage, priority, same']
        exact owned.priorities j one k table found stored
      · exact owned.priorities j one j' two found found'

theorem AclOwned.countCounter {count : Nat}
    (stored : s.tableTree.get k = some table) {tree : KeyTree ObjectId AclCounter}
    (here : count = tree.tally fun _ counter => decide (counter.tableId = k))
    (others : ∀ j, j ≠ k → (tree.tally fun _ counter => decide (counter.tableId = j)) = countersOf s j)
    (live : ∀ counterId counter, tree.get counterId = some counter → s.tableTree.get counter.tableId ≠ none) :
    AclOwned { s with
      tableTree := s.tableTree.put k { table with numCounters := count }
      counterTree := tree } := by
  refine owned.editTable stored rfl rfl rfl rfl ?_ (owned.ruleCounts k table stored) here others live
  refine owned.rules.congr (fun j => ?_) fun _ => rfl
  refine Attached.ofTree_put_keep stored ?_ j
  rfl

theorem AclOwned.createCounter (attrs : List AclCounterAttr) (env : AclCounterCreateEnv) :
    AclOwned (createAclCounter s attrs env).1 := by
  rcases createAclCounter_cases s attrs env with
    same | ⟨counter, table, _, stored, rfl, same | ⟨id, fresh, same⟩⟩
  · rwa [same]
  · rw [same]
    exact owned.markTable stored
  rw [same]
  have marked := owned.markTable stored
  have here : (s.tableTree.put counter.tableId { table with npuTable := true }).get counter.tableId =
      some { table with npuTable := true } := get_put_self _ _ _
  have added : ∀ j, ((s.counterTree.put id counter).tally fun _ counter => decide (counter.tableId = j)) =
      (if counter.tableId = j then 1 else 0) + countersOf s j := by
    intro j
    rw [tally_put_new fresh]
    simp only [decide_eq_true_eq]
    rfl
  rw [modify_of_get here]
  refine marked.countCounter here ?_ (fun j other => ?_) fun counterId other found => ?_
  · rw [added, if_pos rfl]
    have counted := owned.counters _ table stored
    dsimp only
    omega
  · rw [added, if_neg fun isIt => other isIt.symm, Nat.zero_add]
    rfl
  · rw [get_put] at found
    split at found
    · cases found
      rw [here]
      exact Option.some_ne_none _
    · exact marked.counterLive counterId other found

theorem AclOwned.deleteCounter (counterId : ObjectId) (sharedCount : Nat) (npu : SaiStatus) :
    AclOwned (deleteAclCounter s counterId sharedCount npu).1 := by
  unfold deleteAclCounter
  split
  · exact owned
  split
  · exact owned
  rename_i counter found
  split
  · exact owned
  split
  · obtain ⟨table, stored⟩ := Option.ne_none_iff_exists'.mp (owned.counterLive counterId counter found)
    have removed : ∀ j, (if counter.tableId = j then 1 else 0) +
        ((s.counterTree.del counterId).tally fun _ counter => decide (counter.tableId = j)) = countersOf s j := by
      intro j
      have split := tally_del_old (p := fun _ counter => decide (counter.tableId = j)) found
      simp only [decide_eq_true_eq] at split
      exact split
    rw [modify_of_get stored]
    refine owned.countCounter stored ?_ (fun j other => ?_) fun otherId other isStored => ?_
    · have counted := owned.counters _ table stored
      have one := removed counter.tableId
      rw [if_pos rfl] at one
      omega
    · have none := removed j
      rw [if_neg fun isIt => other isIt.symm, Nat.zero_add] at none
      exact none
    · exact owned.counterLive otherId other (get_of_del isStored)
  · exact owned

end

end Counters

section Rules
variable {s : AclState} {ruleId : ObjectId} {rule : AclRule}

section
variable (owned : AclOwned s)
include owned

theorem AclOwned.policed : AclOwned (s.policed ruleId rule) :=
  owned.congr (fun k => by rw [AclState.policed_tableTree]) (ruleTableOf_congr AclState.policed_ruleTree)
    AclState.policed_counterTree

theorem AclOwned.unpoliced : AclOwned (s.unpoliced ruleId rule) :=
  owned.congr (fun k => by rw [AclState.unpoliced_tableTree]) (ruleTableOf_congr AclState.unpoliced_ruleTree)
    AclState.unpoliced_counterTree

theorem AclOwned.installed (env : AclRuleCreateEnv) : AclOwned (s.installed table env) := by
  rcases s.installed_cases table env with same | marked
  · rw [same]
    exact owned
  rw [marked]
  unfold AclState.writeTable
  split
  · rename_i live
    obtain ⟨stored, found, _⟩ := live
    rw [modify_of_get found]
    exact owned.markTable found
  · exact owned

theorem AclOwned.storeRule (live : s.isLive table) (names : rule.tableId = table.tableId)
    (fresh : s.ruleTree.get ruleId = none) (priorityOf : ObjectId → Nat) :
    AclOwned ((s.putRule ruleId rule).writeTable table fun table => table.linkRule priorityOf ruleId) := by
  obtain ⟨stored, found, sameNode⟩ := live
  have live : (s.putRule ruleId rule).isLive table := ⟨stored, found, sameNode⟩
  rw [AclState.writeTable_of_live live]
  unfold AclState.putRule
  dsimp only
  rw [modify_of_get found]
  have sorted := aclRuleInsertSorted_perm priorityOf ruleId stored.ruleHead
  refine owned.editTable found rfl rfl rfl rfl ?_ ?_ (owned.counters _ stored found) (fun _ _ => rfl) owned.counterLive
  · have unnamed : ruleTableOf s ruleId = none := Attached.nameIn_eq_none fun other isIt => by
      rw [fresh] at isIt
      cases isIt
    have moved := owned.rules.move ruleId (some table.tableId) fun k isIt => by
      cases isIt
      rw [ruleHeads_of_get found]
      exact Option.some_ne_none _
    rw [unnamed] at moved
    have named : Attached (Attached.take (ruleHeads s) ruleId (some table.tableId)) (ruleTableOf
        { s with
          tableTree := s.tableTree.put table.tableId (stored.linkRule priorityOf ruleId)
          ruleTree := s.ruleTree.put ruleId rule }) := by
      refine moved.congr (fun _ => rfl) fun id => ?_
      rw [← names]
      exact Attached.nameIn_put ruleId rule id
    have head : ∀ k, ruleHeads { s with
        tableTree := s.tableTree.put table.tableId (stored.linkRule priorityOf ruleId)
        ruleTree := s.ruleTree.put ruleId rule } k =
        Function.update (ruleHeads s) table.tableId (some (stored.linkRule priorityOf ruleId).ruleHead) k :=
      fun k => Attached.ofTree_put k
    refine named.perm (fun k l' isIt => ?_) fun k present absent => ?_
    · rw [head, Function.update_apply] at isIt
      split at isIt
      · rename_i same
        cases isIt
        refine ⟨stored.ruleHead ++ [ruleId], ?_, sorted.trans (List.perm_append_singleton _ _).symm⟩
        unfold Attached.take Attached.edit
        dsimp only
        rw [if_pos same, same, ruleHeads_of_get found]
        rfl
      · rename_i other
        refine ⟨l', ?_, List.Perm.refl _⟩
        unfold Attached.take Attached.edit
        dsimp only
        rw [if_neg other]
        exact isIt
    · rw [head, Function.update_apply] at absent
      split at absent
      · cases absent
      · exact Attached.take_eq_none.not.mp present absent
  · have length := sorted.length_eq
    rw [List.length_cons] at length
    have before := owned.ruleCounts _ stored found
    unfold AclTable.linkRule
    dsimp only
    omega

theorem AclOwned.addRule (live : s.isLive table) (names : rule.tableId = table.tableId)
    (fresh : s.ruleTree.get ruleId = none) : AclOwned (s.addRule table ruleId rule) := by
  have policed : AclOwned (s.policed ruleId rule) := owned.policed
  have stays : (s.policed ruleId rule).isLive table := by
    unfold AclState.isLive
    rw [AclState.policed_tableTree]
    exact live
  have unused : (s.policed ruleId rule).ruleTree.get ruleId = none := by
    rw [AclState.policed_ruleTree]
    exact fresh
  exact policed.storeRule stays names unused _

theorem AclOwned.dropRule (table : AclTable) (stored : s.ruleTree.get ruleId = some rule)
    (found : s.tableTree.get rule.tableId = some table) : AclOwned (s.dropRule ruleId rule) := by
  have named : ruleTableOf s ruleId = some rule.tableId := by
    unfold ruleTableOf Attached.nameIn
    rw [stored]
    rfl
  have member : ruleId ∈ table.ruleHead := owned.rules.mem_of_named (ruleHeads_of_get found) named
  refine owned.editTable (t := s.dropRule ruleId rule) found (modify_of_get found) rfl rfl rfl ?_ ?_
    (owned.counters _ table found) (fun _ _ => rfl) owned.counterLive
  · have moved := owned.rules.move ruleId none fun k isIt => by cases isIt
    rw [named] at moved
    refine moved.congr (fun k => ?_) fun id => ?_
    · refine Attached.ofTree_modify (fun node => ?_) k
      rfl
    · unfold ruleTableOf AclState.dropRule Attached.nameIn
      rw [get_del, Function.update_apply]
      split
      · rfl
      · rfl
  · have length := List.length_erase_of_mem member
    have before := owned.ruleCounts _ table found
    unfold AclTable.unlinkRule
    dsimp only
    omega

theorem AclOwned.deleteRule (ruleId : ObjectId) (env : AclRuleDeleteEnv) :
    AclOwned (deleteAclRule s ruleId env).1 := by
  rcases deleteAclRule_cases s ruleId env with
    ⟨status, _, same⟩ | ⟨rule, status, _, _, _, again⟩ | ⟨rule, table, stored, found, _, _, removed⟩
  · rw [same]
    exact owned
  · rw [again]
    exact owned.unpoliced.policed
  · rw [removed]
    have unpoliced : AclOwned (s.unpoliced ruleId rule) := owned.unpoliced
    refine unpoliced.dropRule table ?_ ?_
    · rw [AclState.unpoliced_ruleTree]
      exact stored
    · rw [AclState.unpoliced_tableTree]
      exact found

theorem AclOwned.putRule (rule : AclRule) (stored : s.ruleTree.get ruleId = some rule)
    (same : next.tableId = rule.tableId) : AclOwned (s.putRule ruleId next) := by
  refine owned.congr (fun _ => rfl) (fun k => ?_) rfl
  refine Attached.nameIn_put_keep stored ?_ k
  exact congrArg some same

end

variable (s ruleId rule) in
theorem attachPolicerToAclRule_cases : (attachPolicerToAclRule s ruleId rule).1 = s ∨
    (attachPolicerToAclRule s ruleId rule).1 = s.editPolicer rule.policerId fun node => node.linkRule ruleId := by
  unfold attachPolicerToAclRule
  split
  · exact .inl rfl
  · exact .inr rfl

variable (s ruleId rule) in
theorem detachPolicerFromAclRule_cases : (detachPolicerFromAclRule s ruleId rule).1 = s ∨
    (detachPolicerFromAclRule s ruleId rule).1 = s.editPolicer rule.policerId fun node => node.unlinkRule ruleId := by
  unfold detachPolicerFromAclRule
  split
  · exact .inl rfl
  · exact .inr rfl

def AclState.SameOwners (s t : AclState) : Prop :=
  t.tableTree = s.tableTree ∧ t.ruleTree = s.ruleTree ∧ t.counterTree = s.counterTree

theorem AclOwned.sameOwners (owned : AclOwned s) (same : s.SameOwners t) : AclOwned t :=
  owned.congr (fun k => by rw [same.1]) (ruleTableOf_congr same.2.1) same.2.2

theorem attachPolicerToAclRule_owners : s.SameOwners (attachPolicerToAclRule s ruleId rule).1 := by
  rcases attachPolicerToAclRule_cases s ruleId rule with same | edited
  · rw [same]
    exact ⟨rfl, rfl, rfl⟩
  · rw [edited]
    exact ⟨rfl, rfl, rfl⟩

variable (s ruleId rule) in
theorem detachPolicerFromAclRule_owners : s.SameOwners (detachPolicerFromAclRule s ruleId rule).1 := by
  rcases detachPolicerFromAclRule_cases s ruleId rule with same | edited
  · rw [same]
    exact ⟨rfl, rfl, rfl⟩
  · rw [edited]
    exact ⟨rfl, rfl, rfl⟩

theorem AclState.SameOwners.trans {u : AclState} (one : s.SameOwners t) (two : t.SameOwners u) : s.SameOwners u :=
  ⟨two.1.trans one.1, two.2.1.trans one.2.1, two.2.2.trans one.2.2⟩

theorem AclState.SameOwners.putRule (same : s.SameOwners t) :
    (s.putRule ruleId rule).SameOwners (t.putRule ruleId rule) :=
  ⟨same.1, congrArg (fun tree => tree.put ruleId rule) same.2.1, same.2.2⟩

variable (s ruleId rule) in
theorem aclRulePolicerUpdate_owners (policerId : ObjectId) :
    s.SameOwners (aclRulePolicerUpdate s ruleId rule policerId).1 ∧
      (aclRulePolicerUpdate s ruleId rule policerId).2.1.tableId = rule.tableId ∧
      (aclRulePolicerUpdate s ruleId rule policerId).2.1.aclRulePriority = rule.aclRulePriority := by
  have detached := detachPolicerFromAclRule_owners s ruleId rule
  have first : s.SameOwners (if rule.policerId ≠ nullObjectId then detachPolicerFromAclRule s ruleId rule
      else (s, .success)).1 := by
    split
    · exact detached
    · exact ⟨rfl, rfl, rfl⟩
  unfold aclRulePolicerUpdate
  split
  · split
    · exact ⟨⟨rfl, rfl, rfl⟩, rfl, rfl⟩
    split
    · rename_i released isReleased
      rw [isReleased] at first
      exact ⟨first.trans attachPolicerToAclRule_owners, rfl, rfl⟩
    · rename_i released _ _ isReleased
      rw [isReleased] at first
      exact ⟨first, rfl, rfl⟩
  · split
    · split
      · rename_i released isReleased
        rw [isReleased] at detached
        exact ⟨detached, rfl, rfl⟩
      · rename_i released _ _ isReleased
        rw [isReleased] at detached
        exact ⟨detached, rfl, rfl⟩
    · exact ⟨⟨rfl, rfl, rfl⟩, rfl, rfl⟩

theorem AclOwned.setRule (owned : AclOwned s) (ruleId : ObjectId) (attr : AclRuleAttr) (env : AclRuleSetEnv) :
    AclOwned (setAclRule platform s ruleId attr env).1 := by
  rcases setAclRule_cases platform s ruleId attr env with
    same | ⟨present, rule, stored, _, table, _, written⟩ | ⟨present, modify, table, accepted⟩
  · rw [same]
    exact owned
  · rw [written]
    exact owned.putRule _ stored table
  · rw [accepted.result]
    obtain ⟨owners, kept, _⟩ := aclRulePolicerUpdate_owners s ruleId
      (aclRuleUpdate s platform env.update modify present) modify.policerId
    refine (owned.sameOwners owners).putRule present ?_ ?_
    · rw [owners.2.1]
      exact accepted.stored
    · rw [kept]
      exact aclRuleUpdate_tableId

end Rules

section Creation
variable {s : AclState} {attrs : List AclRuleAttr} {env : AclRuleCreateEnv}

theorem aclRulePopulateAttr_tableId {rule : AclRule} {attr : AclRuleAttr}
    (ok : aclRulePopulateAttr lookups index platform table rule attr = .ok next) :
    next.tableId = aclRuleTableId rule.tableId [attr] := by
  unfold aclRulePopulateAttr at ok
  split at ok
  · split at ok
    · cases ok
    · cases ok
      rfl
  · split at ok
    · cases ok
    split at ok
    · cases ok
    rename_i effect
    cases ok
    have kept := (aclActionEffect_frame effect).1
    exact kept
  · cases ok
    rfl
  · cases ok
    rfl
  · cases ok
    rfl
  · cases ok
  · cases ok

theorem aclRuleTableId_cons (id : ObjectId) (attr : AclRuleAttr) (rest : List AclRuleAttr) :
    aclRuleTableId id (attr :: rest) = aclRuleTableId (aclRuleTableId id [attr]) rest := by
  cases attr with
  | tableId next => rfl
  | priority value => rfl
  | adminState state => rfl
  | field id enable value => rfl
  | action id enable parameter => rfl
  | unknown id => rfl
  | outOfRange id => rfl

theorem aclRulePopulate_tableId {rule : AclRule} (ok : aclRulePopulate lookups platform table attrs = .ok rule) :
    rule.tableId = aclRuleTableId nullObjectId attrs := by
  refine aclRulePopulate_runs (p := fun rest rule =>
    aclRuleTableId rule.tableId rest = aclRuleTableId nullObjectId attrs)
    rfl (fun index rule attr rest next holds made => ?_) (fun _ _ holds => holds) ok
  rw [aclRulePopulateAttr_tableId made, ← aclRuleTableId_cons]
  exact holds

theorem AclState.isLive_installed (live : s.isLive table) : (s.installed table env).isLive table := by
  rcases s.installed_cases table env with same | marked
  · rw [same]
    exact live
  rw [marked, AclState.writeTable_of_live live]
  obtain ⟨stored, found, sameNode⟩ := live
  refine ⟨{ stored with npuTable := true }, ?_, sameNode⟩
  dsimp only
  rw [get_modify_self, found]
  rfl

theorem AclOwned.createRule (owned : AclOwned s) (waiting : table.tableId = aclRuleTableId nullObjectId attrs)
    (live : RuleStores platform s table attrs env → s.isLive table) :
    AclOwned (createAclRuleLocked platform s table attrs env).1 := by
  rcases createAclRuleLocked_cases platform s table attrs env with
    ⟨t, status, same | installed, refused, _⟩ | ⟨rule, _, _, _, _, refused⟩ |
      ⟨rule, accepted, policer, treeOk, fresh, stored⟩
  · rw [refused, same]
    exact owned
  · rw [refused, installed]
    exact owned.installed env
  · rw [refused]
    exact (owned.installed env).policed
  · rw [stored]
    have isLive := live ⟨rule, accepted, policer, treeOk, fresh⟩
    refine (owned.installed env).addRule (AclState.isLive_installed isLive) ?_ ?_
    · rw [aclRulePopulate_tableId accepted.populated, waiting]
    · rw [AclState.installed_ruleTree]
      exact fresh

end Creation

section System
variable {s : AclSystem}

def AclSystem.Owned (s : AclSystem) : Prop := AclOwned s.db ∧ AclWaiting s.rules

section
variable {rules : List (AclTable × List AclRuleAttr)} (waiting : AclWaiting rules)
include waiting

theorem AclWaiting.erase (place : Nat) : AclWaiting (rules.eraseIdx place) :=
  fun table attrs member => waiting table attrs (List.mem_of_mem_eraseIdx member)

theorem AclWaiting.append {attrs : List AclRuleAttr} (names : table.tableId = aclRuleTableId nullObjectId attrs) :
    AclWaiting (rules ++ [(table, attrs)]) := by
  intro other attrs' member
  rcases List.mem_append.mp member with old | new
  · exact waiting other attrs' old
  · cases List.mem_singleton.mp new
    exact names

end

theorem createAclRuleBegin_ok {db : AclState} {attrs : List AclRuleAttr} {allocOk : Bool}
    (ok : createAclRuleBegin db attrs allocOk = .ok table) :
    db.tableTree.get (aclRuleTableId nullObjectId attrs) = some table := by
  unfold createAclRuleBegin at ok
  split at ok
  · cases ok
  split at ok
  · split at ok
    · cases ok
    split at ok
    · cases ok
    rename_i found
    split at ok
    · cases ok
    · cases ok
      exact found
  · cases ok

theorem AclWaiting.step (waiting : AclWaiting s.rules)
    (keys : ∀ k table, s.db.tableTree.get k = some table → table.tableId = k) (event : AclEvent) :
    AclWaiting (event.step platform s).rules := by
  cases event with
  | beginRule attrs allocOk =>
    dsimp only [AclEvent.step]
    split
    · exact waiting
    · rename_i table ok
      exact waiting.append (keys _ table (createAclRuleBegin_ok ok))
  | lockRule place env =>
    dsimp only [AclEvent.step]
    split
    · exact waiting
    · exact waiting.erase place
  | beginTable attrs lookups allocOk =>
    dsimp only [AclEvent.step]
    split <;> exact waiting
  | lockTable place env =>
    dsimp only [AclEvent.step]
    split <;> exact waiting
  | _ => exact waiting

theorem AclSystem.Owned.step (owned : s.Owned) (event : AclEvent) (undisturbed : event.undisturbed platform s) :
    (event.step platform s).Owned := by
  obtain ⟨db, waiting⟩ := owned
  refine ⟨?_, waiting.step db.keys event⟩
  cases event with
  | beginTable attrs lookups allocOk =>
    dsimp only [AclEvent.step]
    split <;> exact db
  | lockTable place env =>
    dsimp only [AclEvent.step]
    split
    · exact db
    · rename_i attrs isIt
      exact db.createTable fun table number => undisturbed attrs table number isIt
  | beginRule attrs allocOk =>
    dsimp only [AclEvent.step]
    split <;> exact db
  | lockRule place env =>
    dsimp only [AclEvent.step]
    split
    · exact db
    · rename_i table attrs isIt
      exact db.createRule (waiting table attrs (List.mem_of_getElem? isIt)) (undisturbed table attrs isIt)
  | deleteTable tableId npu => exact db.deleteTable tableId npu
  | createCounter attrs env => exact db.createCounter attrs env
  | deleteCounter counterId sharedCount npu => exact db.deleteCounter counterId sharedCount npu
  | deleteRule ruleId env => exact db.deleteRule ruleId env
  | setRule ruleId attr env => exact db.setRule ruleId attr env

structure AclFresh (s : AclSystem) : Prop where
  noTables : s.db.tableTree = ∅
  noRules : s.db.ruleTree = ∅
  noCounters : s.db.counterTree = ∅
  noWaiting : s.tables = [] ∧ s.rules = []

theorem AclFresh.owned (fresh : AclFresh s) : s.Owned := by
  have noTable : ∀ k, s.db.tableTree.get k = none := fun k => by rw [fresh.noTables, get_empty]
  refine ⟨⟨?_, Attached.of_empty (fun k => ruleHeads_eq_none.mpr (noTable k)) (fun ruleId => ?_), ?_,
    ?_, ?_, ?_⟩, ?_⟩
  · intro k table stored
    rw [noTable k] at stored
    cases stored
  · refine Attached.nameIn_eq_none fun rule stored => ?_
    rw [fresh.noRules, get_empty] at stored
    cases stored
  · intro k table stored
    rw [noTable k] at stored
    cases stored
  · intro k table stored
    rw [noTable k] at stored
    cases stored
  · intro counterId counter stored
    rw [fresh.noCounters, get_empty] at stored
    cases stored
  · intro k table k' table' stored
    rw [noTable k] at stored
    cases stored
  · intro table attrs member
    rw [fresh.noWaiting.2] at member
    cases member

/-- Rules and counters name stored tables, a table lists a rule, once, exactly
when the rule names it, both counts are right, and no two tables of a stage have
one priority. -/
structure AclOwnershipExact (db : AclState) : Prop where
  ruleLive : ∀ ruleId rule, db.ruleTree.get ruleId = some rule → db.tableTree.get rule.tableId ≠ none
  counterLive : ∀ counterId counter, db.counterTree.get counterId = some counter →
    db.tableTree.get counter.tableId ≠ none
  linked : ∀ tableId table, db.tableTree.get tableId = some table → ∀ ruleId,
    table.ruleHead.count ruleId = if (db.ruleTree.get ruleId).map AclRule.tableId = some tableId then 1 else 0
  ruleCount : ∀ tableId table, db.tableTree.get tableId = some table →
    table.ruleCount = db.ruleTree.tally fun _ rule => decide (rule.tableId = tableId)
  numCounters : ∀ tableId table, db.tableTree.get tableId = some table →
    table.numCounters = db.counterTree.tally fun _ counter => decide (counter.tableId = tableId)
  priorities : ∀ tableId table otherId other, db.tableTree.get tableId = some table →
    db.tableTree.get otherId = some other → table.aclStage = other.aclStage →
    table.aclTablePriority = other.aclTablePriority → tableId = otherId

theorem ruleTableOf_eq_map (db : AclState) (ruleId : ObjectId) :
    ruleTableOf db ruleId = (db.ruleTree.get ruleId).map AclRule.tableId := by
  unfold ruleTableOf Attached.nameIn
  cases db.ruleTree.get ruleId with
  | none => rfl
  | some rule => rfl

theorem AclOwned.exact {db : AclState} (owned : AclOwned db) : AclOwnershipExact db := by
  refine ⟨?_, owned.counterLive, ?_, ?_, owned.counters, owned.priorities⟩
  · intro ruleId rule stored absent
    refine owned.rules.held ruleId rule.tableId ?_ (ruleHeads_eq_none.mpr absent)
    rw [ruleTableOf_eq_map, stored]
    rfl
  · intro tableId table stored ruleId
    rw [owned.rules.once tableId _ (ruleHeads_of_get stored) ruleId, ruleTableOf_eq_map]
  · intro tableId table stored
    rw [owned.ruleCounts tableId table stored, owned.rules.length_eq_tally (ruleHeads_of_get stored)]
    simp only [Option.some.injEq]

/-- In every interleaving in which what was checked before the lock still holds
under it the ownership is exact. -/
theorem aclOwnership_exact
    (reach : Runs.Reach AclFresh (Runs.guarded (AclEvent.undisturbed platform) (AclEvent.step platform)) s) :
    AclOwnershipExact s.db := by
  have owned : s.Owned := by
    refine reach.invariant AclSystem.Owned (fun _ fresh => fresh.owned) ?_
    intro s event t owned moved
    rw [moved.2]
    exact owned.step event moved.1
  exact owned.1.exact

end System

def aclSamplePlatform : AclPlatform where
  tableIdMax := 8
  defaultAdminState := true
  policerMode := fun _ => .srTcm

def aclSampleSystem : AclSystem where
  db :=
    { tableTree := ∅
      ruleTree := ∅
      counterTree := ∅
      tableInUse := fun _ => false
      allocated := 0
      qos := { portTree := ∅, policerTree := ∅ } }
  tables := []
  rules := []

theorem aclSampleSystem_fresh : AclFresh aclSampleSystem := ⟨rfl, rfl, rfl, rfl, rfl⟩

def aclSampleLookups : AclLookups where
  portValid := fun _ => true
  mirrorValid := fun _ => true
  udfGroupStatus := fun _ => .success
  udfHwId := fun _ => (.success, 0)
  listAlloc := true
  valueAlloc := fun _ => true

def aclSampleTable : List AclTableAttr := [.stage .ingress, .priority 1, .field 0]

def aclSampleTableEnv : AclTableCreateEnv := ⟨aclSampleLookups, .success, .success, true⟩

def aclSampleRule : List AclRuleAttr :=
  [.tableId ⟨.aclTable, 1⟩, .field (.value 0) true { data := 1, mask := 1 }]

def aclSampleRuleEnv : AclRuleCreateEnv := ⟨aclSampleLookups, .success, .success, 7, .success, .success, true⟩

def aclSampleRun : List AclEvent :=
  [.beginTable aclSampleTable aclSampleLookups true, .lockTable 0 aclSampleTableEnv,
    .beginRule aclSampleRule true, .lockRule 0 aclSampleRuleEnv, .deleteTable ⟨.aclTable, 1⟩ .success]

theorem aclOwnership_exact_sample :
    AclOwnershipExact (aclSampleRun.foldl (AclEvent.step aclSamplePlatform) aclSampleSystem).db := by
  refine aclOwnership_exact (Runs.Reach.run (.start aclSampleSystem_fresh) ?_)
  refine ⟨trivial, ?_, trivial, ?_, trivial, trivial⟩
  · intro attrs table number _ _ k other stored
    cases stored
  · intro table attrs waits _
    cases waits
    exact ⟨_, rfl, rfl⟩

/-- A table that is removed while a rule creation waits leaves a rule without a
table, and two table creations that wait together share a priority. -/
theorem aclOwnership_not_exact :
    (¬ ∀ platform s, Runs.Reach AclFresh (Runs.guarded (fun _ _ => True) (AclEvent.step platform)) s →
      AclOwnershipExact s.db) ∧
    ∃ platform s, Runs.Reach AclFresh (Runs.guarded (fun _ _ => True) (AclEvent.step platform)) s ∧
      ∃ one two, s.db.tableTree.get ⟨.aclTable, 1⟩ = some one ∧
        s.db.tableTree.get ⟨.aclTable, 2⟩ = some two ∧
        one.aclStage = two.aclStage ∧ one.aclTablePriority = two.aclTablePriority := by
  constructor
  · intro all
    let events : List AclEvent :=
      [.beginTable aclSampleTable aclSampleLookups true, .lockTable 0 aclSampleTableEnv,
        .beginRule aclSampleRule true, .deleteTable ⟨.aclTable, 1⟩ .success, .lockRule 0 aclSampleRuleEnv]
    have owned := all aclSamplePlatform _ (Runs.Reach.run (.start aclSampleSystem_fresh)
      (Runs.allowedRun_of_forall (fun _ _ => trivial) _ events))
    have broken : ∃ rule,
        (events.foldl (AclEvent.step aclSamplePlatform) aclSampleSystem).db.ruleTree.get ⟨.aclEntry, 7⟩ =
        some rule ∧
        (events.foldl (AclEvent.step aclSamplePlatform) aclSampleSystem).db.tableTree.get rule.tableId = none :=
      ⟨_, rfl, rfl⟩
    obtain ⟨rule, stored, absent⟩ := broken
    exact owned.ruleLive _ rule stored absent
  · let events : List AclEvent :=
      [.beginTable aclSampleTable aclSampleLookups true, .beginTable aclSampleTable aclSampleLookups true,
        .lockTable 0 aclSampleTableEnv, .lockTable 0 aclSampleTableEnv]
    exact ⟨aclSamplePlatform, _, Runs.Reach.run (.start aclSampleSystem_fresh)
      (Runs.allowedRun_of_forall (fun _ _ => trivial) _ events), _, _, rfl, rfl, rfl, rfl⟩

end SaiCommon
