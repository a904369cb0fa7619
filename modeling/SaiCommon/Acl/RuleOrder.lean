import SaiCommon.Acl.Ownership

namespace SaiCommon

open KeyTree

section Sorting
variable {priorityOf : ObjectId → Nat} {l : List ObjectId} {id : ObjectId}

theorem aclRuleInsertSorted_sorted (sorted : l.Pairwise fun one two => priorityOf one ≤ priorityOf two) :
    (aclRuleInsertSorted priorityOf id l).Pairwise fun one two => priorityOf one ≤ priorityOf two := by
  induction l with
  | nil => exact List.pairwise_singleton _ id
  | cons head rest ih =>
    obtain ⟨least, tail⟩ := List.pairwise_cons.mp sorted
    unfold aclRuleInsertSorted
    split
    · rename_i before
      refine List.pairwise_cons.mpr ⟨fun other member => ?_, sorted⟩
      rcases List.mem_cons.mp member with rfl | later
      · omega
      · have after := least other later
        omega
    · rename_i behind
      refine List.pairwise_cons.mpr ⟨fun other member => ?_, ih tail⟩
      rcases List.mem_cons.mp ((aclRuleInsertSorted_perm priorityOf id rest).mem_iff.mp member) with rfl | later
      · omega
      · exact least other later

/-- The value lies between the priorities of those before `id` in the list and
of those behind it. -/
def PriorityFits (priorityOf : ObjectId → Nat) (l : List ObjectId) (id : ObjectId) (value : Nat) : Prop :=
  ∀ before after, l = before ++ id :: after →
    (∀ other ∈ before, priorityOf other ≤ value) ∧ ∀ other ∈ after, value ≤ priorityOf other

theorem priorityFits_iff (once : l.Nodup) (member : id ∈ l)
    (sorted : l.Pairwise fun one two => priorityOf one ≤ priorityOf two) (value : Nat) :
    PriorityFits priorityOf l id value ↔ l.Pairwise fun one two =>
      Function.update priorityOf id value one ≤ Function.update priorityOf id value two := by
  have apart : ∀ before after, l = before ++ id :: after →
      (∀ other ∈ before, other ≠ id) ∧ ∀ other ∈ after, other ≠ id := by
    intro before after isIt
    rw [isIt] at once
    obtain ⟨_, tail, disjoint⟩ := List.nodup_append.mp once
    exact ⟨fun other here => disjoint other here id List.mem_cons_self,
      fun other here same => (List.nodup_cons.mp tail).1 (same ▸ here)⟩
  constructor
  · intro fits
    obtain ⟨before, after, isIt⟩ := List.append_of_mem member
    obtain ⟨lower, upper⟩ := fits before after isIt
    obtain ⟨otherBefore, otherAfter⟩ := apart before after isIt
    rw [isIt] at sorted ⊢
    obtain ⟨first, second, cross⟩ := List.pairwise_append.mp sorted
    obtain ⟨_, last⟩ := List.pairwise_cons.mp second
    refine List.pairwise_append.mpr ⟨?_, List.pairwise_cons.mpr ⟨?_, ?_⟩, ?_⟩
    · refine first.imp_of_mem fun {one two} inOne inTwo le => ?_
      rw [Function.update_of_ne (otherBefore one inOne), Function.update_of_ne (otherBefore two inTwo)]
      exact le
    · intro other here
      rw [Function.update_self, Function.update_of_ne (otherAfter other here)]
      exact upper other here
    · refine last.imp_of_mem fun {one two} inOne inTwo le => ?_
      rw [Function.update_of_ne (otherAfter one inOne), Function.update_of_ne (otherAfter two inTwo)]
      exact le
    · intro one inOne two inTwo
      rw [Function.update_of_ne (otherBefore one inOne)]
      rcases List.mem_cons.mp inTwo with rfl | later
      · rw [Function.update_self]
        exact lower one inOne
      · rw [Function.update_of_ne (otherAfter two later)]
        exact cross one inOne two (List.mem_cons_of_mem _ later)
  · intro kept before after isIt
    obtain ⟨otherBefore, otherAfter⟩ := apart before after isIt
    rw [isIt] at kept
    obtain ⟨_, second, cross⟩ := List.pairwise_append.mp kept
    obtain ⟨least, _⟩ := List.pairwise_cons.mp second
    refine ⟨fun other here => ?_, fun other here => ?_⟩
    · have le := cross other here id List.mem_cons_self
      rw [Function.update_self, Function.update_of_ne (otherBefore other here)] at le
      exact le
    · have le := least other here
      rw [Function.update_self, Function.update_of_ne (otherAfter other here)] at le
      exact le

end Sorting

/-- The priority that the comparator reads of a linked rule. -/
def AclState.rulePriority (s : AclState) (ruleId : ObjectId) : Nat :=
  ((s.ruleTree.get ruleId).map AclRule.aclRulePriority).getD 0

/-- What holds of the rule lists in every interleaving: a list names each rule
once, only stored rules of its table, in the order of their priorities. -/
structure AclListed (s : AclState) : Prop where
  keys : ∀ k table, s.tableTree.get k = some table → table.tableId = k
  once : ∀ k table, s.tableTree.get k = some table → table.ruleHead.Nodup
  named : ∀ k table, s.tableTree.get k = some table → ∀ ruleId ∈ table.ruleHead,
    ∃ rule, s.ruleTree.get ruleId = some rule ∧ rule.tableId = k
  ordered : ∀ k table, s.tableTree.get k = some table →
    table.ruleHead.Pairwise fun one two => s.rulePriority one ≤ s.rulePriority two

section Lists
variable {platform : AclPlatform} {s t : AclState} {ruleId : ObjectId} {rule : AclRule} {table : AclTable}

theorem rulePriority_congr (same : t.ruleTree = s.ruleTree) (id : ObjectId) :
    t.rulePriority id = s.rulePriority id := by
  unfold AclState.rulePriority
  rw [same]

section
variable (listed : AclListed s)
include listed

theorem AclListed.frame (rules : t.ruleTree = s.ruleTree)
    (tables : ∀ k table, t.tableTree.get k = some table → (table.tableId = k ∧ table.ruleHead = []) ∨
      ∃ old, s.tableTree.get k = some old ∧ old.tableId = table.tableId ∧ old.ruleHead = table.ruleHead) :
    AclListed t := by
  refine ⟨fun k table stored => ?_, fun k table stored => ?_, fun k table stored => ?_, fun k table stored => ?_⟩
  · rcases tables k table stored with ⟨key, _⟩ | ⟨old, found, key, _⟩
    · exact key
    · rw [← key]
      exact listed.keys k old found
  · rcases tables k table stored with ⟨_, empty⟩ | ⟨old, found, _, head⟩
    · rw [empty]
      exact List.nodup_nil
    · rw [← head]
      exact listed.once k old found
  · rcases tables k table stored with ⟨_, empty⟩ | ⟨old, found, _, head⟩
    · rw [empty]
      exact fun _ member => (List.not_mem_nil member).elim
    · rw [← head, rules]
      exact listed.named k old found
  · simp only [rulePriority_congr rules]
    rcases tables k table stored with ⟨_, empty⟩ | ⟨old, found, _, head⟩
    · rw [empty]
      exact List.Pairwise.nil
    · rw [← head]
      exact listed.ordered k old found

theorem AclListed.editTable (k : ObjectId) {g : AclTable → AclTable}
    (rules : t.ruleTree = s.ruleTree) (tables : t.tableTree = s.tableTree.modify k g)
    (keep : ∀ table, (g table).tableId = table.tableId ∧ (g table).ruleHead = table.ruleHead) : AclListed t := by
  refine listed.frame rules fun j table stored => .inr ?_
  rw [tables, get_modify] at stored
  split at stored
  · obtain ⟨old, found, isIt⟩ := Option.map_eq_some_iff.mp stored
    rw [← isIt]
    exact ⟨old, found, (keep old).1.symm, (keep old).2.symm⟩
  · exact ⟨table, stored, rfl, rfl⟩

theorem AclListed.createTable (attrs : List AclTableAttr) (env : AclTableCreateEnv) :
    AclListed (createAclTableLocked platform s attrs env).1 := by
  obtain ⟨⟨rules, _⟩, same | ⟨table, number, stores, put⟩⟩ :=
    createAclTableLocked_cases platform s attrs env
  · refine listed.frame rules fun k table stored => ?_
    rw [same] at stored
    exact .inr ⟨table, stored, rfl, rfl⟩
  obtain ⟨_, empty, _, _⟩ := aclTablePopulate_frame stores.populated
  refine listed.frame rules fun k other stored => ?_
  rw [put, get_put] at stored
  split at stored
  · rename_i here
    cases stored
    exact .inl ⟨here.symm, empty⟩
  · exact .inr ⟨other, stored, rfl, rfl⟩

theorem AclListed.deleteTable (tableId : ObjectId) (npu : SaiStatus) :
    AclListed (deleteAclTable s tableId npu).1 := by
  obtain ⟨⟨rules, _⟩, same | ⟨table, _, _, _, removed⟩⟩ := deleteAclTable_cases s tableId npu
  · refine listed.frame rules fun k table stored => ?_
    rw [same] at stored
    exact .inr ⟨table, stored, rfl, rfl⟩
  · refine listed.frame rules fun k other stored => ?_
    rw [removed, get_del] at stored
    split at stored
    · cases stored
    · exact .inr ⟨other, stored, rfl, rfl⟩

theorem AclListed.createCounter (attrs : List AclCounterAttr) (env : AclCounterCreateEnv) :
    AclListed (createAclCounter s attrs env).1 := by
  rcases createAclCounter_cases s attrs env with same | ⟨counter, table, t, stored, marking, ends⟩
  · rwa [same]
  have marked : AclListed t := by
    rw [marking]
    refine listed.editTable (g := fun table => { table with npuTable := true }) counter.tableId rfl ?_
      fun _ => ⟨rfl, rfl⟩
    rw [modify_of_get stored]
  rcases ends with same | ⟨_, _, same⟩
  · rwa [same]
  · rw [same]
    exact marked.editTable counter.tableId rfl rfl fun _ => ⟨rfl, rfl⟩

theorem AclListed.deleteCounter (counterId : ObjectId) (sharedCount : Nat) (npu : SaiStatus) :
    AclListed (deleteAclCounter s counterId sharedCount npu).1 := by
  unfold deleteAclCounter
  split
  · exact listed
  split
  · exact listed
  rename_i counter _
  split
  · exact listed
  split
  · exact listed.editTable counter.tableId rfl rfl fun _ => ⟨rfl, rfl⟩
  · exact listed

theorem AclListed.sameOwners (same : s.SameOwners t) : AclListed t := by
  refine listed.frame same.2.1 fun k table stored => ?_
  rw [same.1] at stored
  exact .inr ⟨table, stored, rfl, rfl⟩

end

theorem AclState.policed_owners : s.SameOwners (s.policed ruleId rule) :=
  ⟨AclState.policed_tableTree, AclState.policed_ruleTree, AclState.policed_counterTree⟩

theorem AclState.unpoliced_owners : s.SameOwners (s.unpoliced ruleId rule) :=
  ⟨AclState.unpoliced_tableTree, AclState.unpoliced_ruleTree, AclState.unpoliced_counterTree⟩

theorem AclListed.installed (listed : AclListed s) (table : AclTable) (env : AclRuleCreateEnv) :
    AclListed (s.installed table env) := by
  rcases s.installed_cases table env with same | marked
  · rw [same]
    exact listed
  rw [marked]
  unfold AclState.writeTable
  split
  · exact listed.editTable table.tableId rfl rfl fun _ => ⟨rfl, rfl⟩
  · exact listed

theorem AclListed.not_mem (listed : AclListed s) (fresh : s.ruleTree.get ruleId = none) {k : ObjectId}
    (stored : s.tableTree.get k = some table) : ruleId ∉ table.ruleHead := fun member => by
  obtain ⟨other, isIt, _⟩ := listed.named k table stored ruleId member
  rw [fresh] at isIt
  cases isIt

theorem AclState.rulePriority_putRule (s : AclState) (ruleId : ObjectId) (rule : AclRule) :
    (s.putRule ruleId rule).rulePriority = Function.update s.rulePriority ruleId rule.aclRulePriority := by
  funext id
  unfold AclState.rulePriority AclState.putRule
  rw [get_put, Function.update_apply]
  split
  · rfl
  · rfl

section
variable (listed : AclListed s)
include listed

theorem AclListed.storeRule (fresh : s.ruleTree.get ruleId = none) (rule : AclRule) :
    AclListed (s.putRule ruleId rule) := by
  have other : ∀ k table, s.tableTree.get k = some table → ∀ id ∈ table.ruleHead, id ≠ ruleId :=
    fun k table stored id member same => listed.not_mem fresh stored (same ▸ member)
  refine ⟨listed.keys, listed.once, fun k table stored id member => ?_, fun k table stored => ?_⟩
  · obtain ⟨named, isIt, itsTable⟩ := listed.named k table stored id member
    refine ⟨named, ?_, itsTable⟩
    unfold AclState.putRule
    rw [get_put_ne (other k table stored id member)]
    exact isIt
  · rw [AclState.rulePriority_putRule]
    refine (listed.ordered k table stored).imp_of_mem fun {one two} inOne inTwo le => ?_
    rw [Function.update_of_ne (other k table stored one inOne), Function.update_of_ne (other k table stored two inTwo)]
    exact le

theorem AclListed.linkRule (stored : s.ruleTree.get ruleId = some rule) (names : rule.tableId = table.tableId)
    (unlisted : ∀ k table, s.tableTree.get k = some table → ruleId ∉ table.ruleHead) :
    AclListed (s.writeTable table fun table => table.linkRule s.rulePriority ruleId) := by
  unfold AclState.writeTable
  split
  swap
  · exact listed
  have back : ∀ k other, (s.tableTree.modify table.tableId fun table => table.linkRule s.rulePriority ruleId).get k =
      some other → ∃ old, s.tableTree.get k = some old ∧ old.tableId = other.tableId ∧
        (other.ruleHead = old.ruleHead ∨
          k = table.tableId ∧ other.ruleHead = aclRuleInsertSorted s.rulePriority ruleId old.ruleHead) := by
    intro k other found
    rw [get_modify] at found
    split at found
    · rename_i here
      obtain ⟨old, isOld, isIt⟩ := Option.map_eq_some_iff.mp found
      rw [← isIt]
      exact ⟨old, isOld, rfl, .inr ⟨here, rfl⟩⟩
    · exact ⟨other, found, rfl, .inl rfl⟩
  refine ⟨fun k other found => ?_, fun k other found => ?_, fun k other found => ?_, fun k other found => ?_⟩
  · obtain ⟨old, isOld, key, _⟩ := back k other found
    rw [← key]
    exact listed.keys k old isOld
  · obtain ⟨old, isOld, _, same | ⟨_, head⟩⟩ := back k other found
    · rw [same]
      exact listed.once k old isOld
    · rw [head, (aclRuleInsertSorted_perm s.rulePriority ruleId old.ruleHead).nodup_iff]
      exact List.nodup_cons.mpr ⟨unlisted k old isOld, listed.once k old isOld⟩
  · obtain ⟨old, isOld, _, same | ⟨here, head⟩⟩ := back k other found
    · rw [same]
      exact listed.named k old isOld
    rw [head]
    intro id member
    rcases List.mem_cons.mp ((aclRuleInsertSorted_perm s.rulePriority ruleId old.ruleHead).mem_iff.mp member) with
      rfl | older
    · exact ⟨rule, stored, names.trans here.symm⟩
    · exact listed.named k old isOld id older
  · obtain ⟨old, isOld, _, same | ⟨_, head⟩⟩ := back k other found
    · rw [same]
      exact listed.ordered k old isOld
    · rw [head]
      exact aclRuleInsertSorted_sorted (listed.ordered k old isOld)

theorem AclListed.addRule (fresh : s.ruleTree.get ruleId = none)
    (names : rule.tableId = table.tableId) : AclListed (s.addRule table ruleId rule) := by
  have policed : AclListed (s.policed ruleId rule) := listed.sameOwners AclState.policed_owners
  have unused : (s.policed ruleId rule).ruleTree.get ruleId = none := by
    rw [AclState.policed_ruleTree]
    exact fresh
  have placed : ((s.policed ruleId rule).putRule ruleId rule).ruleTree.get ruleId = some rule :=
    get_put_self _ _ _
  exact (policed.storeRule unused rule).linkRule placed names fun k table stored => policed.not_mem unused stored

theorem AclListed.createRule {attrs : List AclRuleAttr} {env : AclRuleCreateEnv}
    (waiting : table.tableId = aclRuleTableId nullObjectId attrs) :
    AclListed (createAclRuleLocked platform s table attrs env).1 := by
  rcases createAclRuleLocked_cases platform s table attrs env with
    ⟨t, status, same | installed, refused, _⟩ | ⟨rule, _, _, _, _, refused⟩ |
    ⟨rule, accepted, _, _, fresh, stored⟩
  · rw [refused, same]
    exact listed
  · rw [refused, installed]
    exact listed.installed table env
  · rw [refused]
    exact (listed.installed table env).sameOwners AclState.policed_owners
  · rw [stored]
    refine (listed.installed table env).addRule ?_ ?_
    · rw [AclState.installed_ruleTree]
      exact fresh
    · rw [aclRulePopulate_tableId accepted.populated, waiting]

theorem AclListed.dropRule (stored : s.ruleTree.get ruleId = some rule) : AclListed (s.dropRule ruleId rule) := by
  have back : ∀ k other, (s.dropRule ruleId rule).tableTree.get k = some other →
      ∃ old, s.tableTree.get k = some old ∧ old.tableId = other.tableId ∧ ruleId ∉ other.ruleHead ∧
        other.ruleHead.Sublist old.ruleHead := by
    intro k other found
    unfold AclState.dropRule at found
    rw [get_modify] at found
    split at found
    · obtain ⟨old, isOld, isIt⟩ := Option.map_eq_some_iff.mp found
      rw [← isIt]
      exact ⟨old, isOld, rfl, (listed.once k old isOld).not_mem_erase, List.erase_sublist⟩
    rename_i elsewhere
    refine ⟨other, found, rfl, fun member => ?_, List.Sublist.refl _⟩
    obtain ⟨named, isIt, itsTable⟩ := listed.named k other found ruleId member
    rw [stored] at isIt
    cases isIt
    exact elsewhere itsTable.symm
  have get : ∀ id, id ≠ ruleId → (s.dropRule ruleId rule).ruleTree.get id = s.ruleTree.get id :=
    fun id apart => get_del_ne apart
  refine ⟨fun k other found => ?_, fun k other found => ?_, fun k other found id member => ?_,
    fun k other found => ?_⟩
  · obtain ⟨old, isOld, key, _⟩ := back k other found
    rw [← key]
    exact listed.keys k old isOld
  · obtain ⟨old, isOld, _, _, part⟩ := back k other found
    exact (listed.once k old isOld).sublist part
  · obtain ⟨old, isOld, _, gone, part⟩ := back k other found
    rw [get id fun same => gone (same ▸ member)]
    exact listed.named k old isOld id (part.subset member)
  · obtain ⟨old, isOld, _, gone, part⟩ := back k other found
    refine ((listed.ordered k old isOld).sublist part).imp_of_mem fun {one two} inOne inTwo le => ?_
    unfold AclState.rulePriority
    rw [get one fun same => gone (same ▸ inOne), get two fun same => gone (same ▸ inTwo)]
    exact le

theorem AclListed.deleteRule (ruleId : ObjectId) (env : AclRuleDeleteEnv) :
    AclListed (deleteAclRule s ruleId env).1 := by
  rcases deleteAclRule_cases s ruleId env with
    ⟨status, _, same⟩ | ⟨rule, status, _, _, _, again⟩ | ⟨rule, table, stored, _, _, _, removed⟩
  · rw [same]
    exact listed
  · rw [again]
    exact (listed.sameOwners AclState.unpoliced_owners).sameOwners AclState.policed_owners
  · rw [removed]
    refine (listed.sameOwners AclState.unpoliced_owners).dropRule ?_
    rw [AclState.unpoliced_ruleTree]
    exact stored

theorem AclListed.putRule {next : AclRule} (stored : s.ruleTree.get ruleId = some rule)
    (sameTable : next.tableId = rule.tableId) (fits : ∀ table, s.tableTree.get rule.tableId = some table →
      PriorityFits s.rulePriority table.ruleHead ruleId next.aclRulePriority) : AclListed (s.putRule ruleId next) := by
  refine ⟨listed.keys, listed.once, fun k table found id member => ?_, fun k table found => ?_⟩
  · obtain ⟨named, isIt, itsTable⟩ := listed.named k table found id member
    unfold AclState.putRule
    rw [get_put]
    split
    · rename_i same
      rw [same, stored] at isIt
      cases isIt
      exact ⟨next, rfl, sameTable.trans itsTable⟩
    · exact ⟨named, isIt, itsTable⟩
  · rw [AclState.rulePriority_putRule]
    by_cases member : ruleId ∈ table.ruleHead
    · obtain ⟨named, isIt, itsTable⟩ := listed.named k table found ruleId member
      rw [stored] at isIt
      cases isIt
      rw [← itsTable] at found
      exact (priorityFits_iff (listed.once _ table found) member (listed.ordered _ table found) _).mp
        (fits table found)
    · refine (listed.ordered k table found).imp_of_mem fun {one two} inOne inTwo le => ?_
      have apart : ∀ id ∈ table.ruleHead, id ≠ ruleId := fun id here same => member (same ▸ here)
      rw [Function.update_of_ne (apart one inOne), Function.update_of_ne (apart two inTwo)]
      exact le

theorem AclListed.fits_same (stored : s.ruleTree.get ruleId = some rule) {k : ObjectId}
    (found : s.tableTree.get k = some table) :
    PriorityFits s.rulePriority table.ruleHead ruleId rule.aclRulePriority := by
  have priority : s.rulePriority ruleId = rule.aclRulePriority := by
    unfold AclState.rulePriority
    rw [stored]
    rfl
  intro before after isIt
  have sorted := listed.ordered k table found
  rw [isIt] at sorted
  obtain ⟨_, second, cross⟩ := List.pairwise_append.mp sorted
  rw [← priority]
  exact ⟨fun other here => cross other here ruleId List.mem_cons_self, (List.pairwise_cons.mp second).1⟩

end

section Set
variable {attr : AclRuleAttr} {env : AclRuleSetEnv} {present modify : AclRule}

theorem aclRuleModify_priority {lookups : AclLookups}
    (ok : aclRuleModify lookups platform table attr present = .ok modify) :
    modify.aclRulePriority = present.aclRulePriority ∨ attr = .priority modify.aclRulePriority := by
  unfold aclRuleModify at ok
  split at ok
  · cases ok
  rename_i populated isOk
  cases ok
  dsimp only
  split
  · rename_i isPriority
    cases attr with
    | priority value =>
      refine .inr (congrArg _ ?_)
      unfold aclRulePopulate at isOk
      split at isOk
      · cases isOk
      · cases isOk
        rfl
    | tableId id => cases isPriority
    | adminState state => cases isPriority
    | field id enable value => cases isPriority
    | action id enable parameter => cases isPriority
    | unknown id => cases isPriority
    | outOfRange id => cases isPriority
  · exact .inl rfl

theorem AclListed.putTaken (listed : AclListed s)
    (taken : RuleSetTaken platform s ruleId attr env present modify table) {next : AclRule}
    (sameTable : next.tableId = present.tableId) (priority : next.aclRulePriority = modify.aclRulePriority)
    (fits : ∀ value, attr = .priority value → PriorityFits s.rulePriority table.ruleHead ruleId value) :
    AclListed (s.putRule ruleId next) := by
  refine listed.putRule taken.stored sameTable fun other found => ?_
  rw [taken.found] at found
  cases found
  rw [priority]
  rcases aclRuleModify_priority taken.populated with same | isPriority
  · rw [same]
    exact listed.fits_same taken.stored taken.found
  · exact fits _ isPriority

theorem AclListed.setRule (listed : AclListed s) (ruleId : ObjectId) (attr : AclRuleAttr) (env : AclRuleSetEnv)
    (fits : ∀ value, attr = .priority value → ∀ present modify table,
      RuleSetTaken platform s ruleId attr env present modify table →
        PriorityFits s.rulePriority table.ruleHead ruleId value) :
    AclListed (setAclRule platform s ruleId attr env).1 := by
  rcases setAclRule_cases platform s ruleId attr env with
    same | ⟨present, rule, stored, _, table, origin, written⟩ | ⟨present, modify, table, accepted⟩
  · rw [same]
    exact listed
  · rw [written]
    rcases origin with rfl | ⟨modify, table, taken, rfl⟩
    · exact listed.putRule stored rfl fun table found => listed.fits_same stored found
    · exact listed.putTaken taken aclRuleUpdate_tableId aclRuleUpdate_priority
        fun value isPriority => fits value isPriority _ _ _ taken
  · rw [accepted.result]
    have taken := accepted.toRuleSetTaken
    obtain ⟨owners, sameTable, priority⟩ := aclRulePolicerUpdate_owners s ruleId
      (aclRuleUpdate s platform env.update modify present) modify.policerId
    have written := listed.putTaken taken (sameTable.trans aclRuleUpdate_tableId)
      (priority.trans aclRuleUpdate_priority) fun value isPriority => fits value isPriority _ _ _ taken
    exact written.sameOwners owners.putRule

end Set

end Lists

section Runs
variable {platform : AclPlatform} {s : AclSystem}

/-- A new priority that the NPU takes fits where the rule stands in its table. -/
def AclEvent.keepsPlace (platform : AclPlatform) (s : AclSystem) : AclEvent → Prop
  | .setRule ruleId (.priority value) env => ∀ present modify table,
    RuleSetTaken platform s.db ruleId (.priority value) env present modify table →
      PriorityFits s.db.rulePriority table.ruleHead ruleId value
  | _ => True

/-- What holds of the database and of the creations that wait. -/
def AclSystem.Listed (s : AclSystem) : Prop := AclListed s.db ∧ AclWaiting s.rules

theorem AclSystem.Listed.step (listed : s.Listed) (event : AclEvent) (keeps : event.keepsPlace platform s) :
    (event.step platform s).Listed := by
  obtain ⟨db, waiting⟩ := listed
  refine ⟨?_, waiting.step db.keys event⟩
  cases event with
  | beginTable attrs lookups allocOk =>
    dsimp only [AclEvent.step]
    split <;> exact db
  | lockTable place env =>
    dsimp only [AclEvent.step]
    split
    · exact db
    · rename_i attrs _
      exact db.createTable attrs env
  | beginRule attrs allocOk =>
    dsimp only [AclEvent.step]
    split <;> exact db
  | lockRule place env =>
    dsimp only [AclEvent.step]
    split
    · exact db
    · rename_i table attrs isIt
      exact db.createRule (waiting table attrs (List.mem_of_getElem? isIt))
  | deleteTable tableId npu => exact db.deleteTable tableId npu
  | createCounter attrs env => exact db.createCounter attrs env
  | deleteCounter counterId sharedCount npu => exact db.deleteCounter counterId sharedCount npu
  | deleteRule ruleId env => exact db.deleteRule ruleId env
  | setRule ruleId attr env =>
    refine db.setRule ruleId attr env fun value isPriority => ?_
    subst isPriority
    exact keeps

theorem AclFresh.listed (fresh : AclFresh s) : s.Listed := by
  have noTable : ∀ k table, s.db.tableTree.get k ≠ some table := fun k table stored => by
    rw [fresh.noTables, get_empty] at stored
    cases stored
  refine ⟨⟨?_, ?_, ?_, ?_⟩, ?_⟩
  · exact fun k table stored => absurd stored (noTable k table)
  · exact fun k table stored => absurd stored (noTable k table)
  · exact fun k table stored => absurd stored (noTable k table)
  · exact fun k table stored => absurd stored (noTable k table)
  · exact fresh.owned.2

/-- A walk over the rule list of any table visits stored rules, in non-decreasing
priority. -/
def RulesOrdered (db : AclState) : Prop :=
  ∀ tableId table, db.tableTree.get tableId = some table → ∃ rules : List AclRule,
    table.ruleHead.map db.ruleTree.get = rules.map some ∧
      rules.Pairwise fun one two => one.aclRulePriority ≤ two.aclRulePriority

theorem AclListed.rulesOrdered {db : AclState} (listed : AclListed db) : RulesOrdered db := by
  intro tableId table stored
  have named := listed.named tableId table stored
  have ordered := listed.ordered tableId table stored
  refine ⟨table.ruleHead.map fun id => (db.ruleTree.get id).getD .zero, ?_, ?_⟩
  · rw [List.map_map]
    refine List.map_congr_left fun id member => ?_
    obtain ⟨rule, isIt, _⟩ := named id member
    rw [Function.comp_apply, isIt]
    rfl
  · refine List.pairwise_map.mpr (ordered.imp_of_mem fun {one two} inOne inTwo le => ?_)
    obtain ⟨first, isFirst, _⟩ := named one inOne
    obtain ⟨second, isSecond, _⟩ := named two inTwo
    unfold AclState.rulePriority at le
    rw [isFirst, isSecond] at le ⊢
    exact le

/-- In every interleaving in which the new priorities fit the rules are listed
in the order of their priorities. -/
theorem aclRules_ordered
    (reach : Runs.Reach AclFresh (Runs.guarded (AclEvent.keepsPlace platform) (AclEvent.step platform)) s) :
    RulesOrdered s.db := by
  have listed : s.Listed := by
    refine reach.invariant AclSystem.Listed (fun _ fresh => fresh.listed) ?_
    intro s event t listed moved
    rw [moved.2]
    exact listed.step event moved.1
  exact listed.1.rulesOrdered

end Runs

def aclSampleRuleAt (priority : Nat) : List AclRuleAttr := aclSampleRule ++ [.priority priority]

def aclSampleSetEnv : AclRuleSetEnv where
  lookups := aclSampleLookups
  allocOk := true
  sampleValidate := .success
  copy := .success
  npu := .success
  update := ⟨true, .success, .success, fun _ => 0⟩
  sampleUpdate := .success

def aclPriorityRun (value : Nat) : List AclEvent :=
  [.beginTable aclSampleTable aclSampleLookups true, .lockTable 0 aclSampleTableEnv,
    .beginRule (aclSampleRuleAt 2) true, .lockRule 0 aclSampleRuleEnv,
    .beginRule (aclSampleRuleAt 1) true, .lockRule 0 { aclSampleRuleEnv with npuObjectId := 8 },
    .setRule ⟨.aclEntry, 7⟩ (.priority value) aclSampleSetEnv]

def aclPrioritySample : AclState :=
  ((aclPriorityRun 0).dropLast.foldl (AclEvent.step aclSamplePlatform) aclSampleSystem).db

theorem aclRules_ordered_sample :
    RulesOrdered ((aclPriorityRun 5).foldl (AclEvent.step aclSamplePlatform) aclSampleSystem).db := by
  refine aclRules_ordered (Runs.Reach.run (.start aclSampleSystem_fresh) ?_)
  refine ⟨trivial, trivial, trivial, trivial, trivial, trivial, ?_, trivial⟩
  intro present modify table taken
  change PriorityFits aclPrioritySample.rulePriority table.ruleHead ⟨.aclEntry, 7⟩ 5
  have itsTable : (aclPrioritySample.ruleTree.get ⟨.aclEntry, 7⟩).map AclRule.tableId =
    some ⟨.aclTable, 1⟩ := by decide
  have itsList : (aclPrioritySample.tableTree.get ⟨.aclTable, 1⟩).map AclTable.ruleHead =
      some [⟨.aclEntry, 8⟩, ⟨.aclEntry, 7⟩] := by decide
  have stored : aclPrioritySample.ruleTree.get ⟨.aclEntry, 7⟩ = some present := taken.stored
  have found : aclPrioritySample.tableTree.get present.tableId = some table := taken.found
  rw [stored] at itsTable
  rw [Option.some.inj itsTable] at found
  rw [found] at itsList
  rw [Option.some.inj itsList]
  exact (priorityFits_iff (by decide) (by decide) (by decide) 5).mpr (by decide)

/-- A new priority that does not fit leaves the list out of order. -/
theorem aclRules_not_ordered :
    ¬ ∀ platform s, Runs.Reach AclFresh (Runs.guarded (fun _ _ => True) (AclEvent.step platform)) s →
      RulesOrdered s.db := by
  intro all
  let last := (aclPriorityRun 0).foldl (AclEvent.step aclSamplePlatform) aclSampleSystem
  have ordered : RulesOrdered last.db := all aclSamplePlatform _ (Runs.Reach.run (.start aclSampleSystem_fresh)
    (Runs.allowedRun_of_forall (fun _ _ => trivial) _ (aclPriorityRun 0)))
  have walk : (last.db.tableTree.get ⟨.aclTable, 1⟩).map (fun table => table.ruleHead.map fun id =>
      (last.db.ruleTree.get id).map AclRule.aclRulePriority) = some [some 1, some 0] := by decide
  obtain ⟨table, found, isIt⟩ := Option.map_eq_some_iff.mp walk
  obtain ⟨rules, listed, sorted⟩ := ordered ⟨.aclTable, 1⟩ table found
  have visited : (rules.map AclRule.aclRulePriority).map some = [1, 0].map some := by
    have mapped := congrArg (List.map (Option.map AclRule.aclRulePriority)) listed
    rw [List.map_map, List.map_map] at mapped
    rw [List.map_map]
    exact mapped.symm.trans isIt
  have values : rules.map AclRule.aclRulePriority = [1, 0] :=
    List.map_injective_iff.mpr (Option.some_injective _) visited
  have broken : [1, 0].Pairwise fun one two => one ≤ two := by
    rw [← values]
    exact List.pairwise_map.mpr sorted
  revert broken
  decide

end SaiCommon
