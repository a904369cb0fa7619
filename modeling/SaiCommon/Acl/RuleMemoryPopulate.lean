import SaiCommon.Acl.RuleMemoryScan

namespace SaiCommon

variable {id : AclActionId} {value : AclFieldValue} {parameter : AclParameter}

open Blocks

section Checks
variable {lookups : AclLookups} {index : Nat} {status : SaiStatus} {enable : Bool}

theorem aclFilterPopulateAttrType_error {id : AclFieldId}
    (refused : aclFilterPopulateAttrType lookups index id enable value = .error status) : status ≠ .success := by
  have objects : ∀ id list, aclFilterPopulateObjectList lookups index id enable list = .error status →
      status ≠ .success := by
    intro id list refused
    unfold aclFilterPopulateObjectList at refused
    split_ifs at refused <;> cases refused <;> exact SaiStatus.noConfusion
  unfold aclFilterPopulateAttrType at refused
  split at refused
  · exact objects _ _ refused
  · exact objects _ _ refused
  · unfold aclFilterPopulateU8List at refused
    split_ifs at refused <;> cases refused <;> exact SaiStatus.noConfusion
  · cases refused
  · unfold aclFilterPopulateObjId at refused
    split at refused
    · cases refused
    split at refused
    · split at refused
      · cases refused
        exact SaiStatus.noConfusion
      · cases refused
    · rename_i failed
      cases refused
      exact failed

theorem aclActionPopulateAttrType_error
    (refused : aclActionPopulateAttrType lookups index id enable parameter = .error status) : status ≠ .success := by
  have objects : ∀ id list, aclActionPopulateObjectList lookups index id enable list = .error status →
      status ≠ .success := by
    intro id list refused
    unfold aclActionPopulateObjectList at refused
    split_ifs at refused <;> cases refused <;> exact SaiStatus.noConfusion
  unfold aclActionPopulateAttrType at refused
  split at refused
  · cases refused
  · exact objects _ _ refused
  · exact objects _ _ refused
  · exact objects _ _ refused
  · unfold aclActionPopulateObjId at refused
    split_ifs at refused
    split at refused
    · cases refused
    rename_i failed
    cases refused
    exact failed

/-- Enabled lists are checked to be given, and stored as they are given. -/
def AclFieldValue.givenAs (kind : AclListKind) (stored value : AclFieldValue) : Prop :=
  stored.lists kind = value.lists kind ∧ (value.lists kind).listed kind ∧
    (kind = .bytes → (stored.u8Data = [] ↔ stored.u8Mask = []))

theorem AclFieldValue.givenAs.plain (stored value : AclFieldValue) : stored.givenAs .plain value :=
  ⟨rfl, trivial, fun no => by cases no⟩

theorem aclFilterPopulateAttrType_lists {id : AclFieldId} {stored : AclFieldValue}
    (accepted : aclFilterPopulateAttrType lookups index id true value = .ok stored) :
    stored.givenAs (AclListKey.field id).kind value := by
  have objects : ∀ id, aclFilterPopulateObjectList lookups index id true value.objList = .ok stored →
      stored.givenAs .objects value := by
    intro id accepted
    unfold aclFilterPopulateObjectList at accepted
    rw [if_neg (Ne.symm Bool.false_ne_true)] at accepted
    split_ifs at accepted with empty
    cases accepted
    exact ⟨rfl, empty, fun no => by cases no⟩
  unfold aclFilterPopulateAttrType at accepted
  split at accepted
  · exact objects _ accepted
  · exact objects _ accepted
  · unfold aclFilterPopulateU8List at accepted
    rw [if_neg (Ne.symm Bool.false_ne_true)] at accepted
    split_ifs at accepted with given
    cases accepted
    obtain ⟨data, mask⟩ := not_or.mp given
    exact ⟨rfl, data, fun _ => iff_of_false data mask⟩
  · exact AclFieldValue.givenAs.plain stored value
  · rename_i notIn notOut notUdf _
    have plain : (AclListKey.field id).kind = .plain := by
      cases id <;> first | rfl | exact absurd rfl notIn | exact absurd rfl notOut | exact absurd rfl (notUdf _)
    rw [plain]
    exact AclFieldValue.givenAs.plain stored value

theorem aclActionPopulateAttrType_lists {stored : AclParameter}
    (accepted : aclActionPopulateAttrType lookups index id true parameter = .ok stored) :
    stored.fieldValue.givenAs (AclListKey.action id).kind parameter.fieldValue := by
  have objects : ∀ id, aclActionPopulateObjectList lookups index id true parameter.objList = .ok stored →
      stored.fieldValue.givenAs .objects parameter.fieldValue := by
    intro id accepted
    unfold aclActionPopulateObjectList at accepted
    rw [if_neg (Ne.symm Bool.false_ne_true)] at accepted
    split_ifs at accepted with empty
    cases accepted
    exact ⟨rfl, empty, fun no => by cases no⟩
  unfold aclActionPopulateAttrType at accepted
  split at accepted
  · exact AclFieldValue.givenAs.plain _ _
  · exact objects _ accepted
  · exact objects _ accepted
  · exact objects _ accepted
  · rename_i notIngress notEgress notList
    have plain : (AclListKey.action id).kind = .plain := by
      cases id <;> first | rfl | exact absurd rfl notIngress | exact absurd rfl notEgress | exact absurd rfl notList
    rw [plain]
    exact AclFieldValue.givenAs.plain _ _

end Checks

section Place
variable {grants : AclGrants} {mem : AclMem} {rest : AclCells} {key : AclListKey} {enable : Bool}

theorem memPlace_kept {value : AclFieldValue} (both : key.kind = .bytes → (value.u8Data = [] ↔ value.u8Mask = []))
    (owns : mem.Owns rest) : ∃ mem',
    (memPlace grants mem { key := key, enable := enable } value = .ok (mem', none) ∧ mem.Kept mem' .none rest) ∨
      ∃ entry, memPlace grants mem { key := key, enable := enable } value = .ok (mem', some entry) ∧
        mem.Kept mem' entry.cells rest ∧ entry.both ∧ entry.key = key ∧ entry.enable = enable ∧
        entry.lists mem' = value.lists key.kind := by
  unfold memPlace
  cases kind : key.kind with
  | plain =>
    refine ⟨mem, .inr ⟨_, rfl, .refl ⟨owns.bytes.cons_null.cons_null, owns.oids.cons_null⟩, Iff.rfl,
      rfl, rfl, ?_⟩⟩
    exact MemEntry.lists_plain kind
  | objects =>
    dsimp only
    cases got : calloc mem.oids grants.oids nullObjectId value.objList.length with
    | mk oids made =>
      rcases calloc_kept owns.oids got with ⟨rfl, kept, _⟩ | ⟨address, rfl, kept⟩
      · exact ⟨_, .inl ⟨rfl, .of_oids kept owns.bytes⟩⟩
      obtain ⟨oids', wrote, kept', read⟩ := @store_kept _ _ ⟨value.objList.length, some address⟩ _ value.objList
        kept.owns rfl
      dsimp only at wrote
      simp only [wrote]
      refine ⟨_, .inr ⟨_, rfl, .of_oids (kept.trans kept') owns.bytes.cons_null.cons_null, Iff.rfl,
        rfl, rfl, ?_⟩⟩
      rw [MemEntry.lists_objects kind, read]
      rfl
  | bytes =>
    dsimp only
    obtain ⟨bytes, made, got, ⟨rfl, kept, _⟩ | ⟨a, b, rfl, kept⟩⟩ :=
      callocPair_kept grants.bytes 0 value.u8Data.length value.u8Mask.length owns.bytes
    · simp only [got]
      exact ⟨_, .inl ⟨rfl, .of_bytes kept owns.oids⟩⟩
    · obtain ⟨m₂, wrote, kept', read⟩ :=
        @store_kept _ _ ⟨value.u8Data.length, some a⟩ _ value.u8Data kept.owns rfl
      obtain ⟨m₃, wrote', kept'', read'⟩ := @store_kept _ _ ⟨value.u8Mask.length, some b⟩ _ value.u8Mask
        (kept'.owns.perm (.swap _ _ _)) rfl
      dsimp only at wrote wrote'
      simp only [got, wrote, wrote']
      have keptAll :
        Blocks.Kept mem.bytes m₃ [⟨value.u8Data.length, some a⟩, ⟨value.u8Mask.length, some b⟩] rest.bytes :=
        ⟨kept''.owns.perm (.swap _ _ _), fun c member => by
          rw [kept''.same c (List.mem_cons_of_mem _ member), kept'.same c (List.mem_cons_of_mem _ member),
            kept.same c member]⟩
      refine ⟨_, .inr ⟨_, rfl, .of_bytes keptAll owns.oids.cons_null, ?_, rfl, rfl, ?_⟩⟩
      · exact List.length_eq_zero_iff.trans ((both kind).trans List.length_eq_zero_iff.symm)
      · rw [MemEntry.lists_bytes kind]
        unfold byteValue
        rw [read', kept''.same _ List.mem_cons_self, read]
        rfl

theorem memEntryPopulate_kept {late : SaiStatus} {stored value : AclFieldValue} (owns : mem.Owns rest)
    (given : enable = true → stored.givenAs key.kind value) : ∃ mem',
    (∃ error, error ≠ .success ∧
      memEntryPopulate grants mem key enable (.ok stored) late = .ok (mem', .error error) ∧
        mem.Kept mem' .none rest) ∨
      ∃ entry, memEntryPopulate grants mem key enable (.ok stored) late = .ok (mem', .ok entry) ∧
        mem.Kept mem' entry.cells rest ∧ entry.both ∧ entry.key = key ∧ entry.enable = enable ∧
        (enable = true → entry.lists mem' = value.lists key.kind ∧ (value.lists key.kind).listed key.kind) ∧
        late = .success := by
  have placed :
    ∃ mem', ((if enable = false ∧ key.kind ≠ .plain then .ok (mem, some { key := key, enable := enable })
        else memPlace grants mem { key := key, enable := enable } stored) = .ok (mem', none) ∧
        mem.Kept mem' .none rest) ∨
      ∃ entry, (if enable = false ∧ key.kind ≠ .plain then .ok (mem, some { key := key, enable := enable })
        else memPlace grants mem { key := key, enable := enable } stored) = .ok (mem', some entry) ∧
        mem.Kept mem' entry.cells rest ∧ entry.both ∧ entry.key = key ∧ entry.enable = enable ∧
        (enable = true → entry.lists mem' = value.lists key.kind ∧ (value.lists key.kind).listed key.kind) := by
    by_cases disabled : enable = false ∧ key.kind ≠ .plain
    · rw [if_pos disabled]
      refine ⟨mem, .inr ⟨_, rfl, .refl ⟨owns.bytes.cons_null.cons_null, owns.oids.cons_null⟩, Iff.rfl, rfl, rfl,
        fun enabled => ?_⟩⟩
      rw [disabled.1] at enabled
      cases enabled
    rw [if_neg disabled]
    have both : key.kind = .bytes → (stored.u8Data = [] ↔ stored.u8Mask = []) := by
      intro kind
      have enabled : enable = true := Bool.eq_true_of_not_eq_false fun no =>
        disabled ⟨no, by rw [kind]; exact fun no => by cases no⟩
      exact (given enabled).2.2 kind
    obtain ⟨mem', ⟨full, kept⟩ | ⟨entry, placed, kept, both', sameKey, sameEnable, lists⟩⟩ :=
      @memPlace_kept grants mem rest key enable stored both owns
    · exact ⟨mem', .inl ⟨full, kept⟩⟩
    · refine ⟨mem', .inr ⟨entry, placed, kept, both', sameKey, sameEnable, fun enabled => ?_⟩⟩
      obtain ⟨same, listed, _⟩ := given enabled
      exact ⟨lists.trans same, listed⟩
  unfold memEntryPopulate
  dsimp only
  obtain ⟨mem', ⟨full, kept⟩ | ⟨entry, placed, kept, both, sameKey, sameEnable, lists⟩⟩ := placed
  · rw [full]
    exact ⟨mem', .inl ⟨_, SaiStatus.noConfusion, rfl, kept⟩⟩
  rw [placed]
  by_cases ok : late = .success
  · rw [ok]
    exact ⟨mem', .inr ⟨entry, rfl, kept, both, sameKey, sameEnable, lists, rfl⟩⟩
  · refine ⟨mem', .inl ⟨late, ok, ?_, kept.forget⟩⟩
    cases late <;> first | exact absurd rfl ok | rfl

end Place

/-- The key, the state and the lists that an attribute gives to a rule. -/
def AclRuleAttr.lists (table : AclTable) : AclRuleAttr → Option (AclListKey × Bool × AclFieldValue)
  | .field id enable value => some (.field (aclStoredField table id), enable, value)
  | .action id enable parameter => some (.action id, enable, parameter.fieldValue)
  | _ => none

def MemRule.add (rule : MemRule) (entry : MemEntry) : MemRule :=
  match entry.key with
  | .field _ => { rule with filterList := rule.filterList ++ [entry] }
  | .action _ => { rule with actionList := rule.actionList ++ [entry] }

/-- A rule whose filters and actions are as they should be. -/
structure MemRule.Sound (rule : MemRule) : Prop where
  live : rule.filterListFreed = false
  filters : ∀ e ∈ rule.filterList, e.both
  actions : ∀ e ∈ rule.actionList, e.both

theorem MemRule.Sound.empty : MemRule.Sound {} :=
  ⟨rfl, fun _ member => absurd member List.not_mem_nil, fun _ member => absurd member List.not_mem_nil⟩

section Add
variable {rule : MemRule} {entry : MemEntry}

theorem MemRule.Sound.add (sound : rule.Sound) (both : entry.both) : (rule.add entry).Sound := by
  have grown : ∀ {entries : List MemEntry}, (∀ e ∈ entries, e.both) → ∀ e ∈ entries ++ [entry], e.both := by
    intro entries all e member
    rcases List.mem_append.mp member with old | new
    · exact all e old
    · rw [List.mem_singleton.mp new]
      exact both
  unfold MemRule.add
  split
  · exact ⟨sound.live, grown sound.filters, sound.actions⟩
  · exact ⟨sound.live, sound.filters, grown sound.actions⟩

theorem MemRule.cells_add (rule : MemRule) (entry : MemEntry) :
    (entry.cells.append rule.cells).Perm (rule.add entry).cells := by
  unfold MemRule.add
  split
  · rw [MemRule.cells, MemRule.cells, ← AclCells.append_assoc]
    have grown := memEntryCells_append rule.filterList entry
    exact ⟨grown.bytes.append_right _, grown.oids.append_right _⟩
  · exact AclCells.Perm.append_left_comm.trans ((memEntryCells_append rule.actionList entry).append_left _)

end Add

def AclPopulateEnv.accepts (env : AclPopulateEnv) (attr : AclRuleAttr) : Prop :=
  ∃ rule, aclRulePopulate env.checks env.platform env.table [attr] = .ok rule

section Populate
variable {env : AclPopulateEnv} {mem : AclMem} {rest : AclCells}

theorem errorOf_success {α : Type} {result : Except SaiStatus α}
    (refused : ∀ error, result = .error error → error ≠ .success)
    (ok : errorOf result = .success) : ∃ value, result = .ok value := by
  cases result with
  | error error => exact absurd ok (refused error rfl)
  | ok value => exact ⟨value, rfl⟩

theorem aclUdfFilterPopulate_error {lookups : AclLookups} {table : AclTable} {udfIndex : Nat} (error : SaiStatus)
    (refused : aclUdfFilterPopulate lookups table udfIndex = .error error) : error ≠ .success := by
  unfold aclUdfFilterPopulate at refused
  dsimp only at refused
  split_ifs at refused
  · cases refused
    exact SaiStatus.noConfusion
  · split at refused
    · cases refused
    rename_i failed _
    cases refused
    exact failed

theorem aclActionEffect_error {index : Nat} {platform : AclPlatform} {rule : AclRule} {enable : Bool}
    {oid : ObjectId} (error : SaiStatus)
    (refused : aclActionEffect index platform rule id enable oid = .error error) : error ≠ .success := by
  unfold aclActionEffect at refused
  split at refused
  · cases refused
  split at refused
  · split_ifs at refused
    cases refused
    exact SaiStatus.noConfusion
  · split_ifs at refused
    cases refused
    exact SaiStatus.noConfusion
  · split_ifs at refused
    cases refused
    exact SaiStatus.noConfusion
  · split_ifs at refused <;> cases refused <;> exact SaiStatus.noConfusion
  · cases refused

theorem memRulePopulateAttr_kept {index : Nat} {rule : MemRule} (attr : AclRuleAttr) (owns : mem.Owns rest) : ∃ mem',
    (∃ error, error ≠ .success ∧ memRulePopulateAttr env index mem rule attr = .ok (mem', .error error) ∧
        mem.Kept mem' .none rest) ∨
      (∃ next, aclRulePopulateAttr env.checks index env.platform env.table .zero attr = .ok next) ∧
        ((attr.lists env.table = none ∧ mem' = mem ∧
          memRulePopulateAttr env index mem rule attr = .ok (mem, .ok rule)) ∨
          ∃ entry value, attr.lists env.table = some (entry.key, entry.enable, value) ∧
            memRulePopulateAttr env index mem rule attr = .ok (mem', .ok (rule.add entry)) ∧
            mem.Kept mem' entry.cells rest ∧ entry.both ∧ (entry.enable = true →
              entry.lists mem' = value.lists entry.key.kind ∧
              (value.lists entry.key.kind).listed entry.key.kind)) := by
  cases attr with
  | field id enable value =>
    dsimp only [memRulePopulateAttr, memFilterPopulate, aclRulePopulateAttr, aclFilterPopulate, AclRuleAttr.lists]
    generalize aclStoredField env.table id = field
    cases checked : aclFilterPopulateAttrType env.checks index field enable value with
    | error status =>
      refine ⟨mem, .inl ⟨indexedRetVal status index, ?_, rfl, .refl owns.none⟩⟩
      exact fun ok => aclFilterPopulateAttrType_error checked (indexedRetVal_success.mp ok)
    | ok stored =>
      have given : enable = true → stored.givenAs (AclListKey.field field).kind value := by
        intro enabled
        rw [enabled] at checked
        exact aclFilterPopulateAttrType_lists checked
      obtain ⟨mem', ⟨error, failed, populated, kept⟩ |
        ⟨entry, populated, kept, both, sameKey, sameEnable, lists, ok⟩⟩ :=
        @memEntryPopulate_kept env.grants mem rest _ _ (aclUdfFilterStatus env index field) stored value owns given
      · simp only [Except.mapError, populated]
        exact ⟨mem', .inl ⟨error, failed, rfl, kept⟩⟩
      · simp only [Except.mapError, populated]
        refine ⟨mem', .inr ⟨?_, .inr ⟨entry, value, by rw [sameKey, sameEnable], ?_, kept, both, ?_⟩⟩⟩
        · cases field with
          | udf i =>
            obtain ⟨udfField, found⟩ := errorOf_success aclUdfFilterPopulate_error (indexedRetVal_success.mp ok)
            have found : aclUdfFilterPopulate env.checks env.table i = .ok udfField := found
            simp only [found]
            exact ⟨_, rfl⟩
          | _ => exact ⟨_, rfl⟩
        · rw [MemRule.add, sameKey]
        · rwa [sameKey, sameEnable]
  | action id enable parameter =>
    dsimp only [memRulePopulateAttr, memActionPopulate, aclRulePopulateAttr, AclRuleAttr.lists]
    cases checked : aclActionPopulateAttrType env.checks index id enable parameter with
    | error status =>
      refine ⟨mem, .inl ⟨indexedRetVal status index, ?_, rfl, .refl owns.none⟩⟩
      exact fun ok => aclActionPopulateAttrType_error checked (indexedRetVal_success.mp ok)
    | ok stored =>
      have given : enable = true → stored.fieldValue.givenAs (AclListKey.action id).kind parameter.fieldValue := by
        intro enabled
        rw [enabled] at checked
        exact aclActionPopulateAttrType_lists checked
      obtain ⟨mem', ⟨error, failed, populated, kept⟩ |
        ⟨entry, populated, kept, both, sameKey, sameEnable, lists, ok⟩⟩ :=
        @memEntryPopulate_kept env.grants mem rest _ _
          (errorOf (aclActionEffect index env.platform .zero id enable parameter.oid)) stored.fieldValue _ owns given
      · simp only [Except.map, Except.mapError, populated]
        exact ⟨mem', .inl ⟨error, failed, rfl, kept⟩⟩
      · obtain ⟨next, effect⟩ := errorOf_success aclActionEffect_error ok
        simp only [Except.map, Except.mapError, populated]
        refine ⟨mem', .inr ⟨by rw [effect]; exact ⟨_, rfl⟩, .inr ⟨entry, parameter.fieldValue,
          by rw [sameKey, sameEnable], ?_, kept, both, ?_⟩⟩⟩
        · rw [MemRule.add, sameKey]
        · rwa [sameKey, sameEnable]
  | tableId id => exact ⟨mem, .inr ⟨⟨_, rfl⟩, .inl ⟨rfl, rfl, rfl⟩⟩⟩
  | priority value => exact ⟨mem, .inr ⟨⟨_, rfl⟩, .inl ⟨rfl, rfl, rfl⟩⟩⟩
  | adminState state => exact ⟨mem, .inr ⟨⟨_, rfl⟩, .inl ⟨rfl, rfl, rfl⟩⟩⟩
  | unknown id => exact ⟨mem, .inl ⟨_, SaiStatus.noConfusion, rfl, .refl owns.none⟩⟩
  | outOfRange id => exact ⟨mem, .inl ⟨_, SaiStatus.noConfusion, rfl, .refl owns.none⟩⟩

theorem memRulePopulateLoop_kept (attrs : List AclRuleAttr) : ∀ {mem : AclMem} {index : Nat} {rule : MemRule},
    rule.Sound → mem.Owns (rule.cells.append rest) → ∃ mem',
    (∃ error, error ≠ .success ∧ memRulePopulateLoop env index mem rule attrs = .ok (mem', .error error) ∧
        mem.Kept mem' .none rest) ∨ ∃ next, memRulePopulateLoop env index mem rule attrs = .ok (mem', .ok next) ∧
        mem.Kept mem' next.cells rest ∧ next.Sound := by
  induction attrs with
  | nil => exact fun {mem _ rule} sound owns => ⟨mem, .inr ⟨rule, rfl, .refl owns, sound⟩⟩
  | cons attr attrs ih =>
    intro mem index rule sound owns
    unfold memRulePopulateLoop
    obtain ⟨mem₁, ⟨error, failed, populated, kept⟩ |
      ⟨_, ⟨_, rfl, populated⟩ | ⟨entry, _, _, populated, kept, both, _⟩⟩⟩ :=
      @memRulePopulateAttr_kept env mem _ index rule attr owns
    · simp only [populated]
      exact ⟨mem₁, .inl ⟨error, failed, rfl, kept.frame.forget⟩⟩
    · simp only [populated]
      exact @ih mem₁ (index + 1) rule sound owns
    · simp only [populated]
      have kept := kept.frame.perm (rule.cells_add entry)
      obtain ⟨mem₂, ⟨error, failed, populated', kept'⟩ | ⟨last, populated', kept', sound'⟩⟩ :=
        @ih mem₁ (index + 1) (rule.add entry) (sound.add both) kept.owns
      · exact ⟨mem₂, .inl ⟨error, failed, populated', kept.trans kept'⟩⟩
      · exact ⟨mem₂, .inr ⟨last, populated', kept.trans kept', sound'⟩⟩

theorem memRulePopulate_kept (attrs : List AclRuleAttr) (owns : mem.Owns rest) : ∃ mem',
    (∃ error, error ≠ .success ∧ memRulePopulate env mem attrs = .ok (mem', .error error) ∧
        mem.Kept mem' .none rest) ∨
      ∃ rule, memRulePopulate env mem attrs = .ok (mem', .ok rule) ∧ mem.Kept mem' rule.cells rest ∧
        rule.Sound := by
  unfold memRulePopulate
  split
  · exact ⟨mem, .inl ⟨_, SaiStatus.noConfusion, rfl, .refl owns.none⟩⟩
  · exact memRulePopulateLoop_kept attrs .empty owns

def MemRule.modifies (table : AclTable) (mem : AclMem) (modify : MemRule) (attr : AclRuleAttr) : Prop :=
  (attr.lists table = none ∧ modify = {}) ∨
    ∃ entry value, attr.lists table = some (entry.key, entry.enable, value) ∧ modify = MemRule.add {} entry ∧
      (entry.enable = true →
        entry.lists mem = value.lists entry.key.kind ∧ (value.lists entry.key.kind).listed entry.key.kind)

theorem memRulePopulate_one (attr : AclRuleAttr) (owns : mem.Owns rest) : ∃ mem',
    (∃ error, error ≠ .success ∧ memRulePopulate env mem [attr] = .ok (mem', .error error) ∧
        mem.Kept mem' .none rest) ∨
      ∃ modify, memRulePopulate env mem [attr] = .ok (mem', .ok modify) ∧ mem.Kept mem' modify.cells rest ∧
        modify.Sound ∧ modify.modifies env.table mem' attr ∧ env.accepts attr := by
  unfold memRulePopulate
  split
  · exact ⟨mem, .inl ⟨_, SaiStatus.noConfusion, rfl, .refl owns.none⟩⟩
  rename_i alloc
  have checksAlloc : ¬env.checks.listAlloc = false := alloc
  have accepted : (∃ next, aclRulePopulateAttr env.checks 0 env.platform env.table .zero attr = .ok next) →
      env.accepts attr := by
    rintro ⟨next, populated⟩
    unfold AclPopulateEnv.accepts aclRulePopulate
    rw [if_neg checksAlloc]
    simp only [aclRulePopulateLoop, populated]
    split
    · exact ⟨_, rfl⟩
    · exact ⟨_, rfl⟩
  unfold memRulePopulateLoop
  obtain ⟨mem₁, ⟨error, failed, populated, kept⟩ |
    ⟨accepts, ⟨absent, rfl, populated⟩ | ⟨entry, value, present, populated, kept, both, lists⟩⟩⟩ :=
    @memRulePopulateAttr_kept env mem _ 0 {} attr owns
  · simp only [populated]
    exact ⟨mem₁, .inl ⟨error, failed, rfl, kept⟩⟩
  · simp only [populated]
    exact ⟨mem₁, .inr ⟨{}, rfl, .refl owns, .empty, .inl ⟨absent, rfl⟩, accepted accepts⟩⟩
  · simp only [populated]
    exact ⟨mem₁, .inr ⟨_, rfl, kept.frame.perm (MemRule.cells_add {} entry), MemRule.Sound.empty.add both,
      .inr ⟨entry, value, present, rfl, lists⟩, accepted accepts⟩⟩

end Populate

end SaiCommon
