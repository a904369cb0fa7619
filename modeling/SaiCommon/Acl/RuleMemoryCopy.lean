import SaiCommon.Acl.RuleMemoryCells

namespace SaiCommon
open Blocks

section Free
variable {mem : AclMem} {rest : AclCells}

theorem memFreeEntry_kept {entry : MemEntry} (owns : mem.Owns (entry.cells.append rest)) :
    ∃ mem', memFreeEntry mem entry = .ok mem' ∧ mem.Kept mem' .none rest := by
  unfold memFreeEntry
  split
  · exact ⟨mem, rfl, .refl owns.right.none⟩
  · obtain ⟨oids, freed, kept⟩ := free_kept owns.oids
    rw [freed]
    exact ⟨_, rfl, .of_oids kept owns.right.bytes⟩
  · obtain ⟨bytes, bytes', freed, freed', kept⟩ := free_both owns.bytes
    simp only [freed, freed']
    exact ⟨_, rfl, .of_bytes kept owns.right.oids⟩

theorem memFreeEntries_kept (entries : List MemEntry) :
    ∀ {mem : AclMem}, mem.Owns ((memEntryCells entries).append rest) →
    ∃ mem', memFreeEntries mem entries = .ok mem' ∧ mem.Kept mem' .none rest := by
  induction entries with
  | nil => exact fun {mem} owns => ⟨mem, rfl, .refl owns⟩
  | cons entry entries ih =>
    intro mem owns
    rw [memEntryCells_cons, AclCells.append_assoc] at owns
    obtain ⟨mem₁, freed, kept⟩ := memFreeEntry_kept owns
    obtain ⟨mem₂, freed', kept'⟩ := ih kept.owns.right
    refine ⟨mem₂, by rw [memFreeEntries, freed]; exact freed', ?_⟩
    exact kept.seq kept'

theorem memRuleFree_kept {rule : MemRule} (live : rule.filterListFreed = false)
    (owns : mem.Owns (rule.cells.append rest)) : ∃ mem', memRuleFree mem rule = .ok mem' ∧
    mem.Kept mem' .none rest := by
  rw [MemRule.cells, AclCells.append_assoc] at owns
  obtain ⟨mem₁, freed, kept⟩ := memFreeEntries_kept rule.filterList owns
  obtain ⟨mem₂, freed', kept'⟩ := memFreeEntries_kept rule.actionList kept.owns.right
  refine ⟨mem₂, ?_, kept.seq kept'⟩
  unfold memRuleFree
  rw [live, if_neg Bool.false_ne_true, freed]
  exact freed'

end Free

/-- A copy in memory of a filter or an action. -/
structure MemEntry.Copied (mem : AclMem) (src copy : MemEntry) : Prop where
  key : copy.key = src.key
  enable : copy.enable = src.enable
  lists : copy.lists mem = src.lists mem

section Copy
variable {grants : AclGrants} {mem mem' : AclMem} {made rest : AclCells}

theorem memEntries_copied_kept {srcs copies : List MemEntry} (all : List.Forall₂ (MemEntry.Copied mem) srcs copies)
    (kept : mem.Kept mem' made rest) (within : (memEntryCells srcs).Within rest)
    (within' : (memEntryCells copies).Within rest) : List.Forall₂ (MemEntry.Copied mem') srcs copies := by
  induction all with
  | nil => exact .nil
  | cons head _ ih =>
    rw [memEntryCells_cons] at within within'
    refine .cons ⟨head.key, head.enable, ?_⟩
      (ih (AclCells.Within.right.trans within) (AclCells.Within.right.trans within'))
    rw [MemEntry.lists_congr kept (AclCells.Within.left.trans within),
      MemEntry.lists_congr kept (AclCells.Within.left.trans within'), head.lists]

theorem memRuleCopyEntry_kept {src : MemEntry} (owns : mem.Owns rest) (within : src.cells.Within rest) : ∃ mem',
    (∃ error, error ≠ .success ∧ memRuleCopyEntry grants mem src = .ok (mem', .error error) ∧
        mem.Kept mem' .none rest) ∨
      ∃ copy, memRuleCopyEntry grants mem src = .ok (mem', .ok copy) ∧ mem.Kept mem' copy.cells rest ∧
        src.Copied mem' copy := by
  have inObjects := within.oids _ List.mem_cons_self
  have inData := within.bytes _ List.mem_cons_self
  have inMask := within.bytes _ (List.mem_cons_of_mem _ List.mem_cons_self)
  unfold memRuleCopyEntry
  cases kind : src.key.kind with
  | plain =>
    refine ⟨mem, .inr ⟨_, rfl, .refl ⟨owns.bytes.cons_null.cons_null, owns.oids.cons_null⟩, rfl, rfl, ?_⟩⟩
    rw [MemEntry.lists_plain kind]
    exact MemEntry.lists_plain kind
  | objects =>
    dsimp only
    rw [if_neg fun null => null.2 (owns.oids.null _ inObjects null.1)]
    cases got : calloc mem.oids grants.oids nullObjectId src.objList.count with
    | mk oids made =>
      rcases calloc_kept owns.oids got with ⟨rfl, kept, _⟩ | ⟨address, rfl, kept⟩
      · exact ⟨_, .inl ⟨_, SaiStatus.noConfusion, rfl, .of_oids kept owns.bytes⟩⟩
      obtain ⟨oids', copied, kept', read⟩ := @memcpy_kept _ _ src.objList ⟨src.objList.count, some address⟩ _
        kept.owns inObjects le_rfl
      dsimp only at copied
      simp only [copied]
      have keptAll := kept.trans kept'
      refine ⟨_, .inr ⟨_, rfl, .of_oids keptAll owns.bytes.cons_null.cons_null, rfl, rfl, ?_⟩⟩
      rw [@MemEntry.lists_objects ⟨mem.bytes, oids'⟩ src kind, keptAll.same _ inObjects,
        ← List.take_of_length_le (owns.oids.length_read inObjects).le, ← kept.same _ inObjects, ← read]
      exact MemEntry.lists_objects kind
  | bytes =>
    dsimp only
    rw [if_neg fun null => null.elim (fun null => null.2 (owns.bytes.null _ inData null.1))
      fun null => null.2 (owns.bytes.null _ inMask null.1)]
    obtain ⟨bytes, made, got, ⟨rfl, kept, _⟩ | ⟨a, b, rfl, kept⟩⟩ :=
      callocPair_kept grants.bytes 0 src.u8Data.count src.u8Mask.count owns.bytes
    · simp only [got]
      exact ⟨_, .inl ⟨_, SaiStatus.noConfusion, rfl, .of_bytes kept owns.oids⟩⟩
    · obtain ⟨m₁, m₂, copied, copied', kept', read, read'⟩ := @memcpy_both _ _ _ ⟨src.u8Data.count, some a⟩
        ⟨src.u8Mask.count, some b⟩ src.u8Data src.u8Mask kept.owns inData inMask le_rfl le_rfl
      dsimp only at copied copied'
      simp only [got, copied, copied']
      have keptAll := kept.trans kept'
      refine ⟨_, .inr ⟨_, rfl, .of_bytes keptAll owns.oids.cons_null, rfl, rfl, ?_⟩⟩
      rw [@MemEntry.lists_bytes ⟨m₂, mem.oids⟩ src kind]
      rw [@MemEntry.lists_bytes ⟨m₂, mem.oids⟩ ⟨src.key, src.enable, {}, {},
        ⟨src.u8Data.count, some a⟩, ⟨src.u8Mask.count, some b⟩⟩ kind]
      unfold byteValue
      rw [read, read', kept.same _ inData, kept.same _ inMask, keptAll.same _ inData, keptAll.same _ inMask,
        List.take_of_length_le (owns.bytes.length_read inData).le,
        List.take_of_length_le (owns.bytes.length_read inMask).le]

theorem memRuleCopyEntries_kept (entries : List MemEntry) : ∀ {mem : AclMem} {rest : AclCells}, mem.Owns rest →
    (memEntryCells entries).Within rest → ∃ mem',
    (∃ error, error ≠ .success ∧ memRuleCopyEntries grants mem entries = .ok (mem', .error error) ∧
        mem.Kept mem' .none rest) ∨ ∃ copies, memRuleCopyEntries grants mem entries = .ok (mem', .ok copies) ∧
        mem.Kept mem' (memEntryCells copies) rest ∧ List.Forall₂ (MemEntry.Copied mem') entries copies := by
  induction entries with
  | nil => exact fun {mem rest} owns _ => ⟨mem, .inr ⟨[], rfl, .refl owns, .nil⟩⟩
  | cons src entries ih =>
    intro mem rest owns within
    rw [memEntryCells_cons] at within
    unfold memRuleCopyEntries
    obtain ⟨mem₁, ⟨error, failed, copied, kept⟩ | ⟨copy, copied, kept, same⟩⟩ :=
      @memRuleCopyEntry_kept grants mem rest src owns (AclCells.Within.left.trans within)
    · simp only [copied]
      exact ⟨mem₁, .inl ⟨error, failed, rfl, kept⟩⟩
    · simp only [copied]
      obtain ⟨mem₂, ⟨error, failed, copied', kept'⟩ | ⟨copies, copied', kept', all⟩⟩ :=
        ih kept.owns ((AclCells.Within.right.trans within).trans .right)
      · simp only [copied']
        exact ⟨mem₂, .inl ⟨error, failed, rfl, (kept.both kept').forget⟩⟩
      · simp only [copied']
        refine ⟨mem₂, .inr ⟨_, rfl, kept.both kept', .cons ⟨same.key, same.enable, ?_⟩ all⟩⟩
        rw [MemEntry.lists_congr kept' ((AclCells.Within.left.trans within).trans .right),
          MemEntry.lists_congr kept' .left, same.lists]

theorem memRuleCopy_kept {env : AclSetMemEnv} {src : MemRule} (live : src.filterListFreed = false)
    (owns : mem.Owns rest) (within : src.cells.Within rest) : ∃ mem' compare status,
      memRuleCopy env mem src = .ok (mem', compare, status) ∧ mem.Kept mem' compare.cells rest ∧
      compare.filterListFreed = false ∧ (status = .success → env.copyListAlloc = true ∧ env.npuCopy = .success ∧
        List.Forall₂ (MemEntry.Copied mem') src.filterList compare.filterList ∧
        List.Forall₂ (MemEntry.Copied mem') src.actionList compare.actionList) := by
  have failure : ∀ {mem' : AclMem} {error : SaiStatus}, error ≠ .success → mem.Kept mem' .none rest →
      ∃ mem'' compare status, (Except.ok (mem', {}, error) : Except Fault (AclMem × MemRule × SaiStatus)) =
          .ok (mem'', compare, status) ∧ mem.Kept mem'' compare.cells rest ∧
        compare.filterListFreed = false ∧
        (status = .success → env.copyListAlloc = true ∧ env.npuCopy = .success ∧
          List.Forall₂ (MemEntry.Copied mem'') src.filterList compare.filterList ∧
          List.Forall₂ (MemEntry.Copied mem'') src.actionList compare.actionList) :=
    fun failed kept => ⟨_, {}, _, rfl, kept, rfl, fun ok => absurd ok failed⟩
  unfold memRuleCopy
  rw [live, if_neg Bool.false_ne_true]
  split
  · exact failure SaiStatus.noConfusion (.refl owns)
  rename_i alloc
  obtain ⟨mem₁, ⟨error, failed, copied, kept⟩ | ⟨filters, copied, kept, all⟩⟩ :=
    @memRuleCopyEntries_kept env.copyGrants src.filterList mem rest owns (AclCells.Within.left.trans within)
  · simp only [copied]
    exact failure failed kept
  · simp only [copied]
    obtain ⟨mem₂, ⟨error, failed, copied', kept'⟩ | ⟨actions, copied', kept', all'⟩⟩ :=
      @memRuleCopyEntries_kept env.copyGrants src.actionList mem₁ _ kept.owns
        ((AclCells.Within.right.trans within).trans .right)
    · simp only [copied']
      exact failure failed (kept.both kept').forget
    · simp only [copied']
      exact ⟨mem₂, _, _, rfl, kept.both kept', rfl, fun ok => ⟨Bool.eq_true_of_not_eq_false alloc, ok,
        memEntries_copied_kept all kept' ((AclCells.Within.left.trans within).trans .right) .left, all'⟩⟩

end Copy

end SaiCommon
