import SaiCommon.Acl.RuleMemoryUpdate

namespace SaiCommon

variable {entries : List MemEntry} {scan : MemEntry}

open Blocks

section Marks
variable {mem : AclMem} {cells : AclCells}

theorem memEntryOf_some {key : AclListKey} {entry : MemEntry}
    (found : memEntryOf key entries = some entry) : entry ∈ entries ∧ entry.key = key := by
  unfold memEntryOf at found
  have same := List.find?_some found
  exact ⟨List.mem_of_find?_eq_some found, beq_iff_eq.mp same⟩

theorem memEntryOf_copied {key : AclListKey} {srcs copies : List MemEntry}
    (all : List.Forall₂ (MemEntry.Copied mem) srcs copies) :
    (memEntryOf key srcs = none ∧ memEntryOf key copies = none) ∨
      ∃ src copy, memEntryOf key srcs = some src ∧ memEntryOf key copies = some copy ∧ src.Copied mem copy := by
  induction all with
  | nil => exact .inl ⟨rfl, rfl⟩
  | @cons src copy srcs copies copied _ ih =>
    by_cases same : src.key = key
    · exact .inr ⟨src, copy, memEntryOf_cons same, memEntryOf_cons (copied.key.trans same), copied⟩
    · rw [memEntryOf_cons_ne same, memEntryOf_cons_ne fun equal => same (copied.key.symm.trans equal)]
      exact ih

/-- The comparison stays within the lists. Entries that compare equal have equal
lists, and byte lists that are equal compare so. -/
theorem memCheckChange_eq {given : MemEntry} (owns : mem.Owns cells) (within : scan.cells.Within cells)
    (within' : given.cells.Within cells) (sameKey : given.key = scan.key) : ∃ change,
      memCheckChange mem given scan = .ok change ∧
      (change = false → given.enable = scan.enable ∧ given.lists mem = scan.lists mem) ∧
      (change = true → given.enable = scan.enable → given.lists mem = scan.lists mem →
        scan.key.kind ≠ .bytes) := by
  have sameKind : given.key.kind = scan.key.kind := congrArg AclListKey.kind sameKey
  have plainChange : scan.key.kind ≠ .bytes → ∃ change : Bool,
      (scan.enable ≠ given.enable || scan.objList ≠ given.objList || scan.plain ≠ given.plain) = change ∧
      (change = false → given.enable = scan.enable ∧ given.lists mem = scan.lists mem) ∧
      (change = true → given.enable = scan.enable → given.lists mem = scan.lists mem →
        scan.key.kind ≠ .bytes) := by
    intro noBytes
    refine ⟨_, rfl, fun same => ?_, fun _ _ _ => noBytes⟩
    simp only [Bool.or_eq_false_iff, decide_eq_false_iff_not, ne_eq, not_not] at same
    obtain ⟨⟨enable, list⟩, _⟩ := same
    refine ⟨enable.symm, ?_⟩
    cases kind : scan.key.kind with
    | plain => rw [MemEntry.lists_plain kind, MemEntry.lists_plain (sameKind.trans kind)]
    | objects => rw [MemEntry.lists_objects kind, MemEntry.lists_objects (sameKind.trans kind), list]
    | bytes => exact absurd kind noBytes
  unfold memCheckChange
  cases kind : scan.key.kind with
  | plain =>
    obtain ⟨change, compared, same, differ⟩ := plainChange (by rw [kind]; exact fun no => by cases no)
    exact ⟨change, congrArg Except.ok compared, same, kind ▸ differ⟩
  | objects =>
    obtain ⟨change, compared, same, differ⟩ := plainChange (by rw [kind]; exact fun no => by cases no)
    exact ⟨change, congrArg Except.ok compared, same, kind ▸ differ⟩
  | bytes =>
    have scanData := within.bytes _ List.mem_cons_self
    have scanMask := within.bytes _ (List.mem_cons_of_mem _ List.mem_cons_self)
    have givenData := within'.bytes _ List.mem_cons_self
    have givenMask := within'.bytes _ (List.mem_cons_of_mem _ List.mem_cons_self)
    have lengths := fun {c} member => @Owns.length_read _ mem.bytes c _ owns.bytes member
    rw [MemEntry.lists_bytes kind, MemEntry.lists_bytes (sameKind.trans kind)]
    dsimp only
    split
    · rename_i counts
      refine ⟨true, rfl, fun no => Bool.noConfusion no, fun _ _ equal => ?_⟩
      have data := congrArg (fun v => v.u8Data.length) equal
      have mask := congrArg (fun v => v.u8Mask.length) equal
      dsimp only [byteValue] at data mask
      rw [lengths givenData, lengths scanData] at data
      rw [lengths givenMask, lengths scanMask] at mask
      exact absurd counts (not_or.mpr ⟨not_not.mpr data.symm, not_not.mpr mask.symm⟩)
    · rename_i counts
      obtain ⟨data, mask⟩ := not_or.mp counts
      rw [not_not] at data mask
      have taken : ∀ {c : Cell} {count : Nat}, c ∈ cells.bytes → c.count = count →
          (c.read mem.bytes).take count = c.read mem.bytes := fun member same =>
        List.take_of_length_le ((lengths member).trans same).le
      rw [memcmp_eq owns.bytes scanData givenData le_rfl data.le,
        memcmp_eq owns.bytes scanMask givenMask le_rfl mask.le,
        taken scanData rfl, taken givenData data.symm, taken scanMask rfl, taken givenMask mask.symm]
      unfold byteValue
      by_cases sameData : scan.u8Data.read mem.bytes = given.u8Data.read mem.bytes
      · by_cases sameMask : scan.u8Mask.read mem.bytes = given.u8Mask.read mem.bytes
        · refine ⟨decide (scan.enable ≠ given.enable), by simp [sameData, sameMask], fun same => ⟨?_, ?_⟩,
            fun differ equal _ => absurd equal.symm (of_decide_eq_true differ)⟩
          · exact (not_not.mp (of_decide_eq_false same)).symm
          · rw [sameData, sameMask]
        · refine ⟨true, ?_, fun no => Bool.noConfusion no, fun _ _ equal => ?_⟩
          · simp [sameData, sameMask]
          · exact absurd (congrArg AclFieldValue.u8Mask equal).symm sameMask
      · refine ⟨true, ?_, fun no => Bool.noConfusion no, fun _ _ equal => ?_⟩
        · simp [sameData]
        · exact absurd (congrArg AclFieldValue.u8Data equal).symm sameData

/-- What a mark tells of the stored entries. -/
def markTells (mem : AclMem) (scan : MemEntry) (entries : List MemEntry) (mark : AclMark) : Prop :=
  (mark = .new ∧ memEntryOf scan.key entries = none) ∨
    ∃ p, memEntryOf scan.key entries = some p ∧
      ((mark = .same ∧ p.enable = scan.enable ∧ p.lists mem = scan.lists mem) ∨
        (mark = .change ∧ (p.enable = scan.enable → p.lists mem = scan.lists mem → scan.key.kind ≠ .bytes)))

theorem memEntryMark_eq {stored copies : List MemEntry} (owns : mem.Owns cells)
    (within : scan.cells.Within cells) (within' : (memEntryCells copies).Within cells)
    (all : List.Forall₂ (MemEntry.Copied mem) stored copies) :
    ∃ mark, memEntryMark mem copies scan = .ok mark ∧ markTells mem scan stored mark := by
  unfold memEntryMark
  rcases @memEntryOf_copied mem scan.key _ _ all with ⟨without, without'⟩ | ⟨p, copy, found, found', copied⟩
  · simp only [without']
    exact ⟨.new, rfl, .inl ⟨rfl, without⟩⟩
  obtain ⟨member, sameKey⟩ := memEntryOf_some found'
  obtain ⟨change, compared, same, differ⟩ := memCheckChange_eq owns within
    ((memEntry_within member).trans within') sameKey
  simp only [found', compared]
  rw [copied.enable, copied.lists] at same differ
  cases change with
  | false => exact ⟨.same, rfl, .inr ⟨p, found, .inl ⟨rfl, same rfl⟩⟩⟩
  | true => exact ⟨.change, rfl, .inr ⟨p, found, .inr ⟨rfl, differ rfl⟩⟩⟩

end Marks

/-- The update stores the lists given for a key: the key is new and there is memory for
the new array, its lists are the stored ones, or they are updated as they should be. -/
def AclUpdateMemEnv.rightLists (env : AclUpdateMemEnv) (alloc : Bool) (kind : AclListKind) (given : AclFieldValue) :
    Option (Bool × AclFieldValue) → Prop
  | none => alloc = true ∧ env.grants.right kind given {}
  | some (enable, stored) => (enable = true ∧ stored = given) ∨ env.grants.right kind given stored

section FieldAction
variable {env : AclUpdateMemEnv} {mem : AclMem} {given : MemRule} {rest : AclCells}

theorem fits_of_right {cells : AclCells} {stored : AclFieldValue} (owns : mem.Owns cells)
    (within : scan.cells.Within cells) (right : scan.enable = true → scan.key.kind ≠ .plain →
      env.grants.right scan.key.kind (scan.lists mem) stored) : scan.fits := by
  intro kind enabled
  have right := right enabled (by rw [kind]; exact fun no => by cases no)
  rw [kind, MemEntry.lists_bytes kind] at right
  have lengths := right.1
  dsimp only [byteValue] at lengths
  rw [owns.bytes.length_read (within.bytes _ List.mem_cons_self),
    owns.bytes.length_read (within.bytes _ (List.mem_cons_of_mem _ List.mem_cons_self))] at lengths
  exact lengths.ge

theorem right_of_same {grants : AclGrants} {kind : AclListKind} {lists : AclFieldValue} (noBytes : kind ≠ .bytes) :
    grants.right kind lists lists := by
  cases kind with
  | plain => trivial
  | objects => exact .inl rfl
  | bytes => exact absurd rfl noBytes

theorem lists_new (mem : AclMem) (key : AclListKey) (enable : Bool) :
    MemEntry.lists mem { key := key, enable := enable } = {} := by
  unfold MemEntry.lists
  cases key.kind with
  | plain => rfl
  | objects => rfl
  | bytes => rfl

theorem AclUpdateMemEnv.moved_list (list : scan.key.kind ≠ .plain) : env.moved scan = .success :=
  if_neg fun counter => list (by rw [counter]; rfl)

theorem memEntriesUpdate_kept {mark : AclMark} {alloc : Bool}
    (owns : mem.Owns ((memEntryCells entries).append rest)) (within : scan.cells.Within rest)
    (both : ∀ e ∈ entries, e.both) (tells : markTells mem scan entries mark)
    (right : scan.enable = true → scan.key.kind ≠ .plain → (scan.lists mem).listed scan.key.kind ∧
      env.rightLists alloc scan.key.kind (scan.lists mem)
        ((memEntryOf scan.key entries).map fun e => (e.enable, e.lists mem))) :
    ∃ mem₁ next₁ status₁ mem' next status,
      memChangeLoop env mem entries [(scan, mark)] = .ok (mem₁, next₁, status₁) ∧
      (status₁ = .success → memUpdateNew env alloc mem₁ next₁ [(scan, mark)] = .ok (mem', next, status)) ∧
      (status₁ ≠ .success → mem₁ = mem' ∧ next₁ = next) ∧
      mem.Kept mem' (memEntryCells next) rest ∧ (∀ e ∈ next, e.both) ∧
      (scan.enable = true → scan.key.kind ≠ .plain → scan.storedIn mem mem' next) := by
  rcases tells with ⟨rfl, without⟩ | ⟨p, found, ⟨rfl, sameEnable, sameLists⟩ | ⟨rfl, differ⟩⟩
  · rw [without] at right
    have fits := fits_of_right owns (within.trans .right) fun enabled list => (right enabled list).2.2
    have unchanged : memChangeLoop env mem entries [(scan, .new)] = .ok (mem, entries, .success) := by
      simp [memChangeLoop]
    by_cases noAlloc : alloc = false
    · refine ⟨mem, entries, .success, mem, entries, .noMemory, unchanged, fun _ => ?_, fun no => absurd rfl no,
        .refl owns, both, fun enabled list => ?_⟩
      · simp [memUpdateNew, noAlloc]
      · rw [(right enabled list).2.1] at noAlloc
        cases noAlloc
    have zeroed : mem.Owns (MemEntry.cells { key := scan.key, enable := scan.enable } |>.append
        ((memEntryCells entries).append rest)) := ⟨owns.bytes.cons_null.cons_null, owns.oids.cons_null⟩
    obtain ⟨mem', next, status, updated, kept, both', sameKey, _, stored⟩ :=
      @memEntryLists_kept env.grants mem _ scan _ zeroed (within.trans .right) Iff.rfl fits rfl rfl
    rw [lists_new] at stored
    by_cases ok : status = .success ∧ env.moved scan = .success
    · obtain ⟨rfl, counter⟩ := ok
      refine ⟨mem, entries, .success, mem', entries ++ [next], .success, unchanged, fun _ => ?_,
        fun no => absurd rfl no, kept.frame.perm (memEntryCells_append entries next), ?_, ?_⟩
      · simp [memUpdateNew, memNewEntries, noAlloc, updated, counter]
      · intro e member
        rcases List.mem_append.mp member with old | new
        · exact both e old
        · rw [List.mem_singleton.mp new]
          exact both'
      · intro enabled list
        obtain ⟨listed, _, right⟩ := right enabled list
        exact ⟨next, memEntryOf_append_none without sameKey, (stored enabled listed right).2⟩
    · have failed : ∃ error, memUpdateNew env alloc mem entries [(scan, .new)] = .ok (mem', entries, error) := by
        by_cases wrote : status = .success
        · have refused : env.moved scan ≠ .success := fun counter => ok ⟨wrote, counter⟩
          rw [wrote] at updated
          refine ⟨env.moved scan, ?_⟩
          cases answer : env.moved scan <;> simp [memUpdateNew, memNewEntries, noAlloc, updated, answer] at refused ⊢
        · refine ⟨status, ?_⟩
          cases status <;> simp [memUpdateNew, memNewEntries, noAlloc, updated] at wrote ⊢
      obtain ⟨error, failed⟩ := failed
      refine ⟨mem, entries, .success, mem', entries, error, unchanged, fun _ => failed, fun no => absurd rfl no,
        kept.forget.frame, both, fun enabled list => ?_⟩
      obtain ⟨listed, _, right⟩ := right enabled list
      exact absurd ⟨(stored enabled listed right).1, AclUpdateMemEnv.moved_list list⟩ ok
  · refine ⟨mem, entries, .success, mem, entries, .success, ?_, fun _ => ?_, fun no =>
      absurd rfl no, .refl owns, both,
      fun _ _ => ⟨p, found, sameLists⟩⟩
    · simp [memChangeLoop]
    · simp [memUpdateNew]
  · rw [found] at right
    have right' : scan.enable = true → scan.key.kind ≠ .plain →
        env.grants.right scan.key.kind (scan.lists mem) (p.lists mem) := by
      intro enabled list
      rcases (right enabled list).2 with ⟨stays, same⟩ | right
      · rw [same]
        exact right_of_same (differ (stays.trans enabled.symm) same)
      · exact right
    have fits := fits_of_right owns (within.trans .right) right'
    by_cases counter : env.moved scan = .success
    · obtain ⟨mem', next, status, updated, kept, both', stored⟩ := @memEntryUpdate_kept env.grants mem scan fits
        entries _ owns within both
      refine ⟨mem', next, status, mem', next, status, ?_, fun ok => ?_, fun _ => ⟨rfl, rfl⟩, kept, both',
        fun enabled list => (stored p found enabled (right enabled list).1 (right' enabled list)).2⟩
      · cases status <;> simp [memChangeLoop, updated, counter]
      · simp [memUpdateNew, ok]
    · refine ⟨mem, entries, env.moved scan, mem, entries, .success, ?_, fun ok => absurd ok counter,
        fun _ => ⟨rfl, rfl⟩, .refl owns, both, fun _ list => absurd (AclUpdateMemEnv.moved_list list) counter⟩
      cases answer : env.moved scan <;> simp [memChangeLoop, answer] at counter ⊢

theorem memRuleUpdateFieldAction_none : memRuleUpdateFieldAction env mem given [] [] = .ok (mem, given, .success) := by
  simp only [memRuleUpdateFieldAction, memChangeLoop, memUpdateNew, List.any_nil, if_true]

theorem memRuleUpdateFieldAction_filter {scan : MemEntry} {mark : AclMark} (owns : mem.Owns (given.cells.append rest))
    (within : scan.cells.Within rest) (both : ∀ e ∈ given.filterList, e.both)
    (tells : markTells mem scan given.filterList mark)
    (right : scan.enable = true → scan.key.kind ≠ .plain → (scan.lists mem).listed scan.key.kind ∧
      env.rightLists env.filterListAlloc scan.key.kind (scan.lists mem)
        ((memEntryOf scan.key given.filterList).map fun e => (e.enable, e.lists mem))) :
    ∃ mem' next status, memRuleUpdateFieldAction env mem given [(scan, mark)] [] =
        .ok (mem', { given with filterList := next }, status) ∧
      mem.Kept mem' (MemRule.cells { given with filterList := next }) rest ∧ (∀ e ∈ next, e.both) ∧
      (scan.enable = true → scan.key.kind ≠ .plain → scan.storedIn mem mem' next) := by
  rw [MemRule.cells, AclCells.append_assoc] at owns
  obtain ⟨mem₁, next₁, status₁, mem', next, status, changed, added, stopped, kept, both', stored⟩ :=
    memEntriesUpdate_kept owns (within.trans .right) both tells right
  refine ⟨mem', next, if status₁ = .success then status else status₁, ?_, kept.frame, both', stored⟩
  unfold memRuleUpdateFieldAction
  rw [changed]
  by_cases ok : status₁ = .success
  · rw [if_pos ok]
    simp only [ok, memChangeLoop, added ok]
    cases status <;> simp [memUpdateNew]
  · rw [if_neg ok, (stopped ok).1, (stopped ok).2]
    cases status₁ <;> first | rfl | exact absurd rfl ok

theorem memRuleUpdateFieldAction_action {scan : MemEntry} {mark : AclMark} (owns : mem.Owns (given.cells.append rest))
    (within : scan.cells.Within rest) (live : given.filterListFreed = false) (both : ∀ e ∈ given.actionList, e.both)
    (tells : markTells mem scan given.actionList mark)
    (right : scan.enable = true → scan.key.kind ≠ .plain → (scan.lists mem).listed scan.key.kind ∧
      env.rightLists env.actionListAlloc scan.key.kind (scan.lists mem)
        ((memEntryOf scan.key given.actionList).map fun e => (e.enable, e.lists mem))) :
    ∃ mem' next status, memRuleUpdateFieldAction env mem given [] [(scan, mark)] =
        .ok (mem', { given with actionList := next }, status) ∧
      mem.Kept mem' (MemRule.cells { given with actionList := next }) rest ∧ (∀ e ∈ next, e.both) ∧
      (scan.enable = true → scan.key.kind ≠ .plain → scan.storedIn mem mem' next) := by
  have unchanged : ∀ next, (⟨given.filterList, false, next⟩ : MemRule) = { given with actionList := next } := by
    intro next
    rw [← live]
  rw [MemRule.cells, AclCells.append_assoc] at owns
  obtain ⟨mem₁, next₁, status₁, mem', next, status, changed, added, stopped, kept, both', stored⟩ :=
    memEntriesUpdate_kept (owns.perm .append_left_comm) (within.trans .right) both tells right
  refine ⟨mem', next, if status₁ = .success then status else status₁, ?_, kept.frame.perm .append_comm,
    both', stored⟩
  have noFilters : memChangeLoop env mem given.filterList [] = .ok (mem, given.filterList, .success) := rfl
  have noNew :
    memUpdateNew env env.filterListAlloc mem₁ given.filterList [] = .ok (mem₁, given.filterList, .success) :=
    rfl
  unfold memRuleUpdateFieldAction
  rw [noFilters]
  dsimp only
  rw [changed]
  by_cases ok : status₁ = .success
  · rw [if_pos ok, ok]
    dsimp only
    rw [noNew]
    dsimp only
    rw [added ok]
    cases status <;> simp [unchanged]
  · rw [if_neg ok, (stopped ok).1, (stopped ok).2]
    cases status₁ <;> first | rfl | exact absurd rfl ok

end FieldAction

end SaiCommon
