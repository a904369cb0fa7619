import SaiCommon.Acl.RuleMemoryCopy

namespace SaiCommon
open Blocks

/-- The data of an entry has elements when its mask has. -/
def MemEntry.both (entry : MemEntry) : Prop := entry.u8Data.count = 0 ↔ entry.u8Mask.count = 0

/-- An update stores the lists as they are given: an object list has the length of the
stored one, or there is memory for it; a mask is as long as its data, and when the stored
data is as long so is the stored mask, otherwise there is memory for both. -/
def AclGrants.right (grants : AclGrants) (kind : AclListKind) (given stored : AclFieldValue) : Prop :=
  match kind with
  | .plain => True
  | .objects => given.objList.length = stored.objList.length ∨ ∀ address, grants.oids address = true
  | .bytes => given.u8Mask.length = given.u8Data.length ∧
      if given.u8Data.length = stored.u8Data.length then stored.u8Mask.length = stored.u8Data.length
      else ∀ address, grants.bytes address = true

def AclFieldValue.listed (kind : AclListKind) (value : AclFieldValue) : Prop :=
  match kind with
  | .plain => True
  | .objects => value.objList ≠ []
  | .bytes => value.u8Data ≠ []

/-- The mask of enabled byte lists is not shorter than their data. -/
def MemEntry.fits (entry : MemEntry) : Prop :=
  entry.key.kind = .bytes → entry.enable = true → entry.u8Data.count ≤ entry.u8Mask.count

section Update
variable {grants : AclGrants} {mem mem' : AclMem} {made rest : AclCells}

theorem memEntryLists_kept {scan given : MemEntry} (owns : mem.Owns (given.cells.append rest))
    (within : scan.cells.Within rest) (both : given.both) (fits : scan.fits) (sameKey : scan.key = given.key)
    (sameEnable : scan.enable = given.enable) : ∃ mem' next status,
      memEntryLists grants mem scan given = .ok (mem', next, status) ∧ mem.Kept mem' next.cells rest ∧ next.both ∧
      next.key = scan.key ∧ next.enable = scan.enable ∧
      (scan.enable = true → (scan.lists mem).listed scan.key.kind →
        grants.right scan.key.kind (scan.lists mem) (given.lists mem) →
        status = .success ∧ next.lists mem' = scan.lists mem) := by
  have env : AclUpdateEnv := ⟨true, .success, .success, fun _ => 0⟩
  have sameKind : scan.key.kind = given.key.kind := congrArg AclListKey.kind sameKey
  unfold memEntryLists
  cases kind : given.key.kind with
  | plain =>
    have kind' := sameKind.trans kind
    refine ⟨mem, _, .success, rfl, .refl ⟨owns.right.bytes.cons_null.cons_null, owns.right.oids.cons_null⟩,
      Iff.rfl, rfl, rfl, fun _ _ _ => ⟨rfl, ?_⟩⟩
    rw [MemEntry.lists_plain kind']
    exact MemEntry.lists_plain kind'
  | objects =>
    have kind' := sameKind.trans kind
    obtain ⟨oids, list, status, alloc, updated, kept, refused, agrees⟩ := @memRuleUpdateObjectList_kept
      grants.oids scan.enable rest.oids env mem.oids scan.objList given.objList owns.oids
      (within.oids _ List.mem_cons_self)
    simp only [updated]
    refine ⟨_, _, status, rfl, .of_oids kept owns.bytes, both, sameKey.symm, sameEnable.symm, ?_⟩
    intro enabled listed right
    rw [MemEntry.lists_objects kind', kind'] at listed right
    rw [MemEntry.lists_objects kind', @MemEntry.lists_objects ⟨mem.bytes, oids⟩ { given with objList := list } kind]
    rw [MemEntry.lists_objects kind] at right
    rw [enabled, aclRuleUpdateObjectList_right _ listed] at agrees
    · obtain ⟨ok, read⟩ := agrees
      exact ⟨ok, by rw [read]⟩
    · refine right.imp_right fun granted => ?_
      by_contra no
      obtain ⟨address, refused⟩ := refused (Bool.eq_false_iff.mpr no)
      rw [granted address] at refused
      cases refused
  | bytes =>
    have kind' := sameKind.trans kind
    obtain ⟨bytes, data, mask, status, alloc, updated, kept, both', refused, agrees⟩ := @memRuleUpdateByteList_kept
      grants.bytes scan.enable rest.bytes env mem.bytes scan.u8Data scan.u8Mask given.u8Data given.u8Mask owns.bytes
      (within.bytes _ List.mem_cons_self) (within.bytes _ (List.mem_cons_of_mem _ List.mem_cons_self)) both
      (fits kind')
    simp only [updated]
    refine ⟨_, _, status, rfl, .of_bytes kept owns.oids, both', sameKey.symm, sameEnable.symm, ?_⟩
    intro enabled listed right
    rw [MemEntry.lists_bytes kind', kind'] at listed right
    rw [MemEntry.lists_bytes kind',
      @MemEntry.lists_bytes ⟨bytes, mem.oids⟩ { given with u8Data := data, u8Mask := mask } kind]
    rw [MemEntry.lists_bytes kind] at right
    obtain ⟨lengths, room⟩ := right
    rw [enabled, aclRuleUpdateByteList_right _ listed lengths] at agrees
    · exact agrees
    · exact (read_eq_nil_iff owns.bytes List.mem_cons_self).trans (both.trans
        (read_eq_nil_iff owns.bytes (List.mem_cons_of_mem _ List.mem_cons_self)).symm)
    · split
      · rename_i same
        rwa [if_pos same] at room
      rename_i differ
      rw [if_neg differ] at room
      by_contra no
      obtain ⟨address, refused⟩ := refused (Bool.eq_false_iff.mpr no)
      rw [room address] at refused
      cases refused

section Of
variable {key : AclListKey} {entry : MemEntry} {entries : List MemEntry}

theorem memEntryOf_cons (same : entry.key = key) : memEntryOf key (entry :: entries) = some entry :=
  List.find?_cons_of_pos (beq_iff_eq.mpr same)

theorem memEntryOf_cons_ne (differs : entry.key ≠ key) :
    memEntryOf key (entry :: entries) = memEntryOf key entries :=
  List.find?_cons_of_neg fun equal => differs (beq_iff_eq.mp equal)

theorem memEntryOf_append_none (without : memEntryOf key entries = none) (same : entry.key = key) :
    memEntryOf key (entries ++ [entry]) = some entry := by
  unfold memEntryOf at *
  rw [List.find?_append, without, Option.none_or]
  exact memEntryOf_cons same

end Of

/-- What an update of the entries with the key of `scan` stores. -/
def MemEntry.storedIn (scan : MemEntry) (mem mem' : AclMem) (entries : List MemEntry) : Prop :=
  ∃ entry, memEntryOf scan.key entries = some entry ∧ entry.lists mem' = scan.lists mem

theorem memEntryUpdate_kept {scan : MemEntry} (fits : scan.fits) (entries : List MemEntry) :
    ∀ {rest : AclCells}, mem.Owns ((memEntryCells entries).append rest) → scan.cells.Within rest →
    (∀ e ∈ entries, e.both) → ∃ mem' next status,
      memEntryUpdate grants mem scan entries = .ok (mem', next, status) ∧
      mem.Kept mem' (memEntryCells next) rest ∧ (∀ e ∈ next, e.both) ∧
      ∀ p, memEntryOf scan.key entries = some p → scan.enable = true →
        (scan.lists mem).listed scan.key.kind → grants.right scan.key.kind (scan.lists mem) (p.lists mem) →
        status = .success ∧ scan.storedIn mem mem' next := by
  induction entries with
  | nil =>
    intro rest owns _ _
    exact ⟨mem, [], .success, rfl, .refl owns, fun e member => absurd member List.not_mem_nil,
      fun p found => by cases found⟩
  | cons given entries ih =>
    intro rest owns within all
    rw [memEntryCells_cons, AclCells.append_assoc] at owns
    unfold memEntryUpdate
    by_cases same : given.key = scan.key
    · rw [if_pos same]
      obtain ⟨mem', next, status, updated, kept, both, sameKey, _, stored⟩ :=
        @memEntryLists_kept grants mem _ scan { given with enable := scan.enable } owns
          (within.trans .right) (all given List.mem_cons_self) fits same.symm rfl
      simp only [updated]
      refine ⟨mem', next :: entries, status, rfl, kept.frame,
        List.forall_mem_cons.mpr ⟨both, fun e member => all e (List.mem_cons_of_mem _ member)⟩, ?_⟩
      intro p found enabled listed right
      rw [memEntryOf_cons same] at found
      cases found
      obtain ⟨ok, lists⟩ := stored enabled listed right
      exact ⟨ok, next, memEntryOf_cons sameKey, lists⟩
    · rw [if_neg same]
      obtain ⟨mem', next, status, updated, kept, both, stored⟩ := ih (owns.perm .append_left_comm)
        (within.trans .right) fun e member => all e (List.mem_cons_of_mem _ member)
      simp only [updated]
      refine ⟨mem', given :: next, status, rfl, kept.frame.perm .append_comm,
        List.forall_mem_cons.mpr ⟨all given List.mem_cons_self, both⟩, ?_⟩
      intro p found enabled listed right
      rw [memEntryOf_cons_ne same] at found
      obtain ⟨ok, entry, found', lists⟩ := stored p found enabled listed right
      exact ⟨ok, entry, (memEntryOf_cons_ne same).trans found', lists⟩

end Update

end SaiCommon
