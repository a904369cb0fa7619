import SaiCommon.Acl.RuleMemoryLists

namespace SaiCommon
open Blocks

structure AclCells where
  bytes : List Cell
  oids : List Cell

def AclCells.append (first second : AclCells) : AclCells := ⟨first.bytes ++ second.bytes, first.oids ++ second.oids⟩

def AclCells.none : AclCells := ⟨[], []⟩

structure AclCells.Perm (first second : AclCells) : Prop where
  bytes : first.bytes.Perm second.bytes
  oids : first.oids.Perm second.oids

/-- The lists that the cells point to are their own. -/
structure AclMem.Owns (mem : AclMem) (cells : AclCells) : Prop where
  bytes : Blocks.Owns mem.bytes cells.bytes
  oids : Blocks.Owns mem.oids cells.oids

/-- What was run ends in `mem'` with the cells `made` and leaves `rest` as they were. -/
structure AclMem.Kept (mem mem' : AclMem) (made rest : AclCells) : Prop where
  bytes : Blocks.Kept mem.bytes mem'.bytes made.bytes rest.bytes
  oids : Blocks.Kept mem.oids mem'.oids made.oids rest.oids

/-- Every cell of `part` is one of `cells`. -/
structure AclCells.Within (part cells : AclCells) : Prop where
  bytes : ∀ c ∈ part.bytes, c ∈ cells.bytes
  oids : ∀ c ∈ part.oids, c ∈ cells.oids

section Kept
variable {mem mem' mem'' : AclMem} {bytes : Mem UInt8} {oids : Mem ObjectId} {cells made made' rest rest' : AclCells}

theorem AclMem.Kept.owns (kept : mem.Kept mem' made rest) : mem'.Owns (made.append rest) :=
  ⟨kept.bytes.owns, kept.oids.owns⟩

theorem AclMem.Kept.refl (owns : mem.Owns (made.append rest)) : mem.Kept mem made rest :=
  ⟨.refl owns.bytes, .refl owns.oids⟩

theorem AclMem.Kept.trans (first : mem.Kept mem' made rest) (second : mem'.Kept mem'' made' rest) :
    mem.Kept mem'' made' rest :=
  ⟨first.bytes.trans second.bytes, first.oids.trans second.oids⟩

theorem AclMem.Owns.perm (owns : mem.Owns cells) (perm : cells.Perm rest) : mem.Owns rest :=
  ⟨owns.bytes.perm perm.bytes, owns.oids.perm perm.oids⟩

theorem AclMem.Owns.right (owns : mem.Owns (made.append rest)) : mem.Owns rest :=
  ⟨owns.bytes.sublist (List.sublist_append_right _ _), owns.oids.sublist (List.sublist_append_right _ _)⟩

theorem AclMem.Owns.none (owns : mem.Owns rest) : mem.Owns (AclCells.none.append rest) := owns

theorem AclMem.Kept.forget (kept : mem.Kept mem' made rest) : mem.Kept mem' .none rest :=
  ⟨⟨kept.owns.right.bytes, kept.bytes.same⟩, ⟨kept.owns.right.oids, kept.oids.same⟩⟩

theorem AclMem.Kept.of_within (kept : mem.Kept mem' made rest) (owns : mem'.Owns (made'.append rest'))
    (within : rest'.Within rest) : mem.Kept mem' made' rest' :=
  ⟨kept.bytes.of_subset owns.bytes within.bytes, kept.oids.of_subset owns.oids within.oids⟩

theorem AclMem.Kept.of_bytes (kept : Blocks.Kept mem.bytes bytes made.bytes rest.bytes)
    (owns : Blocks.Owns mem.oids (made.oids ++ rest.oids)) : mem.Kept { mem with bytes := bytes } made rest :=
  ⟨kept, .refl owns⟩

theorem AclMem.Kept.of_oids (kept : Blocks.Kept mem.oids oids made.oids rest.oids)
    (owns : Blocks.Owns mem.bytes (made.bytes ++ rest.bytes)) : mem.Kept { mem with oids := oids } made rest :=
  ⟨.refl owns, kept⟩

theorem AclCells.Within.left : made.Within (made.append rest) :=
  ⟨fun _ => List.mem_append_left _, fun _ => List.mem_append_left _⟩

theorem AclCells.Within.right : rest.Within (made.append rest) :=
  ⟨fun _ => List.mem_append_right _, fun _ => List.mem_append_right _⟩

theorem AclCells.Within.trans (first : made.Within cells) (second : cells.Within rest) : made.Within rest :=
  ⟨fun c member => second.bytes c (first.bytes c member), fun c member => second.oids c (first.oids c member)⟩

theorem AclCells.append_assoc : (made.append rest).append rest' = made.append (rest.append rest') := by
  simp only [AclCells.append, List.append_assoc]

theorem AclCells.Perm.append_comm : (made.append rest).Perm (rest.append made) :=
  ⟨List.perm_append_comm, List.perm_append_comm⟩

theorem AclCells.Perm.append_left (perm : made.Perm made') (cells : AclCells) :
    (cells.append made).Perm (cells.append made') :=
  ⟨perm.bytes.append_left _, perm.oids.append_left _⟩

theorem AclCells.Perm.trans (first : made.Perm made') (second : made'.Perm rest) : made.Perm rest :=
  ⟨first.bytes.trans second.bytes, first.oids.trans second.oids⟩

theorem AclCells.Perm.append_left_comm : (made.append (made'.append rest)).Perm (made'.append (made.append rest)) :=
  ⟨List.perm_append_comm_assoc _ _ _, List.perm_append_comm_assoc _ _ _⟩

theorem AclMem.Kept.seq (first : mem.Kept mem' made (cells.append rest)) (second : mem'.Kept mem'' made' rest) :
    mem.Kept mem'' made' rest :=
  ⟨⟨second.bytes.owns, fun c member =>
      (second.bytes.same c member).trans (first.bytes.same c (List.mem_append_right _ member))⟩,
    ⟨second.oids.owns, fun c member =>
      (second.oids.same c member).trans (first.oids.same c (List.mem_append_right _ member))⟩⟩

theorem AclMem.Kept.perm (kept : mem.Kept mem' made rest) (perm : made.Perm made') : mem.Kept mem' made' rest :=
  kept.of_within (kept.owns.perm ⟨perm.bytes.append_right _, perm.oids.append_right _⟩)
    ⟨fun _ => id, fun _ => id⟩

theorem AclMem.Kept.frame (kept : mem.Kept mem' made (cells.append rest)) : mem.Kept mem' (made.append cells) rest := by
  refine kept.of_within ?_ .right
  rw [AclCells.append_assoc]
  exact kept.owns

theorem AclMem.Kept.both (first : mem.Kept mem' made rest) (second : mem'.Kept mem'' made' (made.append rest)) :
    mem.Kept mem'' (made.append made') rest := by
  have owns := second.owns.perm .append_left_comm
  rw [← AclCells.append_assoc] at owns
  exact first.trans (second.of_within owns .right)

end Kept

def MemEntry.cells (entry : MemEntry) : AclCells := ⟨[entry.u8Data, entry.u8Mask], [entry.objList]⟩

def memEntryCells (entries : List MemEntry) : AclCells :=
  ⟨entries.flatMap fun entry => [entry.u8Data, entry.u8Mask], entries.map MemEntry.objList⟩

def MemRule.cells (rule : MemRule) : AclCells :=
  (memEntryCells rule.filterList).append (memEntryCells rule.actionList)

theorem memEntryCells_cons (entry : MemEntry) (entries : List MemEntry) :
    memEntryCells (entry :: entries) = entry.cells.append (memEntryCells entries) := rfl

theorem memEntryCells_append (entries : List MemEntry) (entry : MemEntry) :
    (entry.cells.append (memEntryCells entries)).Perm (memEntryCells (entries ++ [entry])) := by
  have grown : memEntryCells (entries ++ [entry]) = (memEntryCells entries).append entry.cells := by
    simp only [memEntryCells, AclCells.append, List.flatMap_append, List.map_append]
    rfl
  rw [grown]
  exact .append_comm

def MemEntry.lists (mem : AclMem) (entry : MemEntry) : AclFieldValue :=
  match entry.key.kind with
  | .objects => { objList := entry.objList.read mem.oids }
  | .bytes => byteValue mem.bytes entry.u8Data entry.u8Mask
  | .plain => {}

def AclFieldValue.lists (kind : AclListKind) (value : AclFieldValue) : AclFieldValue :=
  match kind with
  | .objects => { objList := value.objList }
  | .bytes => { u8Data := value.u8Data, u8Mask := value.u8Mask }
  | .plain => {}

section Lists
variable {mem mem' : AclMem} {made rest : AclCells} {entry : MemEntry}

theorem MemEntry.lists_objects (kind : entry.key.kind = .objects) :
    entry.lists mem = { objList := entry.objList.read mem.oids } := by
  rw [MemEntry.lists, kind]

theorem MemEntry.lists_bytes (kind : entry.key.kind = .bytes) :
    entry.lists mem = byteValue mem.bytes entry.u8Data entry.u8Mask := by
  rw [MemEntry.lists, kind]

theorem MemEntry.lists_plain (kind : entry.key.kind = .plain) : entry.lists mem = {} := by
  rw [MemEntry.lists, kind]

theorem MemEntry.lists_congr (kept : mem.Kept mem' made rest) (within : entry.cells.Within rest) :
    entry.lists mem' = entry.lists mem := by
  unfold MemEntry.lists byteValue
  rw [kept.oids.same _ (within.oids _ List.mem_cons_self), kept.bytes.same _ (within.bytes _ List.mem_cons_self),
    kept.bytes.same _ (within.bytes _ (List.mem_cons_of_mem _ List.mem_cons_self))]

theorem memEntry_within {entries : List MemEntry} (member : entry ∈ entries) :
    entry.cells.Within (memEntryCells entries) := by
  refine ⟨fun c inCells => List.mem_flatMap.mpr ⟨entry, member, inCells⟩, fun c inCells => ?_⟩
  rw [List.mem_singleton.mp inCells]
  exact List.mem_map_of_mem member

end Lists

end SaiCommon
