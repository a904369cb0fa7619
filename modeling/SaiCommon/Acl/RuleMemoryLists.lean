import SaiCommon.Acl.RuleMemorySet

namespace SaiCommon
open Blocks

theorem readBytes_of_le {beyond : Nat → UInt8} {count : Nat} {list : List UInt8} (fits : count ≤ list.length) :
    readBytes beyond count list = list.take count := by
  refine List.ext_getElem (by simp [readBytes, fits]) fun i inRead inTake => ?_
  have below : i < list.length := by
    rw [List.length_take] at inTake
    omega
  simp [readBytes, List.getD_eq_getElem?_getD, List.getElem?_eq_getElem below]

def updateAgrees {V : Type} (result : Except SaiStatus V) (before after : V) (status : SaiStatus) : Prop :=
  match result with
  | .ok value => status = .success ∧ after = value
  | .error error => status = error ∧ after = before

/-- The byte lists of two cells as the value of a field. -/
def byteValue (m : Mem UInt8) (data mask : Cell) : AclFieldValue :=
  { u8Data := data.read m, u8Mask := mask.read m }

section Lists
variable {α : Type} {m m' : Mem α} {rest : List Cell} {grants : Nat → Bool} {a b c d : Cell}

theorem read_eq_nil_iff (owns : Owns m rest) (member : c ∈ rest) : c.read m = [] ↔ c.count = 0 := by
  rw [← owns.length_read member, List.length_eq_zero_iff]

theorem free_both (owns : Owns m (a :: b :: rest)) : ∃ m₁ m₂, free m a.list = .ok m₁ ∧
    free m₁ b.list = .ok m₂ ∧ Kept m m₂ [] rest := by
  obtain ⟨m₁, freed, kept⟩ := free_kept owns
  obtain ⟨m₂, freed', kept'⟩ := free_kept kept.owns
  exact ⟨m₁, m₂, freed, freed', kept'.owns, fun c member =>
    (kept'.same c member).trans (kept.same c (List.mem_cons_of_mem _ member))⟩

theorem memcpy_both (owns : Owns m (a :: b :: rest)) (first : c ∈ rest) (second : d ∈ rest)
    (fits : a.count ≤ c.count) (fits' : b.count ≤ d.count) : ∃ m₁ m₂,
      memcpy m a.list c.list a.count = .ok m₁ ∧ memcpy m₁ b.list d.list b.count = .ok m₂ ∧
      Kept m m₂ [a, b] rest ∧ a.read m₂ = (c.read m).take a.count ∧ b.read m₂ = (d.read m).take b.count := by
  obtain ⟨m₁, copied, kept, read⟩ := memcpy_kept owns (List.mem_cons_of_mem _ first) fits
  obtain ⟨m₂, copied', kept', read'⟩ := memcpy_kept (kept.owns.perm (.swap _ _ _))
    (List.mem_cons_of_mem _ second) fits'
  refine ⟨m₁, m₂, copied, copied', ⟨kept'.owns.perm (.swap _ _ _), fun e member => ?_⟩, ?_, ?_⟩
  · rw [kept'.same e (List.mem_cons_of_mem _ member), kept.same e (List.mem_cons_of_mem _ member)]
  · rw [kept'.same a List.mem_cons_self, read]
  · rw [read', kept.same d (List.mem_cons_of_mem _ second)]

end Lists

section Update
variable {grants : Nat → Bool} {srcAction : Bool} {rest : List Cell} (env : AclUpdateEnv)

theorem memRuleUpdateObjectList_kept {m : Mem ObjectId} {src dst : Cell} (owns : Owns m (dst :: rest))
    (source : src ∈ rest) : ∃ m' list status alloc,
      memRuleUpdateObjectList m grants src dst srcAction = .ok (m', list, status) ∧ Kept m m' [list] rest ∧
      (alloc = false → ∃ address, grants address = false) ∧
      updateAgrees (aclRuleUpdateObjectList { env with alloc := alloc } (src.read m) (dst.read m) srcAction)
        (dst.read m) (list.read m') status := by
  have srcLength := owns.length_read (List.mem_cons_of_mem _ source)
  have dstLength := owns.length_read List.mem_cons_self
  have srcNil := read_eq_nil_iff owns (List.mem_cons_of_mem _ source)
  have dstNil := read_eq_nil_iff owns List.mem_cons_self
  have never : true = false → ∃ address, grants address = false := fun no => Bool.noConfusion no
  unfold memRuleUpdateObjectList aclRuleUpdateObjectList
  simp only [srcLength, dstLength, ne_eq, srcNil, dstNil]
  by_cases used : dst.count = 0
  · simp only [used, not_true_eq_false, if_false]
    obtain ⟨m₁, freed, kept⟩ := free_kept owns
    simp only [freed]
    by_cases copies : srcAction = true ∧ ¬src.count = 0
    · simp only [if_pos copies]
      cases got : calloc m₁ grants nullObjectId src.count with
      | mk m₂ made =>
        rcases calloc_kept kept.owns got with ⟨rfl, kept', refused⟩ | ⟨address, rfl, kept'⟩
        · exact ⟨m₂, {}, .noMemory, false, rfl, ⟨kept'.owns.cons_null, (kept.trans kept').same⟩,
            fun _ => ⟨_, refused⟩, rfl, (dstNil.mpr used).symm⟩
        obtain ⟨m₃, copied, kept'', read⟩ :=
          @memcpy_kept _ _ src ⟨src.count, some address⟩ _ kept'.owns source le_rfl
        dsimp only at copied
        simp only [copied]
        refine ⟨m₃, _, .success, true, rfl, (kept.trans kept').trans kept'', never, rfl, ?_⟩
        rw [read, kept'.same _ source, kept.same _ source]
        exact List.take_of_length_le srcLength.le
    · simp only [if_neg copies]
      exact ⟨m₁, {}, .success, true, rfl, ⟨kept.owns.cons_null, kept.same⟩, never, rfl, rfl⟩
  · have notNull : ¬dst.list = none := fun null => used (owns.null dst List.mem_cons_self null)
    simp only [used, not_false_eq_true, if_true, notNull, if_false]
    cases srcAction with
    | false =>
      obtain ⟨m₁, freed, kept⟩ := free_kept owns
      simp only [freed, if_true]
      exact ⟨m₁, {}, .success, true, rfl, ⟨kept.owns.cons_null, kept.same⟩, never, rfl, rfl⟩
    | true =>
      simp only [Bool.true_eq_false, if_false]
      by_cases differs : ¬src.count = 0 ∧ ¬src.count = dst.count
      · simp only [if_pos differs]
        cases got : calloc m grants nullObjectId src.count with
        | mk m₁ made =>
          rcases calloc_kept owns got with ⟨rfl, kept, refused⟩ | ⟨address, rfl, kept⟩
          · exact ⟨m₁, dst, .noMemory, false, rfl, kept.of_subset kept.owns fun _ => List.mem_cons_of_mem _,
              fun _ => ⟨_, refused⟩, rfl, kept.same dst List.mem_cons_self⟩
          obtain ⟨m₂, freed, kept'⟩ := free_kept (kept.owns.perm (.swap _ _ _))
          obtain ⟨m₃, copied, kept'', read⟩ :=
            @memcpy_kept _ _ src ⟨src.count, some address⟩ _ kept'.owns source le_rfl
          dsimp only at copied
          simp only [freed, copied]
          refine ⟨m₃, _, .success, true, rfl, ⟨kept''.owns, fun c member => ?_⟩, never, rfl, ?_⟩
          · rw [kept''.same c member, kept'.same c (List.mem_cons_of_mem _ member),
              kept.same c (List.mem_cons_of_mem _ member)]
          · rw [read, kept'.same _ (List.mem_cons_of_mem _ source), kept.same _ (List.mem_cons_of_mem _ source)]
            exact List.take_of_length_le srcLength.le
      · simp only [if_neg differs]
        by_cases equal : src.count = dst.count
        · obtain ⟨m₁, copied, kept, read⟩ := memcpy_kept owns source equal.ge
          simp only [equal, copied]
          refine ⟨m₁, dst, .success, true, rfl, kept, never, rfl, ?_⟩
          rw [read]
          exact List.take_of_length_le (srcLength.trans equal).le
        · simp only [if_neg equal]
          exact ⟨m, dst, .success, true, rfl, .refl owns, never, rfl, rfl⟩

theorem memRuleUpdateByteList_kept {m : Mem UInt8} {srcData srcMask dstData dstMask : Cell}
    (owns : Owns m (dstData :: dstMask :: rest)) (data : srcData ∈ rest) (mask : srcMask ∈ rest)
    (both : dstData.count = 0 ↔ dstMask.count = 0) (fits : srcAction = true → srcData.count ≤ srcMask.count) :
    ∃ m' dataList maskList status alloc, memRuleUpdateByteList m grants srcData srcMask dstData dstMask srcAction =
        .ok (m', (dataList, maskList), status) ∧
      Kept m m' [dataList, maskList] rest ∧ (dataList.count = 0 ↔ maskList.count = 0) ∧
      (alloc = false → ∃ address, grants address = false) ∧
      updateAgrees (aclRuleUpdateByteList { env with alloc := alloc } (byteValue m srcData srcMask)
        (byteValue m dstData dstMask) srcAction) (byteValue m dstData dstMask) (byteValue m' dataList maskList)
        status := by
  have srcData' := owns.length_read (List.mem_cons_of_mem _ (List.mem_cons_of_mem _ data))
  have srcMask' := owns.length_read (List.mem_cons_of_mem _ (List.mem_cons_of_mem _ mask))
  have dstData' := owns.length_read List.mem_cons_self
  have dstMask' := owns.length_read (List.mem_cons_of_mem _ List.mem_cons_self)
  have srcNil := read_eq_nil_iff owns (List.mem_cons_of_mem _ (List.mem_cons_of_mem _ data))
  have dataNil := read_eq_nil_iff owns List.mem_cons_self
  have maskNil := read_eq_nil_iff owns (List.mem_cons_of_mem _ List.mem_cons_self)
  have never : true = false → ∃ address, grants address = false := fun no => Bool.noConfusion no
  -- what the branches that copy make of the lists
  have copied : ∀ (m' : Mem UInt8) (dataList maskList : Cell), srcAction = true →
      dataList.read m' = (srcData.read m).take srcData.count →
      maskList.read m' = (srcMask.read m).take srcData.count →
      byteValue m' dataList maskList = { byteValue m dstData dstMask with
        u8Data := srcData.read m, u8Mask := readBytes env.beyond srcData.count (srcMask.read m) } := by
    intro m' dataList maskList acts first second
    rw [readBytes_of_le ((fits acts).trans srcMask'.ge)]
    unfold byteValue
    rw [first, second, List.take_of_length_le srcData'.le]
  unfold memRuleUpdateByteList aclRuleUpdateByteList
  dsimp only [byteValue] at *
  simp only [srcData', dstData', dstMask', ne_eq, srcNil, dataNil, maskNil]
  by_cases used : ¬dstData.count = 0 ∨ ¬dstMask.count = 0
  · have hasData : ¬dstData.count = 0 := used.elim id fun other zero => other (both.mp zero)
    have hasMask : ¬dstMask.count = 0 := fun zero => hasData (both.mpr zero)
    have notNull : ¬(dstData.list = none ∨ dstMask.list = none) := fun null => null.elim
      (fun null => hasData (owns.null dstData List.mem_cons_self null))
      (fun null => hasMask (owns.null dstMask (List.mem_cons_of_mem _ List.mem_cons_self) null))
    simp only [if_pos used, if_neg notNull, if_neg (not_or.mpr ⟨hasData, hasMask⟩)]
    cases srcAction with
    | false =>
      obtain ⟨m₁, m₂, freed, freed', kept⟩ := free_both owns
      simp only [freed, freed', if_true]
      exact ⟨m₂, {}, {}, .success, true, rfl, ⟨kept.owns.cons_null.cons_null, kept.same⟩, Iff.rfl,
        never, rfl, rfl⟩
    | true =>
      simp only [Bool.true_eq_false, if_false]
      by_cases differs : ¬srcData.count = 0 ∧ ¬srcData.count = dstData.count
      · simp only [if_pos differs]
        obtain ⟨m₁, made, got, ⟨rfl, kept, refused⟩ | ⟨first, second, rfl, kept⟩⟩ :=
          callocPair_kept grants 0 srcData.count srcData.count owns
        · simp only [got]
          refine ⟨m₁, dstData, dstMask, .noMemory, false, rfl, kept.of_subset kept.owns fun _ member =>
            List.mem_cons_of_mem _ (List.mem_cons_of_mem _ member), both, fun _ => refused, rfl, ?_⟩
          rw [kept.same dstData List.mem_cons_self, kept.same dstMask (List.mem_cons_of_mem _ List.mem_cons_self)]
        · have moved : ∀ a b : Cell, (a :: b :: dstData :: dstMask :: rest).Perm
              (dstData :: dstMask :: a :: b :: rest) := fun a b =>
            (@List.perm_append_comm _ [a, b] [dstData, dstMask]).append_right rest
          obtain ⟨m₂, m₃, freed, freed', kept'⟩ := free_both (kept.owns.perm (moved _ _))
          obtain ⟨m₄, m₅, wrote, wrote', kept'', read, read'⟩ :=
            @memcpy_both _ _ rest ⟨srcData.count, some first⟩
            ⟨srcData.count, some second⟩ srcData srcMask kept'.owns data mask le_rfl (fits rfl)
          have untouched : ∀ c ∈ rest, c.read m₃ = c.read m := fun c member =>
            (kept'.same c (List.mem_cons_of_mem _ (List.mem_cons_of_mem _ member))).trans
              (kept.same c (List.mem_cons_of_mem _ (List.mem_cons_of_mem _ member)))
          dsimp only at wrote wrote'
          simp only [got, freed, freed', wrote, wrote']
          refine ⟨m₅, _, _, .success, true, rfl, ⟨kept''.owns, fun c member =>
            (kept''.same c member).trans (untouched c member)⟩, Iff.rfl, never, rfl, copied _ _ _ rfl ?_ ?_⟩
          · rw [read, untouched _ data]
          · rw [read', untouched _ mask]
      · simp only [if_neg differs]
        by_cases equal : srcData.count = dstData.count ∧ srcData.count = dstMask.count
        · obtain ⟨m₁, m₂, first, second, kept, read, read'⟩ := memcpy_both owns data mask equal.1.ge
            (equal.2.ge.trans (fits rfl))
          simp only [if_pos equal]
          rw [← equal.1] at first
          rw [← equal.2] at second
          simp only [first, second]
          refine ⟨m₂, dstData, dstMask, .success, true, rfl, kept, both, never, rfl, copied _ _ _ rfl ?_ ?_⟩
          · rw [read, equal.1]
          · rw [read', equal.2]
        · simp only [if_neg equal]
          exact ⟨m, dstData, dstMask, .success, true, rfl, .refl owns, both, never, rfl, rfl⟩
  · simp only [if_neg used]
    obtain ⟨m₁, m₂, freed, freed', kept⟩ := free_both owns
    simp only [freed, freed']
    by_cases copies : srcAction = true ∧ ¬srcData.count = 0
    · simp only [if_pos copies]
      obtain ⟨m₃, made, got, ⟨rfl, kept', refused⟩ | ⟨first, second, rfl, kept'⟩⟩ :=
        callocPair_kept grants 0 srcData.count srcData.count kept.owns
      · simp only [got]
        refine ⟨m₃, {}, {}, .noMemory, false, rfl,
          ⟨kept'.owns.cons_null.cons_null, (kept.trans kept').same⟩, Iff.rfl,
          fun _ => refused, rfl, ?_⟩
        rw [not_or, not_not, not_not] at used
        rw [dataNil.mpr used.1, maskNil.mpr used.2]
        rfl
      · obtain ⟨m₄, m₅, wrote, wrote', kept'', read, read'⟩ :=
          @memcpy_both _ _ rest ⟨srcData.count, some first⟩
          ⟨srcData.count, some second⟩ srcData srcMask kept'.owns data mask le_rfl (fits copies.1)
        dsimp only at wrote wrote'
        simp only [got, wrote, wrote']
        refine ⟨m₅, _, _, .success, true, rfl, (kept.trans kept').trans kept'', Iff.rfl, never, rfl,
            copied _ _ _ copies.1 ?_ ?_⟩
        · rw [read, kept'.same _ data, kept.same _ data]
        · rw [read', kept'.same _ mask, kept.same _ mask]
    · simp only [if_neg copies]
      exact ⟨m₂, {}, {}, .success, true, rfl, ⟨kept.owns.cons_null.cons_null, kept.same⟩, Iff.rfl,
        never, rfl, rfl⟩

theorem aclRuleUpdateObjectList_right {src dst : List ObjectId} (given : src ≠ [])
    (room : src.length = dst.length ∨ env.alloc = true) : aclRuleUpdateObjectList env src dst true = .ok src := by
  unfold aclRuleUpdateObjectList
  by_cases used : dst = []
  · have room : env.alloc = true := room.resolve_left fun same => given (List.length_eq_zero_iff.mp
      (same.trans (List.length_eq_zero_iff.mpr used)))
    simp [used, given, room]
  · by_cases same : src.length = dst.length
    · simp [used, same]
    · simp [used, given, same, room.resolve_left same]

theorem aclRuleUpdateByteList_right {src dst : AclFieldValue} (given : src.u8Data ≠ [])
    (lengths : src.u8Mask.length = src.u8Data.length) (both : dst.u8Data = [] ↔ dst.u8Mask = [])
    (room : if src.u8Data.length = dst.u8Data.length then dst.u8Mask.length = dst.u8Data.length
      else env.alloc = true) : aclRuleUpdateByteList env src dst true =
      .ok { dst with u8Data := src.u8Data, u8Mask := src.u8Mask } := by
  have whole : readBytes env.beyond src.u8Data.length src.u8Mask = src.u8Mask := by
    rw [readBytes_of_le lengths.ge, List.take_of_length_le lengths.le]
  unfold aclRuleUpdateByteList
  simp only [whole]
  by_cases same : src.u8Data.length = dst.u8Data.length
  · have used : dst.u8Data ≠ [] := fun empty => given (List.length_eq_zero_iff.mp
      (same.trans (List.length_eq_zero_iff.mpr empty)))
    have used' : dst.u8Mask ≠ [] := fun empty => used (both.mpr empty)
    rw [if_pos same] at room
    simp only [used, used', ne_eq, not_false_eq_true, or_self, if_true, if_false, Bool.true_eq_false, same,
      not_true_eq_false, and_false, room, and_self]
  · rw [if_neg same] at room
    by_cases used : dst.u8Data = []
    · have used' := both.mp used
      simp [used, used', given, room]
    · have used' : dst.u8Mask ≠ [] := fun empty => used (both.mpr empty)
      simp [used, used', given, room, same]

end Update

end SaiCommon
