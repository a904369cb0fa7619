import Mathlib.Data.List.Basic
import Mathlib.Logic.Function.Basic

/-! A memory of allocated blocks of elements, and the ways in which a program
can misuse it. -/
namespace Blocks
variable {α : Type}

inductive Fault
  | freed
  | outside
deriving DecidableEq

/-- `block` is none of an address that was freed or never allocated. No address
is allocated twice. -/
structure Mem (α : Type) where
  block : Nat → Option (List α)
  next : Nat
  unused : ∀ address, next ≤ address → block address = none

def Mem.empty : Mem α := ⟨fun _ => none, 0, fun _ _ => rfl⟩

/-- A list in a structure: how many elements it has and where they are, none
for the null address. -/
structure Cell where
  count : Nat := 0
  list : Option Nat := none
deriving DecidableEq

def Cell.read (m : Mem α) (cell : Cell) : List α :=
  match cell.list with
  | none => []
  | some address => (m.block address).getD []

section Program
variable (m : Mem α)

/-- `grants` tells which calls find memory. -/
def calloc (grants : Nat → Bool) (zero : α) (count : Nat) : Mem α × Option Nat :=
  if grants m.next then
    (⟨Function.update m.block m.next (some (List.replicate count zero)), m.next + 1, fun address above => by
      rw [Function.update_of_ne (Nat.ne_of_gt above)]
      exact m.unused address (Nat.le_of_lt above)⟩, some m.next)
  else (⟨m.block, m.next + 1, fun address above => m.unused address (Nat.le_of_lt above)⟩, none)

def Mem.put (address : Nat) (g : List α → Option (List α)) : Mem α :=
  ⟨Function.update m.block address ((m.block address).bind g), m.next, fun other above => by
    by_cases same : other = address
    · rw [same, Function.update_self, ← same, m.unused other above, Option.bind_none]
    · rw [Function.update_of_ne same]
      exact m.unused other above⟩

/-- Freeing the null address does nothing. -/
def free : Option Nat → Except Fault (Mem α)
  | none => .ok m
  | some address =>
    match m.block address with
    | none => .error .freed
    | some _ => .ok (m.put address fun _ => none)

/-- The first `count` elements at an address. -/
def load (list : Option Nat) (count : Nat) : Except Fault (List α) :=
  if count = 0 then .ok []
  else match list with
    | none => .error .outside
    | some address =>
      match m.block address with
      | none => .error .freed
      | some elements => if elements.length < count then .error .outside else .ok (elements.take count)

/-- Write `elements` to the front of the block at an address. -/
def store (list : Option Nat) (elements : List α) : Except Fault (Mem α) :=
  if elements = [] then .ok m
  else match list with
    | none => .error .outside
    | some address =>
      match m.block address with
      | none => .error .freed
      | some old =>
        if old.length < elements.length then .error .outside
        else .ok (m.put address fun old => some (elements ++ old.drop elements.length))

def memcpy (dst src : Option Nat) (count : Nat) : Except Fault (Mem α) :=
  match load m src count with
  | .error fault => .error fault
  | .ok elements => store m dst elements

/-- Memory for two lists, or for none. -/
def callocPair (grants : Nat → Bool) (zero : α) (count count' : Nat) :
    Except Fault (Mem α × Option (Nat × Nat)) :=
  match calloc m grants zero count with
  | (m, none) => .ok (m, none)
  | (m, some first) =>
    match calloc m grants zero count' with
    | (m, some second) => .ok (m, some (first, second))
    | (m, none) =>
      match free m (some first) with
      | .error fault => .error fault
      | .ok m => .ok (m, none)

/-- `memcmp`: whether the first `count` elements differ. -/
def memcmp [DecidableEq α] (left right : Option Nat) (count : Nat) : Except Fault Bool :=
  match load m left count, load m right count with
  | .ok elements, .ok others => .ok (elements ≠ others)
  | .error fault, _ => .error fault
  | _, .error fault => .error fault

end Program

/-- The cells point to blocks of their own, which have as many elements as the
cells say. -/
structure Owns (m : Mem α) (cells : List Cell) : Prop where
  live : ∀ cell ∈ cells, ∀ address, cell.list = some address →
    ∃ elements, m.block address = some elements ∧ elements.length = cell.count
  null : ∀ cell ∈ cells, cell.list = none → cell.count = 0
  distinct : (cells.filterMap Cell.list).Nodup

/-- A piece of program that was run in a memory with the cells `rest` of others
ends in `m'` with the cells `made` and leaves `rest` as they were. -/
structure Kept (m m' : Mem α) (made rest : List Cell) : Prop where
  owns : Owns m' (made ++ rest)
  same : ∀ cell ∈ rest, cell.read m' = cell.read m

section Rules
variable {m m' m'' : Mem α} {cell src dst : Cell} {cells made made' rest rest' : List Cell} {address count : Nat}

theorem Owns.nil : Owns m [] :=
  ⟨fun _ member => absurd member List.not_mem_nil, fun _ member => absurd member List.not_mem_nil, .nil⟩

theorem Owns.perm (owns : Owns m cells) (perm : cells.Perm rest) : Owns m rest :=
  ⟨fun c member => owns.live c (perm.mem_iff.mpr member), fun c member => owns.null c (perm.mem_iff.mpr member),
    (perm.filterMap _).nodup_iff.mp owns.distinct⟩

theorem Owns.sublist (owns : Owns m cells) (part : rest.Sublist cells) : Owns m rest :=
  ⟨fun c member => owns.live c (part.subset member), fun c member => owns.null c (part.subset member),
    owns.distinct.sublist (part.filterMap _)⟩

theorem Owns.cons_null (owns : Owns m rest) : Owns m ({} :: rest) :=
  ⟨fun c member a list => by
      rcases List.mem_cons.mp member with rfl | old
      · cases list
      · exact owns.live c old a list,
    fun c member list => by
      rcases List.mem_cons.mp member with rfl | old
      · rfl
      · exact owns.null c old list,
    owns.distinct⟩

theorem Owns.ne_address (owns : Owns m (cell :: rest)) (list : cell.list = some address) :
    ∀ c ∈ rest, c.list ≠ some address := by
  intro c member same
  have distinct := owns.distinct
  rw [List.filterMap_cons_some list, List.nodup_cons] at distinct
  exact distinct.1 (List.mem_filterMap.mpr ⟨c, member, same⟩)

theorem Owns.address_lt (owns : Owns m cells) (member : cell ∈ cells) (list : cell.list = some address) :
    address < m.next := by
  obtain ⟨elements, at_, _⟩ := owns.live cell member address list
  by_contra above
  rw [m.unused address (Nat.le_of_not_lt above)] at at_
  cases at_

theorem Owns.length_read (owns : Owns m cells) (member : cell ∈ cells) : (cell.read m).length = cell.count := by
  unfold Cell.read
  cases list : cell.list with
  | none => exact (owns.null cell member list).symm
  | some address =>
    obtain ⟨elements, at_, length⟩ := owns.live cell member address list
    simp only [at_, Option.getD_some]
    exact length

theorem read_congr (same : ∀ address, cell.list = some address → m'.block address = m.block address) :
    cell.read m' = cell.read m := by
  unfold Cell.read
  cases list : cell.list with
  | none => rfl
  | some address => simp only [same address list]

theorem Kept.refl (owns : Owns m (made ++ rest)) : Kept m m made rest := ⟨owns, fun _ _ => rfl⟩

theorem Kept.trans (first : Kept m m' made rest) (second : Kept m' m'' made' rest) : Kept m m'' made' rest :=
  ⟨second.owns, fun c member => (second.same c member).trans (first.same c member)⟩

theorem Kept.of_subset (kept : Kept m m' made rest) (owns : Owns m' (made' ++ rest'))
    (subset : ∀ c ∈ rest', c ∈ rest) : Kept m m' made' rest' :=
  ⟨owns, fun c member => kept.same c (subset c member)⟩

/-- Blocks that no cell points to may change. -/
theorem Owns.kept (owns : Owns m rest)
    (same : ∀ c ∈ rest, ∀ address, c.list = some address → m'.block address = m.block address) :
    Kept m m' [] rest := by
  refine ⟨⟨fun c member a list => ?_, owns.null, owns.distinct⟩, fun c member => read_congr (same c member)⟩
  rw [same c member a list]
  exact owns.live c member a list

/-- A block that no other cell points to gets a cell. -/
theorem Kept.cons {elements : List α} (kept : Kept m m' [] rest) (alone : ∀ c ∈ rest, c.list ≠ some address)
    (list : cell.list = some address) (block : m'.block address = some elements)
    (length : elements.length = cell.count) : Kept m m' [cell] rest := by
  refine ⟨⟨fun c member a at_ => ?_, fun c member at_ => ?_, ?_⟩, kept.same⟩
  · rcases List.mem_cons.mp member with rfl | old
    · cases list.symm.trans at_
      exact ⟨elements, block, length⟩
    · exact kept.owns.live c old a at_
  · rcases List.mem_cons.mp member with rfl | old
    · cases list.symm.trans at_
    · exact kept.owns.null c old at_
  · rw [List.singleton_append, List.filterMap_cons_some list, List.nodup_cons]
    refine ⟨fun member => ?_, kept.owns.distinct⟩
    obtain ⟨c, old, at_⟩ := List.mem_filterMap.mp member
    exact alone c old at_

theorem block_update {v : Option (List α)} (alone : ∀ c ∈ rest, c.list ≠ some address) (c : Cell)
    (member : c ∈ rest) (a : Nat) (list : c.list = some a) : Function.update m.block address v a = m.block a := by
  refine Function.update_of_ne (fun same => alone c member ?_) _ _
  rw [list, same]

theorem calloc_kept {grants : Nat → Bool} {zero : α} {made : Option Nat} (owns : Owns m rest)
    (result : calloc m grants zero count = (m', made)) :
    (made = none ∧ Kept m m' [] rest ∧ grants m.next = false) ∨
      ∃ address, made = some address ∧ Kept m m' [⟨count, some address⟩] rest := by
  have fresh : ∀ c ∈ rest, c.list ≠ some m.next := fun c member list =>
    Nat.lt_irrefl _ (owns.address_lt member list)
  unfold calloc at result
  split at result
  · cases result
    exact .inr ⟨m.next, rfl, (owns.kept (block_update fresh)).cons fresh rfl (Function.update_self _ _ _)
      List.length_replicate⟩
  · rename_i refused
    cases result
    exact .inl ⟨rfl, owns.kept fun _ _ _ _ => rfl, Bool.eq_false_iff.mpr refused⟩

theorem free_kept (owns : Owns m (cell :: rest)) : ∃ m', free m cell.list = .ok m' ∧ Kept m m' [] rest := by
  have others : Owns m rest := owns.sublist (List.sublist_cons_self _ _)
  cases list : cell.list with
  | none => exact ⟨m, rfl, .refl others⟩
  | some address =>
    obtain ⟨elements, at_, _⟩ := owns.live cell List.mem_cons_self address list
    unfold free
    simp only [at_]
    exact ⟨_, rfl, others.kept (block_update (owns.ne_address list))⟩

theorem load_eq (owns : Owns m cells) (member : cell ∈ cells) (fits : count ≤ cell.count) :
    load m cell.list count = .ok ((cell.read m).take count) := by
  unfold load
  split
  · rename_i zero
    rw [zero, List.take_zero]
  rename_i positive
  unfold Cell.read
  cases list : cell.list with
  | none =>
    have := owns.null cell member list
    omega
  | some address =>
    obtain ⟨elements, at_, length⟩ := owns.live cell member address list
    simp only [at_, Option.getD_some]
    rw [if_neg (by omega)]

theorem store_kept {elements : List α} (owns : Owns m (cell :: rest)) (fits : elements.length = cell.count) :
    ∃ m', store m cell.list elements = .ok m' ∧ Kept m m' [cell] rest ∧ cell.read m' = elements := by
  unfold store
  split
  · rename_i empty
    have length := owns.length_read List.mem_cons_self
    rw [← fits, empty] at length
    exact ⟨m, rfl, .refl owns, (List.length_eq_zero_iff.mp length).trans empty.symm⟩
  rename_i nonempty
  cases list : cell.list with
  | none =>
    have zero := owns.null cell List.mem_cons_self list
    exact absurd (List.length_eq_zero_iff.mp (fits.trans zero)) nonempty
  | some address =>
    obtain ⟨old, at_, length⟩ := owns.live cell List.mem_cons_self address list
    have others : Owns m rest := owns.sublist (List.sublist_cons_self _ _)
    have alone := owns.ne_address list
    have whole : elements ++ old.drop elements.length = elements := by
      rw [List.drop_eq_nil_of_le (by omega), List.append_nil]
    have block : (m.put address fun old => some (elements ++ old.drop elements.length)).block address =
        some elements := by
      simp only [Mem.put, Function.update_self, at_, Option.bind_some, whole]
    simp only [at_]
    rw [if_neg (by omega)]
    refine ⟨_, rfl, (others.kept (block_update alone)).cons alone list block fits, ?_⟩
    unfold Cell.read
    simp only [list, block, Option.getD_some]

theorem memcpy_kept (owns : Owns m (dst :: rest)) (source : src ∈ rest) (fits : dst.count ≤ src.count) :
    ∃ m', memcpy m dst.list src.list dst.count = .ok m' ∧ Kept m m' [dst] rest ∧
      dst.read m' = (src.read m).take dst.count := by
  have loaded := load_eq owns (List.mem_cons_of_mem _ source) fits
  have length := owns.length_read (List.mem_cons_of_mem _ source)
  unfold memcpy
  rw [loaded]
  exact store_kept owns (by rw [List.length_take, length]; omega)

theorem memcmp_eq [DecidableEq α] (owns : Owns m cells) (inSrc : src ∈ cells) (inDst : dst ∈ cells)
    (fits : count ≤ src.count) (fits' : count ≤ dst.count) :
    memcmp m src.list dst.list count = .ok ((src.read m).take count ≠ (dst.read m).take count) := by
  unfold memcmp
  rw [load_eq owns inSrc fits, load_eq owns inDst fits']

theorem callocPair_kept (grants : Nat → Bool) (zero : α) (count count' : Nat) (owns : Owns m rest) :
    ∃ m' made, callocPair m grants zero count count' = .ok (m', made) ∧
      ((made = none ∧ Kept m m' [] rest ∧ ∃ address, grants address = false) ∨
        ∃ first second, made = some (first, second) ∧
          Kept m m' [⟨count, some first⟩, ⟨count', some second⟩] rest) := by
  unfold callocPair
  cases got : calloc m grants zero count with
  | mk m₁ made =>
    rcases calloc_kept owns got with ⟨rfl, kept, refused⟩ | ⟨first, rfl, kept⟩
    · exact ⟨m₁, none, rfl, .inl ⟨rfl, kept, _, refused⟩⟩
    dsimp only
    cases got' : calloc m₁ grants zero count' with
    | mk m₂ made =>
      rcases calloc_kept kept.owns got' with ⟨rfl, kept', refused⟩ | ⟨second, rfl, kept'⟩
      · obtain ⟨m₃, freed, kept''⟩ := @free_kept _ _ ⟨count, some first⟩ _ kept'.owns
        simp only at freed
        simp only [freed]
        refine ⟨m₃, none, rfl, .inl ⟨rfl, ⟨kept''.owns, fun c member => ?_⟩, _, refused⟩⟩
        rw [kept''.same c member, kept'.same c (List.mem_cons_of_mem _ member), kept.same c member]
      · refine ⟨m₂, _, rfl, .inr ⟨first, second, rfl, kept'.owns.perm (.swap _ _ _), fun c member => ?_⟩⟩
        rw [kept'.same c (List.mem_cons_of_mem _ member), kept.same c member]

end Rules

end Blocks
