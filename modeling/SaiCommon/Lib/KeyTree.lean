import Mathlib.Data.Finmap
import Mathlib.Algebra.BigOperators.Group.Finset.Basic
import Mathlib.Algebra.BigOperators.Group.Multiset.Basic
import Mathlib.Algebra.Order.BigOperators.Group.Multiset

/-- A finite tree of values under distinct keys. -/
def KeyTree (K V : Type) : Type := Finmap fun _ : K => V

namespace KeyTree

variable {K V : Type} [DecidableEq K] {m : KeyTree K V} {k j : K} {v w : V} {g : V → V}

instance : EmptyCollection (KeyTree K V) := ⟨(∅ : Finmap fun _ : K => V)⟩

instance [DecidableEq V] : DecidableEq (KeyTree K V) :=
  inferInstanceAs (DecidableEq (Finmap fun _ : K => V))

def get (m : KeyTree K V) (k : K) : Option V := Finmap.lookup k m

def put (m : KeyTree K V) (k : K) (v : V) : KeyTree K V := Finmap.insert k v m

def del (m : KeyTree K V) (k : K) : KeyTree K V := Finmap.erase k m

/-- In-place update of the stored value; an absent key is left absent. -/
def modify (m : KeyTree K V) (k : K) (f : V → V) : KeyTree K V :=
  match m.get k with
  | some v => m.put k (f v)
  | none => m

def keys (m : KeyTree K V) : Finset K := Finmap.keys m

/-- The sum of `f` over the stored entries. -/
def weigh {M : Type} [AddCommMonoid M] (m : KeyTree K V) (f : K → V → M) : M :=
  (m.entries.map fun e => f e.1 e.2).sum

/-- The number of stored entries that satisfy `p`. -/
def tally (m : KeyTree K V) (p : K → V → Bool) : Nat :=
  m.weigh fun k v => if p k v then 1 else 0

@[ext] theorem ext {n : KeyTree K V} (same : ∀ k, m.get k = n.get k) : m = n :=
  Finmap.ext_lookup same

@[simp] theorem get_empty (k : K) : (∅ : KeyTree K V).get k = none :=
  Finmap.lookup_empty k

@[simp] theorem get_put_self (m : KeyTree K V) (k : K) (v : V) : (m.put k v).get k = some v :=
  Finmap.lookup_insert m

theorem mem_keys : k ∈ m.keys ↔ (m.get k).isSome = true :=
  Finmap.mem_keys.trans Finmap.lookup_isSome.symm

theorem get_put (m : KeyTree K V) (k : K) (v : V) (j : K) :
    (m.put k v).get j = if j = k then some v else m.get j := by
  split
  · rename_i same
    rw [same, get_put_self]
  · rename_i other
    exact Finmap.lookup_insert_of_ne m other

@[simp] theorem get_put_ne (other : j ≠ k) : (m.put k v).get j = m.get j := by
  rw [get_put, if_neg other]

@[simp] theorem get_del_self (m : KeyTree K V) (k : K) : (m.del k).get k = none :=
  Finmap.lookup_erase k m

theorem get_del (m : KeyTree K V) (k j : K) : (m.del k).get j = if j = k then none else m.get j := by
  split
  · rename_i same
    rw [same, get_del_self]
  · rename_i other
    exact Finmap.lookup_erase_ne other

@[simp] theorem get_del_ne (other : j ≠ k) : (m.del k).get j = m.get j := by
  rw [get_del, if_neg other]

theorem get_put_ne_none (stored : m.get j ≠ none) : (m.put k v).get j ≠ none := by
  rw [get_put]
  split
  · exact Option.some_ne_none v
  · exact stored

theorem get_of_del (found : (m.del k).get j = some v) : m.get j = some v := by
  rw [get_del] at found
  split at found
  · cases found
  · exact found

theorem get_del_none (absent : m.get j = none) : (m.del k).get j = none := by
  rw [get_del, absent, ite_self]

theorem get_modify (m : KeyTree K V) (k : K) (f : V → V) (j : K) :
    (m.modify k f).get j = if j = k then (m.get j).map f else m.get j := by
  unfold modify
  split
  · rename_i v stored
    rw [get_put]
    by_cases same : j = k
    · subst same
      simp only [if_true, stored, Option.map_some]
    · simp only [if_neg same]
  · rename_i absent
    by_cases same : j = k
    · subst same
      simp only [if_true, absent, Option.map_none]
    · simp only [if_neg same]

@[simp] theorem get_modify_self (m : KeyTree K V) (k : K) (f : V → V) : (m.modify k f).get k = (m.get k).map f := by
  rw [get_modify, if_pos rfl]

@[simp] theorem get_modify_ne {f : V → V} (other : j ≠ k) : (m.modify k f).get j = m.get j := by
  rw [get_modify, if_neg other]

/-- A modification that keeps `g` is invisible to `g`. -/
theorem map_get_modify {W : Type} {f : V → V} {g : V → W}
    (keep : ∀ v, g (f v) = g v) (j : K) : ((m.modify k f).get j).map g = (m.get j).map g := by
  rw [get_modify]
  split
  · rw [Option.map_map]
    exact congrArg (fun h => (m.get j).map h) (funext keep)
  · rfl

theorem get_modify_eq_none {f : V → V} : (m.modify k f).get j = none ↔ m.get j = none := by
  rw [get_modify]
  split
  · exact Option.map_eq_none_iff
  · exact Iff.rfl

theorem get_put_eq_none (stored : m.get k = some v) : (m.put k w).get j = none ↔ m.get j = none := by
  rw [get_put]
  split
  · rename_i same
    rw [same, stored]
    exact iff_of_false (Option.some_ne_none w) (Option.some_ne_none v)
  · exact Iff.rfl

theorem put_same (stored : m.get k = some v) : m.put k v = m := by
  ext j : 1
  rw [get_put]
  split
  · rename_i same
    rw [same, stored]
  · rfl

theorem modify_of_get {f : V → V} (stored : m.get k = some v) : m.modify k f = m.put k (f v) := by
  simp only [modify, stored]

theorem modify_of_absent {f : V → V} (absent : m.get k = none) : m.modify k f = m := by
  simp only [modify, absent]

theorem modify_congr {f : V → V} (agree : ∀ v, m.get k = some v → f v = g v) : m.modify k f = m.modify k g := by
  cases stored : m.get k with
  | none => rw [modify_of_absent stored, modify_of_absent stored]
  | some v => rw [modify_of_get stored, modify_of_get stored, agree v stored]

theorem modify_modify (m : KeyTree K V) (k : K) (f g : V → V) :
    (m.modify k f).modify k g = m.modify k fun v => g (f v) := by
  ext j : 1
  rw [get_modify, get_modify, get_modify]
  split
  · rw [Option.map_map]
    rfl
  · rfl

theorem modify_same {f : V → V} (keep : ∀ v, m.get k = some v → f v = v) : m.modify k f = m := by
  cases stored : m.get k with
  | none => exact modify_of_absent stored
  | some v =>
    rw [modify_of_get stored, keep v stored]
    exact put_same stored

theorem put_put (m : KeyTree K V) (k : K) (v w : V) : (m.put k v).put k w = m.put k w :=
  Finmap.insert_insert m

theorem del_put (m : KeyTree K V) (k : K) (v : V) : (m.put k v).del k = m.del k := by
  ext j : 1
  simp only [get_del, get_put]
  split <;> rfl

theorem put_del (stored : m.get k = some v) : (m.del k).put k v = m := by
  ext j : 1
  rw [get_put, get_del]
  split
  · rename_i same
    rw [same, stored]
  · rfl

section Weigh
variable {M : Type} [AddCommMonoid M] (f : K → V → M)

omit [DecidableEq K] in
@[simp] theorem weigh_empty : (∅ : KeyTree K V).weigh f = 0 := rfl

theorem weigh_put_new (absent : m.get k = none) : (m.put k v).weigh f = f k v + m.weigh f := by
  have entries := Finmap.entries_insert_of_notMem (b := v) (Finmap.lookup_eq_none.mp absent)
  unfold weigh put
  rw [entries, Multiset.map_cons, Multiset.sum_cons]

theorem weigh_del_old (stored : m.get k = some v) : f k v + (m.del k).weigh f = m.weigh f := by
  rw [← weigh_put_new f (get_del_self m k), put_del stored]

theorem weigh_put_old (stored : m.get k = some w) : f k w + (m.put k v).weigh f = f k v + m.weigh f := by
  have new := weigh_del_old f (get_put_self m k v)
  have old := weigh_del_old f stored
  rw [del_put] at new
  rw [← new, ← old, add_left_comm]

theorem weigh_modify_old (stored : m.get k = some w) : f k w + (m.modify k g).weigh f = f k (g w) + m.weigh f := by
  rw [modify_of_get stored]
  exact weigh_put_old f stored

theorem weigh_congr {f g : K → V → M} (same : ∀ k v, m.get k = some v → f k v = g k v) :
    m.weigh f = m.weigh g := by
  unfold weigh
  refine congrArg Multiset.sum (Multiset.map_congr rfl ?_)
  rintro ⟨k, v⟩ member
  refine same k v ?_
  induction m using Finmap.induction_on with
  | H a => exact AList.mem_lookup_iff.mpr member

theorem weigh_eq_sum (m : KeyTree K V) : m.weigh f = ∑ k ∈ m.keys, ((m.get k).map (f k)).getD 0 := by
  have stored : ∀ e ∈ m.entries, f e.1 e.2 = ((m.get e.1).map (f e.1)).getD 0 := by
    rintro ⟨k, v⟩ member
    have found : m.get k = some v := by
      induction m using Finmap.induction_on with
      | H a => exact AList.mem_lookup_iff.mpr member
    rw [found, Option.map_some, Option.getD_some]
  unfold weigh
  rw [Multiset.map_congr rfl stored]
  refine (congrArg Multiset.sum ?_).symm
  exact Multiset.map_map (fun k => ((m.get k).map (f k)).getD 0) Sigma.fst m.entries

/-- Trees whose entries weigh the same under every key weigh the same. -/
theorem weigh_congr_get {W : Type} {n : KeyTree K W} {f : K → V → M} {g : K → W → M}
    (same : ∀ k, (m.get k).map (f k) = (n.get k).map (g k)) : m.weigh f = n.weigh g := by
  have stored : ∀ k, (m.get k).isSome = (n.get k).isSome := by
    intro k
    rw [← Option.isSome_map (f := f k), same k, Option.isSome_map]
  have keys : m.keys = n.keys := by
    ext k
    rw [mem_keys, mem_keys, stored k]
  rw [weigh_eq_sum, weigh_eq_sum, keys]
  exact Finset.sum_congr rfl fun k _ => by rw [same k]

end Weigh

theorem weigh_le (f : K → V → Nat) (stored : m.get k = some v) : f k v ≤ m.weigh f := by
  have split := weigh_del_old f stored
  omega

theorem exists_of_weigh {f : K → V → Nat} (positive : 0 < m.weigh f) : ∃ k v, m.get k = some v ∧ 0 < f k v := by
  by_contra none
  have zero : m.weigh f = m.weigh fun _ _ => 0 := by
    refine weigh_congr fun k v stored => ?_
    by_contra nonzero
    exact none ⟨k, v, stored, by omega⟩
  simp only [weigh, Multiset.map_const', Multiset.sum_replicate, nsmul_zero] at zero
  exact absurd positive (by unfold weigh; omega)

/-- Weights of at most one, positive under one key at most, sum to at most one. -/
theorem weigh_le_one {f : K → V → Nat} (small : ∀ k v, m.get k = some v → f k v ≤ 1)
    (single : ∀ k v j w, m.get k = some v → m.get j = some w → 0 < f k v → 0 < f j w → k = j) :
    m.weigh f ≤ 1 := by
  by_contra large
  obtain ⟨k, v, stored, here⟩ := exists_of_weigh (show 0 < m.weigh f by omega)
  have split := weigh_del_old f stored
  have one := small k v stored
  obtain ⟨j, w, stored', there⟩ := exists_of_weigh (show 0 < (m.del k).weigh f by omega)
  rw [get_del] at stored'
  split at stored'
  · cases stored'
  · rename_i other
    exact other (single j w k v stored' stored there here)

section Tally
variable {p : K → V → Bool}

theorem tally_put_new (absent : m.get k = none) : (m.put k v).tally p = (if p k v then 1 else 0) + m.tally p :=
  weigh_put_new (fun k v => if p k v then 1 else 0) absent

theorem tally_put_old (stored : m.get k = some w) :
    (if p k w then 1 else 0) + (m.put k v).tally p = (if p k v then 1 else 0) + m.tally p :=
  weigh_put_old (fun k v => if p k v then 1 else 0) stored

theorem tally_del_old (stored : m.get k = some v) : (if p k v then 1 else 0) + (m.del k).tally p = m.tally p :=
  weigh_del_old (fun k v => if p k v then 1 else 0) stored

theorem tally_modify_old (stored : m.get k = some w) :
    (if p k w then 1 else 0) + (m.modify k g).tally p = (if p k (g w) then 1 else 0) + m.tally p :=
  weigh_modify_old (fun k v => if p k v then 1 else 0) stored

theorem tally_modify_keep (keep : ∀ v, p k (g v) = p k v) : (m.modify k g).tally p = m.tally p := by
  cases stored : m.get k with
  | none => rw [modify_of_absent stored]
  | some w =>
    have moved := tally_modify_old (p := p) (g := g) stored
    rw [keep w] at moved
    omega

theorem tally_pos (stored : m.get k = some v) (counted : p k v = true) : 0 < m.tally p := by
  have one := weigh_le (fun k v => if p k v then 1 else 0) stored
  rw [if_pos counted] at one
  exact one

theorem exists_of_tally (positive : 0 < m.tally p) : ∃ k v, m.get k = some v ∧ p k v = true := by
  obtain ⟨k, v, stored, counted⟩ := exists_of_weigh positive
  refine ⟨k, v, stored, ?_⟩
  by_contra other
  simp only [if_neg other] at counted
  omega

theorem tally_congr {q : K → V → Bool} (same : ∀ k v, m.get k = some v → p k v = q k v) :
    m.tally p = m.tally q :=
  weigh_congr fun k v stored => by rw [same k v stored]

theorem tally_congr_get {W : Type} {n : KeyTree K W} {q : K → W → Bool}
    (same : ∀ k, (m.get k).map (p k) = (n.get k).map (q k)) : m.tally p = n.tally q := by
  refine weigh_congr_get fun k => ?_
  have both := congrArg (Option.map fun counted : Bool => if counted then 1 else 0) (same k)
  rw [Option.map_map, Option.map_map] at both
  exact both

theorem tally_eq_zero (none : ∀ k v, m.get k = some v → p k v = false) : m.tally p = 0 := by
  by_contra positive
  obtain ⟨k, v, stored, counted⟩ := exists_of_tally (Nat.pos_of_ne_zero positive)
  rw [none k v stored] at counted
  cases counted

theorem tally_decide {p : K → V → Prop} [∀ k v, Decidable (p k v)] :
    (m.tally fun k v => p k v) = 0 ↔ ∀ k v, m.get k = some v → ¬ p k v :=
  ⟨fun none _ _ stored counted => (tally_pos stored (decide_eq_true counted)).ne' none,
    fun none => tally_eq_zero fun k v stored => decide_eq_false (none k v stored)⟩

end Tally
end KeyTree
