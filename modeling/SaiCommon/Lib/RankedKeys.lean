import SaiCommon.Lib.ErrorLoop

/-- The rank of a key says where a search tree puts it. -/
structure KeyRank (K : Type) where
  rank : K → Nat
  injective : ∀ a b, rank a = rank b → a = b

/-! A search tree of distinct keys is the list of its keys in the order of their
ranks. -/
namespace KeyRank
variable {K : Type} [DecidableEq K] (order : KeyRank K)

def Sorted (keys : List K) : Prop := keys.Pairwise fun a b => order.rank a < order.rank b

def insert (k : K) : List K → List K
  | [] => [k]
  | j :: rest => if order.rank k < order.rank j then k :: j :: rest else j :: insert k rest

def remove (k : K) (keys : List K) : List K := keys.filter fun j => j ≠ k

/-- The first key behind `k`, which need not be in the tree itself. -/
def next (k : K) (keys : List K) : Option K := keys.find? fun j => order.rank k < order.rank j

omit [DecidableEq K] in
theorem mem_insert {k j : K} {keys : List K} : j ∈ order.insert k keys ↔ j = k ∨ j ∈ keys := by
  induction keys with
  | nil => simp only [insert, List.mem_singleton, List.not_mem_nil, or_false]
  | cons i rest ih =>
    unfold insert
    split
    · exact List.mem_cons
    · rw [List.mem_cons, ih, List.mem_cons]
      exact or_left_comm

theorem mem_remove {k j : K} {keys : List K} : j ∈ remove k keys ↔ j ∈ keys ∧ j ≠ k := by
  unfold remove
  rw [List.mem_filter, decide_eq_true_iff]

omit [DecidableEq K] in
theorem Sorted.insert {keys : List K} (sorted : order.Sorted keys) {k : K} (absent : k ∉ keys) :
    order.Sorted (order.insert k keys) := by
  induction keys with
  | nil => exact List.pairwise_singleton _ k
  | cons j rest ih =>
    obtain ⟨below, tail⟩ := List.pairwise_cons.mp sorted
    obtain ⟨other, absent'⟩ := not_or.mp fun member => absent (List.mem_cons.mpr member)
    unfold KeyRank.insert
    split
    · rename_i first
      refine List.pairwise_cons.mpr ⟨fun i member => ?_, sorted⟩
      rcases List.mem_cons.mp member with rfl | member
      · exact first
      · exact Nat.lt_trans first (below i member)
    · rename_i notFirst
      refine List.pairwise_cons.mpr ⟨fun i member => ?_, ih tail absent'⟩
      rcases (order.mem_insert).mp member with rfl | member
      · have distinct : order.rank i ≠ order.rank j := fun same => other (order.injective _ _ same)
        omega
      · exact below i member

theorem Sorted.remove {keys : List K} (sorted : order.Sorted keys) (k : K) : order.Sorted (KeyRank.remove k keys) :=
  List.Pairwise.filter _ sorted

/-- Behind `k` the tree goes on with what follows it, whether `k` is still there
or not. -/
theorem next_of_split {k : K} {front rest keys : List K} (sorted : order.Sorted (front ++ k :: rest))
    (edited : keys = front ++ k :: rest ∨ keys = KeyRank.remove k (front ++ k :: rest)) :
    order.next k keys = rest.head? ∧ ∃ front', keys = front' ++ rest := by
  obtain ⟨_, sortedRest, across⟩ := List.pairwise_append.mp sorted
  obtain ⟨behind, _⟩ := List.pairwise_cons.mp sortedRest
  have frontBelow : ∀ j ∈ front, ¬ order.rank k < order.rank j := by
    intro j member
    have below := across j member k List.mem_cons_self
    omega
  have restNext : order.next k rest = rest.head? := by
    cases rest with
    | nil => rfl
    | cons j rest' => exact List.find?_cons_of_pos (decide_eq_true (behind j List.mem_cons_self))
  have skip : ∀ part : List K, (∀ j ∈ part, ¬ order.rank k < order.rank j) →
      order.next k (part ++ rest) = rest.head? := by
    intro part below
    have none : part.find? (fun j => order.rank k < order.rank j) = none :=
      List.find?_eq_none.mpr fun j member => by
        rw [decide_eq_true_iff]
        exact below j member
    unfold next at restNext ⊢
    rw [List.find?_append, none, Option.none_or]
    exact restNext
  rcases edited with same | removed
  · have whole : keys = (front ++ [k]) ++ rest := by
      rw [same, List.append_assoc]
      rfl
    refine ⟨?_, _, whole⟩
    rw [whole]
    refine skip _ fun j member => ?_
    rcases List.mem_append.mp member with member | member
    · exact frontBelow j member
    · rw [List.mem_singleton.mp member]
      exact Nat.lt_irrefl _
  · have noneInRest : rest.filter (fun j => decide (j ≠ k)) = rest := by
      refine List.filter_eq_self.mpr fun j member => decide_eq_true ?_
      rintro rfl
      exact Nat.lt_irrefl _ (behind j member)
    have whole : keys = front.filter (fun j => decide (j ≠ k)) ++ rest := by
      rw [removed, KeyRank.remove, List.filter_append, List.filter_cons_of_neg (by simp), noneInRest]
    refine ⟨?_, _, whole⟩
    rw [whole]
    exact skip _ fun j member => frontBelow j (List.mem_filter.mp member).1

section Walk
variable {S E : Type} [DecidableEq E] (ok : E) (tree : S → List K) (step : K → S → S × E)

/-- Visits the key in hand and moves on to the one behind it in the tree as the
visit left it. -/
def walk : Nat → Option K → S → S × E
  | _, none, s => (s, ok)
  | 0, some _, s => (s, ok)
  | fuel + 1, some k, s =>
    if (step k s).2 = ok then walk fuel (order.next k (tree (step k s).1)) (step k s).1 else step k s

variable {ok tree step}

omit [DecidableEq K] in
@[simp] theorem walk_none (fuel : Nat) (s : S) : order.walk ok tree step fuel none s = (s, ok) := by
  unfold walk
  rfl

omit [DecidableEq K] in
/-- What every visit keeps, the walk keeps. -/
theorem walk_keeps (Inv : S → Prop) (keep : ∀ k s, Inv s → Inv (step k s).1) (fuel : Nat) :
    ∀ place s, Inv s → Inv (order.walk ok tree step fuel place s).1 := by
  induction fuel with
  | zero =>
    intro place s inv
    cases place with
    | none =>
      rw [walk_none]
      exact inv
    | some k => exact inv
  | succ fuel ih =>
    intro place s inv
    cases place with
    | none =>
      rw [walk_none]
      exact inv
    | some k =>
      dsimp only [walk]
      split
      · exact ih _ _ (keep k s inv)
      · exact keep k s inv

/-- A walk over a tree from which each visit takes at most the visited key is the
loop over the keys it had at the start. -/
theorem walk_eq_run (edits : ∀ k s, tree (step k s).1 = tree s ∨ tree (step k s).1 = KeyRank.remove k (tree s))
    (rest : List K) : ∀ fuel front s, tree s = front ++ rest → order.Sorted (tree s) → rest.length ≤ fuel →
      order.walk ok tree step fuel rest.head? s = ErrorLoop.run ok step rest s := by
  induction rest with
  | nil => exact fun fuel front s _ _ _ => order.walk_none fuel s
  | cons k rest ih =>
    intro fuel front s split sorted enough
    cases fuel with
    | zero => exact absurd enough (by simp)
    | succ fuel =>
      dsimp only [List.head?_cons, walk, ErrorLoop.run]
      by_cases passed : (step k s).2 = ok
      · rw [if_pos passed, if_pos passed]
        have edited := edits k s
        have sorted' : order.Sorted (tree (step k s).1) := by
          rcases edited with same | removed
          · rw [same]
            exact sorted
          · rw [removed]
            exact Sorted.remove order sorted k
        rw [split] at edited sorted
        obtain ⟨onward, front', split'⟩ := order.next_of_split sorted edited
        rw [onward]
        exact ih fuel front' _ split' sorted' (Nat.le_of_succ_le_succ enough)
      · rw [if_neg passed, if_neg passed]

end Walk
end KeyRank
