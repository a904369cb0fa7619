import Mathlib.Algebra.BigOperators.Group.Finset.Piecewise
import Mathlib.Data.List.Basic
import Mathlib.Logic.Function.Basic
import SaiCommon.Lib.KeyTree

/-- Users that name at most one holder each, against holders that list their
users: a holder lists a user once if the user names it, and not otherwise, and
whoever is named is a holder. -/
structure Attached {K U : Type} [DecidableEq K] [DecidableEq U] (lists : K → Option (List U))
    (named : U → Option K) : Prop where
  once : ∀ k l, lists k = some l → ∀ u, l.count u = if named u = some k then 1 else 0
  held : ∀ u k, named u = some k → lists k ≠ none

namespace Attached

variable {K U H : Type} [DecidableEq K] [DecidableEq U] {k : K} {l : List U} {u : U}

/-- The list of one holder is edited; who is no holder stays none. -/
def edit (lists : K → Option (List U)) (k : K) (g : List U → List U) (j : K) : Option (List U) :=
  if j = k then (lists j).map g else lists j

/-- The user leaves the list of the holder it names. -/
def release (lists : K → Option (List U)) (u : U) : Option K → K → Option (List U)
  | none => lists
  | some k => edit lists k fun l => l.erase u

/-- The user joins the list of the holder it is going to name. -/
def take (lists : K → Option (List U)) (u : U) : Option K → K → Option (List U)
  | none => lists
  | some k => edit lists k fun l => l ++ [u]

variable {lists lists' : K → Option (List U)} {named named' : U → Option K}

omit [DecidableEq U] in
theorem edit_some {j : K} {g : List U → List U} (found : edit lists k g j = some l) :
    ∃ old, lists j = some old ∧ l = if j = k then g old else old := by
  unfold edit at found
  split at found
  · rename_i same
    obtain ⟨old, stored, rfl⟩ := Option.map_eq_some_iff.mp found
    exact ⟨old, stored, (if_pos same).symm⟩
  · rename_i other
    exact ⟨l, found, (if_neg other).symm⟩

omit [DecidableEq U] in
theorem edit_eq_none {j : K} {g : List U → List U} : edit lists k g j = none ↔ lists j = none := by
  unfold edit
  split
  · exact Option.map_eq_none_iff
  · exact Iff.rfl

theorem release_eq_none {old : Option K} : release lists u old k = none ↔ lists k = none := by
  cases old with
  | none => exact Iff.rfl
  | some j => exact edit_eq_none

omit [DecidableEq U] in
theorem take_eq_none {next : Option K} : take lists u next k = none ↔ lists k = none := by
  cases next with
  | none => exact Iff.rfl
  | some j => exact edit_eq_none

/-- A user that has left its holder's list is in no list. -/
theorem release_count (attached : Attached lists named) (u : U)
    (found : release lists u (named u) k = some l) (v : U) :
    l.count v = if v ≠ u ∧ named v = some k then 1 else 0 := by
  cases name : named u with
  | none =>
    rw [name] at found
    rw [attached.once k l found v]
    by_cases same : v = u
    · rw [same, name, if_neg (by simp), if_neg (by simp)]
    · simp only [ne_eq, same, not_false_eq_true, true_and]
  | some j =>
    rw [name] at found
    obtain ⟨old, stored, rfl⟩ := edit_some found
    have before := attached.once k old stored
    split
    · rename_i here
      rw [List.count_erase, before v]
      by_cases same : v = u
      · rw [same, name, if_pos (congrArg some here.symm)]
        simp only [beq_self_eq_true, if_true, ne_eq, not_true_eq_false, false_and, if_false]
      · have apart : (u == v) = false := beq_eq_false_iff_ne.mpr fun eq => same eq.symm
        simp only [apart, ne_eq, same, not_false_eq_true, true_and, Bool.false_eq_true, if_false, Nat.sub_zero]
    · rename_i away
      rw [before v]
      by_cases same : v = u
      · have free : named v ≠ some k := by
          rw [same, name]
          exact fun eq => away (Option.some.inj eq).symm
        rw [if_neg free, if_neg fun both => free both.2]
      · simp only [ne_eq, same, not_false_eq_true, true_and]

theorem take_some {next : Option K} (found : take lists u next k = some l) :
    ∃ old, lists k = some old ∧ ∀ v, l.count v = old.count v + if v = u ∧ next = some k then 1 else 0 := by
  cases next with
  | none => exact ⟨l, found, fun v => by simp⟩
  | some j =>
    obtain ⟨old, stored, rfl⟩ := edit_some found
    refine ⟨old, stored, fun v => ?_⟩
    split
    · rename_i here
      rw [List.count_append, List.count_singleton]
      by_cases same : v = u
      · rw [same, here, beq_self_eq_true, if_pos rfl, if_pos ⟨rfl, rfl⟩]
      · rw [beq_eq_false_iff_ne.mpr fun eq => same eq.symm, if_neg Bool.false_ne_true,
          if_neg fun both => same both.1]
    · rename_i away
      rw [if_neg fun both => away (Option.some.inj both.2).symm, Nat.add_zero]

section
variable (attached : Attached lists named)
include attached

/-- A user that moves: it leaves the old list, joins the new one and takes
the new name. -/
theorem move (u : U) (next : Option K)
    (held : ∀ k, next = some k → lists k ≠ none) :
    Attached (take (release lists u (named u)) u next) (Function.update named u next) where
  once := by
    intro k l found v
    obtain ⟨old, left, joined⟩ := take_some found
    have before := attached.release_count u left v
    rw [joined v, before]
    by_cases same : v = u
    · rw [same, Function.update_self]
      simp
    · rw [Function.update_of_ne same]
      simp [same]
  held := by
    intro v k name
    rw [ne_eq, take_eq_none, release_eq_none]
    by_cases same : v = u
    · rw [same, Function.update_self] at name
      exact held k name
    · rw [Function.update_of_ne same] at name
      exact attached.held v k name

/-- A user that names nobody joins a holder. -/
theorem join (free : named u = none) (held : lists k ≠ none) :
    Attached (edit lists k fun l => l ++ [u]) (Function.update named u (some k)) := by
  have moved := attached.move u (some k) fun j isIt => Option.some.inj isIt ▸ held
  rw [free] at moved
  exact moved

/-- A user leaves the holder that it names. -/
theorem leave (name : named u = some k) :
    Attached (edit lists k fun l => l.erase u) (Function.update named u none) := by
  have moved := attached.move u none fun j isIt => by cases isIt
  rw [name] at moved
  exact moved

theorem congr (same : ∀ k, lists' k = lists k) (names : ∀ u, named' u = named u) : Attached lists' named' := by
  have lists_eq : lists' = lists := funext same
  have named_eq : named' = named := funext names
  rw [lists_eq, named_eq]
  exact attached

/-- The order of a list does not matter. -/
theorem perm
    (perm : ∀ k l', lists' k = some l' → ∃ l, lists k = some l ∧ l'.Perm l)
    (keep : ∀ k, lists k ≠ none → lists' k ≠ none) : Attached lists' named where
  once := by
    intro k l' found u
    obtain ⟨l, stored, same⟩ := perm k l' found
    rw [same.count_eq u]
    exact attached.once k l stored u
  held := fun u k name => keep k (attached.held u k name)

end

/-- No holders, and nobody names one. -/
theorem of_empty (lists_none : ∀ k, lists k = none) (unnamed : ∀ u, named u = none) : Attached lists named where
  once := by
    intro k l found
    rw [lists_none k] at found
    cases found
  held := by
    intro u k name
    rw [unnamed u] at name
    cases name

section
variable (attached : Attached lists named)
include attached

/-- Whoever lists nobody is named by nobody. -/
theorem unnamed (empty : lists k = some []) (u : U) : named u ≠ some k := by
  intro name
  have once := attached.once k [] empty u
  rw [if_pos name] at once
  cases once

theorem unnamed_of_absent (absent : lists k = none) (u : U) : named u ≠ some k :=
  fun name => attached.held u k name absent

/-- A new holder starts with an empty list. -/
theorem insert (absent : lists k = none) :
    Attached (Function.update lists k (some [])) named where
  once := by
    intro j l found u
    by_cases same : j = k
    · rw [same, Function.update_self] at found
      cases found
      rw [same, if_neg (attached.unnamed_of_absent absent u), List.count_nil]
    · rw [Function.update_of_ne same] at found
      exact attached.once j l found u
  held := by
    intro u j name
    by_cases same : j = k
    · rw [same, Function.update_self]
      exact Option.some_ne_none _
    · rw [Function.update_of_ne same]
      exact attached.held u j name

/-- A holder that lists nobody may go. -/
theorem erase (empty : lists k = some []) :
    Attached (Function.update lists k none) named where
  once := by
    intro j l found u
    by_cases same : j = k
    · rw [same, Function.update_self] at found
      cases found
    · rw [Function.update_of_ne same] at found
      exact attached.once j l found u
  held := by
    intro u j name
    by_cases same : j = k
    · exact absurd (same ▸ name) (attached.unnamed empty u)
    · rw [Function.update_of_ne same]
      exact attached.held u j name

/-- What a list holds names its holder. -/
theorem named_of_mem (found : lists k = some l) (member : u ∈ l) : named u = some k := by
  by_contra other
  have once := attached.once k l found u
  rw [if_neg other] at once
  exact List.count_eq_zero.mp once member

theorem mem_of_named (found : lists k = some l) (name : named u = some k) : u ∈ l := by
  have once := attached.once k l found u
  rw [if_pos name] at once
  exact List.count_pos_iff.mp (by omega)

/-- The list of a holder that nobody names is empty. -/
theorem empty_of_unnamed (found : lists k = some l) (unnamed : ∀ u, named u ≠ some k) : l = [] :=
  List.eq_nil_iff_forall_not_mem.mpr fun u member => unnamed u (attached.named_of_mem found member)

theorem nodup (found : lists k = some l) : l.Nodup := by
  rw [List.nodup_iff_count_le_one]
  intro u
  have once := attached.once k l found u
  split at once <;> omega

end

section Tree
variable {tree : KeyTree K H} {list : H → List U}

/-- The lists of the holders that a tree stores. -/
def ofTree (tree : KeyTree K H) (list : H → List U) (k : K) : Option (List U) := (tree.get k).map list

omit [DecidableEq U] in
theorem ofTree_modify {f : H → H} {g : List U → List U} (edits : ∀ h, list (f h) = g (list h))
    (j : K) : ofTree (tree.modify k f) list j = edit (ofTree tree list) k g j := by
  unfold ofTree edit
  rw [KeyTree.get_modify]
  split
  · rw [Option.map_map, Option.map_map]
    exact congrArg (fun h => (tree.get j).map h) (funext edits)
  · rfl

omit [DecidableEq U] in
theorem ofTree_put {h : H} (j : K) :
    ofTree (tree.put k h) list j = Function.update (ofTree tree list) k (some (list h)) j := by
  unfold ofTree
  rw [KeyTree.get_put, Function.update_apply]
  split
  · rfl
  · rfl

omit [DecidableEq U] in
theorem ofTree_del (j : K) : ofTree (tree.del k) list j = Function.update (ofTree tree list) k none j := by
  unfold ofTree
  rw [KeyTree.get_del, Function.update_apply]
  split
  · rfl
  · rfl

omit [DecidableEq U] in
/-- A write that keeps the list of a stored holder. -/
theorem ofTree_put_keep {old h : H} (stored : tree.get k = some old) (keep : list h = list old)
    (j : K) : ofTree (tree.put k h) list j = ofTree tree list j := by
  rw [ofTree_put, Function.update_apply]
  split
  · rename_i same
    rw [same, keep]
    unfold ofTree
    rw [stored]
    rfl
  · rfl

omit [DecidableEq U] in
theorem ofTree_modify_keep {f : H → H} (keep : ∀ h, list (f h) = list h) (j : K) :
    ofTree (tree.modify k f) list j = ofTree tree list j :=
  KeyTree.map_get_modify keep j

end Tree

section Names
variable {V : Type} {tree : KeyTree U V} {name : V → Option K}

/-- The holder that a stored user names; who is not stored names none. -/
def nameIn (tree : KeyTree U V) (name : V → Option K) (u : U) : Option K := (tree.get u).bind name

omit [DecidableEq K] in
theorem nameIn_put (u : U) (node : V) (v : U) :
    nameIn (tree.put u node) name v = Function.update (nameIn tree name) u (name node) v := by
  unfold nameIn
  rw [KeyTree.get_put, Function.update_apply]
  split
  · rfl
  · rfl

omit [DecidableEq K] in
theorem nameIn_modify {node : V} {g : V → V} {next : Option K} (stored : tree.get u = some node)
    (written : name (g node) = next) (v : U) :
    nameIn (tree.modify u g) name v = Function.update (nameIn tree name) u next v := by
  rw [KeyTree.modify_of_get stored, nameIn_put, written]

omit [DecidableEq K] in
theorem nameIn_modify_keep {g : V → V} (keep : ∀ node, name (g node) = name node) (v : U) :
    nameIn (tree.modify u g) name v = nameIn tree name v := by
  unfold nameIn
  rw [KeyTree.get_modify]
  split
  · rw [Option.bind_map]
    exact congrArg (fun h => (tree.get v).bind h) (funext keep)
  · rfl

omit [DecidableEq K] in
theorem nameIn_put_keep {old node : V} (stored : tree.get u = some old) (keep : name node = name old)
    (v : U) : nameIn (tree.put u node) name v = nameIn tree name v := by
  rw [nameIn_put, keep, Function.update_apply]
  split
  · rename_i same
    unfold nameIn
    rw [same, stored]
    rfl
  · rfl

omit [DecidableEq K] in
/-- A user comes or goes while it names nobody. -/
theorem nameIn_put_unnamed {node : V} (before : nameIn tree name u = none) (after : name node = none)
    (v : U) : nameIn (tree.put u node) name v = nameIn tree name v := by
  rw [nameIn_put, after, Function.update_apply]
  split
  · rename_i same
    rw [same, before]
  · rfl

omit [DecidableEq K] in
theorem nameIn_del_unnamed (before : nameIn tree name u = none) (v : U) :
    nameIn (tree.del u) name v = nameIn tree name v := by
  unfold nameIn at before ⊢
  rw [KeyTree.get_del]
  split
  · rename_i same
    rw [same, before]
    rfl
  · rfl

omit [DecidableEq K] in
theorem nameIn_eq_none (unnamed : ∀ node, tree.get u = some node → name node = none) :
    nameIn tree name u = none := by
  unfold nameIn
  cases stored : tree.get u with
  | none => rfl
  | some node => exact unnamed node stored

/-- A user leaves the list that a tree stores for its holder. -/
theorem put_erase {tree : KeyTree K (List U)} (attached : Attached tree.get named)
    (stored : tree.get k = some l) (member : u ∈ l) :
    Attached (tree.put k (l.erase u)).get (Function.update named u none) := by
  have moved := attached.move u none fun j isIt => by cases isIt
  rw [attached.named_of_mem stored member] at moved
  refine moved.congr (fun j => ?_) fun _ => rfl
  change _ = edit tree.get k (fun l => l.erase u) j
  unfold edit
  rw [KeyTree.get_put]
  split
  · rename_i same
    rw [same, stored]
    rfl
  · rfl

/-- A user that names no holder joins the list that a tree stores for one. -/
theorem put_append {tree : KeyTree K (List U)} (attached : Attached tree.get named)
    (stored : tree.get k = some l) (free : named u = none) :
    Attached (tree.put k (l ++ [u])).get (Function.update named u (some k)) := by
  have moved := attached.move u (some k) fun j isIt => by
    cases isIt
    rw [stored]
    exact Option.some_ne_none l
  rw [free] at moved
  refine moved.congr (fun j => ?_) fun _ => rfl
  change _ = edit tree.get k (fun l => l ++ [u]) j
  unfold edit
  rw [KeyTree.get_put]
  split
  · rename_i same
    rw [same, stored]
    rfl
  · rfl

/-- A new holder with its first user. -/
theorem put_single {tree : KeyTree K (List U)} (attached : Attached tree.get named)
    (absent : tree.get k = none) (free : named u = none) :
    Attached (tree.put k [u]).get (Function.update named u (some k)) := by
  have empty : Attached (tree.put k []).get named := by
    refine (attached.insert absent).congr (fun j => ?_) fun _ => rfl
    rw [Function.update_apply]
    exact KeyTree.get_put ..
  have joined := empty.put_append (KeyTree.get_put_self tree k []) free
  rw [KeyTree.put_put, List.nil_append] at joined
  exact joined

/-- A holder lists as many users as the tree stores that name it. -/
theorem length_eq_tally {tree : KeyTree U V} {name : V → Option K} (attached : Attached lists (nameIn tree name))
    (found : lists k = some l) :
    l.length = tree.tally fun _ node => decide (name node = some k) := by
  have members : l.toFinset = tree.keys.filter fun u => nameIn tree name u = some k := by
    ext u
    rw [List.mem_toFinset, Finset.mem_filter, KeyTree.mem_keys]
    constructor
    · intro member
      have named := attached.named_of_mem found member
      refine ⟨?_, named⟩
      obtain ⟨node, stored, _⟩ := Option.bind_eq_some_iff.mp named
      rw [stored]
      rfl
    · rintro ⟨_, named⟩
      exact attached.mem_of_named found named
  have counted : (tree.tally fun _ node => decide (name node = some k)) =
      ∑ u ∈ tree.keys, if nameIn tree name u = some k then 1 else 0 := by
    unfold KeyTree.tally
    rw [KeyTree.weigh_eq_sum]
    refine Finset.sum_congr rfl fun u _ => ?_
    unfold nameIn
    cases tree.get u with
    | none => rfl
    | some node => simp only [Option.map_some, Option.getD_some, Option.bind_some, decide_eq_true_eq]
  rw [counted, ← Finset.card_filter, ← members, List.toFinset_card_of_nodup (attached.nodup found)]

end Names
end Attached
