import Mathlib.Data.List.Nodup

/-! Lists of entries with a key each, of which a set changes the first entry with its key or adds one. -/

/-- What a set of the key `k` makes of a list: nothing, its first entry with the key
changed, or a new entry behind the others. -/
inductive KeyedSet {α κ : Type} (key : α → κ) (k : κ) (f : α → α) (isNew : α → Prop) (old : List α) :
    List α → Prop
  | same : KeyedSet key k f isNew old old
  | changed (before after : List α) (given : α) (split : old = before ++ given :: after)
      (apart : ∀ entry ∈ before, key entry ≠ k) (here : key given = k) :
      KeyedSet key k f isNew old (before ++ f given :: after)
  | added (entry : α) (made : isNew entry) (absent : ∀ other ∈ old, key other ≠ k) :
      KeyedSet key k f isNew old (old ++ [entry])

section
variable {α κ : Type} {key : α → κ} {k : κ} {f : α → α} {isNew : α → Prop} {old result : List α}

section Update
variable {u : List α → List α} {given : α}
  (hit : ∀ entry rest, key entry = k → u (entry :: rest) = f entry :: rest)
  (skip : ∀ entry rest, key entry ≠ k → u (entry :: rest) = entry :: u rest)
include hit skip

/-- A function that goes through a list up to the key. -/
theorem update_append {before after : List α} (apart : ∀ entry ∈ before, key entry ≠ k) (here : key given = k) :
    u (before ++ given :: after) = before ++ f given :: after := by
  induction before with
  | nil => exact hit given after here
  | cons entry rest ih =>
    obtain ⟨differs, apart⟩ := List.forall_mem_cons.mp apart
    rw [List.cons_append, skip entry _ differs, ih apart, List.cons_append]

theorem KeyedSet.of_update [DecidableEq κ] (found : (old.find? fun entry => key entry == k) = some given) :
    KeyedSet key k f isNew old (u old) := by
  obtain ⟨isIt, before, after, split, others⟩ := List.find?_eq_some_iff_append.mp found
  have here : key given = k := beq_iff_eq.mp isIt
  have apart : ∀ entry ∈ before, key entry ≠ k := fun entry member same => by
    have differs := others entry member
    rw [beq_iff_eq.mpr same] at differs
    cases differs
  rw [split, update_append hit skip apart here]
  exact .changed before after given rfl apart here

/-- The first entry of a kind is changed when it is the one that is set. -/
theorem find_update {q : κ → Bool} (keeps : key (f given) = key given)
    (first : (old.find? fun entry => q (key entry)) = some given) (here : key given = k) :
    ((u old).find? fun entry => q (key entry)) = some (f given) := by
  obtain ⟨isOne, before, after, rfl, others⟩ := List.find?_eq_some_iff_append.mp first
  have apart : ∀ entry ∈ before, key entry ≠ k := fun entry member same => by
    have differs := others entry member
    rw [same, ← here, isOne] at differs
    cases differs
  rw [update_append hit skip apart here]
  exact List.find?_eq_some_iff_append.mpr ⟨by rw [keeps]; exact isOne, before, after, rfl, others⟩

end Update

theorem find_key [DecidableEq κ] {q : κ → Bool} {given : α}
    (first : (old.find? fun entry => q (key entry)) = some given)
    (here : key given = k) : (old.find? fun entry => key entry == k) = some given := by
  obtain ⟨isOne, before, after, split, others⟩ := List.find?_eq_some_iff_append.mp first
  refine List.find?_eq_some_iff_append.mpr ⟨beq_iff_eq.mpr here, before, after, split, fun entry member => ?_⟩
  cases same : key entry == k with
  | false => rfl
  | true =>
    have differs := others entry member
    rw [beq_iff_eq.mp same, ← here, isOne] at differs
    cases differs

theorem KeyedSet.all {p : α → Prop} (set : KeyedSet key k f isNew old result) (all : ∀ entry ∈ old, p entry)
    (updated : ∀ given ∈ old, key given = k → p (f given)) (made : ∀ entry, isNew entry → p entry) :
    ∀ entry ∈ result, p entry := by
  cases set with
  | same => exact all
  | changed before after given split _ here =>
    have isIn : given ∈ old := by
      rw [split]
      exact List.mem_append_right before List.mem_cons_self
    rw [split, List.forall_mem_append, List.forall_mem_cons] at all
    exact List.forall_mem_append.mpr ⟨all.1, List.forall_mem_cons.mpr ⟨updated given isIn here, all.2.2⟩⟩
  | added entry isNew => exact List.forall_mem_append.mpr ⟨all, List.forall_mem_singleton.mpr (made entry isNew)⟩

variable (set : KeyedSet key k f isNew old result) (keeps : ∀ given, key given = k → key (f given) = k)
  (made : ∀ entry, isNew entry → key entry = k)
include set keeps made

/-- No key is there twice after a set when none was before. -/
theorem KeyedSet.nodup (unique : (old.map key).Nodup) : (result.map key).Nodup := by
  cases set with
  | same => exact unique
  | changed before after given split _ here =>
    rw [split, List.map_append, List.map_cons, here] at unique
    rw [List.map_append, List.map_cons, keeps given here]
    exact unique
  | added entry isNew absent =>
    rw [List.map_append, List.map_singleton, made entry isNew, ← List.concat_eq_append]
    refine unique.concat fun member => ?_
    obtain ⟨other, isIn, same⟩ := List.mem_map.mp member
    exact absent other isIn same

/-- A set leaves the first entry of a kind, unless it is the one that is set. -/
theorem KeyedSet.find {q : κ → Bool}
    (other : ∀ entry, (old.find? fun entry => q (key entry)) = some entry → key entry ≠ k)
    (absent : (old.find? fun entry => q (key entry)) = none → q k = false) :
    (result.find? fun entry => q (key entry)) = old.find? fun entry => q (key entry) := by
  cases set with
  | same => rfl
  | changed before after given split _ here =>
    rw [split, List.find?_append] at other
    rw [split, List.find?_append, List.find?_append]
    cases first : before.find? fun entry => q (key entry) with
    | some => rfl
    | none =>
      rw [first] at other
      rw [List.find?_cons, List.find?_cons, keeps given here, here]
      cases isOne : q k with
      | false => rfl
      | true =>
        rw [List.find?_cons, here, isOne, Option.none_or] at other
        exact absurd here (other given rfl)
  | added entry isNew =>
    rw [List.find?_append]
    cases found : old.find? fun entry => q (key entry) with
    | some first => rfl
    | none => rw [Option.none_or, List.find?_singleton, made entry isNew, absent found]; rfl

end
