import SaiCommon.Lib.Attachment

/-- Holders that list their users at most once, and nobody who does not name them.
A user may be missing from the list of the holder that it names. -/
structure Listed {K U : Type} [DecidableEq K] [DecidableEq U] (lists : K → Option (List U))
    (named : U → Option K) : Prop where
  most : ∀ k l, lists k = some l → ∀ u, l.count u ≤ if named u = some k then 1 else 0

namespace Listed
variable {K U : Type} [DecidableEq K] [DecidableEq U] {lists lists' : K → Option (List U)}
  {named named' : U → Option K}

theorem of_attached (attached : Attached lists named) : Listed lists named where
  most k l found u := (attached.once k l found u).le

section
variable (listed : Listed lists named)
include listed

theorem congr (same : ∀ k, lists' k = lists k) (names : ∀ u, named' u = named u) : Listed lists' named' := by
  have lists_eq : lists' = lists := funext same
  have named_eq : named' = named := funext names
  rw [lists_eq, named_eq]
  exact listed

theorem named_of_mem {k : K} {l : List U} (found : lists k = some l) {u : U}
    (member : u ∈ l) : named u = some k := by
  by_contra other
  have most := listed.most k l found u
  rw [if_neg other] at most
  have positive := List.count_pos_iff.mpr member
  omega

/-- A user that has left its holder's list is in no list. -/
theorem release_count (u : U) {k : K} {l : List U} (found : Attached.release lists u (named u) k = some l) (v : U) :
    l.count v ≤ if v ≠ u ∧ named v = some k then 1 else 0 := by
  have kept : ∀ old, lists k = some old → (v = u → named u ≠ some k) →
      old.count v ≤ if v ≠ u ∧ named v = some k then 1 else 0 := by
    intro old stored away
    have most := listed.most k old stored v
    by_cases same : v = u
    · rw [same, if_neg (away same)] at most
      rw [same]
      omega
    · simpa only [ne_eq, same, not_false_eq_true, true_and] using most
  cases name : named u with
  | none =>
    rw [name] at found
    exact kept l found fun _ => by rw [name]; exact fun eq => (by cases eq)
  | some j =>
    rw [name] at found
    obtain ⟨old, stored, rfl⟩ := Attached.edit_some found
    split
    · rename_i here
      have most := listed.most k old stored v
      rw [List.count_erase]
      by_cases same : v = u
      · rw [same] at most ⊢
        rw [name, if_pos (congrArg some here.symm)] at most
        rw [beq_self_eq_true, if_pos rfl]
        omega
      · rw [beq_eq_false_iff_ne.mpr fun eq => same eq.symm]
        simpa only [ne_eq, same, not_false_eq_true, true_and, Bool.false_eq_true, if_false, Nat.sub_zero] using most
    · rename_i away
      refine kept old stored fun _ eq => away ?_
      rw [name] at eq
      exact (Option.some.inj eq).symm

/-- A user leaves the list of the holder that it names and goes on naming it. -/
theorem release (u : U) : Listed (Attached.release lists u (named u)) named where
  most k l found v := by
    have count := listed.release_count u found v
    by_cases name : named v = some k
    · rw [if_pos name]
      split at count <;> omega
    · rw [if_neg fun both => name both.2] at count
      omega

end

/-- A user that moves: it leaves the old list, joins the new one and takes
the new name. -/
theorem move (listed : Listed lists named) (u : U) (next : Option K) :
    Listed (Attached.take (Attached.release lists u (named u)) u next) (Function.update named u next) where
  most k l found v := by
    obtain ⟨old, left, joined⟩ := Attached.take_some found
    have count := listed.release_count u left v
    rw [joined v]
    by_cases same : v = u
    · rw [same, Function.update_self]
      rw [same, if_neg (by simp)] at count
      simp only [true_and]
      omega
    · rw [Function.update_of_ne same, if_neg fun both => same both.1, Nat.add_zero]
      simpa only [ne_eq, same, not_false_eq_true, true_and] using count

/-- A new holder starts with an empty list. -/
theorem insert (listed : Listed lists named) (k : K) : Listed (Function.update lists k (some [])) named where
  most j l found u := by
    by_cases same : j = k
    · rw [same, Function.update_self] at found
      cases found
      rw [List.count_nil]
      omega
    · rw [Function.update_of_ne same] at found
      exact listed.most j l found u

theorem erase (listed : Listed lists named) (k : K) : Listed (Function.update lists k none) named where
  most j l found u := by
    by_cases same : j = k
    · rw [same, Function.update_self] at found
      cases found
    · rw [Function.update_of_ne same] at found
      exact listed.most j l found u

end Listed
