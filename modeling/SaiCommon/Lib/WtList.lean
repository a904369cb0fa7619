import Mathlib.Data.List.Basic
import Mathlib.Data.Nat.Basic

structure WtLink (A : Type) where
  self : A
  weight : Nat
deriving DecidableEq

abbrev WtList (A : Type) : Type := List (WtLink A)

namespace WtList
variable {A : Type} [DecidableEq A]

@[grind =]
def has : WtList A → A → Bool
  | [], _ => false
  | x :: rest, a => if x.self = a then true else has rest a

/-- The weight of `a`, over all of its links. -/
@[grind =]
def weightOf : WtList A → A → Nat
  | [], _ => 0
  | x :: rest, a => (if x.self = a then x.weight else 0) + weightOf rest a

@[grind =]
def total : WtList A → Nat
  | [] => 0
  | x :: rest => x.weight + total rest

/-- The first link of `a` gains one. -/
@[grind =]
def incr : WtList A → A → WtList A
  | [], _ => []
  | x :: rest, a => if x.self = a then { x with weight := x.weight + 1 } :: rest else x :: incr rest a

/-- The first link of `a` loses one and is dropped when nothing is left of it. -/
@[grind =]
def decr : WtList A → A → WtList A
  | [], _ => []
  | x :: rest, a =>
    if x.self = a then
      if x.weight = 0 then x :: rest
      else if x.weight = 1 then rest
      else { x with weight := x.weight - 1 } :: rest
    else x :: decr rest a

@[grind =]
def setWeight : WtList A → A → Nat → WtList A
  | [], _, _ => []
  | x :: rest, a, w => if x.self = a then { x with weight := w } :: rest else x :: setWeight rest a w

def append (l : WtList A) (a : A) (w : Nat) : WtList A := l ++ [⟨a, w⟩]

def without (l : WtList A) (a : A) : WtList A := l.filter fun x => x.self ≠ a

/-- One link for each partner at most, and none of weight zero. -/
structure WellFormed (l : WtList A) : Prop where
  single : l.Pairwise fun x y => x.self ≠ y.self
  positive : ∀ x ∈ l, 0 < x.weight

omit [DecidableEq A] in
theorem wellFormed_nil : WellFormed ([] : WtList A) :=
  ⟨List.Pairwise.nil, fun _ member => absurd member List.not_mem_nil⟩

omit [DecidableEq A] in
theorem WellFormed.tail {x : WtLink A} {l : WtList A} (wf : WellFormed (x :: l)) : WellFormed l :=
  ⟨(List.pairwise_cons.mp wf.single).2, fun y member => wf.positive y (List.mem_cons_of_mem _ member)⟩

omit [DecidableEq A] in
theorem WellFormed.cons {x : WtLink A} {l : WtList A} (wf : WellFormed l) (heavy : 0 < x.weight)
    (absent : ∀ y ∈ l, x.self ≠ y.self) : WellFormed (x :: l) := by
  refine ⟨List.pairwise_cons.mpr ⟨absent, wf.single⟩, ?_⟩
  intro y member
  rcases List.mem_cons.mp member with rfl | later
  · exact heavy
  · exact wf.positive y later

theorem has_iff_mem {l : WtList A} {a : A} : l.has a = true ↔ ∃ x ∈ l, x.self = a := by
  induction l with
  | nil => simp only [has, Bool.false_eq_true, List.not_mem_nil, false_and, exists_false]
  | cons x rest ih =>
    simp only [has, List.mem_cons, exists_eq_or_imp]
    split
    · rename_i same
      simp only [same, true_or]
    · rename_i other
      simp only [ih, other, false_or]

theorem weightOf_of_not_has {l : WtList A} {a : A} (absent : l.has a = false) : l.weightOf a = 0 := by
  induction l with
  | nil => rfl
  | cons x rest ih =>
    simp only [has] at absent
    split at absent
    · cases absent
    · rename_i other
      simp only [weightOf, if_neg other, ih absent]

theorem WellFormed.weightOf_pos {l : WtList A} {a : A} (wf : WellFormed l) : 0 < l.weightOf a ↔ l.has a = true := by
  induction l with
  | nil => simp only [weightOf, has, Nat.lt_irrefl, Bool.false_eq_true]
  | cons x rest ih =>
    simp only [weightOf, has]
    split
    · have heavy := wf.positive x List.mem_cons_self
      simp only [iff_true]
      omega
    · rw [Nat.zero_add]
      exact ih wf.tail

section Incr
variable {l : WtList A} {a : A}

theorem self_incr : (l.incr a).map WtLink.self = l.map WtLink.self := by
  induction l with
  | nil => rfl
  | cons x rest ih =>
    simp only [incr]
    split
    · simp only [List.map_cons]
    · simp only [List.map_cons, ih]

theorem weightOf_incr (present : l.has a = true) (b : A) :
    (l.incr a).weightOf b = l.weightOf b + if b = a then 1 else 0 := by
  induction l with
  | nil => cases present
  | cons x rest ih =>
    simp only [incr]
    split
    · rename_i same
      subst same
      by_cases here : b = x.self
      · subst here
        simp only [weightOf, if_true]
        omega
      · simp only [weightOf, if_neg here, if_neg (Ne.symm here), Nat.add_zero]
    · rename_i other
      simp only [has, if_neg other] at present
      simp only [weightOf, ih present]
      omega

theorem total_incr (present : l.has a = true) : (l.incr a).total = l.total + 1 := by
  induction l with
  | nil => cases present
  | cons x rest ih =>
    simp only [incr]
    split
    · simp only [total]
      omega
    rename_i other
    simp only [has, if_neg other] at present
    simp only [total, ih present]
    omega

theorem WellFormed.incr (wf : WellFormed l) : WellFormed (l.incr a) := by
  refine ⟨?_, ?_⟩
  · have single := wf.single
    rw [← List.pairwise_map (f := WtLink.self)] at single ⊢
    rwa [self_incr]
  · induction l with
    | nil => exact wf.positive
    | cons x rest ih =>
      intro y member
      simp only [WtList.incr] at member
      split at member
      · rcases List.mem_cons.mp member with rfl | later
        · exact Nat.succ_pos _
        · exact wf.positive y (List.mem_cons_of_mem _ later)
      · rcases List.mem_cons.mp member with rfl | later
        · exact wf.positive _ List.mem_cons_self
        · exact ih wf.tail y later

end Incr

section Append
variable {l : WtList A} {a : A} {w : Nat}

theorem weightOf_append (b : A) : (l.append a w).weightOf b = l.weightOf b + if b = a then w else 0 := by
  induction l with
  | nil =>
    simp only [append, List.nil_append, weightOf, Nat.zero_add, Nat.add_zero, eq_comm]
  | cons x rest ih =>
    simp only [append, List.cons_append, weightOf] at ih ⊢
    rw [ih]
    omega

omit [DecidableEq A] in
theorem total_append : (l.append a w).total = l.total + w := by
  induction l with
  | nil => simp only [append, List.nil_append, total, Nat.add_zero, Nat.zero_add]
  | cons x rest ih =>
    simp only [append, List.cons_append, total] at ih ⊢
    rw [ih]
    omega

theorem WellFormed.append (wf : WellFormed l) (absent : l.has a = false) (heavy : 0 < w) :
    WellFormed (l.append a w) := by
  have other : ∀ x ∈ l, x.self ≠ a := by
    intro x member same
    have present := has_iff_mem.mpr ⟨x, member, same⟩
    rw [absent] at present
    cases present
  refine ⟨List.pairwise_append.mpr ⟨wf.single, List.pairwise_singleton _ _, ?_⟩, ?_⟩
  · intro x member y last
    rw [List.mem_singleton.mp last]
    exact other x member
  · intro x member
    rcases List.mem_append.mp member with old | last
    · exact wf.positive x old
    · rw [List.mem_singleton.mp last]
      exact heavy

end Append

section Decr
variable {l : WtList A} {a : A}

theorem decr_of_not_has (absent : l.has a = false) : l.decr a = l := by
  induction l with
  | nil => rfl
  | cons x rest ih =>
    simp only [has] at absent
    split at absent
    · cases absent
    · rename_i other
      simp only [decr, if_neg other, ih absent]

theorem mem_decr {y : WtLink A} (member : y ∈ l.decr a) : ∃ x ∈ l, x.self = y.self := by
  induction l with
  | nil => cases member
  | cons x rest ih =>
    simp only [decr] at member
    split at member
    · split at member
      · exact ⟨y, member, rfl⟩
      split at member
      · exact ⟨y, List.mem_cons_of_mem _ member, rfl⟩
      rcases List.mem_cons.mp member with rfl | later
      · exact ⟨x, List.mem_cons_self, rfl⟩
      · exact ⟨y, List.mem_cons_of_mem _ later, rfl⟩
    · rcases List.mem_cons.mp member with rfl | later
      · exact ⟨y, List.mem_cons_self, rfl⟩
      · obtain ⟨z, old, same⟩ := ih later
        exact ⟨z, List.mem_cons_of_mem _ old, same⟩

theorem WellFormed.decr (wf : WellFormed l) : WellFormed (l.decr a) := by
  induction l with
  | nil => exact wf
  | cons x rest ih =>
    have fresh := (List.pairwise_cons.mp wf.single).1
    have heavy := wf.positive x List.mem_cons_self
    simp only [WtList.decr]
    split
    · split
      · exact wf
      split
      · exact wf.tail
      · exact wf.tail.cons (by simp only; omega) fresh
    · refine (ih wf.tail).cons heavy ?_
      intro y member
      obtain ⟨z, old, same⟩ := mem_decr member
      rw [← same]
      exact fresh z old

theorem WellFormed.weightOf_decr (wf : WellFormed l) (present : l.has a = true) (b : A) :
    (l.decr a).weightOf b + (if b = a then 1 else 0) = l.weightOf b := by
  induction l with
  | nil => cases present
  | cons x rest ih =>
    have heavy := wf.positive x List.mem_cons_self
    simp only [WtList.decr]
    split
    · rename_i same
      subst same
      have nonzero : x.weight ≠ 0 := by omega
      rw [if_neg nonzero]
      by_cases here : b = x.self
      · subst here
        split
        · simp only [weightOf, if_true]
          omega
        · simp only [weightOf, if_true]
          omega
      · rw [if_neg here]
        split
        · simp only [weightOf, if_neg (Ne.symm here)]
          omega
        · simp only [weightOf, if_neg (Ne.symm here)]
          omega
    · rename_i other
      simp only [has, if_neg other] at present
      have rest' := ih wf.tail present
      simp only [weightOf]
      omega

theorem WellFormed.total_decr (wf : WellFormed l) (present : l.has a = true) : (l.decr a).total + 1 = l.total := by
  induction l with
  | nil => cases present
  | cons x rest ih =>
    have heavy := wf.positive x List.mem_cons_self
    simp only [WtList.decr]
    split
    · have nonzero : x.weight ≠ 0 := by omega
      rw [if_neg nonzero]
      split
      · simp only [total]
        omega
      · simp only [total]
        omega
    · rename_i other
      simp only [has, if_neg other] at present
      have rest' := ih wf.tail present
      simp only [total]
      omega

/-- A link that gained one is as before when it loses one. -/
theorem WellFormed.decr_incr (wf : WellFormed l) (present : l.has a = true) : (l.incr a).decr a = l := by
  induction l with
  | nil => cases present
  | cons x rest ih =>
    simp only [WtList.incr]
    split
    · rename_i same
      have heavy := wf.positive x List.mem_cons_self
      have nonzero : x.weight + 1 ≠ 0 := by omega
      have more : x.weight + 1 ≠ 1 := by omega
      simp only [WtList.decr, if_pos same, if_neg nonzero, if_neg more, Nat.add_sub_cancel]
    · rename_i other
      simp only [has, if_neg other] at present
      simp only [WtList.decr, if_neg other, ih wf.tail present]

theorem decr_append (absent : l.has a = false) : (l.append a 1).decr a = l := by
  induction l with
  | nil => simp only [append, List.nil_append, decr, if_true, Nat.one_ne_zero, if_false]
  | cons x rest ih =>
    simp only [has] at absent
    split at absent
    · cases absent
    rename_i other
    simp only [append] at ih
    simp only [append, List.cons_append, decr, if_neg other, ih absent]

end Decr

section SetWeight
variable {l : WtList A} {a : A} {w : Nat}

theorem self_setWeight : (l.setWeight a w).map WtLink.self = l.map WtLink.self := by
  induction l with
  | nil => rfl
  | cons x rest ih =>
    simp only [setWeight]
    split
    · simp only [List.map_cons]
    · simp only [List.map_cons, ih]

theorem WellFormed.setWeight (wf : WellFormed l) (heavy : 0 < w) : WellFormed (l.setWeight a w) := by
  refine ⟨?_, ?_⟩
  · have single := wf.single
    rw [← List.pairwise_map (f := WtLink.self)] at single ⊢
    rwa [self_setWeight]
  · induction l with
    | nil => exact wf.positive
    | cons x rest ih =>
      intro y member
      simp only [WtList.setWeight] at member
      split at member
      · rcases List.mem_cons.mp member with rfl | later
        · exact heavy
        · exact wf.positive y (List.mem_cons_of_mem _ later)
      · rcases List.mem_cons.mp member with rfl | later
        · exact wf.positive _ List.mem_cons_self
        · exact ih wf.tail y later

theorem has_setWeight (b : A) : (l.setWeight a w).has b = l.has b := by
  induction l with
  | nil => rfl
  | cons x rest ih =>
    simp only [setWeight]
    split
    · simp only [has]
    · simp only [has, ih]

theorem WellFormed.weightOf_setWeight (wf : WellFormed l) (present : l.has a = true) (b : A) :
    (l.setWeight a w).weightOf b = if b = a then w else l.weightOf b := by
  induction l with
  | nil => cases present
  | cons x rest ih =>
    simp only [WtList.setWeight]
    split
    · rename_i same
      subst same
      by_cases here : b = x.self
      · subst here
        have absent : WtList.weightOf rest x.self = 0 := by
          refine weightOf_of_not_has (Bool.eq_false_iff.mpr fun there => ?_)
          obtain ⟨y, member, same⟩ := has_iff_mem.mp there
          exact (List.pairwise_cons.mp wf.single).1 y member same.symm
        simp only [weightOf, if_true, absent, Nat.add_zero]
      · simp only [weightOf, if_neg here, if_neg (Ne.symm here)]
    · rename_i other
      simp only [has, if_neg other] at present
      simp only [weightOf, ih wf.tail present]
      by_cases here : b = a
      · subst here
        simp only [if_neg other, if_true, Nat.zero_add]
      · simp only [if_neg here]

theorem WellFormed.weightOf_drop_has (wf : WellFormed l) (present : l.has a = true) (b : A) :
    ((l.setWeight a 1).decr a).weightOf b = if b = a then 0 else l.weightOf b := by
  have wf' : WellFormed (l.setWeight a 1) := wf.setWeight Nat.one_pos
  have taken := wf'.weightOf_decr (a := a) ((has_setWeight a).trans present) b
  rw [wf.weightOf_setWeight present] at taken
  split at taken
  · rename_i same
    rw [if_pos same]
    omega
  · rename_i other
    rw [if_neg other]
    omega

theorem drop_of_not_has (absent : l.has a = false) : (l.setWeight a w).decr a = l := by
  have same : l.setWeight a w = l := by
    induction l with
    | nil => rfl
    | cons x rest ih =>
      simp only [has] at absent
      split at absent
      · cases absent
      · rename_i other
        simp only [setWeight, if_neg other, ih absent]
  rw [same, decr_of_not_has absent]

/-- A link forced to weight one and then taken away takes all of `a` along. -/
theorem WellFormed.weightOf_drop (wf : WellFormed l) (b : A) :
    ((l.setWeight a 1).decr a).weightOf b = if b = a then 0 else l.weightOf b := by
  cases present : l.has a with
  | true => exact wf.weightOf_drop_has present b
  | false =>
    rw [drop_of_not_has present]
    split
    · rename_i same
      rw [same]
      exact weightOf_of_not_has present
    · rfl

theorem WellFormed.eq_nil (wf : WellFormed l) (empty : ∀ b, l.weightOf b = 0) : l = [] := by
  cases l with
  | nil => rfl
  | cons x rest =>
    have heavy := wf.positive x List.mem_cons_self
    have zero := empty x.self
    simp only [weightOf, if_true] at zero
    omega

end SetWeight

section Without
variable {l : WtList A} {a : A} {w : Nat}

theorem without_cons_self {x : WtLink A} (same : x.self = a) : without (x :: l) a = l.without a := by
  refine List.filter_cons_of_neg ?_
  simp only [same, ne_eq, not_true_eq_false, decide_false, Bool.false_eq_true, not_false_eq_true]

theorem without_cons_ne {x : WtLink A} (other : x.self ≠ a) : without (x :: l) a = x :: l.without a := by
  refine List.filter_cons_of_pos ?_
  simp only [ne_eq, other, not_false_eq_true, decide_true]

theorem without_incr : (l.incr a).without a = l.without a := by
  induction l with
  | nil => rfl
  | cons x rest ih =>
    simp only [incr]
    split
    · rename_i same
      rw [without_cons_self same]
      exact without_cons_self same
    · rename_i other
      rw [without_cons_ne other, without_cons_ne other, ih]

theorem without_append : (l.append a w).without a = l.without a := by
  have last : without [(⟨a, w⟩ : WtLink A)] a = [] := without_cons_self rfl
  rw [append, without, List.filter_append]
  exact (congrArg (without l a ++ ·) last).trans (List.append_nil _)

theorem without_decr : (l.decr a).without a = l.without a := by
  induction l with
  | nil => rfl
  | cons x rest ih =>
    simp only [decr]
    split
    · rename_i same
      rw [without_cons_self same]
      split
      · exact without_cons_self same
      split
      · rfl
      · exact without_cons_self same
    · rename_i other
      rw [without_cons_ne other, without_cons_ne other, ih]

theorem without_setWeight : (l.setWeight a w).without a = l.without a := by
  induction l with
  | nil => rfl
  | cons x rest ih =>
    simp only [setWeight]
    split
    · rename_i same
      rw [without_cons_self same]
      exact without_cons_self same
    · rename_i other
      rw [without_cons_ne other, without_cons_ne other, ih]

theorem without_of_not_has (absent : l.has a = false) : l.without a = l := by
  refine List.filter_eq_self.mpr fun x member => ?_
  have other : x.self ≠ a := by
    intro same
    have present := has_iff_mem.mpr ⟨x, member, same⟩
    rw [absent] at present
    cases present
  simp only [ne_eq, other, not_false_eq_true, decide_true]

end Without
end WtList
