import Mathlib.Data.List.TakeWhile
import Mathlib.Logic.Function.Basic

/-! A change that is told to the members of a list one by one, until a member
refuses it. -/
namespace Push
variable {I V E : Type} [DecidableEq E]

/-- The members before the first that refuses. -/
def told (ok : E) (answer : I → E) (members : List I) : List I := members.takeWhile fun i => answer i = ok

section Told
variable {ok : E} {answer : I → E} {i : I} {members rest : List I}

theorem told_cons_ok (accepts : answer i = ok) : told ok answer (i :: rest) = i :: told ok answer rest :=
  List.takeWhile_cons_of_pos (decide_eq_true accepts)

theorem told_cons_error (refuses : answer i ≠ ok) : told ok answer (i :: rest) = [] :=
  List.takeWhile_cons_of_neg fun is => refuses (of_decide_eq_true is)

theorem mem_of_told (member : i ∈ told ok answer members) : i ∈ members :=
  (List.takeWhile_prefix _).subset member

theorem told_eq_self (all : ∀ i ∈ members, answer i = ok) : told ok answer members = members :=
  List.takeWhile_eq_self_iff.mpr fun i member => decide_eq_true (all i member)

end Told

variable [DecidableEq I]

/-- `answer` is the status of telling a member, `put` what a member that accepts
makes of what it holds. -/
def run (ok : E) (answer : I → E) (put : V → V) : List I → (I → V) → (I → V) × E
  | [], held => (held, ok)
  | i :: rest, held =>
    if answer i = ok then run ok answer put rest (Function.update held i (put (held i)))
    else (held, answer i)

variable {ok : E} {answer : I → E} {put : V → V} {i j : I} {members rest : List I} {held : I → V}

theorem run_cons_ok (accepts : answer i = ok) : run ok answer put (i :: rest) held =
    run ok answer put rest (Function.update held i (put (held i))) :=
  if_pos accepts

theorem run_cons_error (refuses : answer i ≠ ok) : run ok answer put (i :: rest) held = (held, answer i) :=
  if_neg refuses

theorem run_ok_iff (members : List I) : ∀ held : I → V,
    (run ok answer put members held).2 = ok ↔ ∀ i ∈ members, answer i = ok := by
  induction members with
  | nil => exact fun held => iff_of_true rfl fun i member => absurd member List.not_mem_nil
  | cons i rest ih =>
    intro held
    by_cases accepts : answer i = ok
    · rw [run_cons_ok accepts, ih, List.forall_mem_cons, and_iff_right accepts]
    · rw [run_cons_error accepts]
      exact iff_of_false accepts fun all => accepts (all i List.mem_cons_self)

/-- The status is that of the first member that refuses. -/
theorem run_status (ok : E) (answer : I → E) (put : V → V) (members : List I) : ∀ held : I → V,
    (run ok answer put members held).2 = ((members.find? fun i => answer i ≠ ok).map answer).getD ok := by
  induction members with
  | nil => exact fun held => rfl
  | cons i rest ih =>
    intro held
    by_cases accepts : answer i = ok
    · rw [run_cons_ok accepts, ih, List.find?_cons_of_neg (by simp [accepts])]
    · rw [run_cons_error accepts, List.find?_cons_of_pos (by simp [accepts])]
      rfl

section
variable (idem : ∀ v, put (put v) = put v)
include idem

/-- Who was told holds the change, who was not holds what it held. -/
theorem run_held (members : List I) : ∀ (held : I → V) (j : I), (run ok answer put members held).1 j =
      if j ∈ told ok answer members then put (held j) else held j := by
  induction members with
  | nil => exact fun held j => (if_neg List.not_mem_nil).symm
  | cons i rest ih =>
    intro held j
    by_cases accepts : answer i = ok
    · rw [run_cons_ok accepts, ih, told_cons_ok accepts]
      by_cases here : j = i
      · subst here
        rw [Function.update_self, if_pos List.mem_cons_self, idem, ite_self]
      · rw [Function.update_of_ne here]
        simp only [List.mem_cons, here, false_or]
    · rw [run_cons_error accepts, told_cons_error accepts, if_neg List.not_mem_nil]

theorem run_all (all : ∀ i ∈ members, answer i = ok) (member : j ∈ members) :
    (run ok answer put members held).1 j = put (held j) := by
  rw [run_held idem, told_eq_self all, if_pos member]

end

/-- Nobody holds anything else than before exactly when who was told held the
change already. -/
theorem run_same_iff (idem : ∀ v, put (put v) = put v) :
    (∀ j ∈ members, (run ok answer put members held).1 j = held j) ↔
      ∀ i ∈ told ok answer members, put (held i) = held i := by
  constructor
  · intro same i member
    have kept := same i (mem_of_told member)
    rw [run_held idem, if_pos member] at kept
    exact kept
  · intro had j _
    rw [run_held idem]
    split
    · rename_i member
      exact had j member
    · rfl

theorem run_append (first second : List I) : ∀ held : I → V, run ok answer put (first ++ second) held =
      if (run ok answer put first held).2 = ok then run ok answer put second (run ok answer put first held).1
      else run ok answer put first held := by
  induction first with
  | nil => exact fun held => (if_pos rfl).symm
  | cons i rest ih =>
    intro held
    rw [List.cons_append]
    by_cases accepts : answer i = ok
    · rw [run_cons_ok accepts, run_cons_ok accepts, ih]
    · rw [run_cons_error accepts, run_cons_error accepts, if_neg accepts]

end Push
