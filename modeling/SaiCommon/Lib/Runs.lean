import Mathlib.Logic.Relation

namespace Runs
variable {S A : Type}

/-- The states that runs of `step` reach from a `first` state. -/
inductive Reach (first : S → Prop) (step : S → A → S → Prop) : S → Prop
  | start {s : S} (initial : first s) : Reach first step s
  | next {s t : S} {a : A} (reach : Reach first step s) (moved : step s a t) : Reach first step t

/-- Steps of a deterministic machine, taken only where `ok` allows them. -/
def guarded (ok : S → A → Prop) (act : S → A → S) (s : S) (a : A) (t : S) : Prop :=
  ok s a ∧ t = act s a

variable {first : S → Prop} {step : S → A → S → Prop}

/-- An invariant that holds at the start and survives every step holds of
every reachable state. -/
theorem Reach.invariant {s : S} (reach : Reach first step s) (Inv : S → Prop)
    (initial : ∀ s, first s → Inv s) (keep : ∀ s a t, Inv s → step s a t → Inv t) : Inv s := by
  induction reach with
  | start at0 => exact initial _ at0
  | next _ moved ih => exact keep _ _ _ ih moved

theorem Reach.mono {first' : S → Prop} {step' : S → A → S → Prop} {s : S}
    (reach : Reach first step s) (wider : ∀ s, first s → first' s)
    (more : ∀ s a t, step s a t → step' s a t) : Reach first' step' s := by
  induction reach with
  | start at0 => exact .start (wider _ at0)
  | next _ moved ih => exact .next ih (more _ _ _ moved)

/-- Every action of the list is allowed in the state it is taken in. -/
def AllowedRun (ok : S → A → Prop) (act : S → A → S) : S → List A → Prop
  | _, [] => True
  | s, a :: as => ok s a ∧ AllowedRun ok act (act s a) as

theorem Reach.run {ok : S → A → Prop} {act : S → A → S} {s : S} {as : List A}
    (reach : Reach first (guarded ok act) s) (allowed : AllowedRun ok act s as) :
    Reach first (guarded ok act) (as.foldl act s) := by
  induction as generalizing s with
  | nil => exact reach
  | cons a as ih => exact ih (.next reach ⟨allowed.1, rfl⟩) allowed.2

theorem allowedRun_of_forall {ok : S → A → Prop} {act : S → A → S} (all : ∀ s a, ok s a)
    (s : S) (as : List A) : AllowedRun ok act s as := by
  induction as generalizing s with
  | nil => trivial
  | cons a as ih => exact ⟨all s a, ih (act s a)⟩

section Answers
variable {R T : Type} (act : S → A → S) (reply : S → A → R)

/-- What the actions of a run answer. -/
def answers : S → List A → List R
  | _, [] => []
  | s, a :: as => reply s a :: answers (act s a) as

variable {act reply} {act' : T → A → T} {reply' : T → A → R}

/-- A machine that a step of another one follows, answer by answer, is followed in every run. -/
theorem answers_eq_of_step {Inv : S → Prop} {ok : S → A → Prop} {abs : S → T}
    (step : ∀ s a, Inv s → ok s a →
      Inv (act s a) ∧ abs (act s a) = act' (abs s) a ∧ reply s a = reply' (abs s) a)
    {s : S} {as : List A} (inv : Inv s) (allowed : AllowedRun ok act s as) :
    Inv (as.foldl act s) ∧ abs (as.foldl act s) = as.foldl act' (abs s) ∧
      answers act reply s as = answers act' reply' (abs s) as := by
  induction as generalizing s with
  | nil => exact ⟨inv, rfl, rfl⟩
  | cons a as ih =>
    obtain ⟨kept, same, reply⟩ := step s a inv allowed.1
    obtain ⟨atEnd, final, rest⟩ := ih kept allowed.2
    refine ⟨atEnd, ?_, ?_⟩
    · rw [List.foldl_cons, List.foldl_cons, final, same]
    · unfold answers
      rw [rest, same, reply]

end Answers

end Runs
