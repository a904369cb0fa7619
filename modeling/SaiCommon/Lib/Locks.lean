import Mathlib.Logic.Function.Basic

namespace Locks
variable {M : Type} [DecidableEq M]

/-- What a call does to a mutex. -/
inductive Op (M : Type)
  | lock (m : M)
  | unlock (m : M)
deriving DecidableEq

/-- The flags after the operations of a call, none when one of them waits for ever. -/
def run (held : M → Bool) : List (Op M) → Option (M → Bool)
  | [] => some held
  | .lock m :: rest => if held m then none else run (Function.update held m true) rest
  | .unlock m :: rest => run (Function.update held m false) rest

/-- The mutexes that the call has behind the operations, none when it locks one
that it has or unlocks one that it has not. -/
def owned (own : M → Bool) : List (Op M) → Option (M → Bool)
  | [] => some own
  | .lock m :: rest => if own m then none else owned (Function.update own m true) rest
  | .unlock m :: rest => if own m then owned (Function.update own m false) rest else none

def free : M → Bool := fun _ => false

/-- The call gives back what it takes, takes nothing twice and gives nothing else back. -/
def GivenBack (ops : List (Op M)) : Prop := owned free ops = some free

/-- `inner` between a lock and the unlock. -/
def within (m : M) (inner : List (Op M)) : List (Op M) := .lock m :: inner ++ [.unlock m]

/-- A call that has none of the mutexes `used` leaves as it came. -/
def Neutral (used : M → Prop) (ops : List (Op M)) : Prop :=
  ∀ own : M → Bool, (∀ m, used m → own m = false) → owned own ops = some own

variable {own held : M → Bool} {used : M → Prop} {ops more : List (Op M)} {m : M}

theorem owned_append (ops more : List (Op M)) : ∀ own : M → Bool,
    owned own (ops ++ more) = (owned own ops).bind fun next => owned next more := by
  induction ops with
  | nil => exact fun own => rfl
  | cons op rest ih =>
    intro own
    cases op with
    | lock m =>
      dsimp only [List.cons_append, owned]
      split
      · rfl
      · exact ih _
    | unlock m =>
      dsimp only [List.cons_append, owned]
      split
      · exact ih _
      · rfl

/-- A call that keeps the discipline does not wait when nobody else has a mutex. -/
theorem run_of_owned (ops : List (Op M)) : ∀ own next : M → Bool, owned own ops = some next →
    run own ops = some next := by
  induction ops with
  | nil => exact fun own next done => done
  | cons op rest ih =>
    intro own next done
    cases op with
    | lock m =>
      dsimp only [owned, run] at done ⊢
      split at done
      · cases done
      rename_i free
      rw [if_neg free]
      exact ih _ _ done
    | unlock m =>
      dsimp only [owned, run] at done ⊢
      split at done
      · exact ih _ _ done
      · cases done

theorem GivenBack.run (back : GivenBack ops) : Locks.run free ops = some free := run_of_owned ops free free back

theorem Neutral.nil : Neutral used ([] : List (Op M)) := fun _ _ => rfl

theorem Neutral.append (one : Neutral used ops) (two : Neutral used more) : Neutral used (ops ++ more) := by
  intro own unused
  rw [owned_append, one own unused]
  exact two own unused

/-- What stands between the lock and the unlock may use other mutexes. -/
theorem Neutral.within (inner : Neutral used ops) (other : ¬ used m) :
    Neutral (fun k => k = m ∨ used k) (Locks.within m ops) := by
  intro own unused
  have freeM : own m = false := unused m (.inl rfl)
  have locked : owned (Function.update own m true) ops = some (Function.update own m true) := by
    refine inner _ fun k uses => ?_
    rw [Function.update_of_ne fun same => other (by rw [← same]; exact uses)]
    exact unused k (.inr uses)
  unfold Locks.within
  rw [List.cons_append]
  dsimp only [owned]
  rw [if_neg (by rw [freeM]; decide), owned_append, locked]
  dsimp only [Option.bind, owned]
  rw [if_pos (Function.update_self m true own), Function.update_idem]
  exact congrArg some (Function.update_eq_self_iff.mpr freeM.symm)

theorem Neutral.mono (neutral : Neutral used ops) {more : M → Prop} (wider : ∀ m, used m → more m) :
    Neutral more ops :=
  fun own unused => neutral own fun m uses => unused m (wider m uses)

theorem Neutral.given (neutral : Neutral used ops) : GivenBack ops := neutral free fun _ _ => rfl

theorem GivenBack.nil : GivenBack ([] : List (Op M)) := rfl

/-- A lock and the unlock with nothing between them. -/
theorem GivenBack.within (m : M) : GivenBack (Locks.within m []) := by
  have inner : Neutral (fun _ : M => False) ([] : List (Op M)) := Neutral.nil
  exact (inner.within not_false).given

theorem GivenBack.append (one : GivenBack ops) (two : GivenBack more) : GivenBack (ops ++ more) := by
  unfold GivenBack
  rw [owned_append, one]
  exact two

/-- A mutex that is left locked is not given back. -/
theorem not_givenBack {next : M → Bool} (done : owned free ops = some next) (left : next m = true) :
    ¬ GivenBack ops := by
  intro back
  rw [GivenBack, done] at back
  cases back
  cases left

end Locks
