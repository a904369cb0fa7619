import Mathlib.Data.List.Basic

/-! Loops over a list that stop at the first error. -/
namespace ErrorLoop
variable {C S E K : Type} [DecidableEq E]

/-- `ok` is the status of a step that lets the loop go on. -/
def run (ok : E) (step : C → S → S × E) : List C → S → S × E
  | [], s => (s, ok)
  | c :: rest, s => if (step c s).2 = ok then run ok step rest (step c s).1 else step c s

variable {ok : E} {step : C → S → S × E}

theorem run_cons_ok {c : C} {rest : List C} {s : S} (passed : (step c s).2 = ok) :
    run ok step (c :: rest) s = run ok step rest (step c s).1 :=
  if_pos passed

theorem run_cons_error {c : C} {rest : List C} {s : S} (failed : (step c s).2 ≠ ok) :
    run ok step (c :: rest) s = step c s :=
  if_neg failed

section Creates
variable (key : C → K) (Accepts : List K → C → Prop)

def AllAccepted : List K → List C → Prop
  | _, [] => True
  | done, c :: rest => Accepts done c ∧ AllAccepted (done ++ [key c]) rest

variable (ok step) (Built : List K → S → Prop)

/-- A loop of creations that are accepted or leave what was built. On an error
nothing was built exactly when the first creation was refused. -/
theorem run_creates (each : ∀ done c s, Built done s →
      Accepts done c ∧ (step c s).2 = ok ∧ Built (done ++ [key c]) (step c s).1 ∨
      ¬ Accepts done c ∧ (step c s).2 ≠ ok ∧ Built done (step c s).1) (cs : List C) :
      ∀ done s, Built done s →
      AllAccepted key Accepts done cs ∧ (run ok step cs s).2 = ok ∧
        Built (done ++ cs.map key) (run ok step cs s).1 ∨
      ¬ AllAccepted key Accepts done cs ∧ (run ok step cs s).2 ≠ ok ∧
        ∃ part, Built (done ++ part) (run ok step cs s).1 ∧
          (part = [] ↔ ∃ c rest, cs = c :: rest ∧ ¬ Accepts done c) := by
  induction cs with
  | nil =>
    intro done s built
    refine .inl ⟨trivial, rfl, ?_⟩
    rw [List.map_nil, List.append_nil]
    exact built
  | cons c rest ih =>
    intro done s built
    rcases each done c s built with ⟨accepted, passed, more⟩ | ⟨refused, failed, same⟩
    · rw [run_cons_ok passed]
      rcases ih _ _ more with ⟨all, success, whole⟩ | ⟨notAll, error, part, built', _⟩
      · refine .inl ⟨⟨accepted, all⟩, success, ?_⟩
        rw [List.append_assoc] at whole
        exact whole
      refine .inr ⟨fun all => notAll all.2, error, key c :: part, ?_, ?_⟩
      · rw [List.append_assoc] at built'
        exact built'
      · constructor
        · intro empty
          cases empty
        · rintro ⟨_, _, same, refused⟩
          cases same
          exact absurd accepted refused
    · rw [run_cons_error failed]
      refine .inr ⟨fun all => refused all.1, failed, [], ?_, ?_⟩
      · rw [List.append_nil]
        exact same
      · exact iff_of_true rfl ⟨c, rest, rfl, refused⟩

end Creates

section Removes
variable (ok step) (Accepts : C → Prop) (Left : List C → S → Prop)

/-- A loop that removes what is left one by one. On an error something is left. -/
theorem run_removes (each : ∀ c rest s, Left (c :: rest) s →
      Accepts c ∧ (step c s).2 = ok ∧ Left rest (step c s).1 ∨
      ¬ Accepts c ∧ (step c s).2 ≠ ok ∧ Left (c :: rest) (step c s).1) (cs : List C) : ∀ s, Left cs s →
      (∀ c ∈ cs, Accepts c) ∧ (run ok step cs s).2 = ok ∧ Left [] (run ok step cs s).1 ∨
      ¬ (∀ c ∈ cs, Accepts c) ∧ (run ok step cs s).2 ≠ ok ∧
      ∃ c rest, Left (c :: rest) (run ok step cs s).1 := by
  induction cs with
  | nil => exact fun s left => .inl ⟨fun c member => absurd member List.not_mem_nil, rfl, left⟩
  | cons c rest ih =>
    intro s left
    rcases each c rest s left with ⟨accepted, passed, less⟩ | ⟨refused, failed, same⟩
    · rw [run_cons_ok passed]
      rcases ih _ less with ⟨all, success, none⟩ | ⟨notAll, error, more⟩
      · refine .inl ⟨fun d member => ?_, success, none⟩
        rcases List.mem_cons.mp member with rfl | member
        · exact accepted
        · exact all d member
      · exact .inr ⟨fun all => notAll fun d member => all d (List.mem_cons_of_mem _ member), error, more⟩
    · rw [run_cons_error failed]
      exact .inr ⟨fun all => refused (all c List.mem_cons_self), failed, c, rest, same⟩

end Removes

/-- A loop that passes over what it need not touch stops where the first that it
must touch is refused. -/
theorem run_refused {s : S} {touch : C → Prop} [DecidablePred touch]
    (skips : ∀ c, ¬ touch c → step c s = (s, ok))
    {c : C} (refused : (step c s).2 ≠ ok) {rest : List C} (cs : List C)
    (first : (cs.filter fun d => touch d) = c :: rest) : run ok step cs s = step c s := by
  induction cs with
  | nil => cases first
  | cons d cs ih =>
    by_cases touched : touch d
    · rw [List.filter_cons, if_pos (decide_eq_true touched)] at first
      obtain ⟨rfl, _⟩ := List.cons.inj first
      exact run_cons_error refused
    · rw [List.filter_cons, if_neg fun yes => touched (of_decide_eq_true yes)] at first
      have skipped := skips d touched
      rw [run_cons_ok (congrArg Prod.snd skipped), congrArg Prod.fst skipped]
      exact ih first

variable (ok step) in
theorem run_keeps_of_mem (Keeps : S → S → Prop) (refl : ∀ s, Keeps s s)
    (trans : ∀ s t u, Keeps s t → Keeps t u → Keeps s u) (cs : List C)
    (each : ∀ c ∈ cs, ∀ s, Keeps s (step c s).1) : ∀ s, Keeps s (run ok step cs s).1 := by
  induction cs with
  | nil => exact refl
  | cons c rest ih =>
    intro s
    have first := each c List.mem_cons_self s
    by_cases passed : (step c s).2 = ok
    · rw [run_cons_ok passed]
      exact trans _ _ _ first (ih (fun d listed => each d (List.mem_cons_of_mem _ listed)) _)
    · rw [run_cons_error passed]
      exact first

variable (ok step) in
/-- A loop that removes each of its keys and goes to its end leaves none of them. -/
theorem run_gone {V : Type} [DecidableEq C] (get : S → C → Option V) {Kept : S → Prop}
    (keeps : ∀ c s, Kept s → Kept (step c s).1)
    (removes : ∀ c s, Kept s → (step c s).2 = ok → ∀ k, get (step c s).1 k = if k = c then none else get s k)
    (cs : List C) : ∀ s, Kept s → Kept (run ok step cs s).1 ∧ ((run ok step cs s).2 = ok →
      ∀ k v, get (run ok step cs s).1 k = some v → get s k = some v ∧ k ∉ cs) := by
  induction cs with
  | nil => exact fun s kept => ⟨kept, fun _ k v stored => ⟨stored, List.not_mem_nil⟩⟩
  | cons c rest ih =>
    intro s kept
    by_cases passed : (step c s).2 = ok
    · rw [run_cons_ok passed]
      obtain ⟨keptRest, gone⟩ := ih _ (keeps c s kept)
      refine ⟨keptRest, fun all k v stored => ?_⟩
      obtain ⟨before, later⟩ := gone all k v stored
      rw [removes c s kept passed] at before
      split at before
      · cases before
      · rename_i apart
        exact ⟨before, fun listed => (List.mem_cons.mp listed).elim apart later⟩
    · rw [run_cons_error passed]
      exact ⟨keeps c s kept, fun all => absurd all passed⟩

variable (ok step) in
theorem run_keeps (Keeps : S → S → Prop) (refl : ∀ s, Keeps s s)
    (trans : ∀ s t u, Keeps s t → Keeps t u → Keeps s u) (each : ∀ c s, Keeps s (step c s).1)
    (cs : List C) : ∀ s, Keeps s (run ok step cs s).1 :=
  run_keeps_of_mem ok step Keeps refl trans cs fun c _ => each c

end ErrorLoop
