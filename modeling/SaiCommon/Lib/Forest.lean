import Mathlib.Logic.Relation

namespace Forest
variable {A : Type} {parent parent' : A → A → Prop}

/-- Following `parent` from a node never leads back to it. -/
def Acyclic (parent : A → A → Prop) : Prop := ∀ a, ¬ Relation.TransGen parent a a

theorem Acyclic.of_le (acyclic : Acyclic parent) (fewer : ∀ x y, parent' x y → parent x y) : Acyclic parent' :=
  fun a cycle => acyclic a (Relation.TransGen.mono fewer a a cycle)

theorem acyclic_of_rootless (none : ∀ x y, ¬ parent x y) : Acyclic parent := by
  intro a cycle
  cases cycle with
  | single edge => exact none _ _ edge
  | tail _ edge => exact none _ _ edge

/-- A path after hanging `children` under `top` either uses old edges only or
passes through one of the new ones. -/
theorem path_split {children : List A} {top : A}
    (edges : ∀ x y, parent' x y → parent x y ∨ x ∈ children ∧ y = top) {x y : A}
    (path : Relation.TransGen parent' x y) : Relation.TransGen parent x y ∨ ∃ c ∈ children,
      Relation.ReflTransGen parent x c ∧ Relation.ReflTransGen parent top y := by
  induction path with
  | single edge =>
    rcases edges _ _ edge with old | ⟨child, rfl⟩
    · exact Or.inl (.single old)
    · exact Or.inr ⟨_, child, .refl, .refl⟩
  | tail _ edge ih =>
    rcases edges _ _ edge with old | ⟨child, rfl⟩
    · rcases ih with path | ⟨c, member, up, down⟩
      · exact Or.inl (path.tail old)
      · exact Or.inr ⟨c, member, up, down.tail old⟩
    · rcases ih with path | ⟨c, member, up, _⟩
      · exact Or.inr ⟨_, child, path.to_reflTransGen, .refl⟩
      · exact Or.inr ⟨c, member, up, .refl⟩

/-- Hanging nodes under `top` makes no cycle when none of them is `top` or
one of its ancestors. -/
theorem Acyclic.attach (acyclic : Acyclic parent) (children : List A) (top : A)
    (edges : ∀ x y, parent' x y → parent x y ∨ x ∈ children ∧ y = top)
    (below : ∀ c ∈ children, ¬ Relation.ReflTransGen parent top c) : Acyclic parent' := by
  intro a cycle
  rcases path_split edges cycle with old | ⟨c, member, up, down⟩
  · exact acyclic a old
  · exact below c member (down.trans up)

end Forest
