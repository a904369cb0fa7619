import Mathlib.Logic.Function.Basic

/-! A set of an attribute of an object that is kept in a database and told to a
device. -/
namespace AllOrNone
variable {S Attr Id E : Type} [DecidableEq Id]

/-- The last that a device was successfully told, for each attribute of each object. -/
def tell (id : Id) (attr : Attr) (told : Id → Option Attr) : Id → Option Attr :=
  Function.update told id (some attr)

theorem tell_self (id : Id) (attr : Attr) (told : Id → Option Attr) : tell id attr told id = some attr :=
  Function.update_self _ _ _

theorem tell_eq_iff {id : Id} {attr : Attr} {told : Id → Option Attr} :
    tell id attr told = told ↔ told id = some attr := by
  rw [tell, Function.update_eq_self_iff]
  exact eq_comm

/-- How a set should end: an error leaves the database and what the device was
told, with success both have the new value. -/
structure Ends (ok : E) (holds : S → Prop) (id : Id) (attr : Attr) (s : S) (told : Id → Option Attr)
    (ended : S × (Id → Option Attr) × E) : Prop where
  error : ended.2.2 ≠ ok → ended.1 = s ∧ ended.2.1 = told
  success : ended.2.2 = ok → holds ended.1 ∧ ended.2.1 id = some attr

section
variable {ok e : E} {holds : S → Prop} {id : Id} {attr : Attr} {s t : S} {told heard : Id → Option Attr}

omit [DecidableEq Id] in
theorem ends_error (failed : e ≠ ok) : Ends ok holds id attr s told (t, heard, e) ↔ t = s ∧ heard = told :=
  ⟨fun ends => ends.error failed, fun same => ⟨fun _ => same, fun succeeded => absurd succeeded failed⟩⟩

omit [DecidableEq Id] in
theorem Ends.refused (failed : e ≠ ok) : Ends ok holds id attr s told (s, told, e) :=
  (ends_error failed).mpr ⟨rfl, rfl⟩

theorem Ends.done (has : holds t) : Ends ok holds id attr s told (t, tell id attr told, ok) :=
  ⟨fun failed => absurd rfl failed, fun _ => ⟨has, tell_self id attr told⟩⟩

end

end AllOrNone
