import Mathlib.Data.List.Basic

namespace Slots
variable {E V : Type} (index : E → Nat) (write : E → V → V)

/-- A table whose slots are written by a list of entries, each where its index says. -/
def writeAll (table : List V) (entries : List E) : List V :=
  entries.foldl (fun table entry => table.modify (index entry) (write entry)) table

/-- The last of the entries that go to the slot. -/
def lastAt (slot : Nat) (entries : List E) : Option E :=
  (entries.filter fun entry => index entry = slot).getLast?

variable {index write}

theorem length_writeAll (table : List V) (entries : List E) :
    (writeAll index write table entries).length = table.length := by
  induction entries generalizing table with
  | nil => rfl
  | cons entry rest ih => exact (ih _).trans (List.length_modify ..)

theorem lastAt_cons (slot : Nat) (entry : E) (rest : List E) : lastAt index slot (entry :: rest) =
    if index entry = slot then some ((lastAt index slot rest).getD entry) else lastAt index slot rest := by
  unfold lastAt
  rw [List.filter_cons]
  by_cases here : index entry = slot
  · rw [if_pos (decide_eq_true here), if_pos here, List.getLast?_cons]
  · rw [if_neg (by simpa using here), if_neg here]

theorem getElem?_modify_slot (table : List V) (place slot : Nat) (f : V → V) :
    (table.modify place f)[slot]? = if place = slot then table[slot]?.map f else table[slot]? := by
  rw [List.getElem?_modify]
  split
  · rfl
  · exact Option.map_id'

section
variable (overwrites : ∀ entry older v, write entry (write older v) = write entry v)
include overwrites

/-- Every slot has what the last entry for it wrote. -/
theorem getElem?_writeAll
    (table : List V) (entries : List E) (slot : Nat) : (writeAll index write table entries)[slot]? =
      match lastAt index slot entries with
      | some entry => table[slot]?.map (write entry)
      | none => table[slot]? := by
  induction entries generalizing table with
  | nil => rfl
  | cons entry rest ih =>
    have written := ih (table.modify (index entry) (write entry))
    unfold writeAll at written ⊢
    rw [List.foldl_cons, written, lastAt_cons, getElem?_modify_slot]
    by_cases here : index entry = slot
    · rw [if_pos here, if_pos here]
      cases lastAt index slot rest with
      | none => rfl
      | some last =>
        dsimp only [Option.getD_some]
        rw [Option.map_map]
        exact congrArg (fun f => table[slot]?.map f) (funext fun v => overwrites last entry v)
    · rw [if_neg here, if_neg here]

/-- Entries leave a table as it is exactly when it already has what they write last. -/
theorem writeAll_eq_self (table : List V) (entries : List E) : writeAll index write table entries = table ↔
      ∀ slot entry old, lastAt index slot entries = some entry → table[slot]? = some old →
        write entry old = old := by
  constructor
  · intro same slot entry old last atSlot
    have written := @getElem?_writeAll E V index write overwrites table entries slot
    rw [same, last, atSlot] at written
    exact (Option.some.inj written).symm
  · intro has
    refine List.ext_getElem? fun slot => ?_
    rw [getElem?_writeAll overwrites]
    cases last : lastAt index slot entries with
    | none => rfl
    | some entry =>
      cases atSlot : table[slot]? with
      | none => rfl
      | some old => exact congrArg some (has slot entry old last atSlot)

end

end Slots
