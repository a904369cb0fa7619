import SaiCommon.Base

namespace SaiCommon

/-- The sizes and counts that the profile of a switch may set, in the order the code tries them. -/
inductive SwitchCount
  | fdbTableSize
  | l3RouteTableSize
  | l3NeighborTableSize
  | numLagMembers
  | numLags
  | numEcmpMembers
  | numEcmpGroups
  | numUnicastQueues
  | numMulticastQueues
  | numQueues
  | numCpuQueues
deriving DecidableEq

def switchCounts : List SwitchCount :=
  [.fdbTableSize, .l3RouteTableSize, .l3NeighborTableSize, .numLagMembers, .numLags, .numEcmpMembers, .numEcmpGroups,
    .numUnicastQueues, .numMulticastQueues, .numQueues, .numCpuQueues]

abbrev CString := List Char

/-- `strncmp` of strings without their NUL: whether it returns 0. -/
def strncmpEqual : CString → CString → Nat → Bool
  | _, _, 0 => true
  | [], [], _ + 1 => true
  | a :: s, b :: t, n + 1 => a = b && strncmpEqual s t n
  | _, _, _ + 1 => false

abbrev SwitchCounts := SwitchCount → BitVec 32

section Config
variable (keyOf : SwitchCount → CString) (strtol : CString → Int)

/-- The first alternative of the chain whose key the given one agrees with over its own length. -/
def switchKeyTarget (key : CString) : Option SwitchCount :=
  switchCounts.find? fun count => strncmpEqual key (keyOf count) key.length

/-- One round: `(uint_t) strtol` goes to the setter of the alternative. -/
def switchProfileSet (s : SwitchCounts) (pair : CString × CString) : SwitchCounts :=
  match switchKeyTarget keyOf pair.1 with
  | some count => Function.update s count (BitVec.ofInt 32 (strtol pair.2))
  | none => s

/-- `sai_switch_attribute_config`. `next` is what `profile_get_next_value` yields before it returns -1; it
is absent when the host registered no such service. -/
def switchAttributeConfig (s : SwitchCounts) : Option (List (CString × CString)) → SwitchCounts × SaiStatus
  | none => (s, .notSupported)
  | some pairs => (pairs.foldl (switchProfileSet keyOf strtol) s, .success)

/-- What the last pair with exactly the key of an attribute gives, or what it was. -/
def switchGiven (s : SwitchCounts) (pairs : List (CString × CString)) (count : SwitchCount) : BitVec 32 :=
  (((pairs.filter fun pair => pair.1 = keyOf count).getLast?).map fun pair =>
    BitVec.ofInt 32 (strtol pair.2)).getD (s count)

def SwitchProfileApplied (s : SwitchCounts) (pairs : List (CString × CString))
    (result : SwitchCounts × SaiStatus) : Prop :=
  result.2 = .success ∧ ∀ count, result.1 count = switchGiven keyOf strtol s pairs count

/-- Where a shorter key is the last one that reaches an attribute, its value is the one that is due. -/
def SwitchPrefixesHarmless (s : SwitchCounts) (pairs : List (CString × CString)) : Prop :=
  ∀ count before pair after, pairs = before ++ pair :: after → switchKeyTarget keyOf pair.1 = some count →
    pair.1 ≠ keyOf count → (∀ later ∈ after, switchKeyTarget keyOf later.1 ≠ some count) →
    BitVec.ofInt 32 (strtol pair.2) = switchGiven keyOf strtol s before count

end Config

theorem strncmpEqual_iff (key known : CString) : strncmpEqual key known key.length = true ↔ key <+: known := by
  induction key generalizing known with
  | nil => exact iff_of_true rfl (List.nil_prefix)
  | cons a s ih =>
    cases known with
    | nil => exact iff_of_false (by simp [strncmpEqual]) (by simp)
    | cons b t => rw [List.cons_prefix_cons, ← ih t]; simp [strncmpEqual]

section Config
variable {keyOf : SwitchCount → CString} {strtol : CString → Int} {s : SwitchCounts}

theorem switchKeyTarget_self (apart : ∀ a b, keyOf a <+: keyOf b → a = b) (count : SwitchCount) :
    switchKeyTarget keyOf (keyOf count) = some count := by
  have here : strncmpEqual (keyOf count) (keyOf count) (keyOf count).length = true :=
    (strncmpEqual_iff _ _).mpr List.prefix_rfl
  cases found : switchKeyTarget keyOf (keyOf count) with
  | none =>
    have all := List.find?_eq_none.mp found count (by cases count <;> decide)
    exact (all here).elim
  | some other =>
    unfold switchKeyTarget at found
    have agrees := List.find?_some found
    rw [apart count other ((strncmpEqual_iff _ _).mp agrees)]

theorem switchGiven_concat (pairs : List (CString × CString)) (pair : CString × CString) (count : SwitchCount) :
    switchGiven keyOf strtol s (pairs ++ [pair]) count =
      if pair.1 = keyOf count then BitVec.ofInt 32 (strtol pair.2) else switchGiven keyOf strtol s pairs count := by
  unfold switchGiven
  rw [List.filter_append]
  split
  · rename_i same
    simp [same]
  · rename_i other
    simp [other]

theorem switchProfileSet_apply (pair : CString × CString) (count : SwitchCount) :
    switchProfileSet keyOf strtol s pair count =
      if switchKeyTarget keyOf pair.1 = some count then BitVec.ofInt 32 (strtol pair.2) else s count := by
  unfold switchProfileSet
  cases switchKeyTarget keyOf pair.1 with
  | none => rfl
  | some other =>
    dsimp only
    rw [Function.update_apply]
    exact if_congr (by rw [Option.some.injEq, eq_comm]) rfl rfl

theorem switchProfile_count_iff (apart : ∀ a b, keyOf a <+: keyOf b → a = b) (count : SwitchCount)
    (pairs : List (CString × CString)) :
    pairs.foldl (switchProfileSet keyOf strtol) s count = switchGiven keyOf strtol s pairs count ↔
      ∀ before pair after, pairs = before ++ pair :: after → switchKeyTarget keyOf pair.1 = some count →
        pair.1 ≠ keyOf count → (∀ later ∈ after, switchKeyTarget keyOf later.1 ≠ some count) →
        BitVec.ofInt 32 (strtol pair.2) = switchGiven keyOf strtol s before count := by
  induction pairs using List.reverseRecOn with
  | nil => exact iff_of_true rfl fun before pair after split => by simp at split
  | append_singleton pairs last ih =>
    rw [List.foldl_concat, switchProfileSet_apply, switchGiven_concat]
    have own := switchKeyTarget_self apart count
    by_cases reaches : switchKeyTarget keyOf last.1 = some count
    · rw [if_pos reaches]
      by_cases same : last.1 = keyOf count
      · rw [if_pos same]
        refine iff_of_true rfl fun before pair after split _ shorter silent => ?_
        rcases List.eq_nil_or_concat' after with rfl | ⟨after', end', rfl⟩
        · cases (List.append_inj' split rfl).2
          exact (shorter same).elim
        · rw [← List.cons_append, ← List.append_assoc] at split
          cases (List.append_inj' split rfl).2
          exact (silent last (by simp) reaches).elim
      · rw [if_neg same]
        constructor
        · intro equal before pair after split _ _ silent
          rcases List.eq_nil_or_concat' after with rfl | ⟨after', end', rfl⟩
          · obtain ⟨rfl, sameLast⟩ := List.append_inj' split rfl
            cases sameLast
            exact equal
          · rw [← List.cons_append, ← List.append_assoc] at split
            cases (List.append_inj' split rfl).2
            exact (silent last (by simp) reaches).elim
        · intro harmless
          exact harmless pairs last [] rfl reaches same (by simp)
    · have other : last.1 ≠ keyOf count := by
        intro same
        rw [same] at reaches
        exact reaches own
      rw [if_neg reaches, if_neg other, ih]
      constructor
      · intro harmless before pair after split target shorter silent
        rcases List.eq_nil_or_concat' after with rfl | ⟨after', end', rfl⟩
        · cases (List.append_inj' split rfl).2
          exact (reaches target).elim
        · rw [← List.cons_append, ← List.append_assoc] at split
          exact harmless before pair after' (List.append_inj' split rfl).1 target shorter
            fun later member => silent later (List.mem_append_left _ member)
      · intro harmless before pair after split target shorter silent
        refine harmless before pair (after ++ [last]) (by rw [split]; simp) target shorter ?_
        exact List.forall_mem_append.mpr ⟨silent, List.forall_mem_singleton.mpr reaches⟩

end Config

/-- A key is taken for every attribute whose key it is a prefix of, so a shorter one can change what no pair
names. -/
theorem switchAttributeConfig_applied_iff (keyOf : SwitchCount → CString) (strtol : CString → Int)
    (apart : ∀ a b, keyOf a <+: keyOf b → a = b) (s : SwitchCounts) (pairs : List (CString × CString)) :
    SwitchProfileApplied keyOf strtol s pairs (switchAttributeConfig keyOf strtol s (some pairs)) ↔
      SwitchPrefixesHarmless keyOf strtol s pairs := by
  unfold SwitchProfileApplied SwitchPrefixesHarmless switchAttributeConfig
  dsimp only
  rw [and_iff_right rfl]
  exact forall_congr' fun count => switchProfile_count_iff apart count pairs

def sampleSwitchKey : SwitchCount → CString
  | .fdbTableSize => ['S', 'A', 'I', '_', 'F', 'D', 'B', '_', 'T', 'A', 'B', 'L', 'E', '_', 'S', 'I', 'Z', 'E']
  | .l3RouteTableSize => ['S', 'A', 'I', '_', 'L', '3', '_', 'R', 'O', 'U', 'T', 'E', '_', 'T', 'A', 'B', 'L',
      'E', '_', 'S', 'I', 'Z', 'E']
  | .l3NeighborTableSize => ['S', 'A', 'I', '_', 'L', '3', '_', 'N', 'E', 'I', 'G', 'H', 'B', 'O', 'R', '_',
      'T', 'A', 'B', 'L', 'E', '_', 'S', 'I', 'Z', 'E']
  | .numLagMembers => ['S', 'A', 'I', '_', 'N', 'U', 'M', '_', 'L', 'A', 'G', '_', 'M', 'E', 'M', 'B', 'E', 'R',
      'S']
  | .numLags => ['S', 'A', 'I', '_', 'N', 'U', 'M', '_', 'L', 'A', 'G', 'S']
  | .numEcmpMembers => ['S', 'A', 'I', '_', 'N', 'U', 'M', '_', 'E', 'C', 'M', 'P', '_', 'M', 'E', 'M', 'B',
      'E', 'R', 'S']
  | .numEcmpGroups => ['S', 'A', 'I', '_', 'N', 'U', 'M', '_', 'E', 'C', 'M', 'P', '_', 'G', 'R', 'O', 'U', 'P',
      'S']
  | .numUnicastQueues => ['S', 'A', 'I', '_', 'N', 'U', 'M', '_', 'U', 'N', 'I', 'C', 'A', 'S', 'T', '_', 'Q',
      'U', 'E', 'U', 'E', 'S']
  | .numMulticastQueues => ['S', 'A', 'I', '_', 'N', 'U', 'M', '_', 'M', 'U', 'L', 'T', 'I', 'C', 'A', 'S', 'T',
      '_', 'Q', 'U', 'E', 'U', 'E', 'S']
  | .numQueues => ['S', 'A', 'I', '_', 'N', 'U', 'M', '_', 'Q', 'U', 'E', 'U', 'E', 'S']
  | .numCpuQueues => ['S', 'A', 'I', '_', 'N', 'U', 'M', '_', 'C', 'P', 'U', '_', 'Q', 'U', 'E', 'U', 'E', 'S']

theorem sampleSwitchKey_apart (a b : SwitchCount) (shorter : sampleSwitchKey a <+: sampleSwitchKey b) : a = b := by
  cases a <;> cases b <;> first | rfl | exact absurd shorter (by decide)

/-- A key given twice, and a shorter one that reaches the LAG members first. -/
def sampleSwitchPairs : List (CString × CString) :=
  [(sampleSwitchKey .numLags, ['1']), (sampleSwitchKey .numLags, ['2']), (['S', 'A', 'I', '_', 'N', 'U', 'M'], ['0'])]

def sampleStrtol (value : CString) : Int := if value = ['2'] then 2 else if value = ['1'] then 1 else 0

theorem switchAttributeConfig_applied_iff_sample : SwitchPrefixesHarmless sampleSwitchKey sampleStrtol
      (fun _ => 0) sampleSwitchPairs ∧
    (switchAttributeConfig sampleSwitchKey sampleStrtol (fun _ => 0) (some sampleSwitchPairs)).1 .numLags = 2 := by
  have applied : SwitchProfileApplied sampleSwitchKey sampleStrtol (fun _ => 0) sampleSwitchPairs
      (switchAttributeConfig sampleSwitchKey sampleStrtol (fun _ => 0) (some sampleSwitchPairs)) := by
    refine ⟨rfl, fun count => ?_⟩
    cases count <;> rfl
  exact ⟨(switchAttributeConfig_applied_iff sampleSwitchKey sampleStrtol sampleSwitchKey_apart _ _).mp applied, rfl⟩

/-- A pair with an empty key sets the size of the FDB. -/
theorem switchAttributeConfig_not_applied : ¬ ∀ keyOf strtol s pairs, (∀ a b, keyOf a <+: keyOf b → a = b) →
      SwitchProfileApplied keyOf strtol s pairs (switchAttributeConfig keyOf strtol s (some pairs)) := by
  intro all
  have given := (all sampleSwitchKey (fun _ => 1) (fun _ => 0) [([], ['1'])] sampleSwitchKey_apart).2 .fdbTableSize
  cases given

end SaiCommon
