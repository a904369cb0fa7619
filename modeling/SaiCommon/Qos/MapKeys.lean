import Mathlib.Data.List.TakeWhile
import SaiCommon.Qos.MapUpdates

namespace SaiCommon

variable {e : QosMapEntry} {key : QosMapKey}

/-- A key of a map table: the place in a row, and the row. A row is a color, or the unicast
or the multicast half. -/
structure QosMapKey where
  column : Nat
  row : Nat
deriving DecidableEq

namespace QosMapPlatform
variable (platform : QosMapPlatform)

/-- `sai_qos_maps_attr_value_validate` refuses what is at or above its maximum, and the queue
tables have a unicast and a multicast half. -/
structure Documented : Prop where
  validates : ∀ dot1p tc color dscp, platform.attrValueValidate dot1p tc color dscp = .success ↔
    dot1p < platform.maxDot1p ∧ tc < platform.maxTc ∧ color < platform.maxPacketColors ∧ dscp < platform.maxDscp
  separate : platform.maxQueueIdx = 2

/-- The length and the number of the rows of a table. -/
def shape : QosMapType → Nat × Nat
  | .dot1pToTcAndColor => (platform.maxDot1p, 1)
  | .dscpToTcAndColor => (platform.maxDscp, 1)
  | .tcToQueue => (platform.maxTc, 2)
  | .tcToPriorityGroup => (platform.maxTc, 1)
  | .pfcPriorityToQueue => (platform.maxPfcPri, 2)
  | .tcAndColorToDot1p => (platform.maxTc, platform.maxPacketColors)
  | .tcAndColorToDscp => (platform.maxTc, platform.maxPacketColors)
  | .other _ => (0, 0)
  | .invalid => (0, 0)

def IsKey (mapType : QosMapType) (key : QosMapKey) : Prop :=
  key.column < (platform.shape mapType).1 ∧ key.row < (platform.shape mapType).2

def keyIndex (mapType : QosMapType) (key : QosMapKey) : Nat :=
  key.row * (platform.shape mapType).1 + key.column

/-- A queue is one of the multicast queues from the number of the unicast ones on. -/
def queueHalf (queueIndex : Nat) : Nat := if platform.maxUcQueues ≤ queueIndex then 1 else 0

def keyOf (mapType : QosMapType) (e : QosMapEntry) : QosMapKey :=
  match mapType with
  | .dot1pToTcAndColor => ⟨e.key.dot1p, 0⟩
  | .dscpToTcAndColor => ⟨e.key.dscp, 0⟩
  | .tcToQueue => ⟨e.key.tc, platform.queueHalf e.value.queueIndex⟩
  | .tcToPriorityGroup => ⟨e.key.tc, 0⟩
  | .pfcPriorityToQueue => ⟨e.key.prio, platform.queueHalf e.value.queueIndex⟩
  | .tcAndColorToDot1p => ⟨e.key.tc, e.key.color⟩
  | .tcAndColorToDscp => ⟨e.key.tc, e.key.color⟩
  | .other _ => ⟨0, 0⟩
  | .invalid => ⟨0, 0⟩

def queueWithin (queueIndex : Nat) : Nat :=
  if platform.maxUcQueues ≤ queueIndex then queueIndex - platform.maxUcQueues else queueIndex

/-- The value that the entry gives to its key. -/
def entryValue (mapType : QosMapType) (e : QosMapEntry) : List Nat :=
  match mapType with
  | .dot1pToTcAndColor => [e.value.tc, e.value.color]
  | .dscpToTcAndColor => [e.value.tc, e.value.color]
  | .tcToQueue => [platform.queueWithin e.value.queueIndex]
  | .tcToPriorityGroup => [e.value.pg]
  | .pfcPriorityToQueue => [platform.queueWithin e.value.queueIndex]
  | .tcAndColorToDot1p => [e.value.dot1p]
  | .tcAndColorToDscp => [e.value.dscp]
  | .other _ => []
  | .invalid => []

end QosMapPlatform

def QosMapEntry.readValue (mapType : QosMapType) (slot : QosMapEntry) : List Nat :=
  match mapType with
  | .dot1pToTcAndColor => [slot.value.tc, slot.value.color]
  | .dscpToTcAndColor => [slot.value.tc, slot.value.color]
  | .tcToQueue => [slot.value.queueIndex]
  | .tcToPriorityGroup => [slot.value.pg]
  | .pfcPriorityToQueue => [slot.value.queueIndex]
  | .tcAndColorToDot1p => [slot.value.dot1p]
  | .tcAndColorToDscp => [slot.value.dscp]
  | .other _ => []
  | .invalid => []

namespace QosMapPlatform
variable (platform : QosMapPlatform)

def lookup (mapType : QosMapType) (table : QosMapTable) (key : QosMapKey) : Option (List Nat) :=
  table[platform.keyIndex mapType key]?.map (QosMapEntry.readValue mapType)

/-- The key and the value of the entry are below their maxima. -/
def InRange (mapType : QosMapType) (e : QosMapEntry) : Prop :=
  match mapType with
  | .dot1pToTcAndColor =>
    e.key.dot1p < platform.maxDot1p ∧ e.value.tc < platform.maxTc ∧ e.value.color < platform.maxPacketColors
  | .dscpToTcAndColor =>
    e.key.dscp < platform.maxDscp ∧ e.value.tc < platform.maxTc ∧ e.value.color < platform.maxPacketColors
  | .tcToQueue => e.key.tc < platform.maxTc ∧ e.value.queueIndex < platform.maxQueues
  | .tcToPriorityGroup => e.key.tc < platform.maxTc ∧ e.value.pg < platform.numPg
  | .pfcPriorityToQueue => e.key.prio < platform.maxPfcPri ∧ e.value.queueIndex < platform.maxQueues
  | .tcAndColorToDot1p =>
    e.key.tc < platform.maxTc ∧ e.key.color < platform.maxPacketColors ∧ e.value.dot1p < platform.maxDot1p
  | .tcAndColorToDscp =>
    e.key.tc < platform.maxTc ∧ e.key.color < platform.maxPacketColors ∧ e.value.dscp < platform.maxDscp
  | .other _ => False
  | .invalid => False

/-- `queue_index` of an entry in the caller's list after its round of the loop. -/
def rewriteQueue (e : QosMapEntry) : QosMapEntry :=
  { e with value.queueIndex := platform.queueWithin e.value.queueIndex }

/-- The caller's list after the loop: every entry that is written has been rewritten. -/
def listRewrite (check : QosMapEntry → SaiStatus) (rewrite : QosMapEntry → QosMapEntry) :
    List QosMapEntry → List QosMapEntry
  | [] => []
  | entry :: rest =>
    match check entry with
    | .success => rewrite entry :: listRewrite check rewrite rest
    | _ => entry :: rest

/-- The caller's list after a table update; the two queue tables work on the list itself. -/
def callerList (mapType : QosMapType) (entries : List QosMapEntry) : List QosMapEntry :=
  if platform.isMapSupported mapType = false then entries
  else match mapType with
    | .tcToQueue => listRewrite (platform.entryCheck .tcToQueue) platform.rewriteQueue entries
    | .pfcPriorityToQueue => listRewrite (platform.entryCheck .pfcPriorityToQueue) platform.rewriteQueue entries
    | _ => entries

/-- A list that is taken has keys and values in range only, is written within the table, and
leaves every key with the value of its last entry, or with its own; and no list is changed. -/
structure ListRight (mapType : QosMapType) (table : QosMapTable) (entries : List QosMapEntry) : Prop where
  rejects : (∃ entry ∈ entries, ¬ platform.InRange mapType entry) →
    (platform.tableUpdate mapType table entries).2 ≠ .success
  bounded : (platform.tableUpdate mapType table entries).2 = .success →
    ∀ entry ∈ entries, platform.entryIndex mapType entry < table.length
  lastWins : (platform.tableUpdate mapType table entries).2 = .success → ∀ key, platform.IsKey mapType key →
    platform.lookup mapType (platform.tableUpdate mapType table entries).1 key =
      match (entries.filter fun entry => platform.keyOf mapType entry = key).getLast? with
      | some entry => some (platform.entryValue mapType entry)
      | none => platform.lookup mapType table key
  caller : platform.callerList mapType entries = entries

/-- No queue of the list that is reached is a multicast one. -/
def UnicastOnly (mapType : QosMapType) (entries : List QosMapEntry) : Prop :=
  platform.maxUcQueues = 0 ∨
    ∀ entry ∈ platform.validEntries mapType entries, entry.value.queueIndex < platform.maxUcQueues

/-- The lists that the table update treats as it should: all for five of the tables, those
that reach no multicast queue for the TC-to-queue table, and for the priorities those that
moreover have all priorities below the maximum, and all queues too, unless one is above it. -/
def ListSafe (mapType : QosMapType) (entries : List QosMapEntry) : Prop :=
  platform.isMapSupported mapType = true →
    match mapType with
    | .tcToQueue => platform.UnicastOnly .tcToQueue entries
    | .pfcPriorityToQueue => platform.UnicastOnly .pfcPriorityToQueue entries ∧
        ((∃ entry ∈ entries, platform.maxQueues < entry.value.queueIndex) ∨
          ∀ entry ∈ entries, entry.key.prio < platform.maxPfcPri ∧ entry.value.queueIndex < platform.maxQueues)
    | _ => True

section Keys
variable {platform : QosMapPlatform} {mapType : QosMapType} {table : QosMapTable} {entries : List QosMapEntry}

theorem keyIndex_lt (isKey : platform.IsKey mapType key) :
    platform.keyIndex mapType key < (platform.shape mapType).2 * (platform.shape mapType).1 := by
  obtain ⟨column, row⟩ := isKey
  unfold keyIndex
  calc key.row * (platform.shape mapType).1 + key.column
      < key.row * (platform.shape mapType).1 + (platform.shape mapType).1 := Nat.add_lt_add_left column _
    _ = (key.row + 1) * (platform.shape mapType).1 := (Nat.succ_mul _ _).symm
    _ ≤ (platform.shape mapType).2 * (platform.shape mapType).1 := Nat.mul_le_mul_right _ row

theorem keyIndex_inj {other : QosMapKey} (isKey : platform.IsKey mapType key) (isOther : platform.IsKey mapType other)
    (same : platform.keyIndex mapType key = platform.keyIndex mapType other) : key = other := by
  obtain ⟨column, row⟩ := key
  obtain ⟨column', row'⟩ := other
  have positive : 0 < (platform.shape mapType).1 := Nat.zero_lt_of_lt isKey.1
  have split : ∀ {column row : Nat}, column < (platform.shape mapType).1 →
      (row * (platform.shape mapType).1 + column) / (platform.shape mapType).1 = row ∧
      (row * (platform.shape mapType).1 + column) % (platform.shape mapType).1 = column := by
    intro column row below
    rw [Nat.add_comm, Nat.add_mul_div_right _ _ positive, Nat.add_mul_mod_self_right, Nat.div_eq_of_lt below,
      Nat.mod_eq_of_lt below, Nat.zero_add]
    exact ⟨rfl, rfl⟩
  have first := @split column row isKey.1
  have second := @split column' row' isOther.1
  unfold keyIndex at same
  dsimp only at same
  rw [same] at first
  rw [QosMapKey.mk.injEq]
  exact ⟨first.2.symm.trans second.2, first.1.symm.trans second.1⟩

theorem entryIndex_eq (tabled : mapType.hasTable = true) (e : QosMapEntry) :
    platform.entryIndex mapType e = platform.keyIndex mapType (platform.keyOf mapType e) := by
  have half : ∀ length place queueIndex, (platform.queueSlot length place queueIndex).1 =
      platform.queueHalf queueIndex * length + place := by
    intro length place queueIndex
    unfold queueSlot queueHalf
    split
    · rw [Nat.one_mul]
    · rw [Nat.zero_mul, Nat.zero_add]
  cases mapType with
  | tcToQueue => exact half _ _ _
  | pfcPriorityToQueue => exact half _ _ _
  | tcAndColorToDot1p => rfl
  | tcAndColorToDscp => rfl
  | other value => cases tabled
  | invalid => cases tabled
  | _ => exact ((congrArg (· + _) (Nat.zero_mul _)).trans (Nat.zero_add _)).symm

theorem readValue_entryWrite (e old : QosMapEntry) :
    (platform.entryWrite mapType e old).readValue mapType = platform.entryValue mapType e := by
  have within : ∀ length place queueIndex, (platform.queueSlot length place queueIndex).2 =
      platform.queueWithin queueIndex := by
    intro length place queueIndex
    unfold queueSlot queueWithin
    split <;> rfl
  cases mapType with
  | tcToQueue => exact congrArg (fun value => [value]) (within _ _ _)
  | pfcPriorityToQueue => exact congrArg (fun value => [value]) (within _ _ _)
  | _ => rfl

theorem length_defaultTable (documented : platform.Documented) :
    (platform.defaultTable mapType).length = (platform.shape mapType).2 * (platform.shape mapType).1 := by
  cases mapType <;>
    simp [defaultTable, shape, dot1pToTcAndColorDefault, dscpToTcAndColorDefault, tcToQueueDefault, tcToPgDefault,
      pfcPriToQueueDefault, tcAndColorDefault, documented.separate, Nat.mul_comm]

theorem IsKey.of_inRange (inRange : platform.InRange mapType e) :
    platform.IsKey mapType (platform.keyOf mapType e) := by
  have half : ∀ queueIndex, platform.queueHalf queueIndex < 2 := by
    intro queueIndex
    unfold queueHalf
    split <;> omega
  cases mapType with
  | dot1pToTcAndColor => exact ⟨inRange.1, Nat.one_pos⟩
  | dscpToTcAndColor => exact ⟨inRange.1, Nat.one_pos⟩
  | tcToQueue => exact ⟨inRange.1, half _⟩
  | tcToPriorityGroup => exact ⟨inRange.1, Nat.one_pos⟩
  | pfcPriorityToQueue => exact ⟨inRange.1, half _⟩
  | tcAndColorToDot1p => exact ⟨inRange.1, inRange.2.1⟩
  | tcAndColorToDscp => exact ⟨inRange.1, inRange.2.1⟩
  | other value => exact inRange.elim
  | invalid => exact inRange.elim

theorem inRange_of_check (documented : platform.Documented) (other : mapType ≠ .pfcPriorityToQueue)
    (checked : platform.entryCheck mapType e = .success) : platform.InRange mapType e := by
  cases mapType with
  | dot1pToTcAndColor =>
    obtain ⟨dot1p, tc, color, -⟩ := (documented.validates _ _ _ _).mp checked
    exact ⟨dot1p, tc, color⟩
  | dscpToTcAndColor =>
    obtain ⟨-, tc, color, dscp⟩ := (documented.validates _ _ _ _).mp checked
    exact ⟨dscp, tc, color⟩
  | tcToQueue =>
    dsimp only [entryCheck] at checked
    split at checked
    · next valid =>
      split at checked
      · cases checked
      · next below => exact ⟨((documented.validates _ _ _ _).mp valid).2.1, Nat.lt_of_not_le below⟩
    · next error => exact absurd checked error
  | tcToPriorityGroup =>
    dsimp only [entryCheck] at checked
    split at checked
    · next valid =>
      split at checked
      · cases checked
      · next below => exact ⟨((documented.validates _ _ _ _).mp valid).2.1, Nat.lt_of_not_le below⟩
    · next error => exact absurd checked error
  | pfcPriorityToQueue => exact absurd rfl other
  | tcAndColorToDot1p =>
    obtain ⟨dot1p, tc, color, -⟩ := (documented.validates _ _ _ _).mp checked
    exact ⟨tc, color, dot1p⟩
  | tcAndColorToDscp =>
    obtain ⟨-, tc, color, dscp⟩ := (documented.validates _ _ _ _).mp checked
    exact ⟨tc, color, dscp⟩
  | other value => cases checked
  | invalid => cases checked

theorem pfcCheck_success : platform.entryCheck .pfcPriorityToQueue e = .success ↔
    e.value.queueIndex ≤ platform.maxQueues := by
  dsimp only [entryCheck]
  split
  · next above => exact iff_of_false SaiStatus.noConfusion (Nat.not_le_of_lt above)
  · next below => exact iff_of_true rfl (Nat.le_of_not_lt below)

/-- An accepted list whose entries are in range is written within the table, the last entry of
a key wins, and the other keys keep what they have. -/
theorem right_of_inRange (documented : platform.Documented)
    (sized : table.length = (platform.defaultTable mapType).length) (takes : platform.Takes mapType entries)
    (inRange : ∀ entry ∈ entries, platform.InRange mapType entry) :
    (∀ entry ∈ entries, platform.entryIndex mapType entry < table.length) ∧
    ∀ key, platform.IsKey mapType key → platform.lookup mapType (platform.tableUpdate mapType table entries).1 key =
      match (entries.filter fun entry => platform.keyOf mapType entry = key).getLast? with
      | some entry => some (platform.entryValue mapType entry)
      | none => platform.lookup mapType table key := by
  obtain ⟨supported, tabled, valid⟩ := takes
  rw [length_defaultTable documented] at sized
  constructor
  · intro entry member
    rw [entryIndex_eq tabled, sized]
    exact keyIndex_lt (.of_inRange (inRange entry member))
  · intro key isKey
    have all : (entries.takeWhile fun e => platform.entryCheck mapType e = .success) = entries :=
      List.takeWhile_eq_self_iff.mpr fun entry member => decide_eq_true (valid entry member)
    have sameEntries : (entries.filter fun entry => platform.entryIndex mapType entry = platform.keyIndex mapType key) =
        entries.filter fun entry => platform.keyOf mapType entry = key := by
      refine List.filter_congr fun entry member => ?_
      rw [decide_eq_decide, entryIndex_eq tabled]
      exact ⟨keyIndex_inj (.of_inRange (inRange entry member)) isKey, congrArg (platform.keyIndex mapType)⟩
    have inTable : platform.keyIndex mapType key < table.length := by
      rw [sized]
      exact keyIndex_lt isKey
    unfold lookup
    rw [tableUpdate_eq supported tabled, listUpdate_table, all, Slots.getElem?_writeAll entryWrite_overwrites]
    unfold Slots.lastAt
    rw [sameEntries]
    cases (entries.filter fun entry => platform.keyOf mapType entry = key).getLast? with
    | none => rfl
    | some entry =>
      dsimp only
      rw [List.getElem?_eq_getElem inTable, Option.map_some, Option.map_some, readValue_entryWrite]

theorem listRewrite_eq_self {check : QosMapEntry → SaiStatus} {rewrite : QosMapEntry → QosMapEntry} :
    listRewrite check rewrite entries = entries ↔
      ∀ entry ∈ entries.takeWhile fun e => check e = .success, rewrite entry = entry := by
  induction entries with
  | nil => exact iff_of_true rfl nofun
  | cons entry rest ih =>
    unfold listRewrite
    rw [List.takeWhile_cons]
    by_cases valid : check entry = .success
    · rw [valid, if_pos (decide_eq_true rfl), List.forall_mem_cons, ← ih]
      exact List.cons.injEq _ _ _ _ ▸ Iff.rfl
    rw [if_neg (by simpa using valid)]
    split
    · next success => exact absurd success valid
    · exact iff_of_true rfl nofun

theorem rewriteQueue_eq_self :
    platform.rewriteQueue e = e ↔ platform.maxUcQueues = 0 ∨ e.value.queueIndex < platform.maxUcQueues := by
  have field : platform.rewriteQueue e = e ↔ platform.queueWithin e.value.queueIndex = e.value.queueIndex := by
    obtain ⟨key, value⟩ := e
    obtain ⟨tc, dscp, dot1p, prio, pg, queueIndex, color⟩ := value
    simp [rewriteQueue]
  rw [field]
  unfold queueWithin
  split <;> omega

theorem listRewrite_unicast : listRewrite (platform.entryCheck mapType) platform.rewriteQueue entries = entries ↔
    platform.UnicastOnly mapType entries := by
  rw [listRewrite_eq_self]
  unfold UnicastOnly validEntries
  simp only [rewriteQueue_eq_self]
  constructor
  · intro each
    by_cases none : platform.maxUcQueues = 0
    · exact .inl none
    · exact .inr fun entry member => (each entry member).resolve_left none
  · rintro (none | unicast) entry member
    · exact .inl none
    · exact .inr (unicast entry member)

/-- A table update treats a list as it should exactly when the list is safe. -/
theorem tableUpdate_right_iff (documented : platform.Documented)
    (sized : table.length = (platform.defaultTable mapType).length) :
    platform.ListRight mapType table entries ↔ platform.ListSafe mapType entries := by
  constructor
  · intro right supported
    have caller := right.caller
    unfold callerList at caller
    rw [if_neg (by rw [supported]; exact Bool.noConfusion)] at caller
    cases mapType with
    | tcToQueue => exact listRewrite_unicast.mp caller
    | pfcPriorityToQueue =>
      refine ⟨listRewrite_unicast.mp caller, ?_⟩
      by_contra neither
      rw [not_or, not_exists] at neither
      obtain ⟨fits, outside⟩ := neither
      rw [not_forall] at outside
      obtain ⟨entry, outside⟩ := outside
      rw [Classical.not_imp] at outside
      refine right.rejects ⟨entry, outside⟩ (tableUpdate_success.mpr ⟨supported, rfl, fun other member => ?_⟩)
      exact pfcCheck_success.mpr (Nat.le_of_not_lt fun above => fits other ⟨member, above⟩)
    | _ => trivial
  · intro safe
    have inRange : platform.Takes mapType entries → ∀ entry ∈ entries, platform.InRange mapType entry := by
      intro takes entry member
      obtain ⟨supported, tabled, valid⟩ := takes
      by_cases pfc : mapType = .pfcPriorityToQueue
      · subst pfc
        rcases (safe supported).2 with ⟨other, isIn, above⟩ | fits
        · exact absurd (pfcCheck_success.mp (valid other isIn)) (Nat.not_le_of_lt above)
        · exact fits entry member
      · exact inRange_of_check documented pfc (valid entry member)
    refine ⟨?_, ?_, ?_, ?_⟩
    · rintro ⟨entry, member, outside⟩ success
      exact outside (inRange (tableUpdate_success.mp success) entry member)
    · intro success
      have takes := tableUpdate_success.mp success
      exact (right_of_inRange documented sized takes (inRange takes)).1
    · intro success
      have takes := tableUpdate_success.mp success
      exact (right_of_inRange documented sized takes (inRange takes)).2
    · unfold callerList
      split
      · rfl
      next supported =>
      have isSupported := Bool.not_eq_false _ ▸ supported
      cases mapType with
      | tcToQueue => exact listRewrite_unicast.mpr (safe isSupported)
      | pfcPriorityToQueue => exact listRewrite_unicast.mpr (safe isSupported).1
      | _ => rfl

end Keys
end QosMapPlatform

def queuesQosMapPlatform : QosMapPlatform :=
  { sampleQosMapPlatform with
    maxUcQueues := 2
    attrValueValidate := fun dot1p tc color dscp =>
      if dot1p < 1 ∧ tc < 1 ∧ color < 1 ∧ dscp < 1 then .success else .invalidAttrValue 0 }

theorem queuesQosMapPlatform_documented : queuesQosMapPlatform.Documented := by
  refine ⟨fun dot1p tc color dscp => ?_, rfl⟩
  dsimp only [queuesQosMapPlatform]
  split
  · next below => exact iff_of_true rfl below
  · next above => exact iff_of_false SaiStatus.noConfusion above

/-- The multicast queue 3 for a priority that there is not. -/
def queuesQosMapEntries : List QosMapEntry :=
  [{ key := { QosMapEntry.zero.key with prio := 5 }, value := { QosMapEntry.zero.value with queueIndex := 3 } }]

theorem tableUpdate_right_sample :
    queuesQosMapPlatform.ListRight .pfcPriorityToQueue queuesQosMapPlatform.pfcPriToQueueDefault queuesQosMapEntries ↔
      queuesQosMapPlatform.ListSafe .pfcPriorityToQueue queuesQosMapEntries :=
  QosMapPlatform.tableUpdate_right_iff queuesQosMapPlatform_documented rfl

theorem tableUpdate_not_right : ¬ ∀ (platform : QosMapPlatform) (mapType : QosMapType) (table : QosMapTable)
    (entries : List QosMapEntry), platform.Documented → table.length = (platform.defaultTable mapType).length →
    entries ≠ [] → platform.ListRight mapType table entries := by
  intro all
  have right := all queuesQosMapPlatform .pfcPriorityToQueue queuesQosMapPlatform.pfcPriToQueueDefault
    queuesQosMapEntries queuesQosMapPlatform_documented rfl (List.cons_ne_nil _ _)
  refine right.rejects ⟨_, List.mem_singleton.mpr rfl, ?_⟩ (by decide)
  exact fun inRange => absurd inRange.1 (by decide)

end SaiCommon
