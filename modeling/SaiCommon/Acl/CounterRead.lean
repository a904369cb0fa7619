import SaiCommon.Acl.Counter

namespace SaiCommon

variable {attrs : List AclCounterAttrId} {attr : AclCounterAttrId} {counter : AclCounter} {numCounters : Nat}
  {counterValue : Nat → BitVec 64} {npu : AclCounterNpu}

inductive AclCounterValue
  | u64 (count : BitVec 64)
  | boolData (flag : Bool)
  | oid (id : ObjectId)
deriving DecidableEq

/-- `get_acl_cntr` of the NPU: its status, and what the output holds afterwards
when so many counts are asked for. -/
structure AclCounterNpu where
  status : AclCounter → Nat → SaiStatus
  counterValue : AclCounter → Nat → Nat → BitVec 64

def aclCntrFindNumCounters (attrs : List AclCounterAttrId) : Nat :=
  if .packets ∈ attrs ∧ .bytes ∈ attrs then 2
  else if .packets ∈ attrs ∨ .bytes ∈ attrs then 1
  else 0

def aclCntrGetRefused (counter : AclCounter) : AclCounterAttrId → Bool
  | .outOfRange _ => true
  | .packets => counter.counterType = .bytes
  | .bytes => counter.counterType = .packets
  | .tableId => false
  | .enablePacketCount => false
  | .enableByteCount => false

/-- The value an attribute is filled with; `none` leaves it as the caller gave it. -/
def aclCntrGetAttr (counter : AclCounter) (numCounters : Nat) (counterValue : Nat → BitVec 64) :
    AclCounterAttrId → Option AclCounterValue
  | .bytes =>
    if numCounters = 2 then some (.u64 (counterValue 0))
    else if numCounters = 1 then some (.u64 (counterValue 0))
    else none
  | .packets =>
    if numCounters = 2 then some (.u64 (counterValue 1))
    else if numCounters = 1 then some (.u64 (counterValue 0))
    else none
  | .enablePacketCount =>
    if counter.counterType = .bytesPackets then some (.boolData true)
    else some (.boolData (counter.counterType ≠ .bytes))
  | .enableByteCount =>
    if counter.counterType = .bytesPackets then some (.boolData true)
    else some (.boolData (counter.counterType ≠ .packets))
  | .tableId => some (.oid counter.tableId)
  | .outOfRange _ => none

/-- `sai_acl_cntr_util_set_attr_count_value` from an index on; the list holds what
it has written into the attributes before it ended. -/
def aclCntrUtilSetAttrCountValue (counter : AclCounter) (numCounters : Nat) (counterValue : Nat → BitVec 64)
    (index : Nat) (validAttr : Bool) : List AclCounterAttrId → List (Option AclCounterValue) × SaiStatus
  | [] => ([], if validAttr then .success else .mandatoryAttributeMissing)
  | attr :: rest =>
    if aclCntrGetRefused counter attr then ([], .invalidAttribute index)
    else
      let value := aclCntrGetAttr counter numCounters counterValue attr
      let (values, status) :=
        aclCntrUtilSetAttrCountValue counter numCounters counterValue (index + 1) (validAttr || value.isSome) rest
      (value :: values, status)

def aclCntrGetValue (counter : AclCounter) (attrs : List AclCounterAttrId) (npu : AclCounterNpu) :
    List (Option AclCounterValue) × SaiStatus :=
  let fetchCounter := aclCntrFindNumCounters attrs
  match if fetchCounter ≠ 0 then npu.status counter fetchCounter else .success with
  | .success => aclCntrUtilSetAttrCountValue counter fetchCounter (npu.counterValue counter fetchCounter) 0 false attrs
  | error => ([], error)

def getAclCntr (s : AclState) (counterId : ObjectId) (attrs : List AclCounterAttrId) (npu : AclCounterNpu) :
    List (Option AclCounterValue) × SaiStatus :=
  if attrs = [] then ([], .invalidParameter)
  else if counterId.objType ≠ .aclCounter then ([], .invalidObjectType)
  else match s.counterTree.get counterId with
    | none => ([], .invalidObjectId)
    | some counter => aclCntrGetValue counter attrs npu

theorem aclCntrFindNumCounters_mem (count : attr = .packets ∨ attr = .bytes) (member : attr ∈ attrs) :
    aclCntrFindNumCounters attrs = 1 ∨ aclCntrFindNumCounters attrs = 2 := by
  unfold aclCntrFindNumCounters
  rcases count with rfl | rfl
  · by_cases other : AclCounterAttrId.bytes ∈ attrs
    · exact Or.inr (by simp [member, other])
    · exact Or.inl (by simp [member, other])
  · by_cases other : AclCounterAttrId.packets ∈ attrs
    · exact Or.inr (by simp [member, other])
    · exact Or.inl (by simp [member, other])

theorem aclCntrUtilSetAttrCountValue_filled (accepted : ∀ attr ∈ attrs, aclCntrGetRefused counter attr = false)
    (index : Nat) (validAttr : Bool) :
    aclCntrUtilSetAttrCountValue counter numCounters counterValue index validAttr attrs =
      (attrs.map (aclCntrGetAttr counter numCounters counterValue),
        if validAttr || attrs.any (fun attr => (aclCntrGetAttr counter numCounters counterValue attr).isSome)
        then .success else .mandatoryAttributeMissing) := by
  induction attrs generalizing index validAttr with
  | nil => simp [aclCntrUtilSetAttrCountValue]
  | cons attr rest ih =>
    have first : aclCntrGetRefused counter attr = false := accepted attr (List.mem_cons_self ..)
    have later : ∀ attr ∈ rest, aclCntrGetRefused counter attr = false :=
      fun attr member => accepted attr (List.mem_cons_of_mem _ member)
    simp only [aclCntrUtilSetAttrCountValue, first, ih later, List.map_cons, List.any_cons, Bool.or_assoc]
    rfl

theorem aclCntrUtilSetAttrCountValue_refused {index : Nat} {validAttr : Bool}
    (success : (aclCntrUtilSetAttrCountValue counter numCounters counterValue index validAttr attrs).2 = .success) :
    ∀ attr ∈ attrs, aclCntrGetRefused counter attr = false := by
  induction attrs generalizing index validAttr with
  | nil => simp
  | cons attr rest ih =>
    unfold aclCntrUtilSetAttrCountValue at success
    by_cases first : aclCntrGetRefused counter attr = true
    · rw [if_pos first] at success
      exact SaiStatus.noConfusion success
    rw [if_neg first] at success
    intro asked member
    rcases List.mem_cons.mp member with rfl | member
    · exact Bool.not_eq_true _ ▸ first
    · exact ih success asked member

section
variable {other : Nat → BitVec 64} (same : ∀ i < numCounters, counterValue i = other i)
include same

theorem aclCntrGetAttr_within (attr : AclCounterAttrId) :
    aclCntrGetAttr counter numCounters counterValue attr = aclCntrGetAttr counter numCounters other attr := by
  unfold aclCntrGetAttr
  split
  · split
    · rw [same 0 (by omega)]
    split
    · rw [same 0 (by omega)]
    · rfl
  · split
    · rw [same 1 (by omega)]
    split
    · rw [same 0 (by omega)]
    · rfl
  all_goals rfl

theorem aclCntrUtilSetAttrCountValue_within (attrs : List AclCounterAttrId) (index : Nat) (validAttr : Bool) :
    aclCntrUtilSetAttrCountValue counter numCounters counterValue index validAttr attrs =
      aclCntrUtilSetAttrCountValue counter numCounters other index validAttr attrs := by
  induction attrs generalizing index validAttr with
  | nil => rfl
  | cons attr rest ih =>
    simp only [aclCntrUtilSetAttrCountValue, aclCntrGetAttr_within same attr, ih]

end

/-- Two NPUs that give the same answers, up to what the output holds behind the
counts that were asked for. -/
structure AclCounterNpu.Same (npu other : AclCounterNpu) : Prop where
  status : npu.status = other.status
  counterValue : ∀ counter asked, ∀ i < asked, npu.counterValue counter asked i = other.counterValue counter asked i

theorem getAclCntr_within {other : AclCounterNpu} (same : npu.Same other) (s : AclState) (counterId : ObjectId)
    (attrs : List AclCounterAttrId) : getAclCntr s counterId attrs npu = getAclCntr s counterId attrs other := by
  have value : ∀ counter, aclCntrGetValue counter attrs npu = aclCntrGetValue counter attrs other := by
    intro counter
    simp only [aclCntrGetValue, same.status,
      aclCntrUtilSetAttrCountValue_within (same.counterValue counter (aclCntrFindNumCounters attrs)) attrs 0 false]
  unfold getAclCntr
  split
  · rfl
  split
  · rfl
  split
  · rfl
  · exact value _

def AclCounterReturned (s : AclState) (npu : AclCounterNpu) (counterId : ObjectId) (attrs : List AclCounterAttrId)
    (attr : AclCounterAttrId) (value : Option AclCounterValue) : Prop :=
  ∃ (values : List (Option AclCounterValue)) (i : Nat), getAclCntr s counterId attrs npu = (values, .success) ∧
    attrs[i]? = some attr ∧ values[i]? = some value

/-- A list that cannot be read: the counter has no such attribute, or the NPU
refuses. -/
def AclCounterUnread (npu : AclCounterNpu) (counter : AclCounter) (attrs : List AclCounterAttrId) : Prop :=
  (∃ asked ∈ attrs, aclCntrGetRefused counter asked = true) ∨
    npu.status counter (aclCntrFindNumCounters attrs) ≠ .success

theorem AclCounterUnread.accepted (readable : ¬AclCounterUnread npu counter attrs) :
    (∀ asked ∈ attrs, aclCntrGetRefused counter asked = false) ∧
      npu.status counter (aclCntrFindNumCounters attrs) = .success := by
  have both := not_or.mp readable
  refine ⟨fun asked member => ?_, Classical.not_not.mp both.2⟩
  exact Bool.not_eq_true _ ▸ fun refused => both.1 ⟨asked, member, refused⟩

theorem getAclCntr_found {s : AclState} {counterId : ObjectId} (typed : counterId.objType = .aclCounter)
    (found : s.counterTree.get counterId = some counter) (member : attr ∈ attrs) :
    getAclCntr s counterId attrs npu = aclCntrGetValue counter attrs npu := by
  unfold getAclCntr
  rw [if_neg (List.ne_nil_of_mem member), if_neg (not_not_intro typed), found]

/-- The count that a list is filled with for an attribute. -/
def aclCntrCount (npu : AclCounterNpu) (counter : AclCounter) (attrs : List AclCounterAttrId)
    (attr : AclCounterAttrId) : BitVec 64 :=
  npu.counterValue counter (aclCntrFindNumCounters attrs)
    (if aclCntrFindNumCounters attrs = 2 ∧ attr = .packets then 1 else 0)

theorem aclCntrGetAttr_count (npu : AclCounterNpu) (counter : AclCounter) (count : attr = .packets ∨ attr = .bytes)
    (member : attr ∈ attrs) :
    aclCntrGetAttr counter (aclCntrFindNumCounters attrs)
      (npu.counterValue counter (aclCntrFindNumCounters attrs)) attr =
      some (.u64 (aclCntrCount npu counter attrs attr)) := by
  unfold aclCntrCount
  rcases aclCntrFindNumCounters_mem count member with asked | asked
  · rw [asked]
    rcases count with rfl | rfl <;> rfl
  · rw [asked]
    rcases count with rfl | rfl <;> rfl

theorem AclCounterUnread.filled (readable : ¬AclCounterUnread npu counter attrs)
    (count : attr = .packets ∨ attr = .bytes) (member : attr ∈ attrs) :
    aclCntrGetValue counter attrs npu = (attrs.map (aclCntrGetAttr counter (aclCntrFindNumCounters attrs)
      (npu.counterValue counter (aclCntrFindNumCounters attrs))), .success) := by
  obtain ⟨accepted, answered⟩ := AclCounterUnread.accepted readable
  have some := aclCntrGetAttr_count npu counter count member
  unfold aclCntrGetValue
  simp only [answered, ite_self, aclCntrUtilSetAttrCountValue_filled accepted, Bool.false_or]
  rw [if_pos (List.any_eq_true.mpr ⟨attr, member, by rw [some]; rfl⟩)]

theorem aclCntrGetValue_unread (count : attr = .packets ∨ attr = .bytes) (member : attr ∈ attrs)
    (unread : AclCounterUnread npu counter attrs) : (aclCntrGetValue counter attrs npu).2 ≠ .success := by
  have fetched : aclCntrFindNumCounters attrs ≠ 0 := by
    have asked := aclCntrFindNumCounters_mem count member
    omega
  intro success
  unfold aclCntrGetValue at success
  simp only [if_pos fetched] at success
  cases answered : npu.status counter (aclCntrFindNumCounters attrs) with
  | success =>
    rw [answered] at success
    have accepted := aclCntrUtilSetAttrCountValue_refused success
    rcases unread with ⟨asked, member, refused⟩ | refused
    · exact Bool.false_ne_true ((accepted asked member).symm.trans refused)
    · exact refused answered
  | _ => rw [answered] at success; exact SaiStatus.noConfusion success

theorem aclCounterReturned_iff {s : AclState} {counterId : ObjectId} {value : Option AclCounterValue}
    (typed : counterId.objType = .aclCounter) (found : s.counterTree.get counterId = some counter)
    (count : attr = .packets ∨ attr = .bytes) (member : attr ∈ attrs) :
    AclCounterReturned s npu counterId attrs attr value ↔ ¬AclCounterUnread npu counter attrs ∧
      value = some (.u64 (aclCntrCount npu counter attrs attr)) := by
  rw [← aclCntrGetAttr_count npu counter count member]
  unfold AclCounterReturned
  rw [getAclCntr_found typed found member]
  by_cases unread : AclCounterUnread npu counter attrs
  · refine iff_of_false ?_ (fun read => read.1 unread)
    rintro ⟨values, i, read, -⟩
    exact aclCntrGetValue_unread count member unread (congrArg Prod.snd read)
  rw [AclCounterUnread.filled unread count member]
  constructor
  · rintro ⟨values, i, read, place, held⟩
    obtain rfl := (Prod.mk.inj read).1
    rw [List.getElem?_map, place] at held
    exact ⟨unread, (Option.some.inj held).symm⟩
  · rintro ⟨-, rfl⟩
    obtain ⟨i, place⟩ := List.mem_iff_getElem?.mp member
    refine ⟨_, i, rfl, place, ?_⟩
    rw [List.getElem?_map, place]
    rfl

def AclCounterReadsAgree (s : AclState) (npu : AclCounterNpu) (counterId : ObjectId)
    (attrs attrs' : List AclCounterAttrId) (attr : AclCounterAttrId) : Prop :=
  ∀ value value', AclCounterReturned s npu counterId attrs attr value →
    AclCounterReturned s npu counterId attrs' attr value' → value = value'

/-- A counter of bytes and packets is read as one count when the list asks for one
of them, and the NPU is not told which. So the value depends on the rest of the
list, unless the NPU happens to answer with that count. -/
theorem getAclCntr_agree_iff {s : AclState} {counterId : ObjectId} {counter : AclCounter}
    {attrs attrs' : List AclCounterAttrId} {attr : AclCounterAttrId} (npu : AclCounterNpu)
    (typed : counterId.objType = .aclCounter) (found : s.counterTree.get counterId = some counter)
    (count : attr = .packets ∨ attr = .bytes) (member : attr ∈ attrs) (member' : attr ∈ attrs') :
    AclCounterReadsAgree s npu counterId attrs attrs' attr ∧
        (∀ other, npu.Same other →
          ∀ list, getAclCntr s counterId list npu = getAclCntr s counterId list other) ↔
      AclCounterUnread npu counter attrs ∨ AclCounterUnread npu counter attrs' ∨
        aclCntrFindNumCounters attrs = aclCntrFindNumCounters attrs' ∨
        npu.counterValue counter 1 0 = npu.counterValue counter 2 (if attr = .packets then 1 else 0) := by
  rw [and_iff_left (fun other same list => getAclCntr_within same s counterId list)]
  unfold AclCounterReadsAgree
  simp only [aclCounterReturned_iff typed found count member, aclCounterReturned_iff typed found count member']
  by_cases unread : AclCounterUnread npu counter attrs
  · exact iff_of_true (fun value value' read => absurd unread read.1) (Or.inl unread)
  by_cases unread' : AclCounterUnread npu counter attrs'
  · exact iff_of_true (fun value value' _ read => absurd unread' read.1) (Or.inr (Or.inl unread'))
  have equal : (∀ value value' : Option AclCounterValue,
      ¬AclCounterUnread npu counter attrs ∧ value = some (.u64 (aclCntrCount npu counter attrs attr)) →
      ¬AclCounterUnread npu counter attrs' ∧ value' = some (.u64 (aclCntrCount npu counter attrs' attr)) →
      value = value') ↔ aclCntrCount npu counter attrs attr = aclCntrCount npu counter attrs' attr := by
    constructor
    · intro agree
      exact AclCounterValue.u64.inj (Option.some.inj (agree _ _ ⟨unread, rfl⟩ ⟨unread', rfl⟩))
    · rintro same value value' ⟨-, rfl⟩ ⟨-, rfl⟩
      rw [same]
  rw [equal, or_iff_right unread, or_iff_right unread']
  unfold aclCntrCount
  rcases aclCntrFindNumCounters_mem count member with one | two
  · rcases aclCntrFindNumCounters_mem count member' with one' | two'
    · exact iff_of_true (by rw [one, one']) (Or.inl (by rw [one, one']))
    · rw [one, two', or_iff_right (by decide)]
      simp only [show ¬(1 = 2 ∧ attr = AclCounterAttrId.packets) by omega, if_false, true_and]
  · rcases aclCntrFindNumCounters_mem count member' with one' | two'
    · rw [two, one', or_iff_right (by decide)]
      simp only [show ¬(1 = 2 ∧ attr = AclCounterAttrId.packets) by omega, if_false, true_and]
      exact eq_comm
    · exact iff_of_true (by rw [two, two']) (Or.inl (by rw [two, two']))

def counterReadSampleCounter : AclCounter := ⟨⟨.aclTable, 1⟩, .bytesPackets⟩

def counterReadSample : AclState where
  tableTree := ∅
  ruleTree := ∅
  counterTree := (∅ : KeyTree ObjectId AclCounter).put ⟨.aclCounter, 1⟩ counterReadSampleCounter
  tableInUse := fun _ => false
  allocated := 0
  qos := { portTree := ∅, policerTree := ∅ }

/-- Seven bytes and three packets; asked for one count, the NPU gives the bytes. -/
def counterReadSampleNpu : AclCounterNpu where
  status := fun _ _ => .success
  counterValue := fun _ _ i => if i = 0 then 7 else 3

theorem getAclCntr_agree_iff_sample :
    AclCounterReadsAgree counterReadSample counterReadSampleNpu
    ⟨.aclCounter, 1⟩ [.bytes] [.packets, .bytes] .bytes ∧
        (∀ other, counterReadSampleNpu.Same other → ∀ list, getAclCntr counterReadSample ⟨.aclCounter, 1⟩ list
          counterReadSampleNpu = getAclCntr counterReadSample ⟨.aclCounter, 1⟩ list other) :=
  (@getAclCntr_agree_iff _ _ counterReadSampleCounter _ _ _ counterReadSampleNpu rfl rfl (Or.inr rfl)
    (List.mem_cons_self ..) (List.mem_cons_of_mem _ (List.mem_cons_self ..))).mpr (Or.inr (Or.inr (Or.inr rfl)))

/-- Packets alone are answered with the bytes. -/
theorem getAclCntr_not_agree : ¬ ∀ (s : AclState) (npu : AclCounterNpu) (counterId : ObjectId) (counter : AclCounter)
    (attrs attrs' : List AclCounterAttrId) (attr : AclCounterAttrId),
    counterId.objType = .aclCounter → s.counterTree.get counterId = some counter →
    counter.counterType = .bytesPackets → attr = .packets ∨ attr = .bytes → attr ∈ attrs → attr ∈ attrs' →
    AclCounterReadsAgree s npu counterId attrs attrs' attr ∧
      ∀ other, npu.Same other → ∀ list, getAclCntr s counterId list npu = getAclCntr s counterId list other := by
  intro all
  have agree := (all counterReadSample counterReadSampleNpu ⟨.aclCounter, 1⟩ counterReadSampleCounter
    [.packets] [.packets, .bytes] .packets rfl rfl rfl (Or.inl rfl) (List.mem_cons_self ..)
    (List.mem_cons_self ..)).1
  have same := agree (some (.u64 7)) (some (.u64 3)) ⟨[some (.u64 7)], 0, rfl, rfl, rfl⟩
    ⟨[some (.u64 3), some (.u64 7)], 0, rfl, rfl, rfl⟩
  exact absurd same (by decide)

end SaiCommon
