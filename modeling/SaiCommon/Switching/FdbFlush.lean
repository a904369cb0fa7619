import SaiCommon.Switching.FdbNotification

namespace SaiCommon

variable {nodes : FdbNodes} {npu : SaiStatus}

inductive FdbFlushAttr
  | portId (portId : ObjectId)
  | vlanId (vlanId : BitVec 16)
  | entryType (flushType : BitVec 32)
  | other
deriving DecidableEq

structure FdbFlushArgs where
  portId : ObjectId
  vlanId : BitVec 16
  deleteAll : Bool
  flushType : BitVec 32

/-- What the flush reads of the other modules, and the constants of the headers. -/
structure FdbFlushPlatform where
  vlanUndef : BitVec 16
  dynamicType : BitVec 32
  staticType : BitVec 32
  /-- The type that the entries of a flush type have. -/
  entryTypeOf : BitVec 32 → BitVec 32
  lagCreated : ObjectId → Bool
  portValid : ObjectId → Bool
  validVlanId : BitVec 16 → Bool

abbrev FdbNodes := FdbEntry → Option FdbEntryNode

structure FdbFlushResult where
  nodes : FdbNodes
  calls : List FdbFlushArgs
  status : SaiStatus

section Flush
variable (p : FdbFlushPlatform)

/-- The code that `SAI_STATUS_UNKNOWN_ATTRIBUTE_0` stands for. -/
def statusUnknownAttribute0 : BitVec 32 := -0x40000#32

/-- `SAI_STATUS_UNKNOWN_ATTRIBUTE_0 + attr_idx`: the index is added to the negative code,
where `SAI_STATUS_CODE` would take it off. -/
def fdbUnknownAttribute (index : Nat) : SaiStatus :=
  let code := statusUnknownAttribute0 + BitVec.ofNat 32 index
  if code = 0 then .success else .other code.toInt

theorem fdbUnknownAttribute_success (index : Nat) :
    fdbUnknownAttribute index = .success ↔ BitVec.ofNat 32 index = 0x40000 := by
  unfold fdbUnknownAttribute statusUnknownAttribute0
  dsimp only
  split
  · exact iff_of_true rfl (by bv_omega)
  · exact iff_of_false SaiStatus.noConfusion (by bv_omega)

/-- The loop over the attributes. -/
def fdbFlushAttrs : Nat → FdbFlushArgs → List FdbFlushAttr → Except SaiStatus FdbFlushArgs
  | _, args, [] => .ok args
  | index, args, .portId portId :: rest => fdbFlushAttrs (index + 1) { args with portId := portId } rest
  | index, args, .vlanId vlanId :: rest => fdbFlushAttrs (index + 1) { args with vlanId := vlanId } rest
  | index, args, .entryType flushType :: rest =>
    fdbFlushAttrs (index + 1) { args with flushType := flushType, deleteAll := false } rest
  | index, _, .other :: _ => .error (fdbUnknownAttribute index)

def fdbFlushPortCheck (portId : ObjectId) : SaiStatus :=
  if portId = nullObjectId then .success
  else if portId.objType = .lag ∧ p.lagCreated portId = false then .invalidObjectId
  else if portId.objType = .port ∧ p.portValid portId = false then .invalidObjectId
  else if portId.objType ≠ .lag ∧ portId.objType ≠ .port then .invalidObjectType
  else .success

def fdbFlushCheck (args : FdbFlushArgs) : SaiStatus :=
  match fdbFlushPortCheck p args.portId with
  | .success =>
    if args.vlanId ≠ p.vlanUndef ∧ p.validVlanId args.vlanId = false then .invalidVlanId
    else if args.flushType = p.dynamicType ∨ args.flushType = p.staticType then .success
    else .invalidParameter
  | status => status

/-- The entries with these properties go. -/
def fdbDeleteNodes (nodes : FdbNodes) (gone : FdbEntry → FdbEntryNode → Bool) : FdbNodes :=
  fun entry => (nodes entry).filter fun node => !gone entry node

def fdbOfType (args : FdbFlushArgs) (node : FdbEntryNode) : Bool :=
  args.deleteAll || node.entryType = p.entryTypeOf args.flushType

/-- The four branches over the cache, each with its `sai_delete_` function. -/
def fdbFlushNodes (nodes : FdbNodes) (args : FdbFlushArgs) : FdbNodes :=
  if args.portId = nullObjectId ∧ args.vlanId = p.vlanUndef then fdbDeleteNodes nodes fun _ node =>
    fdbOfType p args node
  else if args.portId ≠ nullObjectId ∧ args.vlanId = p.vlanUndef then
    fdbDeleteNodes nodes fun _ node => node.portId = args.portId && fdbOfType p args node
  else if args.portId = nullObjectId ∧ args.vlanId ≠ p.vlanUndef then
    fdbDeleteNodes nodes fun entry node => entry.vlanId = args.vlanId && fdbOfType p args node
  else
    fdbDeleteNodes nodes fun entry node =>
      node.portId = args.portId && entry.vlanId = args.vlanId && fdbOfType p args node

def fdbFlushInit : FdbFlushArgs := ⟨nullObjectId, p.vlanUndef, true, p.dynamicType⟩

def l2FlushFdbEntry (nodes : FdbNodes) (attrs : List FdbFlushAttr) (npu : SaiStatus) : FdbFlushResult :=
  match fdbFlushAttrs 0 (fdbFlushInit p) attrs with
  | .error status => ⟨nodes, [], status⟩
  | .ok args =>
    match fdbFlushCheck p args with
    | .success =>
      match npu with
      | .success => ⟨fdbFlushNodes p nodes args, [args], .success⟩
      | status => ⟨nodes, [args], status⟩
    | status => ⟨nodes, [], status⟩

/-- The entries that a call asks the NPU to flush. -/
def FdbFlushArgs.Selects (args : FdbFlushArgs) (entry : FdbEntry) (node : FdbEntryNode) : Prop :=
  (args.portId = nullObjectId ∨ node.portId = args.portId) ∧
    (args.vlanId = p.vlanUndef ∨ entry.vlanId = args.vlanId) ∧
    fdbOfType p args node = true

def FdbFlushAttr.Matches (entry : FdbEntry) (node : FdbEntryNode) : FdbFlushAttr → Prop
  | .portId port => node.portId = port
  | .vlanId vlan => entry.vlanId = vlan
  | .entryType type => node.entryType = p.entryTypeOf type
  | .other => False

def FdbFlushSelects (attrs : List FdbFlushAttr) (entry : FdbEntry) (node : FdbEntryNode) : Prop :=
  ∀ attr ∈ attrs, attr.Matches p entry node

def FdbPortExists (portId : ObjectId) : Prop :=
  portId.objType = .lag ∧ p.lagCreated portId = true ∨ portId.objType = .port ∧ p.portValid portId = true

structure FdbFlushRight (nodes : FdbNodes) (attrs : List FdbFlushAttr) (result : FdbFlushResult) : Prop where
  removed : result.status = .success → ∀ entry node, result.nodes entry = some node ↔
    nodes entry = some node ∧ ¬ FdbFlushSelects p attrs entry node
  asked : result.status = .success → ∃ args, result.calls = [args] ∧
    ∀ entry node, args.Selects p entry node ↔ FdbFlushSelects p attrs entry node
  refused : (∃ portId, .portId portId ∈ attrs ∧ ¬ FdbPortExists p portId) ∨
    (∃ vlanId, .vlanId vlanId ∈ attrs ∧ p.validVlanId vlanId = false) → result.status ≠ .success
  kept : result.status ≠ .success → result.nodes = nodes

/-- The first unknown attribute has not the index at which its status is SUCCESS. A list that reaches
the cache names existing ports and valid VLANs only, never the value that stands for no VLAN, and some
entry could match all of it. -/
structure FdbFlushClear (attrs : List FdbFlushAttr) (npu : SaiStatus) : Prop where
  unknown : ∀ index, attrs.findIdx? (fun attr => attr = .other) = some index → BitVec.ofNat 32 index ≠ 0x40000
  selects : npu = .success → ∀ args, fdbFlushAttrs 0 (fdbFlushInit p) attrs = .ok args →
    fdbFlushCheck p args = .success →
      (∀ portId, .portId portId ∈ attrs → FdbPortExists p portId) ∧
      (∀ vlanId, .vlanId vlanId ∈ attrs → p.validVlanId vlanId = true ∧ vlanId ≠ p.vlanUndef) ∧
      ∃ entry node, FdbFlushSelects p attrs entry node

end Flush

section Args
variable {p : FdbFlushPlatform} {args final : FdbFlushArgs} {attrs : List FdbFlushAttr}

/-- Each argument comes from an attribute of the list, or the list has none for it. -/
structure FdbFlushParsed (args final : FdbFlushArgs) (attrs : List FdbFlushAttr) : Prop where
  known : .other ∉ attrs
  port : .portId final.portId ∈ attrs ∨ final.portId = args.portId ∧ ∀ portId, .portId portId ∉ attrs
  vlan : .vlanId final.vlanId ∈ attrs ∨ final.vlanId = args.vlanId ∧ ∀ vlanId, .vlanId vlanId ∉ attrs
  type : final.deleteAll = false ∧ .entryType final.flushType ∈ attrs ∨
    final.deleteAll = args.deleteAll ∧ final.flushType = args.flushType ∧
    ∀ flushType, .entryType flushType ∉ attrs

theorem fdbFlushAttrs_parsed (index : Nat) (run : fdbFlushAttrs index args attrs = .ok final) :
    FdbFlushParsed args final attrs := by
  induction attrs generalizing index args with
  | nil =>
    cases run
    exact ⟨List.not_mem_nil, .inr ⟨rfl, fun _ => List.not_mem_nil⟩, .inr ⟨rfl, fun _ => List.not_mem_nil⟩,
      .inr ⟨rfl, rfl, fun _ => List.not_mem_nil⟩⟩
  | cons attr rest ih =>
    cases attr with
    | other => cases run
    | portId portId =>
      have later := ih _ run
      refine ⟨by simpa using later.known, .inl ?_, by simpa using later.vlan, by simpa using later.type⟩
      rcases later.port with listed | ⟨same, _⟩
      · exact List.mem_cons_of_mem _ listed
      · rw [same]
        exact List.mem_cons_self ..
    | vlanId vlanId =>
      have later := ih _ run
      refine ⟨by simpa using later.known, by simpa using later.port, .inl ?_, by simpa using later.type⟩
      rcases later.vlan with listed | ⟨same, _⟩
      · exact List.mem_cons_of_mem _ listed
      · rw [same]
        exact List.mem_cons_self ..
    | entryType flushType =>
      have later := ih _ run
      refine ⟨by simpa using later.known, by simpa using later.port, by simpa using later.vlan, .inl ?_⟩
      rcases later.type with ⟨all, listed⟩ | ⟨all, same, _⟩
      · exact ⟨all, List.mem_cons_of_mem _ listed⟩
      · rw [same]
        exact ⟨all, List.mem_cons_self ..⟩

theorem FdbFlushArgs.selects_iff (parsed : FdbFlushParsed (fdbFlushInit p) args attrs)
    (ports : ∀ portId, .portId portId ∈ attrs → FdbPortExists p portId)
    (vlans : ∀ vlanId, .vlanId vlanId ∈ attrs → p.validVlanId vlanId = true ∧ vlanId ≠ p.vlanUndef)
    {entry' : FdbEntry} {node' : FdbEntryNode} (matched : FdbFlushSelects p attrs entry' node')
    (entry : FdbEntry) (node : FdbEntryNode) : args.Selects p entry node ↔ FdbFlushSelects p attrs entry node := by
  unfold FdbFlushArgs.Selects fdbOfType
  rw [Bool.or_eq_true, decide_eq_true_eq]
  constructor
  · rintro ⟨port, vlan, type⟩ attr member
    have here := matched attr member
    cases attr with
    | portId portId =>
      have nonNull : portId ≠ nullObjectId := by
        rintro rfl
        rcases ports _ member with ⟨isLag, _⟩ | ⟨isPort, _⟩
        · cases isLag
        · cases isPort
      rcases parsed.port with listed | ⟨_, absent⟩
      · have same : portId = args.portId := here.symm.trans (matched _ listed)
        rw [← same] at port
        exact port.resolve_left nonNull
      · exact (absent portId member).elim
    | vlanId vlanId =>
      rcases parsed.vlan with listed | ⟨_, absent⟩
      · have same : vlanId = args.vlanId := here.symm.trans (matched _ listed)
        rw [← same] at vlan
        exact vlan.resolve_left (vlans vlanId member).2
      · exact (absent vlanId member).elim
    | entryType flushType =>
      rcases parsed.type with ⟨notAll, listed⟩ | ⟨_, _, absent⟩
      · have same : p.entryTypeOf flushType = p.entryTypeOf args.flushType := here.symm.trans (matched _ listed)
        rw [notAll, ← same] at type
        exact type.resolve_left Bool.noConfusion
      · exact (absent flushType member).elim
    | other => exact here
  · intro selects
    refine ⟨?_, ?_, ?_⟩
    · rcases parsed.port with listed | ⟨none, _⟩
      · exact .inr (selects _ listed)
      · exact .inl none
    · rcases parsed.vlan with listed | ⟨none, _⟩
      · exact .inr (selects _ listed)
      · exact .inl none
    · rcases parsed.type with ⟨_, listed⟩ | ⟨all, _⟩
      · exact .inr (selects _ listed)
      · exact .inl all

theorem fdbFlushNodes_eq_some (entry : FdbEntry) (node : FdbEntryNode) :
    fdbFlushNodes p nodes args entry = some node ↔ nodes entry = some node ∧ ¬ args.Selects p entry node := by
  have kept : ∀ gone : FdbEntry → FdbEntryNode → Bool, fdbDeleteNodes nodes gone entry = some node ↔
      nodes entry = some node ∧ ¬ gone entry node = true := by
    intro gone
    unfold fdbDeleteNodes
    rw [Option.filter_eq_some_iff, Bool.not_eq_true', Bool.eq_false_iff]
  unfold fdbFlushNodes FdbFlushArgs.Selects
  by_cases port : args.portId = nullObjectId
  · by_cases vlan : args.vlanId = p.vlanUndef
    · rw [if_pos ⟨port, vlan⟩, kept]
      simp [port, vlan]
    · rw [if_neg (by tauto), if_neg (by tauto), if_pos ⟨port, vlan⟩, kept]
      simp [port, vlan]
  · by_cases vlan : args.vlanId = p.vlanUndef
    · rw [if_neg (by tauto), if_pos ⟨port, vlan⟩, kept]
      simp [port, vlan]
    · rw [if_neg (by tauto), if_neg (by tauto), if_neg (by tauto), kept]
      simp [port, vlan, and_assoc]

theorem fdbFlushAttrs_error (index : Nat) {status : SaiStatus} : fdbFlushAttrs index args attrs = .error status ↔
    ∃ other, attrs.findIdx? (fun attr => attr = .other) = some other ∧
      status = fdbUnknownAttribute (index + other) := by
  induction attrs generalizing index args with
  | nil => exact iff_of_false (fun is => by cases is) fun ⟨_, is, _⟩ => by cases is
  | cons attr rest ih =>
    rw [List.findIdx?_cons]
    cases attr with
    | other =>
      constructor
      · intro is
        cases is
        exact ⟨0, rfl, rfl⟩
      · rintro ⟨other, is, rfl⟩
        cases is
        rfl
    | _ =>
      refine (ih (index + 1)).trans ?_
      rw [if_neg (by simp)]
      simp only [Option.map_eq_some_iff]
      constructor
      · rintro ⟨other, is, rfl⟩
        exact ⟨other + 1, ⟨other, is, rfl⟩, by rw [Nat.add_assoc, Nat.add_comm 1]⟩
      · rintro ⟨_, ⟨other, is, rfl⟩, rfl⟩
        exact ⟨other, is, by rw [Nat.add_assoc, Nat.add_comm 1]⟩

theorem l2FlushFdbEntry_error (error : (l2FlushFdbEntry p nodes attrs npu).status ≠ .success) :
    (l2FlushFdbEntry p nodes attrs npu).nodes = nodes := by
  unfold l2FlushFdbEntry at error ⊢
  split
  · rfl
  rename_i args parsed
  rw [parsed] at error
  dsimp only at error ⊢
  split
  · rename_i checked
    rw [checked] at error
    cases npu <;> first | rfl | exact (error rfl).elim
  · rfl

theorem l2FlushFdbEntry_success
    (known : ∀ index, attrs.findIdx? (fun attr => attr = .other) = some index → BitVec.ofNat 32 index ≠ 0x40000)
    (success : (l2FlushFdbEntry p nodes attrs npu).status = .success) :
    npu = .success ∧ ∃ args, fdbFlushAttrs 0 (fdbFlushInit p) attrs = .ok args ∧
    fdbFlushCheck p args = .success ∧
      l2FlushFdbEntry p nodes attrs npu = ⟨fdbFlushNodes p nodes args, [args], .success⟩ := by
  unfold l2FlushFdbEntry at success ⊢
  split at success
  · rename_i status failed
    cases success
    obtain ⟨index, first, same⟩ := (fdbFlushAttrs_error 0).mp failed
    rw [Nat.zero_add] at same
    exact (known index first ((fdbUnknownAttribute_success index).mp same.symm)).elim
  rename_i args parsed
  rw [parsed]
  split at success
  · rename_i checked
    cases npu <;> first | exact ⟨rfl, args, rfl, checked, rfl⟩ | cases success
  · rename_i notOk
    exact (notOk success).elim

theorem FdbFlushArgs.selects_own (args : FdbFlushArgs) : args.Selects p ⟨0, args.vlanId⟩
    ⟨args.portId, p.entryTypeOf args.flushType, 0, 0⟩ :=
  ⟨.inr rfl, .inr rfl, Bool.or_eq_true_iff.mpr (.inr (decide_eq_true rfl))⟩

theorem FdbFlushArgs.selects_undef (args : FdbFlushArgs) (listed : .vlanId p.vlanUndef ∈ attrs) :
    ¬ ∀ entry node, args.Selects p entry node ↔ FdbFlushSelects p attrs entry node := by
  intro same
  by_cases undef : args.vlanId = p.vlanUndef
  · have wide : args.Selects p ⟨0, p.vlanUndef + 1⟩ ⟨args.portId, p.entryTypeOf args.flushType, 0, 0⟩ :=
      ⟨.inr rfl, .inl undef, args.selects_own.2.2⟩
    have next : p.vlanUndef + 1 = p.vlanUndef := (same _ _).mp wide _ listed
    bv_omega
  · exact undef ((same _ _).mp args.selects_own _ listed)

end Args

/-- A flush is wider than its attributes where one of them is NULL, VLAN_UNDEF or given again with
another value, and an unknown attribute may pass for a flush. -/
theorem l2FlushFdbEntry_right_iff (p : FdbFlushPlatform) (nodes : FdbNodes) (attrs : List FdbFlushAttr)
    (npu : SaiStatus) :
    FdbFlushRight p nodes attrs (l2FlushFdbEntry p nodes attrs npu) ↔ FdbFlushClear p attrs npu := by
  constructor
  · intro right
    refine ⟨fun index first same => ?_, fun ok args parsed checked => ?_⟩
    · have failed : fdbFlushAttrs 0 (fdbFlushInit p) attrs = .error .success :=
        (fdbFlushAttrs_error 0).mpr ⟨index, first, by
          rw [Nat.zero_add]
          exact ((fdbUnknownAttribute_success index).mpr same).symm⟩
      have ends : l2FlushFdbEntry p nodes attrs npu = ⟨nodes, [], .success⟩ := by
        unfold l2FlushFdbEntry
        rw [failed]
      obtain ⟨_, calls, _⟩ := right.asked (by rw [ends])
      rw [ends] at calls
      cases calls
    have ends : l2FlushFdbEntry p nodes attrs npu = ⟨fdbFlushNodes p nodes args, [args], .success⟩ := by
      unfold l2FlushFdbEntry
      rw [parsed]
      dsimp only
      rw [checked, ok]
    have success : (l2FlushFdbEntry p nodes attrs npu).status = .success := by rw [ends]
    obtain ⟨args', calls, same⟩ := right.asked success
    rw [ends] at calls
    cases calls
    have legal := fun bad => right.refused bad success
    refine ⟨fun portId listed => not_not.mp fun absent => legal (.inl ⟨portId, listed, absent⟩),
      fun vlanId listed => ⟨Bool.not_eq_false _ ▸ fun invalid => legal (.inr ⟨vlanId, listed, invalid⟩), ?_⟩,
      _, _, (same _ _).mp args.selects_own⟩
    rintro rfl
    exact args.selects_undef listed same
  · intro clear
    refine ⟨fun success => ?_, fun success => ?_, fun bad success => ?_, l2FlushFdbEntry_error⟩
    · obtain ⟨ok, args, parsed, checked, ends⟩ := l2FlushFdbEntry_success clear.unknown success
      obtain ⟨ports, vlans, entry', node', matched⟩ := clear.selects ok args parsed checked
      intro entry node
      rw [ends, ← FdbFlushArgs.selects_iff (fdbFlushAttrs_parsed 0 parsed) ports vlans matched]
      exact fdbFlushNodes_eq_some entry node
    · obtain ⟨ok, args, parsed, checked, ends⟩ := l2FlushFdbEntry_success clear.unknown success
      obtain ⟨ports, vlans, entry', node', matched⟩ := clear.selects ok args parsed checked
      refine ⟨args, by rw [ends], ?_⟩
      exact FdbFlushArgs.selects_iff (fdbFlushAttrs_parsed 0 parsed) ports vlans matched
    · obtain ⟨ok, args, parsed, checked, ends⟩ := l2FlushFdbEntry_success clear.unknown success
      obtain ⟨ports, vlans, _⟩ := clear.selects ok args parsed checked
      rcases bad with ⟨portId, listed, absent⟩ | ⟨vlanId, listed, invalid⟩
      · exact absent (ports portId listed)
      · rw [(vlans vlanId listed).1] at invalid
        cases invalid

def sampleFdbPlatform : FdbFlushPlatform :=
  ⟨0, 0, 1, id, fun _ => false, fun portId => portId.npuObjectId = 1, fun vlanId => vlanId ≠ 0⟩

/-- PORT_ID 0 is no port, and all entries of the switch go. -/
theorem l2FlushFdbEntry_not_right :
    ¬ ∀ p nodes attrs npu, FdbFlushRight p nodes attrs (l2FlushFdbEntry p nodes attrs npu) := by
  intro all
  refine (all sampleFdbPlatform (fun _ => none) [.portId nullObjectId] .success).refused
    (.inl ⟨nullObjectId, List.mem_singleton_self _, ?_⟩) rfl
  rintro (⟨isLag, _⟩ | ⟨isPort, _⟩)
  · cases isLag
  · cases isPort

end SaiCommon
