import SaiCommon.Lib.Attachment
import SaiCommon.Lib.Runs
import SaiCommon.Switching.Stp

namespace SaiCommon

open KeyTree

variable {next : Option VlanOp} {vlanId : Nat} {k : ObjectId} {op : VlanOp}

/-- Where an operation in progress has put its VLAN, when that is not where
`g_stp_vlan_map` says. -/
def VlanOp.place (defStpId : ObjectId) : VlanOp → Option (Nat × Option ObjectId)
  | .updateClear vlanId => some (vlanId, none)
  | .updateMap vlanId => some (vlanId, some defStpId)
  | .destroyClear vlanId => some (vlanId, none)
  | .handleAdd vlanId _ => some (vlanId, none)
  | .handleReread vlanId => some (vlanId, none)
  | .handleReadd vlanId _ => some (vlanId, none)
  | .handleMap vlanId stpInstId => some (vlanId, some stpInstId)
  | _ => none

/-- The VLAN in the list that an operation leaves in no instance for now. -/
def VlanOp.pending : VlanOp → Option Nat
  | .updateRead vlanId => some vlanId
  | .updateRemove vlanId _ => some vlanId
  | .updateClear vlanId => some vlanId
  | .updateAdd vlanId => some vlanId
  | .updateMap vlanId => some vlanId
  | .destroyNpu vlanId => some vlanId
  | _ => none

/-- What an operation in progress rests on. -/
def VlanOp.Fits (vlanList : List Nat) (map : Nat → ObjectId) : VlanOp → Prop
  | .updateRead vlanId => vlanId ∈ vlanList ∧ map vlanId = nullObjectId
  | .updateRemove _ _ => False
  | .updateClear _ => False
  | .updateAdd vlanId => vlanId ∈ vlanList ∧ map vlanId = nullObjectId
  | .updateMap vlanId => vlanId ∈ vlanList ∧ map vlanId = nullObjectId
  | .destroyRead vlanId => vlanId ∈ vlanList
  | .destroyRemove vlanId old => vlanId ∈ vlanList ∧ old = map vlanId
  | .destroyClear vlanId => vlanId ∈ vlanList
  | .destroyNpu vlanId => vlanId ∈ vlanList ∧ map vlanId = nullObjectId
  | .handleCheck vlanId _ => vlanId ∈ vlanList
  | .handleRead vlanId _ => vlanId ∈ vlanList
  | .handleRemove vlanId _ old => vlanId ∈ vlanList ∧ old = map vlanId
  | .handleAdd vlanId _ => vlanId ∈ vlanList
  | .handleReread vlanId => vlanId ∈ vlanList
  | .handleReadd vlanId old => vlanId ∈ vlanList ∧ old = map vlanId
  | .handleMap vlanId _ => vlanId ∈ vlanList

def stpHome (defStpId : ObjectId) (map : Nat → ObjectId) (op : Option VlanOp) : Nat → Option ObjectId :=
  match op.bind (VlanOp.place defStpId) with
  | none => ObjectId.nonNull ∘ map
  | some (vlanId, place) => Function.update (ObjectId.nonNull ∘ map) vlanId place

/-- What holds between the atomic steps. -/
structure StpLinked (platform : VlanPlatform) (s : StpState) : Prop where
  trees : Attached s.stpInfoTree.get (stpHome s.defStpId s.stpVlanMap s.op)
  kinds : ∀ k, s.stpInfoTree.get k ≠ none → k.objType = .stpInstance
  default : s.stpInfoTree.get s.defStpId ≠ none
  unmapped : ∀ v, v ∉ s.vlanList → v ≠ platform.internalVlanId → s.stpVlanMap v = nullObjectId
  mapped : ∀ v ∈ s.vlanList, (∀ op, s.op = some op → op.pending ≠ some v) → s.stpVlanMap v ≠ nullObjectId
  internal : platform.internalVlanId ∉ s.vlanList
  op : ∀ op, s.op = some op → op.Fits s.vlanList s.stpVlanMap

section Step
variable {platform : VlanPlatform} {s : StpState}

theorem StpLinked.retree (linked : StpLinked platform s) {tree : KeyTree ObjectId (List Nat)}
    (trees : Attached tree.get (stpHome s.defStpId s.stpVlanMap next))
    (live : ∀ k, tree.get k ≠ none ↔ s.stpInfoTree.get k ≠ none)
    (mapped : ∀ v ∈ s.vlanList, (∀ op, next = some op → op.pending ≠ some v) →
      s.stpVlanMap v ≠ nullObjectId)
    (fits : ∀ op, next = some op → op.Fits s.vlanList s.stpVlanMap) :
    StpLinked platform { s with stpInfoTree := tree, op := next } where
  trees := trees
  kinds k held := linked.kinds k ((live k).mp held)
  default := (live s.defStpId).mpr linked.default
  unmapped := linked.unmapped
  mapped := mapped
  internal := linked.internal
  op := fits

theorem StpLinked.goOn (linked : StpLinked platform s)
    (home : stpHome s.defStpId s.stpVlanMap next = stpHome s.defStpId s.stpVlanMap s.op)
    (mapped : ∀ v ∈ s.vlanList, (∀ op, next = some op → op.pending ≠ some v) →
      s.stpVlanMap v ≠ nullObjectId)
    (fits : ∀ op, next = some op → op.Fits s.vlanList s.stpVlanMap) : StpLinked platform (s.goOn next) := by
  refine linked.retree ?_ (fun _ => Iff.rfl) mapped fits
  rw [home]
  exact linked.trees

theorem StpLinked.writeMap (linked : StpLinked platform s)
    {place : Option ObjectId} (member : vlanId ∈ s.vlanList)
    (before : s.op.bind (VlanOp.place s.defStpId) = some (vlanId, place)) (isPlace : k.nonNull = place)
    (after : next.bind (VlanOp.place s.defStpId) = none)
    (mapped : ∀ v ∈ s.vlanList, (∀ op, next = some op → op.pending ≠ some v) →
      Function.update s.stpVlanMap vlanId k v ≠ nullObjectId)
    (fits : ∀ op, next = some op → op.Fits s.vlanList (Function.update s.stpVlanMap vlanId k)) :
    StpLinked platform ((s.writeMap vlanId k).goOn next) where
  trees := by
    refine linked.trees.congr (fun _ => rfl) fun v => ?_
    change stpHome s.defStpId (Function.update s.stpVlanMap vlanId k) next v = _
    unfold stpHome
    rw [before, after]
    dsimp only
    rw [Function.comp_update, isPlace]
  kinds := linked.kinds
  default := linked.default
  unmapped v absent notInternal := by
    have other : v ≠ vlanId := fun same => absent (same ▸ member)
    refine (Function.update_of_ne other _ _).trans ?_
    exact linked.unmapped v absent notInternal
  mapped := mapped
  internal := linked.internal
  op := fits

structure StpAddAccepted (s : StpState) (stpInstId : ObjectId) (vlanId : Nat) (env : StpEnv) : Prop where
  kind : stpInstId.objType = .stpInstance
  absent : ∃ vlans, s.stpInfoTree.get stpInstId = some vlans ∧ vlanId ∉ vlans
  alloc : env.alloc = true
  npu : env.npu = .success
  inserted : env.insertOk = true

theorem StpState.vlanAdd_cases (s : StpState) (stpInstId : ObjectId) (vlanId : Nat) (env : StpEnv) :
    (¬ StpAddAccepted s stpInstId vlanId env ∧ ∃ error, error ≠ .success ∧
      s.vlanAdd stpInstId vlanId env = (s, error)) ∨
    ∃ vlans, s.stpInfoTree.get stpInstId = some vlans ∧ s.vlanAdd stpInstId vlanId env =
      ({ s with stpInfoTree := s.stpInfoTree.put stpInstId (vlans ++ [vlanId]) }, .success) := by
  unfold StpState.vlanAdd
  split
  · rename_i kind
    exact .inl ⟨fun accepted => kind accepted.kind, .invalidObjectType, SaiStatus.noConfusion, rfl⟩
  split
  · rename_i absent
    refine .inl ⟨fun accepted => ?_, .invalidObjectId, SaiStatus.noConfusion, rfl⟩
    obtain ⟨vlans, stored, _⟩ := accepted.absent
    rw [absent] at stored
    cases stored
  rename_i vlans stored
  split
  · rename_i member
    refine .inl ⟨fun accepted => ?_, .itemAlreadyExists, SaiStatus.noConfusion, rfl⟩
    obtain ⟨others, isIt, new⟩ := accepted.absent
    rw [stored] at isIt
    cases isIt
    exact new member
  · split
    · rename_i alloc
      refine .inl ⟨fun accepted => ?_, .noMemory, SaiStatus.noConfusion, rfl⟩
      rw [accepted.alloc] at alloc
      cases alloc
    split
    · split
      · rename_i inserted
        refine .inl ⟨fun accepted => ?_, .failure, SaiStatus.noConfusion, rfl⟩
        rw [accepted.inserted] at inserted
        cases inserted
      · exact .inr ⟨vlans, stored, rfl⟩
    · rename_i error
      exact .inl ⟨fun accepted => error accepted.npu, _, error, rfl⟩

theorem StpState.vlanRemove_cases (s : StpState) (stpInstId : ObjectId) (vlanId : Nat) (npu : SaiStatus) :
    (∃ error, error ≠ .success ∧ s.vlanRemove stpInstId vlanId npu = (s, error)) ∨
    ∃ vlans, s.stpInfoTree.get stpInstId = some vlans ∧ vlanId ∈ vlans ∧ s.vlanRemove stpInstId vlanId npu =
      ({ s with stpInfoTree := s.stpInfoTree.put stpInstId (vlans.erase vlanId) }, .success) := by
  unfold StpState.vlanRemove
  split
  · exact .inl ⟨.invalidObjectType, SaiStatus.noConfusion, rfl⟩
  split
  · exact .inl ⟨.invalidObjectId, SaiStatus.noConfusion, rfl⟩
  rename_i vlans stored
  split
  · exact .inl ⟨.itemNotFound, SaiStatus.noConfusion, rfl⟩
  rename_i member
  split
  · exact .inr ⟨vlans, stored, not_not.mp member, rfl⟩
  · rename_i error
    exact .inl ⟨_, error, rfl⟩

/-- An operation that cannot leave its VLAN in no instance: the addition to the
default instance and the one that puts a VLAN back are accepted, and the NPU
deletes a VLAN that has left its instance. -/
def VlanOp.kept (s : StpState) (env : StpEnv) : VlanOp → Prop
  | .updateAdd vlanId => StpAddAccepted s s.defStpId vlanId env
  | .destroyNpu _ => env.npu = .success
  | .handleReadd vlanId old => StpAddAccepted s old vlanId env
  | _ => True

section
variable (linked : StpLinked platform s)
include linked

theorem StpLinked.mapped_all (isOp : s.op = some op)
    (settled : op.pending = none) : ∀ v ∈ s.vlanList, s.stpVlanMap v ≠ nullObjectId := by
  intro v member
  refine linked.mapped v member fun other isIt => ?_
  rw [isOp] at isIt
  cases isIt
  rw [settled]
  exact fun none => by cases none

theorem StpLinked.mapped_others (isOp : s.op = some op)
    (pending : op.pending = some vlanId) : ∀ v ∈ s.vlanList, v ≠ vlanId → s.stpVlanMap v ≠ nullObjectId := by
  intro v member other
  refine linked.mapped v member fun op' isIt => ?_
  rw [isOp] at isIt
  cases isIt
  rw [pending]
  exact fun same => other (Option.some.inj same).symm

theorem StpLinked.remove {next : VlanOp} {old : ObjectId}
    {vlans : List Nat} (isOp : s.op = some op) (settled : op.pending = none) (here : op.place s.defStpId = none)
    (stored : s.stpInfoTree.get old = some vlans) (member : vlanId ∈ vlans)
    (away : next.place s.defStpId = some (vlanId, none)) (fits : next.Fits s.vlanList s.stpVlanMap) :
    StpLinked platform
      (StpState.goOn { s with stpInfoTree := s.stpInfoTree.put old (vlans.erase vlanId) } (some next)) := by
  refine linked.retree ?_ (fun k => not_congr (get_put_eq_none stored))
    (fun v listed _ => linked.mapped_all isOp settled v listed) fun op' isIt => ?_
  · have left := linked.trees.put_erase stored member
    have before : stpHome s.defStpId s.stpVlanMap s.op = ObjectId.nonNull ∘ s.stpVlanMap := by
      unfold stpHome
      rw [isOp, Option.bind_some, here]
    have after : stpHome s.defStpId s.stpVlanMap (some next) =
        Function.update (ObjectId.nonNull ∘ s.stpVlanMap) vlanId none := by
      unfold stpHome
      rw [Option.bind_some, away]
    rw [after, ← before]
    exact left
  · cases isIt
    exact fits

theorem StpLinked.join {vlans : List Nat} (stored : s.stpInfoTree.get k = some vlans)
    (free : stpHome s.defStpId s.stpVlanMap s.op vlanId = none) (after : stpHome s.defStpId s.stpVlanMap next =
      Function.update (stpHome s.defStpId s.stpVlanMap s.op) vlanId (some k))
    (mapped : ∀ v ∈ s.vlanList, (∀ op, next = some op → op.pending ≠ some v) →
      s.stpVlanMap v ≠ nullObjectId)
    (fits : ∀ op, next = some op → op.Fits s.vlanList s.stpVlanMap) : StpLinked platform
      (StpState.goOn { s with stpInfoTree := s.stpInfoTree.put k (vlans ++ [vlanId]) } next) := by
  refine linked.retree ?_ (fun k => not_congr (get_put_eq_none stored)) mapped fits
  rw [after]
  exact linked.trees.put_append stored free

end

theorem stpHome_some {defStpId : ObjectId} {map : Nat → ObjectId} :
    stpHome defStpId map (some op) = match op.place defStpId with
      | none => ObjectId.nonNull ∘ map
      | some (vlanId, place) => Function.update (ObjectId.nonNull ∘ map) vlanId place := rfl

section
variable (linked : StpLinked platform s)
include linked

theorem StpLinked.pass {next : VlanOp} (isOp : s.op = some op)
    (settled : op.pending = none) (same : next.place s.defStpId = op.place s.defStpId)
    (fits : next.Fits s.vlanList s.stpVlanMap) : StpLinked platform (s.goOn (some next)) := by
  refine linked.goOn ?_ (fun v listed _ => linked.mapped_all isOp settled v listed) fun op' isIt => ?_
  · rw [isOp, stpHome_some, stpHome_some, same]
  · cases isIt
    exact fits

theorem StpLinked.ended (isOp : s.op = some op)
    (settled : op.pending = none) (here : op.place s.defStpId = none) : StpLinked platform (s.goOn none) := by
  refine linked.goOn ?_ (fun v listed _ => linked.mapped_all isOp settled v listed) fun op' isIt => ?_
  · rw [isOp, stpHome_some, here]
    rfl
  · cases isIt

theorem StpLinked.live_nonNull (live : s.stpInfoTree.get k ≠ none) : k ≠ nullObjectId := by
  refine ne_nullObjectId ?_
  rw [linked.kinds k live]
  exact nofun

theorem StpLinked.finish
    (isOp : s.op = some op) (member : vlanId ∈ s.vlanList) (placed : op.place s.defStpId = some (vlanId, some k))
    (others : ∀ v ∈ s.vlanList, v ≠ vlanId → s.stpVlanMap v ≠ nullObjectId) :
    StpLinked platform ((s.writeMap vlanId k).goOn none) := by
  have home : stpHome s.defStpId s.stpVlanMap s.op vlanId = some k := by
    rw [isOp, stpHome_some, placed]
    exact Function.update_self ..
  have notNull : k ≠ nullObjectId := linked.live_nonNull (linked.trees.held vlanId k home)
  refine linked.writeMap member ?_ (if_neg notNull) rfl (fun v listed _ => ?_) fun op' isIt => ?_
  · rw [isOp]
    exact placed
  · by_cases same : v = vlanId
    · rw [same, Function.update_self]
      exact notNull
    · rw [Function.update_of_ne same]
      exact others v listed same
  · cases isIt

theorem StpLinked.advance (env : StpEnv)
    (kept : ∀ op, s.op = some op → op.kept s env) : StpLinked platform (s.advance env) := by
  cases isOp : s.op with
  | none =>
    have stays : s.advance env = s := by
      unfold StpState.advance
      rw [isOp]
    rw [stays]
    exact linked
  | some op =>
    have fits := linked.op op isOp
    have kept := kept op isOp
    unfold StpState.advance
    rw [isOp]
    cases op with
    | updateRead vlanId =>
      obtain ⟨listed, unmapped⟩ := fits
      dsimp only
      rw [if_neg (not_not_intro unmapped)]
      refine linked.goOn ?_ (fun v member settled => ?_) fun op' isIt => ?_
      · rw [isOp]
        rfl
      · refine linked.mapped_others isOp rfl v member fun same => ?_
        exact settled _ rfl (congrArg some same.symm)
      · cases isIt
        exact ⟨listed, unmapped⟩
    | updateRemove vlanId old => exact fits.elim
    | updateClear vlanId => exact fits.elim
    | updateAdd vlanId =>
      obtain ⟨listed, unmapped⟩ := fits
      rcases s.vlanAdd_cases s.defStpId vlanId env with ⟨refused, _⟩ | ⟨vlans, stored, added⟩
      · exact absurd kept refused
      simp only [added]
      have home : stpHome s.defStpId s.stpVlanMap s.op = ObjectId.nonNull ∘ s.stpVlanMap := by
        rw [isOp]
        rfl
      refine linked.join stored ?_ ?_ (fun v member settled => ?_) fun op' isIt => ?_
      · rw [home]
        exact if_pos unmapped
      · rw [home]
        rfl
      · refine linked.mapped_others isOp rfl v member fun same => ?_
        exact settled _ rfl (congrArg some same.symm)
      · cases isIt
        exact ⟨listed, unmapped⟩
    | updateMap vlanId => exact linked.finish isOp fits.1 rfl (linked.mapped_others isOp rfl)
    | destroyRead vlanId => exact linked.pass isOp rfl rfl ⟨fits, rfl⟩
    | destroyRemove vlanId old =>
      obtain ⟨listed, rfl⟩ := fits
      rcases s.vlanRemove_cases (s.stpVlanMap vlanId) vlanId env.npu with ⟨error, isError, refused⟩ |
        ⟨vlans, stored, member, removed⟩
      · simp only [refused]
        exact linked.ended isOp rfl rfl
      · simp only [removed]
        exact linked.remove isOp rfl rfl stored member rfl listed
    | destroyClear vlanId =>
      refine linked.writeMap fits ?_ (if_pos rfl) rfl (fun v listed settled => ?_) fun op' isIt => ?_
      · rw [isOp]
        rfl
      · have other : v ≠ vlanId := fun same => settled _ rfl (congrArg some same.symm)
        rw [Function.update_of_ne other]
        exact linked.mapped_all isOp rfl v listed
      · cases isIt
        exact ⟨fits, Function.update_self ..⟩
    | destroyNpu vlanId =>
      obtain ⟨listed, unmapped⟩ := fits
      have deleted : env.npu = .success := kept
      rw [deleted]
      dsimp only
      have member : ∀ v, v ∈ s.vlanList.filter (fun other => other ≠ vlanId) ↔ v ∈ s.vlanList ∧
        v ≠ vlanId := by
        intro v
        rw [List.mem_filter, decide_eq_true_iff]
      refine ⟨?_, linked.kinds, linked.default, fun v absent notInternal => ?_, fun v isListed _ => ?_, ?_,
        fun op' isIt => by cases isIt⟩
      · have trees := linked.trees
        rw [isOp] at trees
        exact trees
      · by_cases same : v = vlanId
        · rw [same]
          exact unmapped
        · exact linked.unmapped v (fun listed => absent ((member v).mpr ⟨listed, same⟩)) notInternal
      · obtain ⟨old, other⟩ := (member v).mp isListed
        exact linked.mapped_others isOp rfl v old other
      · exact fun isListed => linked.internal ((member _).mp isListed).1
    | handleCheck vlanId stpInstId =>
      dsimp only
      split
      · exact linked.pass isOp rfl rfl fits
      · exact linked.ended isOp rfl rfl
    | handleRead vlanId stpInstId => exact linked.pass isOp rfl rfl ⟨fits, rfl⟩
    | handleRemove vlanId stpInstId old =>
      obtain ⟨listed, rfl⟩ := fits
      rcases s.vlanRemove_cases (s.stpVlanMap vlanId) vlanId env.npu with ⟨error, isError, refused⟩ |
        ⟨vlans, stored, member, removed⟩
      · simp only [refused]
        exact linked.ended isOp rfl rfl
      · simp only [removed]
        exact linked.remove isOp rfl rfl stored member rfl listed
    | handleAdd vlanId stpInstId =>
      rcases s.vlanAdd_cases stpInstId vlanId env with ⟨_, error, isError, refused⟩ | ⟨vlans, stored, added⟩
      · simp only [refused]
        exact linked.pass isOp rfl rfl fits
      simp only [added]
      have home : stpHome s.defStpId s.stpVlanMap s.op =
          Function.update (ObjectId.nonNull ∘ s.stpVlanMap) vlanId none := by
        rw [isOp]
        rfl
      refine linked.join stored ?_ ?_ (fun v listed _ => linked.mapped_all isOp rfl v listed) fun op' isIt => ?_
      · rw [home, Function.update_self]
      · rw [home, Function.update_idem]
        rfl
      · cases isIt
        exact fits
    | handleReread vlanId => exact linked.pass isOp rfl rfl ⟨fits, rfl⟩
    | handleReadd vlanId old =>
      obtain ⟨listed, rfl⟩ := fits
      rcases s.vlanAdd_cases (s.stpVlanMap vlanId) vlanId env with ⟨refused, _⟩ | ⟨vlans, stored, added⟩
      · exact absurd kept refused
      simp only [added]
      have home : stpHome s.defStpId s.stpVlanMap s.op =
          Function.update (ObjectId.nonNull ∘ s.stpVlanMap) vlanId none := by
        rw [isOp]
        rfl
      have notNull := linked.mapped_all isOp rfl vlanId listed
      refine linked.join stored ?_ ?_ (fun v listed _ => linked.mapped_all isOp rfl v listed) fun op' isIt => ?_
      · rw [home, Function.update_self]
      · have here : some (s.stpVlanMap vlanId) = (ObjectId.nonNull ∘ s.stpVlanMap) vlanId := (if_neg notNull).symm
        rw [home, Function.update_idem, here, Function.update_eq_self]
        rfl
      · cases isIt
    | handleMap vlanId stpInstId =>
      exact linked.finish isOp fits rfl fun v listed _ => linked.mapped_all isOp rfl v listed

end

end Step

section Events
variable {platform : VlanPlatform} {s : StpState}

structure VlanCreateAccepted (platform : VlanPlatform) (s : StpState) (vlanId : Nat) (env : StpEnv) : Prop where
  available : StpState.isVlanIdAvailable platform vlanId = true
  absent : vlanId ∉ s.vlanList
  inserted : env.insertOk = true
  npu : env.npu = .success ∨ env.npu = .itemAlreadyExists

theorem StpState.createVlan_cases (platform : VlanPlatform) (s : StpState) (vlanId : Nat) (env : StpEnv) :
    s.createVlan platform vlanId env = s ∨ VlanCreateAccepted platform s vlanId env ∧
      s.createVlan platform vlanId env =
        { s with
          vlanList := s.vlanList ++ [vlanId]
          op := if vlanId ≠ initDefaultVlan then some (.updateRead vlanId) else none } := by
  unfold StpState.createVlan
  split
  · exact .inl rfl
  rename_i passed
  obtain ⟨available, absent, inserted⟩ := not_or.mp passed |>.imp_right not_or.mp
  split
  · exact .inl rfl
  rename_i npu
  refine .inr ⟨⟨?_, absent, ?_, ?_⟩, rfl⟩
  · exact (Bool.not_eq_false _).mp available
  · exact (Bool.not_eq_false _).mp inserted
  · exact Decidable.or_iff_not_not_and_not.mpr npu

/-- The default instance is not removed, the default VLAN is not created again,
and no operation leaves its VLAN in no instance. -/
def StpEvent.kept (platform : VlanPlatform) (s : StpState) : StpEvent → Prop
  | .instanceRemove stpInstId npu =>
    stpInstId = s.defStpId → ¬ (s.stpInfoTree.get stpInstId = some [] ∧ npu = .success)
  | .createVlan vlanId env =>
    s.op = none → vlanId = initDefaultVlan → ¬ VlanCreateAccepted platform s vlanId env
  | .advance env => ∀ op, s.op = some op → op.kept s env
  | _ => True

section
variable (linked : StpLinked platform s)
include linked

theorem StpLinked.instanceCreate (env : StpEnv) : StpLinked platform (s.instanceCreate env).1 := by
  unfold StpState.instanceCreate
  split
  · exact linked
  split
  · dsimp only
    split
    · rename_i fresh
      split
      · exact linked
      refine ⟨?_, fun k held => ?_, ?_, linked.unmapped, linked.mapped, linked.internal, linked.op⟩
      · refine (linked.trees.insert fresh).congr (fun k => ?_) fun _ => rfl
        rw [Function.update_apply]
        exact get_put ..
      · rw [get_put] at held
        split at held
        · rename_i same
          rw [same]
        · exact linked.kinds k held
      · exact get_put_ne_none linked.default
    · exact linked
  · exact linked

theorem StpLinked.instanceRemove (stpInstId : ObjectId) (npu : SaiStatus)
    (kept : stpInstId = s.defStpId → ¬ (s.stpInfoTree.get stpInstId = some [] ∧ npu = .success)) :
    StpLinked platform (s.instanceRemove stpInstId npu).1 := by
  unfold StpState.instanceRemove
  split
  · exact linked
  split
  · exact linked
  rename_i vlans stored
  split
  · exact linked
  rename_i notEmpty
  split
  · have empty : s.stpInfoTree.get stpInstId = some [] := by
      rw [stored, not_not.mp notEmpty]
    refine ⟨?_, fun k held => ?_, ?_, linked.unmapped, linked.mapped, linked.internal, linked.op⟩
    · refine (linked.trees.erase empty).congr (fun k => ?_) fun _ => rfl
      rw [Function.update_apply]
      exact get_del ..
    · rw [get_del] at held
      split at held
      · exact absurd rfl held
      · exact linked.kinds k held
    · rw [get_del]
      split
      · rename_i same
        exact absurd ⟨empty, rfl⟩ (kept same.symm)
      · exact linked.default
  · exact linked

theorem StpLinked.begin (idle : s.op = none)
    (here : op.place s.defStpId = none) (fits : op.Fits s.vlanList s.stpVlanMap) :
    StpLinked platform (s.goOn (some op)) := by
  refine linked.goOn ?_ (fun v listed _ => ?_) fun op' isIt => ?_
  · rw [idle, stpHome_some, here]
    rfl
  · refine linked.mapped v listed fun op' isIt => ?_
    rw [idle] at isIt
    cases isIt
  · cases isIt
    exact fits

theorem StpLinked.createVlan (idle : s.op = none) (vlanId : Nat) (env : StpEnv)
    (kept : vlanId = initDefaultVlan → ¬ VlanCreateAccepted platform s vlanId env) :
    StpLinked platform (s.createVlan platform vlanId env) := by
  rcases s.createVlan_cases platform vlanId env with same | ⟨accepted, created⟩
  · rw [same]
    exact linked
  have notDefault : vlanId ≠ initDefaultVlan := fun same => kept same accepted
  obtain ⟨available, absent, _, _⟩ := accepted
  have notInternal : vlanId ≠ platform.internalVlanId := of_decide_eq_true (Bool.and_eq_true_iff.mp available).2
  have unmapped := linked.unmapped vlanId absent notInternal
  rw [created, if_pos notDefault]
  have listed : ∀ v, v ∈ s.vlanList ++ [vlanId] ↔ v ∈ s.vlanList ∨ v = vlanId := by
    intro v
    rw [List.mem_append, List.mem_singleton]
  refine ⟨?_, linked.kinds, linked.default, fun v away => ?_, fun v isListed settled => ?_, ?_,
    fun op isIt => ?_⟩
  · have trees := linked.trees
    rw [idle] at trees
    exact trees
  · exact linked.unmapped v fun old => away ((listed v).mpr (.inl old))
  · rcases (listed v).mp isListed with old | new
    · refine linked.mapped v old fun other isIt => ?_
      rw [idle] at isIt
      cases isIt
    · exact absurd (congrArg some new.symm) (settled _ rfl)
  · intro isListed
    rcases (listed _).mp isListed with old | new
    · exact linked.internal old
    · exact notInternal new.symm
  · cases isIt
    exact ⟨(listed vlanId).mpr (.inr rfl), unmapped⟩

theorem StpLinked.step (event : StpEvent) (kept : event.kept platform s) :
    StpLinked platform (event.step platform s) := by
  unfold StpEvent.step
  cases event with
  | instanceCreate env => exact linked.instanceCreate env
  | instanceRemove stpInstId npu => exact linked.instanceRemove stpInstId npu kept
  | createVlan vlanId env =>
    dsimp only
    split
    · rename_i idle
      exact linked.createVlan idle vlanId env (kept idle)
    · exact linked
  | removeVlan vlanId =>
    dsimp only
    split
    · rename_i idle
      unfold StpState.removeVlan
      split
      · exact linked
      · rename_i passed
        exact linked.begin idle rfl (not_not.mp (not_or.mp passed).2)
    · exact linked
  | setVlanStpInstance vlanId stpInstId =>
    dsimp only
    split
    · rename_i idle
      unfold StpState.setVlanStpInstance
      split
      · exact linked
      · rename_i passed
        exact linked.begin idle rfl (not_not.mp (not_or.mp passed).2)
    · exact linked
  | advance env => exact linked.advance env kept

end

/-- What the initialisation of the switch leaves: the default VLAN in the default
instance and the internal VLAN in the L3 instance. -/
structure StpFresh (platform : VlanPlatform) (s : StpState) (l3StpInst : ObjectId) : Prop where
  kinds : s.defStpId.objType = .stpInstance ∧ l3StpInst.objType = .stpInstance
  apart : l3StpInst ≠ s.defStpId
  internal : platform.internalVlanId ≠ initDefaultVlan
  trees : s.stpInfoTree =
    ((∅ : KeyTree ObjectId (List Nat)).put s.defStpId [initDefaultVlan]).put l3StpInst [platform.internalVlanId]
  map : s.stpVlanMap = Function.update (Function.update (fun _ => nullObjectId) initDefaultVlan s.defStpId)
    platform.internalVlanId l3StpInst
  vlanList : s.vlanList = [initDefaultVlan]
  idle : s.op = none

theorem StpFresh.linked {l3StpInst : ObjectId} (fresh : StpFresh platform s l3StpInst) : StpLinked platform s := by
  obtain ⟨⟨defKind, l3Kind⟩, apart, internal, trees, map, vlanList, idle⟩ := fresh
  have get : ∀ k, s.stpInfoTree.get k = if k = l3StpInst then some [platform.internalVlanId]
      else if k = s.defStpId then some [initDefaultVlan] else none := by
    intro k
    rw [trees, get_put, get_put, get_empty]
  have first : Attached ((∅ : KeyTree ObjectId (List Nat)).put s.defStpId [initDefaultVlan]).get
      (Function.update (fun _ => none) initDefaultVlan (some s.defStpId)) := by
    have none : Attached (∅ : KeyTree ObjectId (List Nat)).get fun _ : Nat => none :=
      Attached.of_empty (fun k => get_empty k) fun _ => rfl
    exact none.put_single (get_empty _) rfl
  have both := first.put_single (k := l3StpInst) (u := platform.internalVlanId) (by
      rw [get_put_ne apart]
      exact get_empty _) (Function.update_of_ne internal _ _)
  have names : stpHome s.defStpId s.stpVlanMap s.op =
      Function.update (Function.update (fun _ => none) initDefaultVlan (some s.defStpId)) platform.internalVlanId
        (some l3StpInst) := by
    have defNonNull : s.defStpId.nonNull = some s.defStpId := if_neg (ne_nullObjectId (defKind ▸ nofun))
    have l3NonNull : l3StpInst.nonNull = some l3StpInst := if_neg (ne_nullObjectId (l3Kind ▸ nofun))
    have empty : ObjectId.nonNull ∘ (fun _ : Nat => nullObjectId) = fun _ => none := by
      funext v
      rfl
    rw [idle]
    change ObjectId.nonNull ∘ s.stpVlanMap = _
    rw [map, Function.comp_update, Function.comp_update, defNonNull, l3NonNull, empty]
  refine ⟨?_, fun k held => ?_, ?_, fun v absent notInternal => ?_, fun v listed _ => ?_, ?_, fun op isIt => ?_⟩
  · rw [names, trees]
    exact both
  · rw [get k] at held
    split at held
    · rename_i same
      rw [same]
      exact l3Kind
    · split at held
      · rename_i same
        rw [same]
        exact defKind
      · exact absurd rfl held
  · rw [get, if_neg apart.symm, if_pos rfl]
    exact Option.some_ne_none _
  · have notDefault : v ≠ initDefaultVlan := by
      rintro rfl
      rw [vlanList] at absent
      exact absent (List.mem_singleton_self _)
    rw [map, Function.update_of_ne notInternal, Function.update_of_ne notDefault]
  · rw [vlanList] at listed
    rw [List.mem_singleton.mp listed, map, Function.update_of_ne internal.symm, Function.update_self]
    exact ne_nullObjectId (defKind ▸ nofun)
  · rw [vlanList]
    exact fun listed => internal (List.mem_singleton.mp listed)
  · rw [idle] at isIt
    cases isIt

/-- A VLAN is mapped to an instance exactly when it is in its tree, so in one
tree at most; every VLAN in the list is in a tree, and the default instance is
live. -/
structure StpVlansExact (s : StpState) : Prop where
  map : ∀ v k, k ≠ nullObjectId →
    (s.stpVlanMap v = k ↔ ∃ vlans, s.stpInfoTree.get k = some vlans ∧ v ∈ vlans)
  single : ∀ v k k' vlans vlans', s.stpInfoTree.get k = some vlans → s.stpInfoTree.get k' = some vlans' →
    v ∈ vlans → v ∈ vlans' → k = k'
  created : ∀ v ∈ s.vlanList, ∃ k vlans, s.stpInfoTree.get k = some vlans ∧ v ∈ vlans
  default : s.stpInfoTree.get s.defStpId ≠ none

theorem StpLinked.exact (linked : StpLinked platform s) (idle : s.op = none) : StpVlansExact s := by
  have trees : Attached s.stpInfoTree.get (ObjectId.nonNull ∘ s.stpVlanMap) := by
    have home := linked.trees
    rw [idle] at home
    exact home
  have mapped : ∀ v k, k ≠ nullObjectId → s.stpVlanMap v = k →
      ∃ vlans, s.stpInfoTree.get k = some vlans ∧ v ∈ vlans := by
    intro v k notNull isMapped
    have named : (ObjectId.nonNull ∘ s.stpVlanMap) v = some k := ObjectId.nonNull_eq_some.mpr ⟨isMapped, notNull⟩
    obtain ⟨vlans, stored⟩ := Option.ne_none_iff_exists'.mp (trees.held v k named)
    exact ⟨vlans, stored, trees.mem_of_named stored named⟩
  refine ⟨fun v k notNull => ⟨mapped v k notNull, ?_⟩, ?_, fun v listed => ?_, linked.default⟩
  · rintro ⟨vlans, stored, member⟩
    exact (ObjectId.nonNull_eq_some.mp (trees.named_of_mem stored member)).1
  · intro v k k' vlans vlans' stored stored' member member'
    have one := trees.named_of_mem stored member
    rw [trees.named_of_mem stored' member'] at one
    exact (Option.some.inj one).symm
  · have notNull : s.stpVlanMap v ≠ nullObjectId := by
      refine linked.mapped v listed fun op isIt => ?_
      rw [idle] at isIt
      cases isIt
    exact ⟨_, mapped v _ notNull rfl⟩

/-- In every interleaving of kept steps the map and the trees agree whenever no
VLAN operation is in progress. -/
theorem stpVlans_exact (reach : Runs.Reach (fun s => ∃ l3StpInst, StpFresh platform s l3StpInst)
      (Runs.guarded (StpEvent.kept platform) (StpEvent.step platform)) s) (idle : s.op = none) :
    StpVlansExact s := by
  have linked : StpLinked platform s := by
    refine reach.invariant (StpLinked platform) (fun _ ⟨_, fresh⟩ => fresh.linked) ?_
    intro s event t linked moved
    rw [moved.2]
    exact linked.step event moved.1
  exact linked.exact idle

end Events

def stpSamplePlatform : VlanPlatform where
  isValidVlanId := fun v => 1 ≤ v && v ≤ 4094
  internalVlanId := 4094

def stpSample : StpState where
  stpInfoTree :=
    ((∅ : KeyTree ObjectId (List Nat)).put ⟨.stpInstance, 1⟩ [initDefaultVlan]).put ⟨.stpInstance, 2⟩ [4094]
  defStpId := ⟨.stpInstance, 1⟩
  stpVlanMap := Function.update (Function.update (fun _ => nullObjectId) initDefaultVlan ⟨.stpInstance, 1⟩) 4094
    ⟨.stpInstance, 2⟩
  vlanList := [initDefaultVlan]
  op := none

theorem stpSample_fresh : StpFresh stpSamplePlatform stpSample ⟨.stpInstance, 2⟩ :=
  ⟨⟨rfl, rfl⟩, by decide, by decide, rfl, rfl, rfl, rfl⟩

def stpSampleEnv (npuObjectId : Nat) : StpEnv := ⟨true, .success, npuObjectId, true, true⟩

def stpSampleRun : List StpEvent :=
  [.createVlan 10 (stpSampleEnv 0), .advance (stpSampleEnv 0), .advance (stpSampleEnv 0), .advance (stpSampleEnv 0),
    .instanceCreate (stpSampleEnv 3), .setVlanStpInstance 10 ⟨.stpInstance, 3⟩, .advance (stpSampleEnv 0),
    .advance (stpSampleEnv 0), .advance (stpSampleEnv 0), .advance (stpSampleEnv 0), .advance (stpSampleEnv 0)]

theorem stpVlans_exact_sample : StpVlansExact (stpSampleRun.foldl (StpEvent.step stpSamplePlatform) stpSample) := by
  refine @stpVlans_exact stpSamplePlatform _ (Runs.Reach.run (.start ⟨_, stpSample_fresh⟩) ?_) rfl
  refine ⟨?_, ?_, ?_, ?_, trivial, trivial, ?_, ?_, ?_, ?_, ?_, trivial⟩
  · intro _ same
    cases same
  · intro op isIt
    cases isIt
    trivial
  · intro op isIt
    cases isIt
    exact ⟨rfl, ⟨[initDefaultVlan], rfl, by decide⟩, rfl, rfl, rfl⟩
  all_goals
    intro op isIt
    cases isIt
    trivial

/-- VLAN 10 moves on to the instance 4, and both instances are removed between its
two steps. -/
def stpSampleRace : List StpEvent :=
  stpSampleRun ++
    [.instanceCreate (stpSampleEnv 4), .setVlanStpInstance 10 ⟨.stpInstance, 4⟩, .advance (stpSampleEnv 0),
      .advance (stpSampleEnv 0), .advance (stpSampleEnv 0), .instanceRemove ⟨.stpInstance, 4⟩ .success,
      .instanceRemove ⟨.stpInstance, 3⟩ .success, .advance (stpSampleEnv 0), .advance (stpSampleEnv 0),
      .advance (stpSampleEnv 0)]

def stpSampleDefault : List StpEvent :=
  [.instanceCreate (stpSampleEnv 3), .setVlanStpInstance 1 ⟨.stpInstance, 3⟩, .advance (stpSampleEnv 0),
    .advance (stpSampleEnv 0), .advance (stpSampleEnv 0), .advance (stpSampleEnv 0), .advance (stpSampleEnv 0),
    .instanceRemove ⟨.stpInstance, 1⟩ .success]

/-- The map names an instance that is gone after the race, and the default instance
is not protected. -/
theorem stpVlans_not_exact : ¬ (∀ platform s, Runs.Reach (fun s => ∃ l3StpInst, StpFresh platform s l3StpInst)
        (Runs.guarded (fun _ _ => True) (StpEvent.step platform)) s → s.op = none → StpVlansExact s) ∧
    ¬ (∀ platform s, Runs.Reach (fun s => ∃ l3StpInst, StpFresh platform s l3StpInst)
        (Runs.guarded (fun _ _ => True) (StpEvent.step platform)) s → s.op = none →
      s.stpInfoTree.get s.defStpId ≠ none) := by
  have reached : ∀ events : List StpEvent, Runs.Reach (fun s => ∃ l3StpInst, StpFresh stpSamplePlatform s l3StpInst)
      (Runs.guarded (fun _ _ => True) (StpEvent.step stpSamplePlatform))
      (events.foldl (StpEvent.step stpSamplePlatform) stpSample) := fun events =>
    Runs.Reach.run (.start ⟨_, stpSample_fresh⟩) (Runs.allowedRun_of_forall (fun _ _ => trivial) _ events)
  constructor
  · intro all
    have exact := all stpSamplePlatform _ (reached stpSampleRace) rfl
    obtain ⟨vlans, stored, _⟩ := (exact.map 10 ⟨.stpInstance, 3⟩ nofun).mp rfl
    have gone : KeyTree.get (StpState.stpInfoTree (stpSampleRace.foldl (StpEvent.step stpSamplePlatform) stpSample))
      ⟨.stpInstance, 3⟩ = none := by decide
    rw [gone] at stored
    cases stored
  · intro all
    exact all stpSamplePlatform _ (reached stpSampleDefault) rfl (by decide)

end SaiCommon
