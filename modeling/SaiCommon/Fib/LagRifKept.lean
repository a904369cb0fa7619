import SaiCommon.Fib.AttachmentRuns
import SaiCommon.Fib.LagRifSteps

namespace SaiCommon

variable {done : List ObjectId} {next : Option LagOp}

section Modes
variable {s t : FibState} {portId q : ObjectId} {ports : List ObjectId} {isSet : Bool}

theorem portForwardModeSet_other (mode : PortFwdMode) (other : q ≠ portId) :
    (portForwardModeSet s portId mode).portTree.get q = s.portTree.get q :=
  KeyTree.get_modify_ne other

theorem portForwardModeSet_self {old : PortFwdMode} (mode : PortFwdMode)
    (valid : s.portTree.get portId = some old) :
    (portForwardModeSet s portId mode).portTree.get portId = some mode := by
  unfold portForwardModeSet
  rw [KeyTree.get_modify_self, valid]
  rfl

theorem portRoutingModeUpdate_other (other : q ≠ portId) :
    (portRoutingModeUpdate isSet s portId).1.portTree.get q = s.portTree.get q := by
  unfold portRoutingModeUpdate portRoutingModeSet portRoutingModeReset
  split
  · split
    · rfl
    · rfl
    · exact portForwardModeSet_other .routing other
    · rfl
  · split
    · rfl
    · rfl
    · exact portForwardModeSet_other .unknown other

theorem portListRoutingModeUndo_other (away : q ∉ ports) :
    (portListRoutingModeUndo isSet s ports).portTree.get q = s.portTree.get q := by
  induction ports generalizing s with
  | nil => rfl
  | cons portId rest ih =>
    obtain ⟨other, awayRest⟩ := List.ne_and_not_mem_of_not_mem_cons away
    exact (ih awayRest).trans (portRoutingModeUpdate_other other)

theorem portListRoutingModeLoop_other (awayDone : q ∉ done) (away : q ∉ ports) :
    (portListRoutingModeLoop isSet s done ports).1.portTree.get q = s.portTree.get q := by
  induction ports generalizing s done with
  | nil => rfl
  | cons portId rest ih =>
    obtain ⟨other, awayRest⟩ := List.ne_and_not_mem_of_not_mem_cons away
    have moved : (portRoutingModeUpdate isSet s portId).1.portTree.get q = s.portTree.get q :=
      portRoutingModeUpdate_other other
    unfold portListRoutingModeLoop
    split
    · rename_i t set
      rw [set] at moved
      refine (ih (fun member => ?_) awayRest).trans moved
      rcases List.mem_append.mp member with old | new
      · exact awayDone old
      · exact other (List.mem_singleton.mp new)
    · rename_i t error _ failed
      rw [failed] at moved
      exact (portListRoutingModeUndo_other awayDone).trans moved

theorem portListRoutingModeUpdate_other (away : q ∉ ports) :
    (portListRoutingModeUpdate s ports isSet).1.portTree.get q = s.portTree.get q :=
  portListRoutingModeLoop_other List.not_mem_nil away

theorem portRoutingModeSet_routing (set : portRoutingModeSet s portId = (t, .success)) :
    t.portTree.get portId = some .routing := by
  unfold portRoutingModeSet portForwardModeGet at set
  split at set
  · cases set
  · cases set
  · rename_i unknown
    cases set
    exact portForwardModeSet_self .routing unknown
  · rename_i routing
    cases set
    exact routing

theorem portRoutingModeSet_keeps (routing : s.portTree.get q = some .routing) :
    (portRoutingModeSet s portId).1.portTree.get q = some .routing := by
  by_cases same : q = portId
  · subst same
    unfold portRoutingModeSet portForwardModeGet
    rw [routing]
    exact routing
  · have away : (portRoutingModeUpdate true s portId).1.portTree.get q = s.portTree.get q :=
      portRoutingModeUpdate_other same
    exact away.trans routing

theorem portListRoutingModeLoop_set (set : portListRoutingModeLoop true s done ports = (t, .success))
    (behind : ∀ p ∈ done, s.portTree.get p = some .routing) :
    ∀ p ∈ done ++ ports, t.portTree.get p = some .routing := by
  induction ports generalizing s done with
  | nil =>
    cases set
    rw [List.append_nil]
    exact behind
  | cons portId rest ih =>
    unfold portListRoutingModeLoop at set
    split at set
    · rename_i next one
      have after : ∀ p ∈ done ++ [portId], next.portTree.get p = some .routing := by
        intro p member
        rcases List.mem_append.mp member with old | new
        · have kept : (portRoutingModeSet s portId).1.portTree.get p = some .routing :=
            portRoutingModeSet_keeps (behind p old)
          rw [show portRoutingModeSet s portId = (next, .success) from one] at kept
          exact kept
        · rw [List.mem_singleton.mp new]
          exact portRoutingModeSet_routing one
      have all := ih set after
      rw [List.append_assoc] at all
      exact all
    · rename_i left error failed _
      cases set
      exact absurd rfl failed

theorem portListRoutingModeUpdate_set (set : portListRoutingModeUpdate s ports true = (t, .success)) :
    ∀ p ∈ ports, t.portTree.get p = some .routing := by
  have all : ∀ p ∈ [] ++ ports, t.portTree.get p = some .routing := portListRoutingModeLoop_set set nofun
  exact all

theorem portRoutingModeReset_success (valid : s.portTree.get portId ≠ none) :
    (portRoutingModeReset s portId).2 = .success := by
  unfold portRoutingModeReset portForwardModeGet
  split
  · rename_i absent
    exact absurd absent valid
  · rfl
  · rfl

theorem portRoutingModeReset_valid (valid : s.portTree.get q ≠ none) :
    (portRoutingModeReset s portId).1.portTree.get q ≠ none := by
  unfold portRoutingModeReset portForwardModeGet
  split
  · exact valid
  · exact valid
  · exact (not_congr KeyTree.get_modify_eq_none).mpr valid

theorem portListRoutingModeLoop_reset (valid : ∀ p ∈ ports, s.portTree.get p ≠ none) :
    (portListRoutingModeLoop false s done ports).2 = .success := by
  induction ports generalizing s done with
  | nil => rfl
  | cons portId rest ih =>
    have one := portRoutingModeReset_success (valid portId (List.mem_cons_self ..))
    have kept : ∀ p ∈ rest, (portRoutingModeReset s portId).1.portTree.get p ≠ none := fun p member =>
      portRoutingModeReset_valid (valid p (List.mem_cons_of_mem _ member))
    unfold portListRoutingModeLoop portRoutingModeUpdate
    rw [if_neg Bool.false_ne_true]
    split
    · rename_i t set
      rw [set] at kept
      exact ih kept
    · rename_i t error failed set
      rw [set] at one
      exact absurd one failed

theorem portListRoutingModeUpdate_reset (valid : ∀ p ∈ ports, s.portTree.get p ≠ none) :
    (portListRoutingModeUpdate s ports false).2 = .success :=
  portListRoutingModeLoop_reset valid

end Modes

def rifLag (s : FibState) (rifId : ObjectId) : Option ObjectId :=
  (s.routerInterfaceTree.get rifId).bind fun rif =>
    if fibRifIsAttachmentLag rif then some rif.attachment.portId else none

section Locked
variable {s t : FibState} {rif : Rif} {rifId : ObjectId} {isSet : Bool}

theorem lagMembers_congr (same : t.lagTree = s.lagTree) (lagId : ObjectId) :
    lagMembers t lagId = lagMembers s lagId := by
  unfold lagMembers lagPortListGet
  rw [same]

theorem rifLag_congr (same : t.routerInterfaceTree = s.routerInterfaceTree) (r : ObjectId) :
    rifLag t r = rifLag s r := by
  unfold rifLag
  rw [same]

section
variable (onLag : fibRifIsAttachmentLag rif = true)
include onLag

theorem fibRifRoutingConfigUpdate_lag :
    fibRifRoutingConfigUpdate s rif isSet =
      match lagPortListGet s rif.attachment.portId with
      | none => (s, .itemNotFound)
      | some ports => if ports = [] then (s, .success) else portListRoutingModeUpdate s ports isSet := by
  obtain ⟨onPort, isLag⟩ := Bool.and_eq_true_iff.mp onLag
  have type : rif.rifType = .port := of_decide_eq_true onPort
  unfold fibRifRoutingConfigUpdate
  rw [if_neg (by rw [type]; exact RifType.noConfusion)]
  dsimp only
  exact if_pos (of_decide_eq_true isLag)

theorem fibRifRoutingConfigUpdate_other {q : ObjectId} (away : q ∉ lagMembers s rif.attachment.portId) :
    (fibRifRoutingConfigUpdate s rif isSet).1.portTree.get q = s.portTree.get q := by
  unfold lagMembers at away
  rw [fibRifRoutingConfigUpdate_lag onLag]
  cases found : lagPortListGet s rif.attachment.portId with
  | none => rfl
  | some ports =>
    rw [found] at away
    dsimp only
    split
    · rfl
    · exact portListRoutingModeUpdate_other away

theorem fibRifRoutingConfigUpdate_set (set : fibRifRoutingConfigUpdate s rif true = (t, .success)) :
    s.lagTree.get rif.attachment.portId ≠ none ∧
      ∀ q ∈ lagMembers s rif.attachment.portId, t.portTree.get q = some .routing := by
  unfold lagMembers
  rw [fibRifRoutingConfigUpdate_lag onLag] at set
  cases found : lagPortListGet s rif.attachment.portId with
  | none =>
    rw [found] at set
    cases set
  | some ports =>
    rw [found] at set
    refine ⟨fun absent => ?_, fun q member => ?_⟩
    · unfold lagPortListGet at found
      rw [absent] at found
      cases found
    have member : q ∈ ports := member
    dsimp only at set
    split at set
    · rename_i empty
      rw [empty] at member
      cases member
    · exact portListRoutingModeUpdate_set set q member

end

/-- What the locked part of a RIF create on a LAG leaves. -/
structure RifLocked (s t : FibState) (lagId : ObjectId) : Prop where
  lags : t.lagTree = s.lagTree
  others : ∀ q, q ∉ lagMembers s lagId → t.portTree.get q = s.portTree.get q

theorem RifLocked.config (onLag : fibRifIsAttachmentLag rif = true) :
    RifLocked s (fibRifRoutingConfigUpdate s rif isSet).1 rif.attachment.portId :=
  ⟨(fibRifRoutingConfigUpdate_attachments s rif isSet).lags, fun _ away =>
    fibRifRoutingConfigUpdate_other onLag away⟩

theorem RifLocked.trans {u : FibState} {lagId : ObjectId} (first : RifLocked s t lagId) (second : RifLocked t u lagId) :
    RifLocked s u lagId where
  lags := second.lags.trans first.lags
  others q away := (second.others q (lagMembers_congr first.lags lagId ▸ away)).trans (first.others q away)

theorem fibRifInsert_success {treeOk : Bool} (inserted : fibRifInsert s rifId rif treeOk = (t, .success)) :
    s.routerInterfaceTree.get rifId = none ∧ t.routerInterfaceTree = s.routerInterfaceTree.put rifId rif ∧
      t.lagTree = s.lagTree ∧ t.portTree = s.portTree := by
  rcases fibRifInsert_cases s rifId rif treeOk with ⟨node, vrf, absent, same⟩ | ⟨_, failed⟩
  · rw [inserted] at same
    cases same
    exact ⟨absent, rfl, rfl, rfl⟩
  · rw [inserted] at failed
    exact absurd rfl failed

theorem fibRifCreateLocked_cases (onLag : fibRifIsAttachmentLag rif = true) (treeOk : Bool) :
    RifLocked s (fibRifCreateLocked s rifId rif treeOk).1 rif.attachment.portId ∧
    ((fibRifCreateLocked s rifId rif treeOk).2 ≠ .success ∧
        (fibRifCreateLocked s rifId rif treeOk).1.routerInterfaceTree = s.routerInterfaceTree ∨
      (fibRifCreateLocked s rifId rif treeOk).2 = .success ∧ s.routerInterfaceTree.get rifId = none ∧
        s.lagTree.get rif.attachment.portId ≠ none ∧
        (fibRifCreateLocked s rifId rif treeOk).1.routerInterfaceTree = s.routerInterfaceTree.put rifId rif ∧
        ∀ q ∈ lagMembers s rif.attachment.portId,
          (fibRifCreateLocked s rifId rif treeOk).1.portTree.get q = some .routing) := by
  unfold fibRifCreateLocked
  have config : RifLocked s (fibRifRoutingConfigUpdate s rif true).1 rif.attachment.portId := .config onLag
  have rifs := (fibRifRoutingConfigUpdate_attachments s rif true).rifs
  split
  · rename_i set done
    rw [done] at config rifs
    dsimp only at config rifs
    split
    · rename_i t inserted
      obtain ⟨absent, stored, lags, ports⟩ := fibRifInsert_success inserted
      obtain ⟨exist, routing⟩ := fibRifRoutingConfigUpdate_set onLag done
      refine ⟨config.trans ⟨lags, fun q _ => by rw [ports]⟩, .inr ⟨rfl, ?_, exist, ?_, fun q member => ?_⟩⟩
      · rw [← rifs]
        exact absent
      · rw [stored, rifs]
      · dsimp only
        rw [ports]
        exact routing q member
    · rename_i t error failed inserted
      have same : t = set := by
        rcases fibRifInsert_cases set rifId rif treeOk with ⟨node, vrf, absent, same⟩ | ⟨same, _⟩
        · rw [inserted] at same
          cases same
          exact absurd rfl failed
        · rw [inserted] at same
          exact same
      subst same
      refine ⟨config.trans (RifLocked.config onLag), .inl ⟨failed, ?_⟩⟩
      exact (fibRifRoutingConfigUpdate_attachments t rif false).rifs.trans rifs
  · rename_i t error failed done
    rw [done] at config rifs
    exact ⟨config, .inl ⟨failed, rifs⟩⟩

theorem fibRifRemoveLocked_spec (onLag : fibRifIsAttachmentLag rif = true) :
    RifLocked s (fibRifRemoveLocked s rifId rif) rif.attachment.portId ∧
      (fibRifRemoveLocked s rifId rif).routerInterfaceTree = s.routerInterfaceTree.del rifId := by
  unfold fibRifRemoveLocked
  dsimp only
  have listed := fibVrfRifListUpdate_attachments s rif.vrfId false
  have ports : (fibVrfRifListUpdate s rif.vrfId false).1.portTree = s.portTree := by
    unfold fibVrfRifListUpdate
    split
    · rfl
    · rfl
  have removed : RifLocked s { (fibVrfRifListUpdate s rif.vrfId false).1 with
      routerInterfaceTree := (fibVrfRifListUpdate s rif.vrfId false).1.routerInterfaceTree.del rifId }
      rif.attachment.portId := ⟨listed.lags, fun q _ => by rw [ports]⟩
  refine ⟨removed.trans (RifLocked.config onLag), ?_⟩
  rw [(fibRifRoutingConfigUpdate_attachments _ rif false).rifs, listed.rifs]

theorem rifLag_put (r : ObjectId) (same : t.routerInterfaceTree = s.routerInterfaceTree.put rifId rif)
    (onLag : fibRifIsAttachmentLag rif = true) :
    rifLag t r = if r = rifId then some rif.attachment.portId else rifLag s r := by
  unfold rifLag
  rw [same, KeyTree.get_put]
  split
  · rw [Option.bind_some, if_pos onLag]
  · rfl

theorem rifLag_del (r : ObjectId) (same : t.routerInterfaceTree = s.routerInterfaceTree.del rifId) :
    rifLag t r = if r = rifId then none else rifLag s r := by
  unfold rifLag
  rw [same, KeyTree.get_del]
  split
  · rfl
  · rfl

end Locked

def dropped : List LagStep → List ObjectId
  | [] => []
  | .dropNode portId :: rest => portId :: dropped rest
  | _ :: rest => dropped rest

/-- The ports that are in the cache and that no RIF has to be told of: those that
are added and not yet told, or told and not yet removed. -/
def LagOp.untold (op : LagOp) : List ObjectId := if .notifyAdded ∈ op.steps then op.added else dropped op.steps

/-- The port whose node is removed and whose RIF is told next. -/
def LagOp.overtold (op : LagOp) : List ObjectId :=
  match op.steps with
  | .notifyDropped portId :: _ => [portId]
  | _ => []

def LagOp.readsRifId (op : LagOp) : Prop :=
  match op.steps with
  | .notifyAdded :: _ => True
  | .notifyRemoved _ :: _ => True
  | .notifyDropped _ :: _ => True
  | .rifCheck :: _ => True
  | _ => False

def LagOp.removes (op : LagOp) : Prop :=
  match op.steps with
  | .dropAll :: _ => True
  | .dropLag :: _ => True
  | _ => False

/-- A RIF is created on a LAG only while none is on it and the LAG is not being
removed; the RIF ids of a LAG are written in the order of their RIF calls; no LAG
call reads the RIF id while a RIF on the LAG has still to be written; and no port
leaves the cache while a RIF on its LAG holds it. -/
def LagRifAct.kept (p : Platform) (s : LagRifState) : LagRifAct → Prop
  | .createRif defaults attrs env => ∀ rif, fibRifAttributesParse p s.fib defaults attrs env = .ok rif →
      fibRifIsAttachmentLag rif = true → (∀ r, rifLag s.fib r ≠ some rif.attachment.portId) ∧
        ∀ op, s.op = some op → op.lagId = rif.attachment.portId → ¬ op.removes
  | .updateRifId lagId rifId => (lagId, rifId) ∈ s.updates →
      s.updates.find? (fun update => update.1 = lagId) = some (lagId, rifId)
  | .advance _ => ∀ op, s.op = some op →
      (op.readsRifId → ∀ r, (op.lagId, r) ∈ s.updates → rifLag s.fib r ≠ some op.lagId) ∧
      ∀ portId rest, op.steps = .dropNode portId :: rest → ∀ r, rifLag s.fib r = some op.lagId →
        portId ∉ s.told r
  | _ => True

def finalRifId (updates : List (ObjectId × ObjectId)) (lagId cached : ObjectId) : ObjectId :=
  ((updates.filter fun update => update.1 = lagId).getLast?.map Prod.snd).getD cached

/-- The ports that are added after their look-up among other LAGs. -/
def cleared : List LagStep → List ObjectId
  | [] => []
  | .different portId :: rest => (cleared rest).filter fun p => p ≠ portId
  | .node portId _ :: rest => portId :: cleared rest
  | _ :: rest => cleared rest

def leaves : List LagStep → List ObjectId
  | [] => []
  | .notifyRemoved ports :: rest => ports ++ leaves rest
  | .dropMember portId :: rest => portId :: leaves rest
  | _ :: rest => leaves rest

/-- The next step needs nothing of the one before it. -/
def Calm : List LagStep → Prop
  | .notifyDropped _ :: _ => False
  | .dropAll :: _ => False
  | .dropLag :: _ => False
  | _ => True

/-- No look-up that the call makes first is still to come. -/
def Begun (steps : List LagStep) : Prop := .created ∉ steps ∧ ∀ portId, .absent portId ∉ steps

/-- How the steps of a call follow each other. -/
def Shaped : List LagStep → Prop
  | [] => True
  | .created :: rest => dropped rest = [] ∧ Calm rest ∧ Shaped rest
  | .npu :: rest => Calm rest ∧ Shaped rest
  | .present _ :: rest => .notifyAdded ∉ rest ∧ dropped rest = [] ∧ Calm rest ∧ Shaped rest
  | .dropNode _ :: rest => .notifyAdded ∉ rest ∧ leaves rest = [] ∧ Begun rest ∧ Calm rest ∧ Shaped rest
  | .different _ :: rest => .notifyAdded ∈ rest ∧ Shaped rest
  | .mode _ _ :: rest => .notifyAdded ∈ rest ∧ Shaped rest
  | .absent _ :: rest => .notifyAdded ∈ rest ∧ Shaped rest
  | .node _ _ :: rest => .notifyAdded ∈ rest ∧ Begun rest ∧ Shaped rest
  | .npuAdd :: rest => .notifyAdded ∈ rest ∧ Shaped rest
  | .skipMember portId :: rest => (∃ memberId next, rest = .node portId memberId :: next) ∧ Shaped rest
  | .notifyAdded :: rest => rest = []
  | .notifyRemoved _ :: rest => rest = []
  | .dropMember portId :: rest => rest = [.notifyDropped portId]
  | .notifyDropped _ :: rest => rest = []
  | .rifCheck :: rest => rest = [.dropAll, .dropLag, .npu]
  | .dropAll :: rest => rest = [.dropLag, .npu]
  | .dropLag :: rest => rest = [.npu]

/-- What holds of the LAG call in progress. -/
structure LagOpKept (fib : FibState) (op : LagOp) : Prop where
  shaped : Shaped op.steps
  fresh : ¬ Begun op.steps → op.added = []
  added : fib.lagTree.get op.lagId ≠ none → .notifyAdded ∈ op.steps →
    ∀ p ∈ op.added, p ∈ lagMembers fib op.lagId
  apart : ∀ p ∈ cleared op.steps, ∀ lagId, lagId ≠ op.lagId → p ∉ lagMembers fib lagId
  leaving : ∀ p ∈ leaves op.steps, p ∈ lagMembers fib op.lagId ∨ .present p ∈ op.steps
  gone : ∀ p ∈ op.overtold, ∀ lagId, p ∉ lagMembers fib lagId
  removing : op.removes → ∀ r, rifLag fib r ≠ some op.lagId

namespace LagRifState

def untold (s : LagRifState) (lagId : ObjectId) : List ObjectId :=
  match s.op with
  | some op => if op.lagId = lagId then op.untold else []
  | none => []

def overtold (s : LagRifState) (lagId : ObjectId) : List ObjectId :=
  match s.op with
  | some op => if op.lagId = lagId then op.overtold else []
  | none => []

end LagRifState

/-- What holds after every kept step. -/
structure LagRifKept (s : LagRifState) : Prop where
  exist : ∀ r lagId, rifLag s.fib r = some lagId → s.fib.lagTree.get lagId ≠ none
  single : ∀ r r' lagId, rifLag s.fib r = some lagId → rifLag s.fib r' = some lagId → r = r'
  kinds : ∀ r lagId, rifLag s.fib r = some lagId → r.objType = .routerInterface
  final : ∀ lagId lag, s.fib.lagTree.get lagId = some lag →
    (∀ r, rifLag s.fib r = some lagId → finalRifId s.updates lagId lag.rifId = r) ∧
    ((∀ r, rifLag s.fib r ≠ some lagId) → finalRifId s.updates lagId lag.rifId = nullObjectId)
  upper : ∀ r lagId, rifLag s.fib r = some lagId → ∀ p ∈ s.told r,
    p ∈ lagMembers s.fib lagId ∨ p ∈ s.overtold lagId
  lower : ∀ r lagId, rifLag s.fib r = some lagId → ∀ p ∈ lagMembers s.fib lagId, p ∉ s.untold lagId →
    p ∈ s.told r
  modes : ∀ r lagId, rifLag s.fib r = some lagId → ∀ p ∈ s.told r, p ∉ s.untold lagId →
    s.fib.portTree.get p = some .routing
  apart : ∀ lagId lagId' p, p ∈ lagMembers s.fib lagId → p ∈ lagMembers s.fib lagId' → lagId = lagId'
  op : ∀ op, s.op = some op → LagOpKept s.fib op

namespace LagRifState
variable {s t : LagRifState} {op : LagOp} {lagId : ObjectId}

theorem lagMembers_get {fib fib' : FibState} (same : fib'.lagTree.get lagId = fib.lagTree.get lagId) :
    lagMembers fib' lagId = lagMembers fib lagId := by
  unfold lagMembers lagPortListGet
  rw [same]

theorem untold_here (isOp : s.op = some op) : s.untold op.lagId = op.untold := by
  unfold untold
  rw [isOp]
  exact if_pos rfl

theorem overtold_here (isOp : s.op = some op) : s.overtold op.lagId = op.overtold := by
  unfold overtold
  rw [isOp]
  exact if_pos rfl

theorem told_elsewhere (away : ∀ op, s.op = some op → op.lagId ≠ lagId) :
    s.untold lagId = [] ∧ s.overtold lagId = [] := by
  unfold untold overtold
  cases isOp : s.op with
  | none => exact ⟨rfl, rfl⟩
  | some op => exact ⟨if_neg (away op isOp), if_neg (away op isOp)⟩

theorem kept_op (kept : LagRifKept s)
    (untold : ∀ lagId, s.untold lagId ⊆ ({ s with op := next } : LagRifState).untold lagId)
    (overtold : ∀ lagId, s.overtold lagId ⊆ ({ s with op := next } : LagRifState).overtold lagId)
    (opKept : ∀ op, next = some op → LagOpKept s.fib op) : LagRifKept { s with op := next } where
  exist := kept.exist
  single := kept.single
  kinds := kept.kinds
  final := kept.final
  upper r lagId onLag p member := (kept.upper r lagId onLag p member).imp_right fun beyond => overtold lagId beyond
  lower r lagId onLag p member fresh := kept.lower r lagId onLag p member fun old => fresh (untold lagId old)
  modes r lagId onLag p member fresh := kept.modes r lagId onLag p member fun old => fresh (untold lagId old)
  apart := kept.apart
  op := opKept

theorem kept_move (kept : LagRifKept s) (isOp : s.op = some op) (isNext : t.op = next)
    (sameLag : ∀ op', next = some op' → op'.lagId = op.lagId)
    (rifs : t.fib.routerInterfaceTree = s.fib.routerInterfaceTree) (updates : t.updates = s.updates)
    (lags : ∀ lagId, lagId ≠ op.lagId → t.fib.lagTree.get lagId = s.fib.lagTree.get lagId)
    (ports : ∀ q, q ∉ lagMembers s.fib op.lagId → q ∉ op.overtold →
      t.fib.portTree.get q = s.fib.portTree.get q)
    (told : ∀ r other, other ≠ op.lagId → rifLag s.fib r = some other → t.told r = s.told r)
    (cached : ∀ lag, t.fib.lagTree.get op.lagId = some lag →
      ∃ old, s.fib.lagTree.get op.lagId = some old ∧ old.rifId = lag.rifId)
    (here : ∀ r, rifLag s.fib r = some op.lagId → t.fib.lagTree.get op.lagId ≠ none ∧
      (∀ p ∈ t.told r, p ∈ lagMembers t.fib op.lagId ∨ p ∈ t.overtold op.lagId) ∧
      (∀ p ∈ lagMembers t.fib op.lagId, p ∉ t.untold op.lagId → p ∈ t.told r) ∧
      ∀ p ∈ t.told r, p ∉ t.untold op.lagId → t.fib.portTree.get p = some .routing)
    (members : ∀ p ∈ lagMembers t.fib op.lagId, ∀ lagId, lagId ≠ op.lagId → p ∉ lagMembers s.fib lagId)
    (opKept : ∀ op', next = some op' → LagOpKept t.fib op') : LagRifKept t := by
  have names : ∀ r, rifLag t.fib r = rifLag s.fib r := rifLag_congr rifs
  have before : ∀ {other}, other ≠ op.lagId → s.untold other = [] ∧ s.overtold other = [] := fun apart =>
    told_elsewhere fun op' isOp' => by
      cases Option.some.inj (isOp.symm.trans isOp')
      exact apart.symm
  have after : ∀ {other}, other ≠ op.lagId → t.untold other = [] ∧ t.overtold other = [] := fun apart =>
    told_elsewhere fun op' isOp' => by
      rw [sameLag op' (isNext.symm.trans isOp')]
      exact apart.symm
  have elsewhere : ∀ {other}, other ≠ op.lagId → lagMembers t.fib other = lagMembers s.fib other := fun apart =>
    lagMembers_get (lags _ apart)
  refine ⟨?_, ?_, ?_, ?_, ?_, ?_, ?_, ?_, ?_⟩
  · intro r other onLag
    rw [names] at onLag
    by_cases same : other = op.lagId
    · rw [same] at onLag ⊢
      exact (here r onLag).1
    · rw [lags other same]
      exact kept.exist r other onLag
  · intro r r' other onLag onLag'
    rw [names] at onLag onLag'
    exact kept.single r r' other onLag onLag'
  · intro r other onLag
    rw [names] at onLag
    exact kept.kinds r other onLag
  · intro other lag found
    simp only [names, updates]
    by_cases same : other = op.lagId
    · subst same
      obtain ⟨old, stored, isId⟩ := cached lag found
      rw [← isId]
      exact kept.final op.lagId old stored
    · rw [lags other same] at found
      exact kept.final other lag found
  · intro r other onLag p member
    rw [names] at onLag
    by_cases same : other = op.lagId
    · rw [same] at onLag ⊢
      exact (here r onLag).2.1 p member
    · rw [elsewhere same, (after same).2, ← (before same).2]
      rw [told r other same onLag] at member
      exact kept.upper r other onLag p member
  · intro r other onLag p member fresh
    rw [names] at onLag
    by_cases same : other = op.lagId
    · rw [same] at onLag member fresh
      exact (here r onLag).2.2.1 p member fresh
    rw [elsewhere same] at member
    rw [(after same).1, ← (before same).1] at fresh
    rw [told r other same onLag]
    exact kept.lower r other onLag p member fresh
  · intro r other onLag p member fresh
    rw [names] at onLag
    by_cases same : other = op.lagId
    · rw [same] at onLag fresh
      exact (here r onLag).2.2.2 p member fresh
    rw [(after same).1, ← (before same).1] at fresh
    rw [told r other same onLag] at member
    have isMember : p ∈ lagMembers s.fib other := by
      rcases kept.upper r other onLag p member with inside | beyond
      · exact inside
      · rw [(before same).2] at beyond
        cases beyond
    rw [ports p (fun mine => same (kept.apart other op.lagId p isMember mine)) fun mine =>
      (kept.op op isOp).gone p mine other isMember]
    exact kept.modes r other onLag p member fresh
  · intro one two p inOne inTwo
    by_cases isOne : one = op.lagId
    · by_cases isTwo : two = op.lagId
      · rw [isOne, isTwo]
      rw [isOne] at inOne
      rw [elsewhere isTwo] at inTwo
      exact absurd inTwo (members p inOne two isTwo)
    · rw [elsewhere isOne] at inOne
      by_cases isTwo : two = op.lagId
      · rw [isTwo] at inTwo
        exact absurd inOne (members p inTwo one isOne)
      · rw [elsewhere isTwo] at inTwo
        exact kept.apart one two p inOne inTwo
  · intro op' isOp'
    exact opKept op' (isNext.symm.trans isOp')

end LagRifState

end SaiCommon
