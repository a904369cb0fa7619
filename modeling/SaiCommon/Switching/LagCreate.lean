import SaiCommon.Switching.LagHeld

namespace SaiCommon

/-- The calls of the NPU that are counted; an addition says if the LAG is in the cache by then. -/
inductive LagNpuCall
  | lagRemove
  | addPorts (known : Bool)
deriving DecidableEq

abbrev LagLogged := (LagState × SaiStatus) × List LagNpuCall

def l2LagPortListSetLogged (s : LagState) (lagId : ObjectId) (ports : List ObjectId) (env : LagPortListEnv) :
    LagLogged :=
  if ports.all s.portValid = false then ((s, .invalidParameter), [])
  else if s.isLagCreated lagId = false then ((s, .itemNotFound), [])
  else match l2RemoveAllLagPorts s lagId env.npuRemove with
    | (s, .success) =>
      match l2LagPortsLoop false lagId env.nodeAdd s [] .success ports with
      | (s, nonDup, .success) =>
        match s.npuAddPorts lagId (s.portListGet lagId) env.npuAdd with
        | (t, .success) => ((t, .success), [.addPorts (s.isLagCreated lagId)])
        | (t, error) => ((l2RemovePortNodes t lagId nonDup, error), [.addPorts (s.isLagCreated lagId)])
      | (s, nonDup, error) => ((l2RemovePortNodes s lagId nonDup, error), [])
    | (s, error) => ((s, error), [])

def l2CreateLagLoopLogged (s : LagState) (lagId : ObjectId) (portList : Nat → LagPortListEnv) (index : Nat)
    (ret : SaiStatus) : List LagAttr → LagLogged
  | [] => ((s, ret), [])
  | .portList ports :: rest =>
    match l2LagPortListSetLogged s lagId ports (portList index) with
    | ((s, .success), log) =>
      let later := l2CreateLagLoopLogged s lagId portList (index + 1) .success rest
      (later.1, log ++ later.2)
    | ((s, error), log) => ((s, error), log)
  | .unknown :: _ => ((s, .unknownAttribute index), [])

def l2CreateLagWithIdLogged (s : LagState) (lagId : ObjectId) (attrs : List LagAttr) (env : LagCreateEnv) :
    LagLogged :=
  let added := s.nodeAdd lagId env.nodeAdd
  let s := if added.2 = .success then added.1 else (added.1.npuLagRemove lagId .success).1
  let removed := if added.2 = .success then [] else [.lagRemove]
  match l2CreateLagLoopLogged s lagId env.portList 0 added.2 attrs with
  | ((s, .success), log) => ((s, .success), removed ++ log)
  | ((s, error), log) => (((((s.npuLagRemove lagId .success).1.removeAllPortNodes lagId).nodeRemove lagId).1, error),
      removed ++ log ++ [.lagRemove])

/-- A creation makes a LAG or nothing. The LAG that the NPU makes is `lagId`. -/
structure LagCreateRight (s : LagState) (attrs : List LagAttr) (env : LagCreateEnv) : Prop where
  undone : (l2CreateLag s attrs env).2 ≠ .success → s.Same (l2CreateLag s attrs env).1 ∧
    ∀ lagId, env.create = .ok lagId → s.npu.get lagId = none →
      (l2CreateLag s attrs env).1.lagTree.get lagId = none ∧ (l2CreateLag s attrs env).1.npu.get lagId = none
  removes : ∀ lagId, env.create = .ok lagId → s.npu.get lagId = none →
    (l2CreateLagWithIdLogged (s.npuLagCreate env.create).1 lagId attrs env).2.count .lagRemove ≤ 1
  adds : ∀ lagId, env.create = .ok lagId → s.npu.get lagId = none →
    .addPorts false ∉ (l2CreateLagWithIdLogged (s.npuLagCreate env.create).1 lagId attrs env).2

/-- A removal that returns an error leaves the LAG with its members. -/
def LagRemoveRight (s : LagState) (lagId : ObjectId) (npu : SaiStatus) : Prop :=
  (l2RemoveLag s lagId npu).2 ≠ .success → s.Same (l2RemoveLag s lagId npu).1

section
variable {s t : LagState} {lagId : ObjectId} {portList : Nat → LagPortListEnv}

theorem l2LagPortListSetLogged_forget (ports : List ObjectId) (env : LagPortListEnv) :
    (l2LagPortListSetLogged s lagId ports env).1 = l2LagPortListSet s lagId ports env := by
  unfold l2LagPortListSetLogged l2LagPortListSet
  split
  · rfl
  split
  · rfl
  rcases l2RemoveAllLagPorts s lagId env.npuRemove with ⟨t, status⟩
  cases status with
  | success =>
    dsimp only
    rcases l2LagPortsLoop false lagId env.nodeAdd t [] .success ports with ⟨u, nonDup, status⟩
    cases status with
    | success =>
      dsimp only
      rcases u.npuAddPorts lagId (u.portListGet lagId) env.npuAdd with ⟨v, status⟩
      cases status <;> rfl
    | _ => rfl
  | _ => rfl

theorem l2CreateLagLoopLogged_forget (index : Nat) (ret : SaiStatus) (attrs : List LagAttr) :
    (l2CreateLagLoopLogged s lagId portList index ret attrs).1 = l2CreateLagLoop s lagId portList index ret attrs := by
  induction attrs generalizing s index ret with
  | nil => rfl
  | cons attr rest ih =>
    cases attr with
    | unknown => rfl
    | portList ports =>
      unfold l2CreateLagLoopLogged l2CreateLagLoop
      rw [← l2LagPortListSetLogged_forget]
      rcases l2LagPortListSetLogged s lagId ports (portList index) with ⟨⟨t, status⟩, log⟩
      cases status with
      | success => exact ih _ _
      | _ => rfl

/-- Forgetting the log leaves the creation. -/
theorem l2CreateLagWithIdLogged_forget (attrs : List LagAttr) (env : LagCreateEnv) :
    (l2CreateLagWithIdLogged s lagId attrs env).1 = l2CreateLagWithId s lagId attrs env := by
  unfold l2CreateLagWithIdLogged l2CreateLagWithId
  dsimp only
  rw [← l2CreateLagLoopLogged_forget]
  rcases l2CreateLagLoopLogged _ lagId env.portList 0 (s.nodeAdd lagId env.nodeAdd).2 attrs with
    ⟨⟨t, status⟩, log⟩
  cases status <;> rfl

variable (s lagId) in
/-- While a list is set the LAG is in the cache, and no LAG is removed. -/
theorem l2LagPortListSetLogged_calls (ports : List ObjectId) (env : LagPortListEnv) :
    ∀ call ∈ (l2LagPortListSetLogged s lagId ports env).2, call = .addPorts true := by
  intro call member
  have removed := (LagState.OnlyOf.moves lagId).removeAllLagPorts s env.npuRemove
  unfold l2LagPortListSetLogged at member
  split at member
  · cases member
  split at member
  · cases member
  rename_i created
  split at member
  · rename_i v isRemoved
    rw [isRemoved] at removed
    have looped : s.OnlyOf (l2LagPortsLoop false lagId env.nodeAdd v [] .success ports).1 lagId :=
      removed.trans ((LagState.OnlyOf.moves lagId).portsLoop v [] .success ports)
    split at member
    · rename_i w nonDup isLooped
      rw [isLooped] at looped
      have isCreated : w.isLagCreated lagId = true := by
        rw [LagState.isLagCreated_iff, looped.lagTree]
        exact LagState.isLagCreated_iff.mp ((Bool.not_eq_false _).mp created)
      rw [isCreated] at member
      split at member <;> exact List.mem_singleton.mp member
    · cases member
  · cases member

theorem l2CreateLagLoopLogged_calls (attrs : List LagAttr) (index : Nat) (ret : SaiStatus) :
    ∀ call ∈ (l2CreateLagLoopLogged s lagId portList index ret attrs).2, call = .addPorts true := by
  induction attrs generalizing s index ret with
  | nil =>
    intro call member
    cases member
  | cons attr rest ih =>
    intro call member
    cases attr with
    | unknown => cases member
    | portList ports =>
      have here := l2LagPortListSetLogged_calls s lagId ports (portList index) call
      unfold l2CreateLagLoopLogged at member
      split at member
      · rename_i isSet
        rw [isSet] at here
        exact (List.mem_append.mp member).elim here (ih _ _ call)
      · rename_i isSet
        rw [isSet] at here
        exact here member

variable (s lagId) in
/-- After a failed insertion of the LAG node `lag_remove` is called, and after any error; ports are
only added to a LAG in the cache. -/
theorem l2CreateLagWithIdLogged_calls (attrs : List LagAttr) (env : LagCreateEnv) :
    ((l2CreateLagWithId s lagId attrs env).2 = .success → (l2CreateLagWithIdLogged s lagId attrs env).2.count
        .lagRemove = if env.nodeAdd = .success then 0 else 1) ∧
      ((l2CreateLagWithId s lagId attrs env).2 ≠ .success → (l2CreateLagWithIdLogged s lagId attrs env).2.count
        .lagRemove = if env.nodeAdd = .success then 1 else 2) ∧
      .addPorts false ∉ (l2CreateLagWithIdLogged s lagId attrs env).2 := by
  rw [← l2CreateLagWithIdLogged_forget]
  have added : (s.nodeAdd lagId env.nodeAdd).2 = env.nodeAdd := by
    cases env.nodeAdd <;> rfl
  unfold l2CreateLagWithIdLogged
  generalize s.nodeAdd lagId env.nodeAdd = out at added
  obtain ⟨t, status⟩ := out
  dsimp only at added
  rw [← added]
  dsimp only
  have calls : ∀ call ∈ (l2CreateLagLoopLogged (if status = .success then t else (t.npuLagRemove lagId .success).1)
      lagId env.portList 0 status attrs).2, call = .addPorts true := l2CreateLagLoopLogged_calls attrs 0 status
  generalize l2CreateLagLoopLogged (if status = .success then t else (t.npuLagRemove lagId .success).1) lagId
    env.portList 0 status attrs = looped at calls
  obtain ⟨⟨u, ret⟩, log⟩ := looped
  have adds : LagNpuCall.addPorts false ∉ log := fun member => by cases calls _ member
  have none : log.count .lagRemove = 0 := List.count_eq_zero.mpr fun member => by cases calls _ member
  by_cases inserted : status = .success <;> cases ret <;> simp [inserted, adds, none]

theorem lagCreateRight_iff (lags : LagHeld s) (attrs : List LagAttr) (env : LagCreateEnv) :
    LagCreateRight s attrs env ↔
      ∀ lagId, env.create = .ok lagId → s.npu.get lagId = none → env.nodeAdd = .success := by
  constructor
  · intro right lagId made fresh
    by_contra refused
    have once := right.removes lagId made fresh
    unfold LagState.npuLagCreate at once
    rw [made] at once
    dsimp only at once
    rw [fresh] at once
    dsimp only at once
    rw [(l2CreateLagWithIdLogged_calls _ _ attrs env).2.1 (lags.notInserted fresh attrs refused).2,
      if_neg refused] at once
    exact absurd once (by decide)
  · intro inserted
    refine ⟨fun failed => ?_, fun lagId made fresh => ?_, fun _ _ _ =>
      (l2CreateLagWithIdLogged_calls _ _ attrs env).2.2⟩
    · have same : s.Same (l2CreateLag s attrs env).1 := by
        unfold l2CreateLag LagState.npuLagCreate at failed ⊢
        cases made : env.create with
        | error status => exact .refl s
        | ok lagId =>
          rw [made] at failed
          dsimp only at failed ⊢
          cases fresh : s.npu.get lagId with
          | some held => exact .refl s
          | none =>
            rw [fresh] at failed
            rcases lags.createLagWithId fresh attrs env with ⟨ok, _⟩ | ⟨_, same⟩
            · exact absurd ok failed
            · exact same
      refine ⟨same, fun lagId _ fresh => ⟨?_, ?_⟩⟩
      · by_contra created
        exact (same.lagTree lagId).mp created (lags.absent fresh)
      · rw [same.npu lagId]
        exact fresh
    · obtain ⟨made', failed', _⟩ := l2CreateLagWithIdLogged_calls (s.npuLagCreate env.create).1 lagId attrs env
      rw [if_pos (inserted lagId made fresh)] at made' failed'
      by_cases ok : (l2CreateLagWithId (s.npuLagCreate env.create).1 lagId attrs env).2 = .success
      · rw [made' ok]
        exact Nat.zero_le 1
      · rw [failed' ok]

theorem lagRemoveRight_iff (lagId : ObjectId) (npu : SaiStatus) :
    LagRemoveRight s lagId npu ↔ ∀ rifId, s.lagTree.get lagId = some rifId →
      rifId.objType ≠ .routerInterface → npu = .success ∨ s.portListGet lagId = [] := by
  unfold LagRemoveRight
  rcases l2RemoveLag_cases s lagId npu with ⟨same, rifs⟩ | ⟨rifId, found, kind, ⟨ok, success, _⟩ |
    ⟨refused, answer, cached, npus, lagTree⟩⟩
  · rw [same]
    exact iff_of_true (fun _ => .refl s) fun rifId isIt kind => absurd (rifs rifId isIt) kind
  · exact iff_of_true (fun failed => absurd success failed) fun _ _ _ => .inl ok
  constructor
  · intro right other _ _
    have same := (right (by rwa [answer])).cached lagId
    rw [cached, if_pos rfl] at same
    unfold LagState.cached at same
    exact .inr (List.toFinset_eq_empty_iff _ |>.mp same.symm)
  · intro known _
    have empty := (known rifId found kind).resolve_left refused
    refine ⟨fun j => ?_, fun j => by rw [npus], lagTree⟩
    rw [cached]
    split
    · rename_i same
      unfold LagState.cached
      rw [same, empty]
      rfl
    · rfl

/-- Every creation of a run is all or nothing exactly when the node of a LAG
that the NPU has made is inserted, and every removal exactly when the NPU removes
the LAG, if the cache holds it without a RIF and with members. -/
theorem lagCreateRemove_allOrNothing (run : LagRun s) : (∀ attrs env, LagCreateRight s attrs env ↔
      ∀ lagId, env.create = .ok lagId → s.npu.get lagId = none → env.nodeAdd = .success) ∧
    ∀ lagId npu, LagRemoveRight s lagId npu ↔ ∀ rifId, s.lagTree.get lagId = some rifId →
      rifId.objType ≠ .routerInterface → npu = .success ∨ s.portListGet lagId = [] :=
  ⟨lagCreateRight_iff run.lags, lagRemoveRight_iff⟩

end

theorem lagCreateRemove_allOrNothing_sample : (∀ attrs env, LagCreateRight lagOneMember attrs env ↔
      ∀ lagId, env.create = .ok lagId → lagOneMember.npu.get lagId = none → env.nodeAdd = .success) ∧
    ∀ lagId npu, LagRemoveRight lagOneMember lagId npu ↔ ∀ rifId, lagOneMember.lagTree.get lagId = some rifId →
      rifId.objType ≠ .routerInterface → npu = .success ∨ lagOneMember.portListGet lagId = [] :=
  lagCreateRemove_allOrNothing lagOneMember_run

/-- A creation whose LAG node is not inserted calls `lag_remove` twice, and a
removal that the NPU refuses takes the member out of the cache. -/
theorem lagCreateRemove_not_allOrNothing : (¬ ∀ s, LagRun s → ∀ attrs env, LagCreateRight s attrs env) ∧
    ¬ ∀ s, LagRun s → ∀ lagId npu, LagRemoveRight s lagId npu := by
  constructor
  · intro all
    have once :=
      (all _ (.start lagSample_fresh) [] ⟨.ok ⟨.lag, 2⟩, .noMemory, fun _ => lagSamplePortList⟩).removes
      ⟨.lag, 2⟩ rfl rfl
    revert once
    decide
  · intro all
    have same := all _ lagOneMember_run ⟨.lag, 1⟩ .failure (by decide)
    have member := same.cached ⟨.lag, 1⟩
    revert member
    decide

end SaiCommon
