import SaiCommon.Hostif.TrapGroup
import SaiCommon.Lib.Runs

namespace SaiCommon

inductive TrapAttrId
  | packetAction
  | trapPriority
  | trapChannel
  | fd
  | portList
  | trapGroup
  | other (code : Int)
deriving DecidableEq

def TrapAttr.attrId : TrapAttr → TrapAttrId
  | .packetAction _ => .packetAction
  | .trapPriority _ => .trapPriority
  | .trapChannel _ => .trapChannel
  | .fd _ => .fd
  | .portList _ => .portList
  | .trapGroup _ => .trapGroup
  | .other code => .other code

def TrapAttr.stored (attr : TrapAttr) : Bool :=
  attr.attrId = .packetAction ∨ attr.attrId = .trapPriority ∨ attr.attrId = .portList ∨ attr.attrId = .trapGroup

def Trap.Holds (trap : Trap) : TrapAttr → Prop
  | .packetAction value => trap.trapAction = value
  | .trapPriority value => trap.trapPrio = value
  | .portList value => trap.portList = value
  | .trapGroup value => trap.trapGroup = value
  | _ => False

structure TrapSet where
  trapId : HostifTrapId
  attr : TrapAttr
  env : TrapSetEnv

/-- The answer of `npu_set_trap`, when the set comes to it. -/
def npuSetTrap (s : HostifState) (call : TrapSet) : Option SaiStatus :=
  match validateTrap s call.trapId call.attr call.env with
  | .success =>
    match s.trapTree.get call.trapId with
    | some trap => if trap.unchanged call.attr = true then none else some call.env.npuSet
    | none => if call.env.nodeAllocOk = false ∨ call.env.insertOk = false then none else some call.env.npuSet
  | _ => none

/-- The database beside the values that the NPU took last. -/
structure TrapWorld where
  db : HostifState
  told : HostifTrapId → TrapAttrId → Option TrapAttr

section World
variable (w : TrapWorld) (call : TrapSet)

def TrapWorld.tell : HostifTrapId → TrapAttrId → Option TrapAttr :=
  fun trapId attrId => if trapId = call.trapId ∧ attrId = call.attr.attrId then some call.attr else
    w.told trapId attrId

def TrapWorld.set : TrapWorld where
  db := (setHostifTrap w.db call.trapId call.attr call.env).1
  told := if npuSetTrap w.db call = some .success then w.tell call else w.told

def TrapWorld.status : SaiStatus := (setHostifTrap w.db call.trapId call.attr call.env).2

/-- A set that fails changes nothing, and one that succeeds has its value stored and told. -/
structure TrapSetRight : Prop where
  atomic : w.status call ≠ .success → w.set call = w
  effective : w.status call = .success →
    (∃ trap, (w.set call).db.trapTree.get call.trapId = some trap ∧ trap.Holds call.attr) ∧
    (w.set call).told call.trapId call.attr.attrId = some call.attr

def TrapSet.losesList : Prop :=
  call.env.npuSet = .success ∧ call.attr.attrId = .portList ∧ call.env.listAllocOk = false

/-- A value that a trap has already is one that the NPU was told, a list that the NPU takes is stored or was told
before, and a new trap is taken and stored. -/
def TrapSetClear : Prop :=
  validateTrap w.db call.trapId call.attr call.env = .success →
    (∀ trap, w.db.trapTree.get call.trapId = some trap → trap.unchanged call.attr = true ∨ call.losesList →
      w.told call.trapId call.attr.attrId = some call.attr) ∧
    (w.db.trapTree.get call.trapId = none → call.env.nodeAllocOk = true → call.env.insertOk = true →
      call.env.npuSet = .success ∧ ¬ call.losesList)

inductive TrapSetEnds : Prop
  | refused (error : w.status call ≠ .success) (kept : w.set call = w) (clear : TrapSetClear w call)
  | skipped (done : w.status call = .success) (kept : w.set call = w) {trap : Trap}
      (stored : w.db.trapTree.get call.trapId = some trap) (holds : trap.Holds call.attr)
      (clear : TrapSetClear w call ↔ w.told call.trapId call.attr.attrId = some call.attr)
  | lost (error : w.status call ≠ .success) (kept : w.set call = { w with told := w.tell call })
      (clear : TrapSetClear w call ↔ w.told call.trapId call.attr.attrId = some call.attr)
  | remains (error : w.status call ≠ .success) (absent : w.db.trapTree.get call.trapId = none)
      (there : (w.set call).db.trapTree.get call.trapId ≠ none) (unclear : ¬ TrapSetClear w call)
  | written (done : w.status call = .success) {next : Trap} (holds : next.Holds call.attr)
      (tree : (w.set call).db.trapTree = w.db.trapTree.put call.trapId next)
      (rest : ∀ trap, w.db.trapTree.get call.trapId = some trap → ∀ value : TrapAttr,
        value.attrId ≠ call.attr.attrId → trap.Holds value → next.Holds value)
      (told : (w.set call).told = w.tell call) (clear : TrapSetClear w call)

end World

section Sets
variable {w : TrapWorld} {call : TrapSet}

theorem Trap.holds_of_unchanged {trap : Trap} {attr : TrapAttr} (same : trap.unchanged attr = true) :
    trap.Holds attr := by
  cases attr <;> first | cases same | simpa [Trap.unchanged, Trap.Holds] using same

theorem TrapWorld.tell_self (same : w.told call.trapId call.attr.attrId = some call.attr) : w.tell call = w.told := by
  funext trapId attrId
  unfold tell
  split
  · rename_i here
    rw [here.1, here.2, same]
  · rfl

theorem TrapWorld.tell_here : w.tell call call.trapId call.attr.attrId = some call.attr := if_pos ⟨rfl, rfl⟩

theorem updateTrapNode_ends (s : HostifState) (trapId : HostifTrapId) (trap : Trap) (env : TrapSetEnv) {attr : TrapAttr}
    (known : attr.stored = true) :
    attr.attrId = .portList ∧ env.listAllocOk = false ∧ updateTrapNode s trapId trap env attr = (s, .noMemory) ∨
    ¬ (attr.attrId = .portList ∧ env.listAllocOk = false) ∧
    (updateTrapNode s trapId trap env attr).2 = .success ∧
      ∃ next, (updateTrapNode s trapId trap env attr).1.trapTree = s.trapTree.put trapId next ∧ next.Holds attr ∧
        ∀ value : TrapAttr, value.attrId ≠ attr.attrId → trap.Holds value → next.Holds value := by
  cases attr with
  | portList value =>
    cases memory : env.listAllocOk with
    | false => exact .inl ⟨rfl, rfl, by rw [updateTrapNode, if_pos memory]⟩
    | true =>
      refine .inr ⟨fun both => (by cases both.2), ?_⟩
      rw [updateTrapNode, if_neg (by rw [memory]; exact Bool.noConfusion)]
      refine ⟨rfl, _, rfl, rfl, fun other apart held => ?_⟩
      cases other <;> first | exact held | exact absurd rfl apart
  | packetAction value =>
    refine .inr ⟨fun both => (by cases both.1), rfl, _, rfl, rfl, fun other apart held => ?_⟩
    cases other <;> first | exact held | exact absurd rfl apart
  | trapPriority value =>
    refine .inr ⟨fun both => (by cases both.1), rfl, _, rfl, rfl, fun other apart held => ?_⟩
    cases other <;> first | exact held | exact absurd rfl apart
  | trapGroup value =>
    refine .inr ⟨fun both => (by cases both.1), rfl, { trap with trapGroup := value }, ?_, rfl,
      fun other apart held => ?_⟩
    · rw [updateTrapNode]
      dsimp only
      split <;> rfl
    · cases other <;> first | exact held | exact absurd rfl apart
  | _ => cases known

theorem addTrapNode_tree {s t : HostifState} {trapId : HostifTrapId} {env : TrapSetEnv} {trap : Trap}
    (added : addTrapNode s trapId env = some (t, trap)) :
    (env.nodeAllocOk = true ∧ env.insertOk = true) ∧ t.trapTree = s.trapTree.put trapId trap := by
  unfold addTrapNode at added
  split at added
  · cases added
  rename_i memory
  rw [not_or, Bool.not_eq_false, Bool.not_eq_false] at memory
  dsimp only at added
  split at added <;>
    · cases added
      exact ⟨memory, rfl⟩

theorem TrapWorld.set_of_run {t : HostifState} {status : SaiStatus} {answer : Option SaiStatus}
    (run : setHostifTrap w.db call.trapId call.attr call.env = (t, status)) (npu : npuSetTrap w.db call = answer) :
    w.status call = status ∧ w.set call = ⟨t, if answer = some .success then w.tell call else w.told⟩ := by
  unfold TrapWorld.status TrapWorld.set
  rw [run, npu]
  exact ⟨rfl, rfl⟩

theorem trapSet_ends_stored {trap : Trap} (known : call.attr.stored = true)
    (valid : validateTrap w.db call.trapId call.attr call.env = .success)
    (stored : w.db.trapTree.get call.trapId = some trap) : TrapSetEnds w call := by
  have clear : TrapSetClear w call ↔ (trap.unchanged call.attr = true ∨ call.losesList →
      w.told call.trapId call.attr.attrId = some call.attr) := by
    unfold TrapSetClear
    rw [stored]
    simp [valid]
  have run : setHostifTrap w.db call.trapId call.attr call.env =
      updateTrap w.db call.trapId trap call.attr false call.env := by
    unfold setHostifTrap
    rw [valid, stored]
  have npu : npuSetTrap w.db call = if trap.unchanged call.attr = true then none else some call.env.npuSet := by
    unfold npuSetTrap
    rw [valid, stored]
  unfold updateTrap at run
  by_cases same : trap.unchanged call.attr = true
  · rw [if_pos ⟨same, rfl⟩] at run
    rw [if_pos same] at npu
    obtain ⟨done, kept⟩ := TrapWorld.set_of_run run npu
    refine .skipped done (kept.trans (by rw [if_neg (by simp)])) stored (Trap.holds_of_unchanged same) ?_
    rw [clear]
    exact ⟨fun told => told (.inl same), fun told _ => told⟩
  rw [if_neg fun both => same both.1] at run
  rw [if_neg same] at npu
  cases answer : call.env.npuSet with
  | success =>
    rw [answer] at run npu
    dsimp only at run
    rcases updateTrapNode_ends w.db call.trapId trap call.env known with
      ⟨isList, memory, lost⟩ | ⟨room, success, next, tree, holds, rest⟩
    · rw [lost] at run
      obtain ⟨error, kept⟩ := TrapWorld.set_of_run run npu
      refine .lost (by rw [error]; exact SaiStatus.noConfusion) (kept.trans (by rw [if_pos rfl])) ?_
      rw [clear]
      exact ⟨fun told => told (.inr ⟨answer, isList, memory⟩), fun told _ => told⟩
    · obtain ⟨done, kept⟩ := TrapWorld.set_of_run run npu
      refine .written (done.trans success) holds (by rw [kept]; exact tree) (fun old found value apart held => ?_)
        (by rw [kept, if_pos rfl]) (clear.mpr ?_)
      · cases stored.symm.trans found
        exact rest value apart held
      · rintro (unchanged | ⟨_, full⟩)
        · exact (same unchanged).elim
        · exact (room full).elim
  | _ =>
    rw [answer] at run npu
    obtain ⟨error, kept⟩ := TrapWorld.set_of_run run npu
    refine .refused (by rw [error]; exact SaiStatus.noConfusion) (kept.trans (by rw [if_neg (by simp)]))
      (clear.mpr ?_)
    rintro (unchanged | ⟨success, _⟩)
    · exact (same unchanged).elim
    · rw [answer] at success
      cases success

theorem trapSet_ends_absent (known : call.attr.stored = true)
    (valid : validateTrap w.db call.trapId call.attr call.env = .success)
    (absent : w.db.trapTree.get call.trapId = none) : TrapSetEnds w call := by
  have clear : TrapSetClear w call ↔ (call.env.nodeAllocOk = true → call.env.insertOk = true →
      call.env.npuSet = .success ∧ ¬ call.losesList) := by
    unfold TrapSetClear
    rw [absent]
    simp [valid]
  have npu : npuSetTrap w.db call =
      if call.env.nodeAllocOk = false ∨ call.env.insertOk = false then none else some call.env.npuSet := by
    unfold npuSetTrap
    rw [valid, absent]
  cases added : addTrapNode w.db call.trapId call.env with
  | none =>
    have run : setHostifTrap w.db call.trapId call.attr call.env = (w.db, .failure) := by
      unfold setHostifTrap
      rw [valid, absent, added]
    have memory : call.env.nodeAllocOk = false ∨ call.env.insertOk = false := by
      unfold addTrapNode at added
      by_contra room
      rw [if_neg room] at added
      dsimp only at added
      split at added <;> cases added
    rw [if_pos memory] at npu
    obtain ⟨error, kept⟩ := TrapWorld.set_of_run run npu
    refine .refused (by rw [error]; exact SaiStatus.noConfusion) (kept.trans (by rw [if_neg (by simp)]))
      (clear.mpr fun alloc insert => ?_)
    rcases memory with memory | memory
    · rw [alloc] at memory
      cases memory
    · rw [insert] at memory
      cases memory
  | some created =>
    obtain ⟨t, trap⟩ := created
    obtain ⟨⟨alloc, insert⟩, tree⟩ := addTrapNode_tree added
    have run : setHostifTrap w.db call.trapId call.attr call.env =
        updateTrap t call.trapId trap call.attr true call.env := by
      unfold setHostifTrap
      rw [valid, absent, added]
    have there : t.trapTree.get call.trapId ≠ none := by
      rw [tree, KeyTree.get_put_self]
      exact Option.some_ne_none trap
    rw [if_neg (by rw [alloc, insert]; simp)] at npu
    unfold updateTrap at run
    rw [if_neg (by simp)] at run
    cases answer : call.env.npuSet with
    | success =>
      rw [answer] at run npu
      dsimp only at run
      rcases updateTrapNode_ends t call.trapId trap call.env known with
        ⟨isList, memory, lost⟩ | ⟨room, success, next, written, holds, _⟩
      · rw [lost] at run
        obtain ⟨error, kept⟩ := TrapWorld.set_of_run run npu
        refine .remains (by rw [error]; exact SaiStatus.noConfusion) absent (by rw [kept]; exact there) fun good => ?_
        exact (clear.mp good alloc insert).2 ⟨answer, isList, memory⟩
      · obtain ⟨done, kept⟩ := TrapWorld.set_of_run run npu
        refine .written (done.trans success) holds ?_ (fun old found => ?_) (by rw [kept, if_pos rfl])
          (clear.mpr fun _ _ => ⟨answer, fun loses => room loses.2⟩)
        · rw [kept]
          exact written.trans (by rw [tree, KeyTree.put_put])
        · rw [absent] at found
          cases found
    | _ =>
      rw [answer] at run npu
      obtain ⟨error, kept⟩ := TrapWorld.set_of_run run npu
      refine .remains (by rw [error]; exact SaiStatus.noConfusion) absent (by rw [kept]; exact there) fun good => ?_
      have success := (clear.mp good alloc insert).1
      rw [answer] at success
      cases success

theorem trapSet_ends (w : TrapWorld) (call : TrapSet) (known : call.attr.stored = true) : TrapSetEnds w call := by
  cases valid : validateTrap w.db call.trapId call.attr call.env with
  | success =>
    cases stored : w.db.trapTree.get call.trapId with
    | none => exact trapSet_ends_absent known valid stored
    | some trap => exact trapSet_ends_stored known valid stored
  | _ =>
    refine .refused ?_ ?_ fun passed => ?_
    · unfold TrapWorld.status setHostifTrap
      rw [valid]
      exact SaiStatus.noConfusion
    · unfold TrapWorld.set setHostifTrap npuSetTrap
      rw [valid]
      rfl
    · rw [valid] at passed
      cases passed

theorem trapSet_right_iff (w : TrapWorld) (call : TrapSet) (known : call.attr.stored = true) :
    TrapSetRight w call ↔ TrapSetClear w call := by
  cases trapSet_ends w call known with
  | refused error kept clear => exact iff_of_true ⟨fun _ => kept, fun done => (error done).elim⟩ clear
  | skipped done kept stored holds clear =>
    rw [clear]
    constructor
    · intro right
      have told := (right.effective done).2
      rwa [kept] at told
    · intro told
      refine ⟨fun error => (error done).elim, fun _ => ?_⟩
      rw [kept]
      exact ⟨⟨_, stored, holds⟩, told⟩
  | lost error kept clear =>
    rw [clear]
    constructor
    · intro right
      have same := right.atomic error
      rw [kept] at same
      rw [← same]
      exact TrapWorld.tell_here
    · intro told
      refine ⟨fun _ => ?_, fun done => (error done).elim⟩
      rw [kept, TrapWorld.tell_self told]
  | remains error absent there unclear =>
    refine iff_of_false (fun right => there ?_) unclear
    rw [right.atomic error, absent]
  | written done holds tree rest told clear =>
    refine iff_of_true ⟨fun error => (error done).elim, fun _ => ⟨⟨_, ?_, holds⟩, ?_⟩⟩ clear
    · rw [tree, KeyTree.get_put_self]
    · rw [told]
      exact TrapWorld.tell_here

/-- Whatever the NPU was told is what the stored trap holds. -/
def TrapWorld.Told (w : TrapWorld) : Prop :=
  ∀ trapId attrId value, w.told trapId attrId = some value →
    value.attrId = attrId ∧ ∃ trap, w.db.trapTree.get trapId = some trap ∧ trap.Holds value

theorem TrapWorld.Told.set (agrees : w.Told) (known : call.attr.stored = true) (clear : TrapSetClear w call) :
    (w.set call).Told := by
  have right := (trapSet_right_iff w call known).mpr clear
  cases trapSet_ends w call known with
  | refused error => exact (right.atomic error).symm ▸ agrees
  | skipped _ kept => exact kept.symm ▸ agrees
  | lost error => exact (right.atomic error).symm ▸ agrees
  | remains error => exact (right.atomic error).symm ▸ agrees
  | written done holds tree rest told _ =>
    intro trapId attrId value held
    rw [told] at held
    rw [tree, KeyTree.get_put]
    unfold TrapWorld.tell at held
    split at held
    · rename_i here
      cases held
      exact ⟨here.2.symm, _, if_pos here.1, holds⟩
    rename_i apart
    obtain ⟨isId, trap, stored, old⟩ := agrees trapId attrId value held
    refine ⟨isId, ?_⟩
    split
    · rename_i here
      subst here
      exact ⟨_, rfl, rest trap stored value (fun same => apart ⟨rfl, isId.symm.trans same⟩) old⟩
    · exact ⟨trap, stored, old⟩

end Sets

def TrapWorld.Fresh (w : TrapWorld) : Prop := w.db.trapTree = ∅ ∧ w.told = fun _ _ => none

/-- In runs of clear sets the NPU was told what is stored, and a next set is right exactly when it is clear. -/
theorem trapSets_right {w : TrapWorld} (reach : Runs.Reach TrapWorld.Fresh
      (Runs.guarded (fun w call => call.attr.stored = true ∧ TrapSetClear w call) TrapWorld.set) w) :
    w.Told ∧ ∀ call : TrapSet, call.attr.stored = true → (TrapSetRight w call ↔ TrapSetClear w call) := by
  refine ⟨?_, trapSet_right_iff w⟩
  refine reach.invariant TrapWorld.Told (fun w fresh trapId attrId value held => ?_) ?_
  · rw [fresh.2] at held
    cases held
  · rintro w call _ agrees ⟨⟨known, clear⟩, rfl⟩
    exact agrees.set known clear

def sampleTrapSet (npu : SaiStatus) : TrapSet :=
  ⟨.lacp, .packetAction .trap, ⟨fun _ => true, .success, true, true, npu, true⟩⟩

def sampleTrapWorld : TrapWorld := (⟨.empty, fun _ _ => none⟩ : TrapWorld).set (sampleTrapSet .success)

/-- The value that was told is set again. -/
theorem trapSets_right_sample : sampleTrapWorld.Told ∧ TrapSetRight sampleTrapWorld (sampleTrapSet .success) := by
  have first : TrapSetClear ⟨.empty, fun _ _ => none⟩ (sampleTrapSet .success) :=
    fun _ => ⟨fun _ stored => (by cases stored), fun _ _ _ => ⟨rfl, fun loses => (by cases loses.2.1)⟩⟩
  have again : TrapSetClear sampleTrapWorld (sampleTrapSet .success) :=
    fun _ => ⟨fun _ _ _ => rfl, fun absent => (by cases absent)⟩
  have reach : Runs.Reach TrapWorld.Fresh
      (Runs.guarded (fun w call => call.attr.stored = true ∧ TrapSetClear w call) TrapWorld.set) sampleTrapWorld :=
    .next (.start ⟨rfl, rfl⟩) ⟨⟨rfl, first⟩, rfl⟩
  have right := trapSets_right reach
  exact ⟨right.1, (right.2 _ rfl).mpr again⟩

/-- The NPU refuses the first set of a trap, which stays in the tree. -/
theorem trapSets_not_right : ¬ ∀ w, Runs.Reach TrapWorld.Fresh
      (Runs.guarded (fun _ call => call.attr.stored = true) TrapWorld.set) w →
    ∀ call : TrapSet, call.attr.stored = true → TrapSetRight w call := by
  intro all
  have right := all ⟨.empty, fun _ _ => none⟩ (.start ⟨rfl, rfl⟩) (sampleTrapSet .failure) rfl
  have kept := congrArg (fun w => w.db.trapTree.get .lacp) (right.atomic (by decide))
  cases kept

end SaiCommon
