import SaiCommon.Acl.RuleMemoryPopulate
import SaiCommon.Lib.Runs
import Mathlib.Data.List.Perm.Basic

namespace SaiCommon

variable {env : AclSetMemEnv} {table : AclTable}

open Blocks

def MemRule.entriesOf (rule : MemRule) : AclListKey → List MemEntry
  | .field _ => rule.filterList
  | .action _ => rule.actionList

/-- Whether there is memory for a longer array of filters or actions. -/
def AclUpdateMemEnv.allocOf (env : AclUpdateMemEnv) : AclListKey → Bool
  | .field _ => env.filterListAlloc
  | .action _ => env.actionListAlloc

def MemRule.One (modify : MemRule) : Prop := modify = {} ∨ ∃ scan, modify = MemRule.add {} scan

/-- The update stores the enabled lists of the scratch rule. -/
def AclUpdateMemEnv.Right (env : AclUpdateMemEnv) (mem : AclMem) (modify given : MemRule) : Prop :=
  ∀ scan, modify = MemRule.add {} scan → scan.enable = true → scan.key.kind ≠ .plain →
    (scan.lists mem).listed scan.key.kind ∧
      env.rightLists (env.allocOf scan.key) scan.key.kind (scan.lists mem)
        ((memEntryOf scan.key (given.entriesOf scan.key)).map fun e => (e.enable, e.lists mem))

/-- The enabled lists of the scratch rule are in the stored one. -/
def MemRule.StoredIn (modify : MemRule) (mem mem' : AclMem) (rule : MemRule) : Prop :=
  ∀ scan, modify = MemRule.add {} scan → scan.enable = true → scan.key.kind ≠ .plain →
    scan.storedIn mem mem' (rule.entriesOf scan.key)

section Scan
variable {mem mem' mem'' : AclMem} {modify given rule : MemRule} {made rest : AclCells} {scan : MemEntry}

theorem MemRule.entriesOf_within (rule : MemRule) (key : AclListKey) :
    (memEntryCells (rule.entriesOf key)).Within rule.cells := by
  cases key with
  | field id => exact .left
  | action id => exact .right

theorem MemRule.add_within : scan.cells.Within (MemRule.add {} scan).cells := by
  have perm := MemRule.cells_add {} scan
  exact ⟨fun c member => perm.bytes.mem_iff.mp (List.mem_append_left _ member),
    fun c member => perm.oids.mem_iff.mp (List.mem_append_left _ member)⟩

theorem MemRule.add_inj {other : MemEntry} (same : MemRule.add {} scan = MemRule.add {} other) : scan = other := by
  unfold MemRule.add at same
  cases key : scan.key with
  | field id =>
    cases key' : other.key with
    | field id' =>
      rw [key, key'] at same
      exact List.head_eq_of_cons_eq (congrArg MemRule.filterList same)
    | action id' =>
      rw [key, key'] at same
      cases same
  | action id =>
    cases key' : other.key with
    | field id' =>
      rw [key, key'] at same
      cases same
    | action id' =>
      rw [key, key'] at same
      exact List.head_eq_of_cons_eq (congrArg MemRule.actionList same)

theorem MemRule.empty_ne_add : ({} : MemRule) ≠ MemRule.add {} scan := by
  intro same
  unfold MemRule.add at same
  split at same
  · cases same
  · cases same

theorem memEntryOf_kept (kept : mem.Kept mem' made rest) (within : given.cells.Within rest) (key : AclListKey) :
    ((memEntryOf key (given.entriesOf key)).map fun e => (e.enable, e.lists mem')) =
      (memEntryOf key (given.entriesOf key)).map fun e => (e.enable, e.lists mem) := by
  cases found : memEntryOf key (given.entriesOf key) with
  | none => rfl
  | some entry =>
    have inRule := (memEntry_within (memEntryOf_some found).1).trans (given.entriesOf_within key)
    rw [Option.map_some, Option.map_some, MemEntry.lists_congr kept (inRule.trans within)]

theorem AclUpdateMemEnv.Right.kept {env : AclUpdateMemEnv} (right : env.Right mem modify given)
    (kept : mem.Kept mem' made rest) (within : modify.cells.Within rest) (within' : given.cells.Within rest) :
    env.Right mem' modify given := by
  intro scan same enabled list
  rw [same] at within
  rw [MemEntry.lists_congr kept (MemRule.add_within.trans within), memEntryOf_kept kept within']
  exact right scan same enabled list

theorem MemRule.StoredIn.kept (stored : modify.StoredIn mem mem' rule) (kept : mem'.Kept mem'' made rest)
    (within : rule.cells.Within rest) : modify.StoredIn mem mem'' rule := by
  intro scan same enabled list
  obtain ⟨entry, found, lists⟩ := stored scan same enabled list
  have inRule := (memEntry_within (memEntryOf_some found).1).trans (rule.entriesOf_within scan.key)
  exact ⟨entry, found, (MemEntry.lists_congr kept (inRule.trans within)).trans lists⟩

theorem MemRule.StoredIn.before (stored : modify.StoredIn mem' mem'' rule) (kept : mem.Kept mem' made rest)
    (within : modify.cells.Within rest) : modify.StoredIn mem mem'' rule := by
  intro scan same enabled list
  obtain ⟨entry, found, lists⟩ := stored scan same enabled list
  rw [same] at within
  exact ⟨entry, found, lists.trans (MemEntry.lists_congr kept (MemRule.add_within.trans within))⟩

theorem memRuleUpdate_one {env : AclUpdateMemEnv} {compare : MemRule} (one : modify.One)
    (owns : mem.Owns (given.cells.append rest)) (within : modify.cells.Within rest)
    (within' : compare.cells.Within rest)
    (sound : given.Sound) (filters : List.Forall₂ (MemEntry.Copied mem) given.filterList compare.filterList)
    (actions : List.Forall₂ (MemEntry.Copied mem) given.actionList compare.actionList) :
    ∃ filterMarks actionMarks, memEntryMarks mem compare.filterList modify.filterList = .ok filterMarks ∧
      memEntryMarks mem compare.actionList modify.actionList = .ok actionMarks ∧
      (env.Right mem modify given → ∃ mem' next status,
        memRuleUpdateFieldAction env mem given filterMarks actionMarks = .ok (mem', next, status) ∧
        mem.Kept mem' next.cells rest ∧ next.Sound ∧ modify.StoredIn mem mem' next) := by
  rcases one with rfl | ⟨scan, rfl⟩
  · exact ⟨[], [], rfl, rfl, fun _ => ⟨mem, given, .success, memRuleUpdateFieldAction_none, .refl owns, sound,
      fun scan same => absurd same MemRule.empty_ne_add⟩⟩
  have scanWithin := MemRule.add_within.trans within
  have stores : ∀ {mem' : AclMem} {next : MemRule},
      (scan.enable = true → scan.key.kind ≠ .plain → scan.storedIn mem mem' (next.entriesOf scan.key)) →
      (MemRule.add {} scan).StoredIn mem mem' next := by
    intro mem' next stored other same
    rw [← MemRule.add_inj same]
    exact stored
  cases key : scan.key with
  | field id =>
    have added : MemRule.add {} scan = { filterList := [scan] } := by
      rw [MemRule.add, key]
      rfl
    obtain ⟨mark, marked, tells⟩ := memEntryMark_eq owns (scanWithin.trans .right)
      ((AclCells.Within.left.trans within').trans .right) filters
    refine ⟨[(scan, mark)], [], by simp [added, memEntryMarks, marked], by rw [added]; rfl, fun right => ?_⟩
    have right := right scan rfl
    rw [key] at right
    obtain ⟨mem', next, status, updated, kept, both, stored⟩ :=
      @memRuleUpdateFieldAction_filter env mem given rest scan
      mark owns scanWithin sound.filters tells (by rw [key]; exact right)
    refine ⟨mem', _, status, updated, kept, ⟨sound.live, both, sound.actions⟩, stores fun enabled list => ?_⟩
    rw [key]
    exact stored enabled list
  | action id =>
    have added : MemRule.add {} scan = { actionList := [scan] } := by
      rw [MemRule.add, key]
      rfl
    obtain ⟨mark, marked, tells⟩ := memEntryMark_eq owns (scanWithin.trans .right)
      ((AclCells.Within.right.trans within').trans .right) actions
    refine ⟨[], [(scan, mark)], by rw [added]; rfl, by simp [added, memEntryMarks, marked], fun right => ?_⟩
    have right := right scan rfl
    rw [key] at right
    obtain ⟨mem', next, status, updated, kept, both, stored⟩ :=
      @memRuleUpdateFieldAction_action env mem given rest scan
      mark owns scanWithin sound.live sound.actions tells (by rw [key]; exact right)
    refine ⟨mem', _, status, updated, kept, ⟨sound.live, sound.filters, both⟩, stores fun enabled list => ?_⟩
    rw [key]
    exact stored enabled list

theorem memRuleScan_kept (one : modify.One) (owns : mem.Owns (given.cells.append rest))
    (within : modify.cells.Within rest) (sound : given.Sound)
    (right : env.copyListAlloc = true → env.npuCopy = .success → env.npu = .success →
      env.update.Right mem modify given) :
    ∃ mem' compare next status, memRuleScan env mem modify given = .ok (mem', compare, next, status) ∧
      compare.filterListFreed = false ∧ mem.Kept mem' (compare.cells.append next.cells) rest ∧ next.Sound ∧
      (status = .success → modify.StoredIn mem mem' next) := by
  obtain ⟨mem₁, compare, status, copied, kept, live, all⟩ :=
    @memRuleCopy_kept mem _ env given sound.live owns .left
  unfold memRuleScan
  simp only [copied]
  by_cases ok : status = .success
  · obtain ⟨alloc, npuCopy, filters, actions⟩ := all ok
    obtain ⟨filterMarks, actionMarks, marked, marked', updates⟩ :=
      @memRuleUpdate_one mem₁ modify given _ env.update
      compare one (kept.owns.perm .append_left_comm) (within.trans .right) .left sound filters actions
    simp only [ok, marked, marked']
    by_cases npu : env.npu = .success
    · have right := (right alloc npuCopy npu).kept kept (within.trans .right) .left
      obtain ⟨mem₂, next, updateStatus, updated, kept', sound', stored⟩ := updates right
      simp only [npu, updated]
      exact ⟨mem₂, compare, next, .success, rfl, live, kept.frame.trans (kept'.frame.perm .append_comm), sound',
        fun _ => stored.before kept (within.trans .right)⟩
    · refine ⟨mem₁, compare, given, env.npu, ?_, live, kept.frame, sound, fun ok => absurd ok npu⟩
      generalize env.npu = npuStatus at npu
      cases npuStatus <;> first | exact absurd rfl npu | rfl
  · refine ⟨mem₁, compare, given, status, ?_, live, kept.frame, sound, fun done => absurd done ok⟩
    cases status <;> first | exact absurd rfl ok | rfl

theorem memRuleScanAndMod_kept (one : modify.One) (owns : mem.Owns (given.cells.append rest))
    (within : modify.cells.Within rest) (sound : given.Sound)
    (right : env.copyListAlloc = true → env.npuCopy = .success → env.npu = .success →
      env.update.Right mem modify given) :
    ∃ mem' next status, memRuleScanAndMod env mem modify given = .ok (mem', next, status) ∧
      mem.Kept mem' next.cells rest ∧ next.Sound ∧ (status = .success → modify.StoredIn mem mem' next) := by
  obtain ⟨mem₁, compare, next, status, scanned, live, kept, sound', stored⟩ :=
    memRuleScan_kept one owns within sound right
  have owns' := kept.owns
  rw [AclCells.append_assoc] at owns'
  obtain ⟨mem₂, freed, kept'⟩ := memRuleFree_kept live owns'
  unfold memRuleScanAndMod
  simp only [scanned, freed]
  exact ⟨mem₂, next, status, rfl, kept.trans kept'.frame, sound', fun ok => (stored ok).kept kept' .left⟩

theorem memRuleCheckAndScan_kept {env : AclSetMemEnv} (one : modify.One) (owns : mem.Owns (given.cells.append rest))
    (within : modify.cells.Within rest) (sound : given.Sound)
    (right : env.validate = .success → env.copyListAlloc = true → env.npuCopy = .success → env.npu = .success →
      env.update.Right mem modify given) :
    ∃ mem' next status, memRuleCheckAndScan env mem modify given = .ok (mem', next, status) ∧
      mem.Kept mem' next.cells rest ∧ next.Sound ∧ (status = .success → modify.StoredIn mem mem' next) := by
  unfold memRuleCheckAndScan
  split
  · rename_i valid
    exact memRuleScanAndMod_kept one owns within sound (right valid)
  · rename_i invalid
    exact ⟨mem, given, _, rfl, .refl owns, sound, fun ok => absurd ok invalid⟩

end Scan

def memRulesCells (rules : List MemRule) : AclCells :=
  ⟨rules.flatMap fun rule => rule.cells.bytes, rules.flatMap fun rule => rule.cells.oids⟩

section Rules
variable {rules : List MemRule} {rule next : MemRule} {index : Nat}

theorem memRulesCells_append (rules : List MemRule) (rule : MemRule) :
    (rule.cells.append (memRulesCells rules)).Perm (memRulesCells (rules ++ [rule])) := by
  have grown : memRulesCells (rules ++ [rule]) = (memRulesCells rules).append (memRulesCells [rule]) := by
    simp only [memRulesCells, AclCells.append, List.flatMap_append]
  have single : memRulesCells [rule] = rule.cells := by
    simp only [memRulesCells, List.flatMap_cons, List.flatMap_nil, List.append_nil]
  rw [grown, single]
  exact .append_comm

theorem memRulesCells_erase (stored : rules[index]? = some rule) :
    (memRulesCells rules).Perm (rule.cells.append (memRulesCells (rules.eraseIdx index))) := by
  obtain ⟨bound, here⟩ := List.getElem?_eq_some_iff.mp stored
  have perm := (List.getElem_cons_eraseIdx_perm bound).symm
  rw [here] at perm
  exact ⟨perm.flatMap_right _, perm.flatMap_right _⟩

theorem memRulesCells_set (stored : rules[index]? = some rule) (next : MemRule) :
    (next.cells.append (memRulesCells (rules.eraseIdx index))).Perm (memRulesCells (rules.set index next)) := by
  obtain ⟨bound, _⟩ := List.getElem?_eq_some_iff.mp stored
  have perm := (List.set_perm_cons_eraseIdx bound next).symm
  exact ⟨perm.flatMap_right fun rule : MemRule => rule.cells.bytes,
    perm.flatMap_right fun rule : MemRule => rule.cells.oids⟩

end Rules

/-- The stored rules have lists of their own, whose counts are the lengths. -/
structure AclMemState.Held (s : AclMemState) : Prop where
  owns : s.mem.Owns (memRulesCells s.rules)
  sound : ∀ rule ∈ s.rules, rule.Sound

structure AclSetMemEnv.Reaches (env : AclSetMemEnv) (attr : AclRuleAttr) : Prop where
  accepts : env.populate.accepts attr
  validate : env.validate = .success
  copyListAlloc : env.copyListAlloc = true
  npuCopy : env.npuCopy = .success
  npu : env.npu = .success

/-- The update of a rule stores the enabled lists of an attribute. -/
def AclSetMemEnv.rightAttr (env : AclSetMemEnv) (mem : AclMem) (rule : MemRule) (attr : AclRuleAttr) : Prop :=
  ∀ key value, attr.lists env.populate.table = some (key, true, value) → key.kind ≠ .plain →
    env.update.rightLists (env.update.allocOf key) key.kind (value.lists key.kind)
      ((memEntryOf key (rule.entriesOf key)).map fun e => (e.enable, e.lists mem))

def MemRule.stores (table : AclTable) (mem : AclMem) (rule : MemRule) (attr : AclRuleAttr) : Prop :=
  ∀ key value, attr.lists table = some (key, true, value) → key.kind ≠ .plain →
    ∃ entry, memEntryOf key (rule.entriesOf key) = some entry ∧ entry.lists mem = value.lists key.kind

inductive AclMemOp
  | create (attrs : List AclRuleAttr) (env : AclPopulateEnv) (begin_ install : SaiStatus)
  | set (index : Nat) (attr : AclRuleAttr) (env : AclSetMemEnv)
  | delete (index : Nat) (status : SaiStatus)

def AclMemState.step (s : AclMemState) : AclMemOp → Except Fault (AclMemState × SaiStatus)
  | .create attrs env begin_ install => memCreateAclRule s attrs env begin_ install
  | .set index attr env => memSetAclRule s index attr env
  | .delete index status => memDeleteAclRule s index status

/-- The sets that store what they are given, when they come so far. -/
def AclMemState.right (s : AclMemState) : AclMemOp → Prop
  | .set index attr env => ∀ rule, s.rules[index]? = some rule → env.Reaches attr → env.rightAttr s.mem rule attr
  | _ => True

/-- The rule of a set has the enabled lists that it was given. -/
def AclMemState.stores (s : AclMemState) : AclMemOp → Prop
  | .set index attr env => ∃ rule, s.rules[index]? = some rule ∧ rule.stores env.populate.table s.mem attr
  | _ => True

def AclMemState.empty : AclMemState := ⟨⟨.empty, .empty⟩, []⟩

section Set
variable {mem mem' mem'' : AclMem} {rest : AclCells} {attr : AclRuleAttr} {modify given rule : MemRule}

theorem MemRule.modifies.one (modifies : modify.modifies table mem attr) : modify.One := by
  rcases modifies with ⟨_, same⟩ | ⟨entry, _, _, same, _⟩
  · exact .inl same
  · exact .inr ⟨entry, same⟩

theorem MemRule.modifies.right (modifies : modify.modifies env.populate.table mem' attr)
    (kept : mem.Kept mem' modify.cells rest) (within : given.cells.Within rest)
    (right : env.rightAttr mem given attr) : env.update.Right mem' modify given := by
  intro scan same enabled list
  rcases modifies with ⟨_, none⟩ | ⟨entry, value, gives, one, lists⟩
  · exact absurd (none.symm.trans same) MemRule.empty_ne_add
  cases MemRule.add_inj (one.symm.trans same)
  obtain ⟨given', listed⟩ := lists enabled
  rw [enabled] at gives
  rw [given', memEntryOf_kept kept within]
  exact ⟨listed, right scan.key value gives list⟩

theorem MemRule.modifies.stores (modifies : modify.modifies table mem attr)
    (stored : modify.StoredIn mem mem'' rule) : rule.stores table mem'' attr := by
  intro key value gives list
  rcases modifies with ⟨absent, _⟩ | ⟨entry, value', gives', one, lists⟩
  · rw [absent] at gives
    cases gives
  rw [gives] at gives'
  obtain ⟨rfl, isOn, rfl⟩ : key = entry.key ∧ true = entry.enable ∧ value = value' := by simpa using gives'
  obtain ⟨found, at_, same⟩ := stored entry one isOn.symm list
  exact ⟨found, at_, same.trans (lists isOn.symm).1⟩

end Set

section Steps
variable {s : AclMemState}

section
variable (held : s.Held)
include held

theorem AclMemState.Held.forget {mem : AclMem} (kept : s.mem.Kept mem .none (memRulesCells s.rules)) :
    AclMemState.Held { s with mem := mem } :=
  ⟨kept.owns, held.sound⟩

theorem AclMemState.Held.create (attrs : List AclRuleAttr) (env : AclPopulateEnv) (begin_ install : SaiStatus) :
    ∃ t status, memCreateAclRule s attrs env begin_ install = .ok (t, status) ∧ t.Held := by
  unfold memCreateAclRule
  split
  · split
    · obtain ⟨mem, ⟨error, _, populated, kept⟩ | ⟨rule, populated, kept, sound⟩⟩ :=
        @memRulePopulate_kept env s.mem _ attrs held.owns
      · simp only [populated]
        exact ⟨_, error, rfl, held.forget kept⟩
      · simp only [populated]
        split
        · refine ⟨_, _, rfl, kept.owns.perm (memRulesCells_append s.rules rule), fun other member => ?_⟩
          rcases List.mem_append.mp member with old | new
          · exact held.sound other old
          · rw [List.mem_singleton.mp new]
            exact sound
        · obtain ⟨mem', freed, kept'⟩ := memRuleFree_kept sound.live kept.owns
          simp only [freed]
          exact ⟨_, _, rfl, held.forget (kept.trans kept')⟩
    · exact ⟨s, _, rfl, held⟩
  · exact ⟨s, _, rfl, held⟩

theorem AclMemState.Held.delete (index : Nat) (status : SaiStatus) :
    ∃ t status', memDeleteAclRule s index status = .ok (t, status') ∧ t.Held := by
  unfold memDeleteAclRule
  cases stored : s.rules[index]? with
  | none => exact ⟨s, _, rfl, held⟩
  | some rule =>
    dsimp only
    split
    · obtain ⟨mem, freed, kept⟩ := memRuleFree_kept (held.sound rule (List.mem_of_getElem? stored)).live
        (held.owns.perm (memRulesCells_erase stored))
      simp only [freed]
      exact ⟨_, _, rfl, kept.owns, fun other member => held.sound other (List.mem_of_mem_eraseIdx member)⟩
    · exact ⟨s, _, rfl, held⟩

theorem AclMemState.Held.set {index : Nat} {attr : AclRuleAttr}
    (right : s.right (.set index attr env)) :
    ∃ t status, memSetAclRule s index attr env = .ok (t, status) ∧ t.Held ∧
      (status = .success → t.stores (.set index attr env)) := by
  unfold memSetAclRule
  split
  · cases at_ : s.rules[index]? with
    | none => exact ⟨s, _, rfl, held, SaiStatus.noConfusion⟩
    | some present =>
      dsimp only
      obtain ⟨mem₁, ⟨error, failed, populated, kept⟩ |
        ⟨modify, populated, kept, sound, modifies, accepts⟩⟩ :=
        @memRulePopulate_one env.populate s.mem _ attr held.owns
      · simp only [populated]
        exact ⟨_, error, rfl, held.forget kept, fun ok => absurd ok failed⟩
      · simp only [populated]
        have presentSound := held.sound present (List.mem_of_getElem? at_)
        have apart := (memRulesCells_erase at_).append_left modify.cells |>.trans .append_left_comm
        have owns := kept.owns.perm apart
        have presentWithin : present.cells.Within (memRulesCells s.rules) :=
          ⟨fun c member => (memRulesCells_erase at_).bytes.mem_iff.mpr (List.mem_append_left _ member),
            fun c member => (memRulesCells_erase at_).oids.mem_iff.mpr (List.mem_append_left _ member)⟩
        obtain ⟨mem₂, next, status, scanned, kept', sound', stored⟩ :=
          @memRuleCheckAndScan_kept mem₁ modify present _
          env modifies.one owns .left presentSound fun validate alloc npuCopy npu =>
            modifies.right kept presentWithin (right present at_ ⟨accepts, validate, alloc, npuCopy, npu⟩)
        obtain ⟨mem₃, freed, kept''⟩ := memRuleFree_kept sound.live (kept'.owns.perm .append_left_comm)
        simp only [scanned, freed]
        obtain ⟨bound, _⟩ := List.getElem?_eq_some_iff.mp at_
        refine ⟨_, _, rfl, ⟨kept''.owns.perm (memRulesCells_set at_ next), fun other member => ?_⟩,
          fun ok => ?_⟩
        · rcases List.mem_or_eq_of_mem_set member with old | rfl
          · exact held.sound other old
          · exact sound'
        · have done : status = .success := by
            by_contra failed
            rw [if_neg failed] at ok
            exact failed ok
          exact ⟨next, List.getElem?_set_self bound, modifies.stores ((stored done).kept kept'' .left)⟩
  · exact ⟨s, _, rfl, held, fun ok => absurd ok ‹_›⟩

theorem AclMemState.Held.step {op : AclMemOp} (right : s.right op) : ∃ t status,
    s.step op = .ok (t, status) ∧ t.Held ∧ (status = .success → t.stores op) := by
  cases op with
  | create attrs env begin_ install =>
    obtain ⟨t, status, stepped, held'⟩ := held.create attrs env begin_ install
    exact ⟨t, status, stepped, held', fun _ => trivial⟩
  | set index attr env => exact held.set right
  | delete index status =>
    obtain ⟨t, status', stepped, held'⟩ := held.delete index status
    exact ⟨t, status', stepped, held', fun _ => trivial⟩

end

theorem AclMemState.Held.empty : AclMemState.empty.Held :=
  ⟨⟨Blocks.Owns.nil, Blocks.Owns.nil⟩, fun _ member => absurd member List.not_mem_nil⟩

end Steps

/-- The steps whose sets store what they are given. -/
def AclMemState.moves (s : AclMemState) (op : AclMemOp) (t : AclMemState) : Prop :=
  s.right op ∧ ∃ status, s.step op = .ok (t, status)

/-- No call reads or writes outside a list or uses a freed one, the counts are the lengths
of the lists, and a set stores the lists that it is given. -/
theorem aclLists_within_bounds {s : AclMemState} (reach : Runs.Reach (· = AclMemState.empty) AclMemState.moves s) :
    s.Held ∧ ∀ op, s.right op → ∃ t status, s.step op = .ok (t, status) ∧ t.Held ∧
      (status = .success → t.stores op) := by
  have held : s.Held := by
    refine reach.invariant AclMemState.Held (fun s initial => ?_) fun s op t held moves => ?_
    · rw [initial]
      exact .empty
    · obtain ⟨right, status, stepped⟩ := moves
      obtain ⟨t', status', stepped', held', _⟩ := held.step right
      rw [stepped] at stepped'
      cases stepped'
      exact held'
  exact ⟨held, fun op right => held.step right⟩

def aclMemSampleEnv : AclPopulateEnv where
  lookups := ⟨fun _ => true, fun _ => true, fun _ => .success, fun _ => (.success, 0), true, fun _ => true⟩
  platform := ⟨1, true, fun _ => .srTcm⟩
  table := ⟨0, nullObjectId, .ingress, 0, 0, nullObjectId, false, [⟨0, ⟨.udfGroup, 1⟩, 0⟩], true, [], 0, 0⟩
  grants := ⟨fun _ => true, fun _ => true⟩

def aclMemSampleUdf (data mask : List UInt8) : AclRuleAttr := .field (.udf 0) true { u8Data := data, u8Mask := mask }

def aclMemSampleSet (data mask : List UInt8) : AclMemOp :=
  .set 0 (aclMemSampleUdf data mask) ⟨aclMemSampleEnv, .success, true, aclMemSampleEnv.grants, .success, .success,
    ⟨true, true, aclMemSampleEnv.grants, .success⟩, .success⟩

def aclMemSampleCreate : AclMemOp := .create [.priority 1, aclMemSampleUdf [1, 2] [255, 255]]
    aclMemSampleEnv .success .success

def aclMemSample : AclMemState :=
  match AclMemState.empty.step aclMemSampleCreate with
  | .ok (t, _) => t
  | .error _ => .empty

theorem aclMemSample_reach : Runs.Reach (· = AclMemState.empty) AclMemState.moves aclMemSample := by
  refine .next (.start rfl) (a := aclMemSampleCreate) ⟨trivial, .success, ?_⟩
  rfl

theorem aclMemSampleSet_right (mask : List UInt8) (whole : mask.length = 2) :
    aclMemSample.right (aclMemSampleSet [3, 4] mask) := by
  intro rule stored _ key value gives _
  cases stored
  cases gives
  exact .inr ⟨whole, rfl⟩

/-- The UDF data and mask of a rule are replaced by others of the same length. -/
theorem aclLists_within_bounds_sample : aclMemSample.Held ∧ ∃ t status,
    aclMemSample.step (aclMemSampleSet [3, 4] [255, 0]) = .ok (t, status) ∧ t.Held ∧
      (status = .success → t.stores (aclMemSampleSet [3, 4] [255, 0])) := by
  obtain ⟨held, stepped⟩ := aclLists_within_bounds aclMemSample_reach
  exact ⟨held, stepped _ (aclMemSampleSet_right _ rfl)⟩

/-- A mask that is shorter than its data is read behind its end. -/
theorem not_aclLists_within_bounds : ¬∀ s,
    Runs.Reach (· = AclMemState.empty) (fun s op t => ∃ status, s.step op = .ok (t, status)) s →
      s.Held ∧ ∀ op, ∃ t status, s.step op = .ok (t, status) ∧ t.Held ∧
      (status = .success → t.stores op) := by
  intro bounds
  have reach : Runs.Reach (· = AclMemState.empty) (fun s op t => ∃ status, AclMemState.step s op = .ok (t, status))
      aclMemSample := aclMemSample_reach.mono (fun _ => id) fun _ _ _ moves => moves.2
  obtain ⟨t, status, stepped, _⟩ := (bounds aclMemSample reach).2 (aclMemSampleSet [1, 2, 3] [255])
  have outside : aclMemSample.step (aclMemSampleSet [1, 2, 3] [255]) = .error .outside := rfl
  rw [outside] at stepped
  cases stepped

end SaiCommon
