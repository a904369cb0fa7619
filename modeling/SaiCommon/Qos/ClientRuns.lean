import SaiCommon.Lib.Runs
import SaiCommon.Qos.ClientSteps

namespace SaiCommon

variable {steps : List ClientStep} {edit : List QosSlot → List QosSlot} {k : ObjectId}

/-- The object whose list the next step of the call joins. -/
def ClientCall.joins (call : ClientCall) : Option ObjectId :=
  match call.steps with
  | .join id :: _ => some id
  | .link id :: _ => some id
  | _ => none

/-- The object whose list is joined with no look-up and no NPU call in between. -/
def willJoin : List ClientStep → Option ObjectId
  | .join id :: _ => some id
  | .link id :: _ => some id
  | .release _ :: rest => willJoin rest
  | .write _ :: rest => willJoin rest
  | _ => none

namespace ClientState

def Lists (s : ClientState) (slot : QosSlot) (id : ObjectId) : Prop :=
  ∃ glues, (s.nodes slot.kind).get id = some glues ∧ slot ∈ glues

/-- The slot names NULL or an object that lists its glue. -/
def Linked (s : ClientState) (slot : QosSlot) : Prop :=
  ∀ id, s.ids slot = some id → id ≠ nullObjectId → s.Lists slot id

/-- The next step ends the call with an error. -/
def GivesUp (s : ClientState) (call : ClientCall) (answer : SaiStatus) : Prop :=
  match call.steps with
  | .lookup id :: _ => s.stored call.slot id = false
  | .npu :: _ => answer ≠ .success
  | .release true :: _ => s.named call.slot ≠ nullObjectId ∧ s.stored call.slot (s.named call.slot) = false
  | _ => False

def Idle (s : ClientState) (slot : QosSlot) : Prop :=
  ∀ call, s.calls slot.lock = some call → call.slot ≠ slot

end ClientState

/-- A call gives up only while its slot is linked; no list is joined once the NPU
has removed the object; the NPU accepts an attachment only of a stored object and
a removal only of an object not in use; and no object is freed that a call is
about to join. -/
def ClientAct.kept (modeOf : ObjectId → PolicerMode) (s : ClientState) : ClientAct → Prop
  | .advance lock answer => ∀ call, s.calls lock = some call →
      (s.GivesUp call answer → s.Linked call.slot) ∧
      (∀ id, call.joins = some id → s.removal ≠ some ⟨call.slot.kind, id, true⟩) ∧
      ∀ rest id, call.steps = .npu :: rest → willJoin rest = some id → answer = .success →
        s.stored call.slot id = true
  | .removeNpu answer => ∀ kind id glues, s.removal = some ⟨kind, id, false⟩ → answer = .success →
      (s.nodes kind).get id = some glues → ClientState.isInUse modeOf kind id glues = false
  | .removeFree => ∀ kind id lock call, s.removal = some ⟨kind, id, true⟩ → s.calls lock = some call →
      call.slot.kind = kind → willJoin call.steps ≠ some id
  | _ => True

/-- The mode in the id of a policer says whether ports or rules may name it. -/
def QosSlot.Fits (modeOf : ObjectId → PolicerMode) : QosSlot → ObjectId → Prop
  | .storm _ _, id => modeOf id = .stormControl
  | .rule _, id => modeOf id = .srTcm ∨ modeOf id = .trTcm
  | _, _ => True

/-- The steps put a glue that is in no list back, when the slot names `name`. -/
def Mends (name : Option ObjectId) : List ClientStep → Prop
  | [] => ∀ id, name = some id → id = nullObjectId
  | .npu :: rest => Mends name rest
  | .lookup id :: rest => (∀ k, willJoin rest = some k → k = id) ∧ Mends name rest
  | .write id :: rest => Mends (some id) rest
  | .link _ :: rest => rest = []
  | .join id :: rest => name = some id ∧ rest = []
  | .npuDelete id :: rest => name = some id ∧ rest = [.drop]
  | .drop :: rest => rest = []
  | _ => False

/-- The steps of a call whose slot is linked, when it names `name` and `lists`
are the objects that list it. -/
def Plain (name : Option ObjectId) (lists : ObjectId → Prop) : List ClientStep → Prop
  | [] => True
  | .npu :: rest => Plain name lists rest
  | .lookup id :: rest => (∀ k, willJoin rest = some k → k = id) ∧ Plain name lists rest
  | .release _ :: rest => Mends name rest
  | .unlink :: rest => rest = []
  | .join id :: rest => rest = [.insert id]
  | .insert id :: rest => rest = [] ∧ (id ≠ nullObjectId → lists id)
  | .drop :: rest => rest = []
  | _ => False

def joined : List ClientStep → List ObjectId
  | [] => []
  | .join id :: rest => id :: joined rest
  | .link id :: rest => id :: joined rest
  | .npuDelete id :: rest => id :: joined rest
  | _ :: rest => joined rest

/-- What holds of a call in progress. -/
structure CallKept (modeOf : ObjectId → PolicerMode) (s : ClientState) (slot : QosSlot)
    (steps : List ClientStep) : Prop where
  phase : s.Linked slot ∧ Plain (s.ids slot) (s.Lists slot) steps ∨ Mends (s.ids slot) steps
  stored : ∀ id, willJoin steps = some id → s.stored slot id = true
  fits : ∀ id ∈ joined steps, slot.Fits modeOf id

/-- What holds after every kept step. -/
structure ClientsKept (modeOf : ObjectId → PolicerMode) (s : ClientState) : Prop where
  fits : ∀ kind id glues slot, (s.nodes kind).get id = some glues → slot ∈ glues →
    slot.kind = kind ∧ slot.Fits modeOf id
  linked : ∀ slot, s.Idle slot → s.Linked slot
  calls : ∀ lock call, s.calls lock = some call → call.slot.lock = lock ∧ CallKept modeOf s call.slot call.steps
  removal : ∀ kind id npuDone, s.removal = some ⟨kind, id, npuDone⟩ → (s.nodes kind).get id ≠ none ∧
    (npuDone = true → (s.nodes kind).get id = some [])

theorem Plain.mono {name : Option ObjectId} {lists lists' : ObjectId → Prop}
    (plain : Plain name lists steps) (more : ∀ id, lists id → lists' id) : Plain name lists' steps := by
  induction steps with
  | nil => trivial
  | cons step rest ih =>
    cases step with
    | npu => exact ih plain
    | lookup id => exact ⟨plain.1, ih plain.2⟩
    | release must => exact plain
    | unlink => exact plain
    | join id => exact plain
    | insert id => exact ⟨plain.1, fun notNull => more id (plain.2 notNull)⟩
    | drop => exact plain
    | write id => exact plain.elim
    | link id => exact plain.elim
    | npuDelete id => exact plain.elim

namespace ClientState
variable {s t u : ClientState} {slot v : QosSlot} {id : ObjectId} {modeOf : ObjectId → PolicerMode}

theorem get_editList (kind : QosKind) (k : ObjectId) : ((s.editList slot id edit).nodes kind).get k =
      if kind = slot.kind ∧ k = id then ((s.nodes kind).get k).map edit else (s.nodes kind).get k := by
  unfold editList
  dsimp only
  by_cases same : kind = slot.kind
  · subst same
    rw [Function.update_self, KeyTree.get_modify]
    simp only [true_and]
  · rw [Function.update_of_ne same, if_neg fun both => same both.1]

/-- `t` is `s` but for the field and the glue of one slot. -/
structure SlotEdited (modeOf : ObjectId → PolicerMode) (s t : ClientState) (slot : QosSlot) : Prop where
  ids : ∀ v, v ≠ slot → t.ids v = s.ids v
  lists : ∀ v id, v ≠ slot → s.Lists v id → t.Lists v id
  stored : ∀ kind id, (t.nodes kind).get id = none ↔ (s.nodes kind).get id = none
  fits : ∀ kind id glues v, (t.nodes kind).get id = some glues → v ∈ glues →
    v.kind = kind ∧ v.Fits modeOf id ∨ ∃ old, (s.nodes kind).get id = some old ∧ v ∈ old
  freeing : ∀ kind id, s.removal = some ⟨kind, id, true⟩ → (s.nodes kind).get id = some [] →
    (t.nodes kind).get id = some []
  removal : t.removal = s.removal
  calls : t.calls = s.calls

theorem SlotEdited.refl : SlotEdited modeOf s s slot :=
  ⟨fun _ _ => rfl, fun _ _ _ listed => listed, fun _ _ => Iff.rfl,
    fun _ _ glues _ found member => .inr ⟨glues, found, member⟩, fun _ _ _ empty => empty, rfl, rfl⟩

theorem SlotEdited.trans (first : SlotEdited modeOf s t slot) (second : SlotEdited modeOf t u slot) :
    SlotEdited modeOf s u slot where
  ids v other := (second.ids v other).trans (first.ids v other)
  lists v id other listed := second.lists v id other (first.lists v id other listed)
  stored kind id := (second.stored kind id).trans (first.stored kind id)
  fits := by
    intro kind id glues v found member
    rcases second.fits kind id glues v found member with fit | ⟨old, before, was⟩
    · exact .inl fit
    · exact first.fits kind id old v before was
  freeing kind id isIt empty := second.freeing kind id (first.removal ▸ isIt) (first.freeing kind id isIt empty)
  removal := second.removal.trans first.removal
  calls := second.calls.trans first.calls

theorem writeId_ids (name : Option ObjectId) : (s.writeId slot name).ids slot = name := by
  unfold writeId
  exact Function.update_self ..

theorem SlotEdited.writeId (name : Option ObjectId) : SlotEdited modeOf s (s.writeId slot name) slot where
  ids _ other := Function.update_of_ne other _ _
  lists _ _ _ listed := listed
  stored _ _ := Iff.rfl
  fits _ _ glues _ found member := .inr ⟨glues, found, member⟩
  freeing _ _ _ empty := empty
  removal := rfl
  calls := rfl

theorem SlotEdited.editList (keep : ∀ v glues, v ≠ slot → v ∈ glues → v ∈ edit glues)
    (added : ∀ v glues, v ∈ edit glues → v ∈ glues ∨ v = slot ∧ slot.Fits modeOf id)
    (freeing : s.removal = some ⟨slot.kind, id, true⟩ → edit [] = []) :
    SlotEdited modeOf s (s.editList slot id edit) slot where
  ids _ _ := rfl
  lists := by
    rintro v k other ⟨glues, found, member⟩
    unfold Lists
    rw [get_editList, found]
    split
    · exact ⟨edit glues, rfl, keep v glues other member⟩
    · exact ⟨glues, rfl, member⟩
  stored := by
    intro kind k
    rw [get_editList]
    split
    · exact Option.map_eq_none_iff
    · exact Iff.rfl
  fits := by
    intro kind k glues w found member
    rw [get_editList] at found
    split at found
    · rename_i here
      obtain ⟨old, before, rfl⟩ := Option.map_eq_some_iff.mp found
      rcases added w old member with was | ⟨rfl, fit⟩
      · exact .inr ⟨old, before, was⟩
      · exact .inl ⟨here.1.symm, here.2 ▸ fit⟩
    · exact .inr ⟨glues, found, member⟩
  freeing := by
    intro kind k isIt empty
    rw [get_editList]
    split
    · rename_i here
      rw [here.1, here.2] at isIt
      rw [empty, Option.map_some, freeing isIt]
    · exact empty
  removal := rfl
  calls := rfl

theorem SlotEdited.releaseGlue : SlotEdited modeOf s (s.releaseGlue slot) slot :=
  .editList (fun _ _ other member => (List.mem_erase_of_ne other).mpr member)
    (fun _ _ member => .inl (List.mem_of_mem_erase member)) fun _ => rfl

theorem SlotEdited.joinList (fit : slot.Fits modeOf id) (spared : s.removal ≠ some ⟨slot.kind, id, true⟩) :
    SlotEdited modeOf s (s.joinList slot id) slot := by
  refine .editList (fun _ _ _ member => List.mem_append_left _ member) (fun v glues member => ?_)
    fun isIt => absurd isIt spared
  rcases List.mem_append.mp member with old | new
  · exact .inl old
  · exact .inr ⟨List.mem_singleton.mp new, fit⟩

theorem stored_eq_true : s.stored slot id = true ↔ (s.nodes slot.kind).get id ≠ none := by
  unfold stored
  rw [Option.isSome_iff_ne_none]

theorem SlotEdited.stored_eq (edited : SlotEdited modeOf s t slot) (v : QosSlot) (k : ObjectId) :
    t.stored v k = true ↔ s.stored v k = true := by
  rw [stored_eq_true, stored_eq_true]
  exact not_congr (edited.stored v.kind k)

theorem lists_joinList (present : s.stored slot id = true) : (s.joinList slot id).Lists slot id := by
  obtain ⟨glues, found⟩ := Option.ne_none_iff_exists'.mp (stored_eq_true.mp present)
  refine ⟨glues ++ [slot], ?_, List.mem_append_right _ (List.mem_singleton_self slot)⟩
  unfold joinList
  rw [get_editList, if_pos ⟨rfl, rfl⟩, found]
  rfl

theorem SlotEdited.linked (edited : SlotEdited modeOf s t slot) (other : v ≠ slot) (linked : s.Linked v) :
    t.Linked v := by
  intro k name notNull
  rw [edited.ids v other] at name
  exact edited.lists v k other (linked k name notNull)

theorem SlotEdited.callKept (edited : SlotEdited modeOf s t slot) (other : v ≠ slot)
    (kept : CallKept modeOf s v steps) : CallKept modeOf t v steps where
  phase := by
    rw [edited.ids v other]
    exact kept.phase.imp_left fun both =>
      ⟨edited.linked other both.1, both.2.mono fun k listed => edited.lists v k other listed⟩
  stored k will := (edited.stored_eq v k).mpr (kept.stored k will)
  fits := kept.fits

theorem callKept_goOn {lock : ClientLock} {next : Option ClientCall} :
    CallKept modeOf (s.goOn lock next) v steps ↔ CallKept modeOf s v steps :=
  ⟨fun kept => ⟨kept.phase, kept.stored, kept.fits⟩, fun kept => ⟨kept.phase, kept.stored, kept.fits⟩⟩

theorem kept_goOn (kept : ClientsKept modeOf s) (edited : SlotEdited modeOf s t slot)
    (held : s.calls slot.lock = some ⟨slot, steps⟩) (next : Option (List ClientStep))
    (ended : next = none → t.Linked slot) (going : ∀ rest, next = some rest → CallKept modeOf t slot rest) :
    ClientsKept modeOf (t.goOn slot.lock (next.map (ClientCall.mk slot))) where
  fits := by
    intro kind k glues v found member
    rcases edited.fits kind k glues v found member with fit | ⟨old, before, was⟩
    · exact fit
    · exact kept.fits kind k old v before was
  linked := by
    intro v idle
    by_cases same : v = slot
    · subst same
      cases next with
      | none => exact ended rfl
      | some rest => exact absurd rfl (idle ⟨v, rest⟩ (Function.update_self ..))
    refine edited.linked same (kept.linked v fun call isCall => ?_)
    by_cases lock : v.lock = slot.lock
    · rw [lock, held] at isCall
      cases isCall
      exact fun eq => same eq.symm
    · refine idle call ?_
      refine (Function.update_of_ne lock _ _).trans ?_
      rw [edited.calls]
      exact isCall
  calls := by
    intro lock call isCall
    by_cases here : lock = slot.lock
    · subst here
      have isNext : next.map (ClientCall.mk slot) = some call := by
        refine Eq.trans ?_ isCall
        exact (Function.update_self slot.lock _ t.calls).symm
      obtain ⟨rest, isRest, rfl⟩ := Option.map_eq_some_iff.mp isNext
      exact ⟨rfl, callKept_goOn.mpr (going rest isRest)⟩
    · have before : s.calls lock = some call := by
        rw [← edited.calls]
        exact (Function.update_of_ne here _ _).symm.trans isCall
      obtain ⟨onLock, callKept⟩ := kept.calls lock call before
      refine ⟨onLock, callKept_goOn.mpr (edited.callKept (fun same => here ?_) callKept)⟩
      rw [← onLock, same]
  removal := by
    intro kind k npuDone isIt
    have before : s.removal = some ⟨kind, k, npuDone⟩ := edited.removal.symm.trans isIt
    obtain ⟨present, empty⟩ := kept.removal kind k npuDone before
    refine ⟨(not_congr (edited.stored kind k)).mpr present, fun done => ?_⟩
    rw [done] at before
    exact edited.freeing kind k before (empty done)

theorem callKept_next {step : ClientStep} {rest : List ClientStep} (kept : CallKept modeOf s slot (step :: rest))
    (edited : SlotEdited modeOf s t slot)
    (phase : t.Linked slot ∧ Plain (t.ids slot) (t.Lists slot) rest ∨ Mends (t.ids slot) rest)
    (stored : ∀ k, willJoin rest = some k → s.stored slot k = true) : CallKept modeOf t slot rest where
  phase := phase
  stored k will := (edited.stored_eq slot k).mpr (stored k will)
  fits := by
    intro k member
    refine kept.fits k ?_
    cases step with
    | join => exact List.mem_cons_of_mem _ member
    | link => exact List.mem_cons_of_mem _ member
    | npuDelete => exact List.mem_cons_of_mem _ member
    | lookup => exact member
    | npu => exact member
    | release => exact member
    | unlink => exact member
    | write => exact member
    | insert => exact member
    | drop => exact member

theorem linked_of_null (null : ∀ k, s.ids slot = some k → k = nullObjectId) : s.Linked slot :=
  fun k name notNull => absurd (null k name) notNull

theorem callKept_over (kept : CallKept modeOf s slot []) : s.Linked slot := by
  rcases kept.phase with ⟨linked, _⟩ | mends
  · exact linked
  · exact linked_of_null mends

theorem lists_joinList_keep (listed : s.Lists slot k) : (s.joinList slot id).Lists slot k := by
  obtain ⟨glues, found, member⟩ := listed
  unfold Lists joinList
  rw [get_editList, found]
  split
  · exact ⟨glues ++ [slot], rfl, List.mem_append_left _ member⟩
  · exact ⟨glues, rfl, member⟩

theorem linked_joinList (present : s.stored slot id = true) (name : s.ids slot = some id) :
    (s.joinList slot id).Linked slot := by
  intro k isName _
  cases Option.some.inj (name.symm.trans isName)
  exact lists_joinList present

section Advance
variable {lock : ClientLock} {answer : SaiStatus} {rest : List ClientStep}

section
variable (kept : ClientsKept modeOf s)
include kept

theorem kept_lookup (isCall : s.calls slot.lock = some ⟨slot, .lookup id :: rest⟩)
    (gives : s.stored slot id = false → s.Linked slot) :
    ClientsKept modeOf (if s.stored slot id then s.goOn slot.lock (some ⟨slot, rest⟩) else
      s.goOn slot.lock none) := by
  have callKept := (kept.calls _ _ isCall).2
  split
  · rename_i present
    refine kept_goOn kept .refl isCall (some rest) nofun fun left isLeft => ?_
    cases isLeft
    refine callKept_next callKept .refl ?_ fun k will => ?_
    · exact callKept.phase.imp (fun both => ⟨both.1, both.2.2⟩) fun mends => mends.2
    · have same : k = id := by
        rcases callKept.phase with ⟨_, plain⟩ | mends
        · exact plain.1 k will
        · exact mends.1 k will
      rw [same]
      exact present
  · rename_i absent
    exact kept_goOn kept .refl isCall none (fun _ => gives (Bool.eq_false_of_not_eq_true absent)) nofun

theorem kept_npu (isCall : s.calls slot.lock = some ⟨slot, .npu :: rest⟩)
    (accepted : ∀ k, willJoin rest = some k → s.stored slot k = true) :
    ClientsKept modeOf (s.goOn slot.lock (some ⟨slot, rest⟩)) := by
  have callKept := (kept.calls _ _ isCall).2
  refine kept_goOn kept .refl isCall (some rest) nofun fun left isLeft => ?_
  cases isLeft
  exact callKept_next callKept .refl callKept.phase accepted

theorem kept_npuDelete
    (isCall : s.calls slot.lock = some ⟨slot, .npuDelete id :: rest⟩) :
    ClientsKept modeOf (match answer with
      | .success => s.goOn slot.lock (some ⟨slot, rest⟩)
      | _ => s.goOn slot.lock (some ⟨slot, [.lookup id, .join id]⟩)) := by
  have callKept := (kept.calls _ _ isCall).2
  obtain ⟨name, isRest⟩ : s.ids slot = some id ∧ rest = [.drop] := by
    rcases callKept.phase with ⟨_, plain⟩ | mends
    · exact plain.elim
    · exact mends
  subst isRest
  split
  · refine kept_goOn kept .refl isCall (some [.drop]) nofun fun left isLeft => ?_
    cases isLeft
    exact callKept_next callKept .refl (.inr rfl) nofun
  refine kept_goOn kept .refl isCall (some [.lookup id, .join id]) nofun fun left isLeft => ?_
  cases isLeft
  refine ⟨.inr ⟨fun k will => ?_, name, rfl⟩, nofun, fun k member => ?_⟩
  · exact (Option.some.inj will).symm
  · cases List.mem_singleton.mp member
    exact callKept.fits id (List.mem_cons_self ..)

theorem kept_release {must : Bool} (isCall : s.calls slot.lock = some ⟨slot, .release must :: rest⟩)
    (gives : must = true → s.named slot ≠ nullObjectId ∧ s.stored slot (s.named slot) = false → s.Linked slot) :
    ClientsKept modeOf (if must ∧ s.named slot ≠ nullObjectId ∧ s.stored slot (s.named slot) = false then
      s.goOn slot.lock none else (s.releaseGlue slot).goOn slot.lock (some ⟨slot, rest⟩)) := by
  have callKept := (kept.calls _ _ isCall).2
  split
  · rename_i failed
    exact kept_goOn kept .refl isCall none (fun _ => gives failed.1 failed.2) nofun
  refine kept_goOn kept .releaseGlue isCall (some rest) nofun fun left isLeft => ?_
  cases isLeft
  have mends : Mends (s.ids slot) rest := by
    rcases callKept.phase with ⟨_, plain⟩ | mends
    · exact plain
    · exact mends.elim
  exact callKept_next callKept .releaseGlue (.inr mends) callKept.stored

theorem kept_unlink (isCall : s.calls slot.lock = some ⟨slot, .unlink :: rest⟩) : ClientsKept modeOf
      (((s.releaseGlue slot).writeId slot (some nullObjectId)).goOn slot.lock (some ⟨slot, rest⟩)) := by
  have callKept := (kept.calls _ _ isCall).2
  have isRest : rest = [] := by
    rcases callKept.phase with ⟨_, plain⟩ | mends
    · exact plain
    · exact mends.elim
  subst isRest
  have edited : SlotEdited modeOf s ((s.releaseGlue slot).writeId slot (some nullObjectId)) slot :=
    SlotEdited.releaseGlue.trans (.writeId _)
  refine kept_goOn kept edited isCall (some []) nofun fun left isLeft => ?_
  cases isLeft
  refine callKept_next callKept edited (.inl ⟨linked_of_null fun k name => ?_, trivial⟩) nofun
  have written := (writeId_ids (some nullObjectId)).symm.trans name
  exact (Option.some.inj written).symm

theorem kept_join (isCall : s.calls slot.lock = some ⟨slot, .join id :: rest⟩)
    (spared : s.removal ≠ some ⟨slot.kind, id, true⟩) :
    ClientsKept modeOf ((s.joinList slot id).goOn slot.lock (some ⟨slot, rest⟩)) := by
  have callKept := (kept.calls _ _ isCall).2
  have edited : SlotEdited modeOf s (s.joinList slot id) slot :=
    .joinList (callKept.fits id (List.mem_cons_self ..)) spared
  have present : s.stored slot id = true := callKept.stored id rfl
  refine kept_goOn kept edited isCall (some rest) nofun fun left isLeft => ?_
  cases isLeft
  rcases callKept.phase with ⟨linked, plain⟩ | mends
  · have isRest : rest = [.insert id] := plain
    subst isRest
    refine callKept_next callKept edited (.inl ⟨fun k name notNull => ?_, rfl, fun _ => ?_⟩) nofun
    · exact lists_joinList_keep (linked k name notNull)
    · exact lists_joinList present
  · obtain ⟨name, isRest⟩ : s.ids slot = some id ∧ rest = [] := mends
    subst isRest
    exact callKept_next callKept edited (.inl ⟨linked_joinList present name, trivial⟩) nofun

theorem kept_write (isCall : s.calls slot.lock = some ⟨slot, .write id :: rest⟩) :
    ClientsKept modeOf ((s.writeId slot (some id)).goOn slot.lock (some ⟨slot, rest⟩)) := by
  have callKept := (kept.calls _ _ isCall).2
  have mends : Mends (some id) rest := by
    rcases callKept.phase with ⟨_, plain⟩ | mends
    · exact plain.elim
    · exact mends
  refine kept_goOn kept (.writeId _) isCall (some rest) nofun fun left isLeft => ?_
  cases isLeft
  refine callKept_next callKept (.writeId _) (.inr ?_) callKept.stored
  rw [writeId_ids]
  exact mends

theorem kept_link (isCall : s.calls slot.lock = some ⟨slot, .link id :: rest⟩)
    (spared : s.removal ≠ some ⟨slot.kind, id, true⟩) :
    ClientsKept modeOf (((s.joinList slot id).writeId slot (some id)).goOn slot.lock (some ⟨slot, rest⟩)) := by
  have callKept := (kept.calls _ _ isCall).2
  have isRest : rest = [] := by
    rcases callKept.phase with ⟨_, plain⟩ | mends
    · exact plain.elim
    · exact mends
  subst isRest
  have edited : SlotEdited modeOf s ((s.joinList slot id).writeId slot (some id)) slot :=
    (SlotEdited.joinList (callKept.fits id (List.mem_cons_self ..)) spared).trans (.writeId _)
  refine kept_goOn kept edited isCall (some []) nofun fun left isLeft => ?_
  cases isLeft
  refine callKept_next callKept edited (.inl ⟨fun k name _ => ?_, trivial⟩) nofun
  have written := (writeId_ids (some id)).symm.trans name
  cases Option.some.inj written
  exact lists_joinList (callKept.stored id rfl)

theorem kept_insert (isCall : s.calls slot.lock = some ⟨slot, .insert id :: rest⟩) :
    ClientsKept modeOf (if answer = .success ∧ s.ids slot = none then
      (s.writeId slot (some id)).goOn slot.lock (some ⟨slot, rest⟩) else
      s.goOn slot.lock (some ⟨slot, rest⟩)) := by
  have callKept := (kept.calls _ _ isCall).2
  obtain ⟨linked, isRest, lists⟩ : s.Linked slot ∧ rest = [] ∧ (id ≠ nullObjectId → s.Lists slot id) := by
    rcases callKept.phase with both | mends
    · exact both
    · exact mends.elim
  subst isRest
  split
  · refine kept_goOn kept (.writeId _) isCall (some []) nofun fun left isLeft => ?_
    cases isLeft
    refine callKept_next callKept (.writeId _) (.inl ⟨fun k name notNull => ?_, trivial⟩) nofun
    have written := (writeId_ids (some id)).symm.trans name
    cases Option.some.inj written
    exact lists notNull
  · refine kept_goOn kept .refl isCall (some []) nofun fun left isLeft => ?_
    cases isLeft
    exact callKept_next callKept .refl (.inl ⟨linked, trivial⟩) nofun

theorem kept_drop (isCall : s.calls slot.lock = some ⟨slot, .drop :: rest⟩) :
    ClientsKept modeOf ((s.writeId slot none).goOn slot.lock (some ⟨slot, rest⟩)) := by
  have callKept := (kept.calls _ _ isCall).2
  have isRest : rest = [] := by
    rcases callKept.phase with ⟨_, plain⟩ | mends
    · exact plain
    · exact mends
  subst isRest
  refine kept_goOn kept (.writeId _) isCall (some []) nofun fun left isLeft => ?_
  cases isLeft
  refine callKept_next callKept (.writeId _) (.inl ⟨linked_of_null fun k name => ?_, trivial⟩) nofun
  cases (writeId_ids none).symm.trans name

theorem kept_advance
    (allowed : (ClientAct.advance lock answer).kept modeOf s) : ClientsKept modeOf (s.advance lock answer) := by
  unfold advance
  cases isCall : s.calls lock with
  | none => exact kept
  | some call =>
    obtain ⟨onLock, callKept⟩ := kept.calls lock call isCall
    obtain ⟨gives, spared, accepted⟩ := allowed call isCall
    obtain ⟨slot, steps⟩ := call
    dsimp only at onLock callKept spared accepted
    subst onLock
    cases steps with
    | nil => exact kept_goOn kept .refl isCall none (fun _ => callKept_over callKept) nofun
    | cons step rest =>
      dsimp only
      cases step with
      | lookup id => exact kept_lookup kept isCall gives
      | npu =>
        cases answer with
        | success => exact kept_npu kept isCall fun k will => accepted rest k rfl will rfl
        | _ => exact kept_goOn kept .refl isCall none (fun _ => gives nofun) nofun
      | npuDelete id => exact kept_npuDelete kept isCall
      | release must =>
        refine kept_release kept isCall fun isMust => ?_
        subst isMust
        exact gives
      | unlink => exact kept_unlink kept isCall
      | join id => exact kept_join kept isCall (spared id rfl)
      | write id => exact kept_write kept isCall
      | link id => exact kept_link kept isCall (spared id rfl)
      | insert id => exact kept_insert kept isCall
      | drop => exact kept_drop kept isCall

end

end Advance
theorem kept_begin (kept : ClientsKept modeOf s) {call : Option ClientCall}
    (starts : ∀ c, call = some c → s.Linked c.slot →
      Plain (s.ids c.slot) (s.Lists c.slot) c.steps ∧ willJoin c.steps = none ∧
      ∀ id ∈ joined c.steps, c.slot.Fits modeOf id) : ClientsKept modeOf (s.begin call) := by
  unfold begin
  cases call with
  | none => exact kept
  | some c =>
    dsimp only
    split
    · rename_i free
      have idle : s.Idle c.slot := fun other isCall => by
        rw [free] at isCall
        cases isCall
      have linked := kept.linked c.slot idle
      obtain ⟨plain, noJoin, fits⟩ := starts c rfl linked
      refine ⟨kept.fits, fun v vIdle => kept.linked v fun other isCall => ?_, fun lock other isCall => ?_,
        kept.removal⟩
      · refine vIdle other ?_
        by_cases lock : v.lock = c.slot.lock
        · rw [lock, free] at isCall
          cases isCall
        · exact (Function.update_of_ne lock _ _).trans isCall
      · by_cases here : lock = c.slot.lock
        · subst here
          have isNext : some c = some other := by
            refine Eq.trans ?_ isCall
            exact (Function.update_self c.slot.lock _ s.calls).symm
          cases Option.some.inj isNext
          refine ⟨rfl, callKept_goOn.mpr ⟨.inl ⟨linked, plain⟩, fun k will => ?_, fits⟩⟩
          rw [noJoin] at will
          cases will
        · obtain ⟨onLock, callKept⟩ := kept.calls lock other ((Function.update_of_ne here _ _).symm.trans isCall)
          exact ⟨onLock, callKept_goOn.mpr callKept⟩
    · exact kept

theorem joined_link_fits (fit : slot.Fits modeOf id) (member : k ∈ [id]) : slot.Fits modeOf k := by
  cases List.mem_singleton.mp member
  exact fit

section
variable (kept : ClientsKept modeOf s)
include kept

theorem kept_mapOnPortSet (portId mapId : ObjectId) (mapType : QosMapType) :
    ClientsKept modeOf (s.begin (s.mapOnPortSet portId mapId mapType)) := by
  refine kept_begin kept fun c isCall _ => ?_
  unfold mapOnPortSet at isCall
  split at isCall
  · cases isCall
  split at isCall
  · cases isCall
  split at isCall
  · cases isCall
    exact ⟨⟨nofun, rfl⟩, rfl, nofun⟩
  split at isCall
  · cases isCall
  · cases isCall
    exact ⟨⟨nofun, rfl⟩, rfl, fun k member => joined_link_fits trivial member⟩

theorem kept_portSchedulerSet (portId schedId : ObjectId) :
    ClientsKept modeOf (s.begin (s.portSchedulerSet portId schedId)) := by
  refine kept_begin kept fun c isCall _ => ?_
  unfold portSchedulerSet at isCall
  split at isCall
  · cases isCall
  split at isCall
  · cases isCall
  split at isCall
  · cases isCall
    exact ⟨⟨nofun, fun k will => (Option.some.inj will).symm, rfl⟩, rfl,
      fun k member => joined_link_fits trivial member⟩
  · cases isCall
    exact ⟨fun k name => (Option.some.inj name).symm, rfl, nofun⟩

theorem kept_stormControlSet (portId : ObjectId) (type : PolicerType)
    (policerId : ObjectId) : ClientsKept modeOf (s.begin (s.stormControlSet modeOf portId type policerId)) := by
  refine kept_begin kept fun c isCall _ => ?_
  unfold stormControlSet at isCall
  split at isCall
  · cases isCall
  split at isCall
  · split at isCall
    · cases isCall
    rename_i passed
    cases isCall
    have storm : modeOf policerId = .stormControl := not_not.mp (not_or.mp passed).2
    exact ⟨⟨nofun, rfl⟩, rfl, fun k member => joined_link_fits storm member⟩
  · cases isCall
    exact ⟨⟨nofun, rfl⟩, rfl, nofun⟩

theorem kept_createRule (ruleId policerId : ObjectId) :
    ClientsKept modeOf (s.begin (createRule modeOf ruleId policerId)) := by
  refine kept_begin kept fun c isCall _ => ?_
  unfold createRule at isCall
  split at isCall
  · cases isCall
    exact ⟨⟨rfl, fun notNull => absurd rfl notNull⟩, rfl, nofun⟩
  split at isCall
  · rename_i fit
    cases isCall
    exact ⟨⟨fun k will => (Option.some.inj will).symm, rfl⟩, rfl, fun k member => joined_link_fits fit.2 member⟩
  · cases isCall

theorem kept_setRule (ruleId policerId : ObjectId) :
    ClientsKept modeOf (s.begin (s.setRule modeOf ruleId policerId)) := by
  refine kept_begin kept fun c isCall _ => ?_
  unfold setRule at isCall
  split at isCall
  · cases isCall
  split at isCall
  · cases isCall
    exact ⟨trivial, rfl, nofun⟩
  split at isCall
  · cases isCall
    exact ⟨fun k name => (Option.some.inj name).symm, rfl, nofun⟩
  split at isCall
  · rename_i fit
    cases isCall
    exact ⟨⟨fun k will => (Option.some.inj will).symm, rfl, rfl⟩, rfl,
      fun k member => joined_link_fits fit.2 member⟩
  · cases isCall

theorem kept_deleteRule (ruleId : ObjectId) : ClientsKept modeOf (s.begin (s.deleteRule ruleId)) := by
  refine kept_begin kept fun c isCall linked => ?_
  unfold deleteRule at isCall
  split at isCall
  · cases isCall
  rename_i old name
  split at isCall
  · cases isCall
    exact ⟨rfl, rfl, nofun⟩
  rename_i notNull
  cases isCall
  obtain ⟨glues, found, member⟩ := linked old name notNull
  have fit := (kept.fits _ old glues _ found member).2
  exact ⟨⟨name, rfl⟩, rfl, fun k joins => joined_link_fits fit joins⟩

theorem kept_removal (next : Option QosRemoval)
    (fine : ∀ kind id npuDone, next = some ⟨kind, id, npuDone⟩ → (s.nodes kind).get id ≠ none ∧
      (npuDone = true → (s.nodes kind).get id = some [])) : ClientsKept modeOf { s with removal := next } where
  fits := kept.fits
  linked := kept.linked
  calls := by
    intro lock call isCall
    obtain ⟨onLock, callKept⟩ := kept.calls lock call isCall
    exact ⟨onLock, callKept.phase, callKept.stored, callKept.fits⟩
  removal := fine

theorem unused {kind : QosKind} {glues : List QosSlot}
    (found : (s.nodes kind).get id = some glues) (free : isInUse modeOf kind id glues = false) : glues = [] := by
  refine List.eq_nil_iff_forall_not_mem.mpr fun v member => ?_
  obtain ⟨isKind, fit⟩ := kept.fits kind id glues v found member
  have nonempty : glues ≠ [] := List.ne_nil_of_mem member
  subst isKind
  unfold isInUse at free
  cases v with
  | map portId mapType => exact of_decide_eq_false free nonempty
  | scheduler user objectId => exact of_decide_eq_false free nonempty
  | storm portId type =>
    have mode : modeOf id = .stormControl := fit
    dsimp only [QosSlot.kind] at free
    rw [mode] at free
    exact absurd rfl (List.any_eq_false.mp free _ member)
  | rule ruleId =>
    have mode : modeOf id = .srTcm ∨ modeOf id = .trTcm := fit
    dsimp only [QosSlot.kind] at free
    rcases mode with mode | mode
    · rw [mode] at free
      exact absurd rfl (List.any_eq_false.mp free _ member)
    · rw [mode] at free
      exact absurd rfl (List.any_eq_false.mp free _ member)

theorem kept_removeCheck (kind : QosKind) (id : ObjectId) : ClientsKept modeOf (s.removeCheck modeOf kind id) := by
  unfold removeCheck
  split
  · exact kept
  split
  · exact kept
  rename_i glues found
  split
  · exact kept
  refine kept_removal kept _ fun kind' id' npuDone isIt => ?_
  cases isIt
  rw [found]
  exact ⟨Option.some_ne_none _, fun done => by cases done⟩

theorem kept_removeNpu {answer : SaiStatus}
    (allowed : (ClientAct.removeNpu answer).kept modeOf s) : ClientsKept modeOf (s.removeNpu answer) := by
  unfold removeNpu
  split
  · rename_i kind id isRemoval
    cases answer with
    | success =>
      refine kept_removal kept _ fun kind' id' npuDone isIt => ?_
      cases isIt
      have present := (kept.removal _ _ _ isRemoval).1
      refine ⟨present, fun _ => ?_⟩
      obtain ⟨glues, found⟩ := Option.ne_none_iff_exists'.mp present
      rw [found, unused kept found (allowed kind id glues isRemoval rfl found)]
    | _ => exact kept_removal kept none nofun
  · exact kept

theorem kept_removeFree (allowed : ClientAct.removeFree.kept modeOf s) : ClientsKept modeOf s.removeFree := by
  unfold removeFree
  split
  · rename_i kind id isRemoval
    have empty := (kept.removal _ _ _ isRemoval).2 rfl
    have get : ∀ kind' k, (Function.update s.nodes kind ((s.nodes kind).del id) kind').get k =
        if kind' = kind ∧ k = id then none else (s.nodes kind').get k := by
      intro kind' k
      by_cases same : kind' = kind
      · subst same
        rw [Function.update_self, KeyTree.get_del]
        simp only [true_and]
      · rw [Function.update_of_ne same, if_neg fun both => same both.1]
    have lists : ∀ v k, s.Lists v k →
        ∃ glues, (Function.update s.nodes kind ((s.nodes kind).del id) v.kind).get k = some glues ∧
          v ∈ glues := by
      rintro v k ⟨glues, found, member⟩
      refine ⟨glues, ?_, member⟩
      rw [get, if_neg, found]
      rintro ⟨isKind, rfl⟩
      rw [isKind, empty] at found
      cases found
      cases member
    refine ⟨?_, fun v idle k name notNull => lists v k (kept.linked v idle k name notNull), ?_,
      fun _ _ _ isNone => by cases isNone⟩
    · intro kind' k glues v found member
      dsimp only at found
      rw [get] at found
      split at found
      · cases found
      · exact kept.fits kind' k glues v found member
    · intro lock call isCall
      obtain ⟨onLock, callKept⟩ := kept.calls lock call isCall
      refine ⟨onLock, ?_, fun k will => ?_, callKept.fits⟩
      · exact callKept.phase.imp_left fun both =>
          ⟨fun k name notNull => lists _ k (both.1 k name notNull), both.2.mono fun k listed => lists _ k listed⟩
      · rw [stored_eq_true]
        dsimp only
        rw [get, if_neg]
        · exact stored_eq_true.mp (callKept.stored k will)
        · rintro ⟨isKind, rfl⟩
          exact allowed kind k lock call isRemoval isCall isKind will
  · exact kept

end

end ClientState

theorem ClientsKept.step {modeOf : ObjectId → PolicerMode} {s : ClientState} (kept : ClientsKept modeOf s)
    (act : ClientAct) (allowed : act.kept modeOf s) : ClientsKept modeOf (act.step modeOf s) := by
  cases act with
  | mapOnPortSet portId mapId mapType => exact ClientState.kept_mapOnPortSet kept portId mapId mapType
  | portSchedulerSet portId schedId => exact ClientState.kept_portSchedulerSet kept portId schedId
  | stormControlSet portId type policerId => exact ClientState.kept_stormControlSet kept portId type policerId
  | createRule ruleId policerId => exact ClientState.kept_createRule kept ruleId policerId
  | setRule ruleId policerId => exact ClientState.kept_setRule kept ruleId policerId
  | deleteRule ruleId => exact ClientState.kept_deleteRule kept ruleId
  | advance lock answer => exact ClientState.kept_advance kept allowed
  | removeCheck kind id => exact ClientState.kept_removeCheck kept kind id
  | removeNpu answer => exact ClientState.kept_removeNpu kept allowed
  | removeFree => exact ClientState.kept_removeFree kept allowed

/-- Objects, ports and rules whose links agree, and no call in progress. -/
structure ClientsFresh (modeOf : ObjectId → PolicerMode) (s : ClientState) : Prop where
  fits : ∀ kind id glues slot, (s.nodes kind).get id = some glues → slot ∈ glues →
    slot.kind = kind ∧ slot.Fits modeOf id
  linked : ∀ slot, s.Linked slot
  calls : ∀ lock, s.calls lock = none
  removal : s.removal = none

theorem ClientsFresh.kept {modeOf : ObjectId → PolicerMode} {s : ClientState} (fresh : ClientsFresh modeOf s) :
    ClientsKept modeOf s where
  fits := fresh.fits
  linked slot _ := fresh.linked slot
  calls := by
    intro lock call isCall
    rw [fresh.calls] at isCall
    cases isCall
  removal := by
    intro kind id npuDone isIt
    rw [fresh.removal] at isIt
    cases isIt

/-- No port or rule is left with the id of a removed object, no list of a removed
object is joined, and an object that is about to be freed lists nobody. -/
structure ClientsSafe (s : ClientState) : Prop where
  live : ∀ slot id, s.Idle slot → s.ids slot = some id → id ≠ nullObjectId →
    (s.nodes slot.kind).get id ≠ none
  joins : ∀ lock call id, s.calls lock = some call → call.joins = some id →
    (s.nodes call.slot.kind).get id ≠ none
  frees : ∀ kind id, s.removal = some ⟨kind, id, true⟩ → (s.nodes kind).get id = some []

theorem willJoin_of_joins {call : ClientCall} {id : ObjectId} (joins : call.joins = some id) :
    willJoin call.steps = some id := by
  unfold ClientCall.joins at joins
  split at joins
  · rename_i rest isSteps
    rw [isSteps]
    exact joins
  · rename_i rest isSteps
    rw [isSteps]
    exact joins
  · cases joins

theorem ClientsKept.safe {modeOf : ObjectId → PolicerMode} {s : ClientState} (kept : ClientsKept modeOf s) :
    ClientsSafe s where
  live := by
    intro slot id idle name notNull
    obtain ⟨glues, found, _⟩ := kept.linked slot idle id name notNull
    rw [found]
    exact Option.some_ne_none glues
  joins := by
    intro lock call id isCall joins
    exact ClientState.stored_eq_true.mp ((kept.calls lock call isCall).2.stored id (willJoin_of_joins joins))
  frees kind id isRemoval := (kept.removal kind id true isRemoval).2 rfl

/-- In every interleaving of kept steps the attachments are safe in every state. -/
theorem clients_safe {modeOf : ObjectId → PolicerMode} {s : ClientState}
    (reach : Runs.Reach (ClientsFresh modeOf) (Runs.guarded (ClientAct.kept modeOf) (ClientAct.step modeOf)) s) :
    ClientsSafe s := by
  have kept : ClientsKept modeOf s := by
    refine reach.invariant (ClientsKept modeOf) (fun _ fresh => fresh.kept) ?_
    intro s act t kept moved
    rw [moved.2]
    exact kept.step act moved.1
  exact kept.safe

def clientSample : ClientState where
  ids := fun slot => if slot = .map ⟨.port, 1⟩ .tcToQueue then some nullObjectId else none
  nodes := fun kind => match kind with
    | .map => ((∅ : KeyTree ObjectId (List QosSlot)).put ⟨.qosMaps, 1⟩ []).put ⟨.qosMaps, 2⟩ []
    | _ => ∅
  calls := fun _ => none
  removal := none

theorem clientSample_fresh (modeOf : ObjectId → PolicerMode) : ClientsFresh modeOf clientSample := by
  refine ⟨fun kind id glues slot found member => ?_, fun slot id name notNull => ?_, fun _ => rfl, rfl⟩
  · cases kind with
    | map =>
      simp only [clientSample, KeyTree.get_put, KeyTree.get_empty] at found
      split at found
      · cases found
        cases member
      split at found
      · cases found
        cases member
      · cases found
    | scheduler => cases found
    | policer => cases found
  · unfold clientSample at name
    dsimp only at name
    split at name
    · exact absurd (Option.some.inj name).symm notNull
    · cases name

def clientSampleRun : List ClientAct :=
  [.mapOnPortSet ⟨.port, 1⟩ ⟨.qosMaps, 1⟩ .tcToQueue, .removeCheck .map
    ⟨.qosMaps, 2⟩, .advance .port .success,
    .removeNpu .success, .advance .port .success, .removeFree, .advance .port .success, .advance .port .success,
    .advance .port .success]

def clientSampleMode (_ : ObjectId) : PolicerMode := .stormControl

theorem clients_safe_sample : ClientsSafe (clientSampleRun.foldl (ClientAct.step clientSampleMode) clientSample) := by
  refine clients_safe (Runs.Reach.run (.start (clientSample_fresh clientSampleMode)) ?_)
  refine ⟨trivial, trivial, ?_, ?_, ?_, ?_, ?_, ?_, ?_, trivial⟩
  · intro call isCall
    cases isCall
    exact ⟨fun absent => (by cases absent), nofun, nofun⟩
  · intro kind id glues isRemoval _ found
    cases isRemoval
    cases found
    rfl
  · intro call isCall
    cases isCall
    exact ⟨nofun, nofun, nofun⟩
  · intro kind id lock call isRemoval isCall _
    cases isRemoval
    cases lock with
    | port =>
      cases isCall
      nofun
    | acl => cases isCall
  · intro call isCall
    cases isCall
    refine ⟨fun refused => absurd rfl refused, nofun, fun rest id isSteps will _ => ?_⟩
    cases isSteps
    cases will
    rfl
  · intro call isCall
    cases isCall
    exact ⟨nofun, fun id _ => nofun, nofun⟩
  · intro call isCall
    cases isCall
    exact ⟨nofun, nofun, nofun⟩

/-- The map is removed between its look-up and the link: the port is left with the
id of a map that is gone. -/
def clientSampleRace : List ClientAct :=
  [.mapOnPortSet ⟨.port, 1⟩ ⟨.qosMaps, 1⟩ .tcToQueue, .advance .port .success, .removeCheck .map
    ⟨.qosMaps, 1⟩,
    .removeNpu .success, .removeFree, .advance .port .success, .advance .port .success]

def clientSampleLate : List ClientAct :=
  [.removeCheck .map ⟨.qosMaps, 1⟩, .mapOnPortSet ⟨.port, 1⟩
    ⟨.qosMaps, 1⟩ .tcToQueue, .advance .port .success,
    .advance .port .success, .advance .port .success, .advance .port .success, .removeNpu .success]

/-- Without the conditions none of the three is safe. -/
theorem clients_not_safe :
    ¬ (∀ modeOf s, Runs.Reach (ClientsFresh modeOf) (Runs.guarded (fun _ _ => True) (ClientAct.step modeOf)) s →
      ∀ slot id, s.Idle slot → s.ids slot = some id → id ≠ nullObjectId →
        (s.nodes slot.kind).get id ≠ none) ∧
    ¬ (∀ modeOf s, Runs.Reach (ClientsFresh modeOf) (Runs.guarded (fun _ _ => True) (ClientAct.step modeOf)) s →
      ∀ lock call id, s.calls lock = some call → call.joins = some id →
        (s.nodes call.slot.kind).get id ≠ none) ∧
    ¬ ∀ modeOf s, Runs.Reach (ClientsFresh modeOf) (Runs.guarded (fun _ _ => True) (ClientAct.step modeOf)) s →
      ∀ kind id, s.removal = some ⟨kind, id, true⟩ → (s.nodes kind).get id = some [] := by
  have reached : ∀ acts : List ClientAct, Runs.Reach (ClientsFresh clientSampleMode)
      (Runs.guarded (fun _ _ => True) (ClientAct.step clientSampleMode))
      (acts.foldl (ClientAct.step clientSampleMode) clientSample) := fun acts =>
    Runs.Reach.run (.start (clientSample_fresh clientSampleMode))
      (Runs.allowedRun_of_forall (fun _ _ => trivial) _ acts)
  refine ⟨fun all => ?_, fun all => ?_, fun all => ?_⟩
  · refine all _ _ (reached (clientSampleRace ++ [.advance .port .success, .advance .port .success]))
      (.map ⟨.port, 1⟩ .tcToQueue) ⟨.qosMaps, 1⟩ (fun call isCall => ?_) rfl (by decide) (by decide)
    cases isCall
  · exact all _ _ (reached clientSampleRace) .port _ ⟨.qosMaps, 1⟩ rfl rfl (by decide)
  · have listed := all _ _ (reached clientSampleLate) .map ⟨.qosMaps, 1⟩ rfl
    have isList : (((clientSampleLate.foldl (ClientAct.step clientSampleMode) clientSample).nodes .map).get
      ⟨.qosMaps, 1⟩) = some [.map ⟨.port, 1⟩ .tcToQueue] := by decide
    rw [isList] at listed
    cases listed

end SaiCommon
