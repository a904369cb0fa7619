import SaiCommon.Fib.PortListModes

namespace SaiCommon

def PortModeCall.ok (call : PortModeCall) : Bool := call.read = .success && call.write = .success

/-- Some entry for the port has the accessor's help on that side. -/
def portModeWrote (side : PortModeEntry → PortModeCall) (entries : List PortModeEntry) (portId : ObjectId) : Bool :=
  entries.any fun entry => entry.portId = portId && (side entry).ok

/-- What a pass over a list makes of one mode. -/
def portModePassed (isSet wrote : Bool) (mode : PortFwdMode) : PortFwdMode :=
  if wrote then (if isSet then (if mode = .unknown then .routing else mode) else .unknown) else mode

def PortModeEntry.Refused (isSet : Bool) (modes : PortModes) (done : List PortModeEntry) (entry : PortModeEntry) :
    Prop :=
  entry.call.read ≠ .success ∨
    match isSet with
    | true => modes entry.portId = .switching
    | false => modes entry.portId ≠ .unknown ∧ entry.call.write ≠ .success ∧
        portModeWrote PortModeEntry.call done entry.portId = false

/-- No entry stops the update. -/
def PortModes.GoesThrough (isSet : Bool) (modes : PortModes) (entries : List PortModeEntry) : Prop :=
  ∀ done entry rest, entries = done ++ entry :: rest → ¬ entry.Refused isSet modes done

def PortModes.passed (isSet : Bool) (modes : PortModes) (entries : List PortModeEntry) : PortModes :=
  fun portId => portModePassed isSet (portModeWrote PortModeEntry.call entries portId) (modes portId)

def PortModes.undone (isSet : Bool) (modes : PortModes) (entries : List PortModeEntry) : PortModes :=
  fun portId => portModePassed (!isSet) (portModeWrote PortModeEntry.undo entries portId) (modes portId)

section Passes
variable {isSet : Bool} {modes : PortModes} {entries done rest : List PortModeEntry} {entry : PortModeEntry}
  {portId : ObjectId}

theorem portModePassed_again (first second : Bool) (mode : PortFwdMode) :
    portModePassed isSet second (portModePassed isSet first mode) = portModePassed isSet (first || second) mode := by
  cases isSet <;> cases first <;> cases second <;> cases mode <;> rfl

section
variable (side : PortModeEntry → PortModeCall)

theorem portModeWrote_cons : portModeWrote side (entry :: rest) portId =
      ((entry.portId = portId && (side entry).ok) || portModeWrote side rest portId) := rfl

theorem portModeWrote_push : portModeWrote side (done ++ [entry]) portId =
      (portModeWrote side done portId || (entry.portId = portId && (side entry).ok)) := by
  unfold portModeWrote
  rw [List.any_append, List.any_cons, List.any_nil, Bool.or_false]

theorem portModeWrote_append :
    portModeWrote side (done ++ rest) portId = (portModeWrote side done portId || portModeWrote side rest portId) :=
  List.any_append

end

theorem portModeWrote_absent {side : PortModeEntry → PortModeCall}
    (absent : ∀ entry ∈ entries, entry.portId ≠ portId) :
    portModeWrote side entries portId = false := by
  unfold portModeWrote
  rw [List.any_eq_false]
  intro entry member
  rw [decide_eq_false (absent entry member)]
  simp

section
variable (call : PortModeCall)

theorem PortModes.write_eq (mode : PortFwdMode) : PortModes.write call modes portId mode =
    if call.write = .success then (Function.update modes portId mode, .success) else (modes, call.write) := by
  unfold PortModes.write
  cases call.write <;> rfl

theorem PortModes.routingModeSet_eq : PortModes.routingModeSet call modes portId = if call.read = .success then
      if modes portId = .switching then (modes, .objectInUse)
      else if modes portId = .unknown then ((PortModes.write call modes portId .routing).1, .success)
      else (modes, .success) else (modes, call.read) := by
  unfold PortModes.routingModeSet
  cases call.read <;> first | rfl | cases modes portId <;> rfl

theorem PortModes.routingModeReset_eq : PortModes.routingModeReset call modes portId = if call.read = .success then
      if modes portId = .unknown then (modes, .success) else PortModes.write call modes portId .unknown
    else (modes, call.read) := by
  unfold PortModes.routingModeReset
  cases call.read <;> first | rfl | cases modes portId <;> rfl

theorem PortModes.routingModeUpdate_modes : (PortModes.routingModeUpdate isSet call modes portId).1 =
      fun q => portModePassed isSet (portId = q && call.ok) (modes q) := by
  funext q
  unfold PortModes.routingModeUpdate PortModeCall.ok
  rw [PortModes.routingModeSet_eq, PortModes.routingModeReset_eq, PortModes.write_eq, PortModes.write_eq]
  by_cases read : call.read = .success
  · by_cases write : call.write = .success
    · by_cases own : portId = q
      · subst own
        cases isSet <;> cases mode : modes portId <;> simp [read, write, mode, portModePassed]
      · have apart : ∀ mode, Function.update modes portId mode q = modes q := fun mode =>
          Function.update_of_ne (Ne.symm own) mode modes
        cases isSet <;> cases modes portId <;> simp [read, write, own, apart, portModePassed]
    · cases isSet <;> cases modes portId <;> simp [read, write, portModePassed]
  · cases isSet <;> simp [read, portModePassed]

theorem PortModes.routingModeUpdate_status :
    (PortModes.routingModeUpdate isSet call modes portId).2 = .success ↔
      call.read = .success ∧ match isSet with
        | true => modes portId ≠ .switching
        | false => modes portId = .unknown ∨ call.write = .success := by
  unfold PortModes.routingModeUpdate
  rw [PortModes.routingModeSet_eq, PortModes.routingModeReset_eq, PortModes.write_eq, PortModes.write_eq]
  by_cases read : call.read = .success
  · by_cases write : call.write = .success
    · cases isSet <;> cases mode : modes portId <;> simp [read, write]
    · cases isSet <;> cases mode : modes portId <;> simp [read, write]
  · cases isSet <;> simp [read]

end

theorem PortModes.routingModeUpdate_kept {call : PortModeCall}
    (failed : (PortModes.routingModeUpdate isSet call modes portId).2 ≠ .success) :
    (PortModes.routingModeUpdate isSet call modes portId).1 = modes := by
  revert failed
  unfold PortModes.routingModeUpdate
  rw [PortModes.routingModeSet_eq, PortModes.routingModeReset_eq, PortModes.write_eq, PortModes.write_eq]
  by_cases read : call.read = .success
  · by_cases write : call.write = .success
    · cases isSet <;> cases modes portId <;> simp [read, write]
    · cases isSet <;> cases modes portId <;> simp [read, write]
  · cases isSet <;> simp [read]

theorem PortModes.listUndo_modes : PortModes.listUndo isSet modes entries = modes.undone isSet entries := by
  induction entries generalizing modes with
  | nil => rfl
  | cons entry rest ih =>
    unfold PortModes.listUndo
    rw [ih, PortModes.routingModeUpdate_modes]
    funext q
    unfold PortModes.undone
    rw [portModeWrote_cons, portModePassed_again]

theorem PortModes.passed_push : (modes.passed isSet done).passed isSet [entry] = modes.passed isSet
    (done ++ [entry]) := by
  funext q
  unfold PortModes.passed
  rw [portModePassed_again, portModeWrote_push, portModeWrote_cons]
  exact congrArg (fun wrote => portModePassed isSet (portModeWrote _ done q || wrote) (modes q)) (Bool.or_false _)

theorem PortModes.routingModeUpdate_refused :
    (PortModes.routingModeUpdate isSet entry.call (modes.passed isSet done) entry.portId).2 ≠ .success ↔
      entry.Refused isSet modes done := by
  rw [Ne, PortModes.routingModeUpdate_status]
  unfold PortModeEntry.Refused PortModes.passed portModePassed
  cases isSet with
  | true => cases modes entry.portId <;> cases portModeWrote _ done entry.portId <;> simp
  | false => cases modes entry.portId <;> cases portModeWrote _ done entry.portId <;> simp [imp_iff_not_or]

theorem PortModes.listLoop_through (through : ∀ mid entry tail, rest = mid ++ entry :: tail →
      ¬ entry.Refused isSet modes (done ++ mid)) (tail : List PortModeEntry) :
    PortModes.listLoop isSet (modes.passed isSet done) done (rest ++ tail) =
      PortModes.listLoop isSet (modes.passed isSet (done ++ rest)) (done ++ rest) tail := by
  induction rest generalizing done with
  | nil => rw [List.nil_append, List.append_nil]
  | cons entry rest ih =>
    have taken :
      (PortModes.routingModeUpdate isSet entry.call (modes.passed isSet done) entry.portId).2 = .success := by
      by_contra failed
      have refused := PortModes.routingModeUpdate_refused.mp failed
      have free := through [] entry rest rfl
      rw [List.append_nil] at free
      exact free refused
    have left : (PortModes.routingModeUpdate isSet entry.call (modes.passed isSet done) entry.portId).1 =
        modes.passed isSet (done ++ [entry]) := by
      rw [PortModes.routingModeUpdate_modes, ← PortModes.passed_push]
      funext q
      unfold PortModes.passed
      rw [portModeWrote_cons]
      exact congrArg (fun wrote => portModePassed isSet wrote _) (Bool.or_false _).symm
    have step : PortModes.routingModeUpdate isSet entry.call (modes.passed isSet done) entry.portId =
        (modes.passed isSet (done ++ [entry]), .success) := Prod.ext left taken
    rw [List.cons_append]
    conv_lhs => unfold PortModes.listLoop
    rw [step]
    dsimp only
    rw [ih, List.append_assoc, List.singleton_append]
    intro mid later after split
    have free := through (entry :: mid) later after (by rw [split, List.cons_append])
    rw [List.append_assoc, List.singleton_append]
    exact free

theorem PortModes.listRoutingModeUpdate_through (through : modes.GoesThrough isSet entries) :
    modes.listRoutingModeUpdate entries isSet = (modes.passed isSet entries, .success) := by
  have all := @PortModes.listLoop_through isSet modes [] entries through []
  rw [List.append_nil] at all
  exact all

theorem PortModes.listRoutingModeUpdate_refused (split : entries = done ++ entry :: rest)
    (through : modes.GoesThrough isSet done) (refused : entry.Refused isSet modes done) :
    ∃ status, status ≠ .success ∧
      modes.listRoutingModeUpdate entries isSet = ((modes.passed isSet done).undone isSet done, status) := by
  have past := @PortModes.listLoop_through isSet modes [] done through (entry :: rest)
  have failed := PortModes.routingModeUpdate_refused.mpr refused
  have left : (PortModes.routingModeUpdate isSet entry.call (modes.passed isSet done) entry.portId).1 =
      modes.passed isSet done := PortModes.routingModeUpdate_kept failed
  refine ⟨_, failed, ?_⟩
  rw [split]
  refine past.trans ?_
  rw [List.nil_append]
  unfold PortModes.listLoop
  split
  · next next updated =>
    rw [updated] at failed
    exact absurd rfl failed
  · next next error _ updated =>
    rw [updated] at left ⊢
    rw [PortModes.listUndo_modes, ← left]

theorem PortModes.goesThrough_or_refused (isSet : Bool) (modes : PortModes) (entries : List PortModeEntry) :
    modes.GoesThrough isSet entries ∨ ∃ done entry rest, entries = done ++ entry :: rest ∧
      modes.GoesThrough isSet done ∧ entry.Refused isSet modes done := by
  induction entries using List.reverseRecOn with
  | nil =>
    refine .inl ?_
    intro done entry rest split
    exact absurd split.symm (List.append_ne_nil_of_right_ne_nil done (List.cons_ne_nil entry rest))
  | append_singleton before last ih =>
    rcases ih with through | ⟨done, entry, rest, split, through, refused⟩
    · by_cases refused : last.Refused isSet modes before
      · exact .inr ⟨before, last, [], rfl, through, refused⟩
      refine .inl fun done entry rest split => ?_
      rcases List.eq_nil_or_concat rest with rfl | ⟨start, ending, rfl⟩
      · obtain ⟨rfl, same⟩ := List.append_inj' split rfl
        rw [← List.singleton_inj.mp same]
        exact refused
      · rw [List.concat_eq_append, ← List.cons_append, ← List.append_assoc] at split
        exact through done entry start (List.append_inj' split rfl).1
    · refine .inr ⟨done, entry, rest ++ [last], ?_, through, refused⟩
      rw [split, List.append_assoc, List.cons_append]

end Passes

/-- What a port that is passed and then taken back has to have been for its mode to return:
`wrote` and `undone` say whether the accessor took its mode in the pass and in the clean-up. -/
def PortKept (isSet : Bool) (mode : PortFwdMode) (wrote undone : Bool) : Prop :=
  match isSet, mode with
  | true, .unknown => wrote = true → undone = true
  | true, .routing => undone = false
  | true, .switching => True
  | false, .unknown => undone = false
  | false, .routing => undone = true
  | false, .switching => False

/-- The same for a port that one update passes and the opposite one passes back. -/
def PortReturned (isAdd : Bool) (mode : PortFwdMode) (back : Bool) : Prop :=
  match isAdd, mode with
  | true, .unknown => True
  | true, .routing => False
  | true, .switching => True
  | false, .unknown => back = false
  | false, .routing => back = true
  | false, .switching => False

/-- The same where the opposite update is stopped behind the port and takes it back. -/
def PortReturnedUndone (isAdd : Bool) (mode : PortFwdMode) (back undone : Bool) : Prop :=
  match isAdd, mode with
  | true, .unknown => undone = false
  | true, .routing => undone = true
  | true, .switching => True
  | false, .unknown => back = true → undone = true
  | false, .routing => back = true ∧ undone = false
  | false, .switching => False

/-- The same where the opposite update is stopped before the port. -/
def PortUntold (isAdd : Bool) (mode : PortFwdMode) (wrote : Bool) : Prop :=
  match isAdd, mode with
  | true, .unknown => wrote = false
  | true, .routing => True
  | true, .switching => True
  | false, .unknown => True
  | false, .routing => False
  | false, .switching => False

def PortPassable (isSet : Bool) (mode : PortFwdMode) (wrote : Bool) : Prop :=
  match isSet with
  | true => mode ≠ .switching
  | false => mode = .unknown ∨ wrote = true

section Restored
variable {isSet isAdd : Bool} {mode : PortFwdMode} {wrote undone back : Bool} {modes : PortModes}
  {entries done rest : List PortModeEntry} {entry : PortModeEntry} {portId : ObjectId}

theorem portKept_iff (passable : PortPassable isSet mode wrote) :
    portModePassed (!isSet) undone (portModePassed isSet wrote mode) = mode ↔ PortKept isSet mode wrote undone := by
  unfold PortPassable at passable
  unfold PortKept
  cases isSet <;> cases mode <;> cases wrote <;> cases undone <;> simp_all [portModePassed]

section
variable (passable : PortPassable isAdd mode wrote)
include passable

theorem portReturned_iff (passableBack : PortPassable (!isAdd) (portModePassed isAdd wrote mode) back) :
    portModePassed (!isAdd) back (portModePassed isAdd wrote mode) = mode ↔ PortReturned isAdd mode back := by
  unfold PortPassable at passable passableBack
  unfold PortReturned
  cases isAdd <;> cases mode <;> cases wrote <;> cases back <;> simp_all [portModePassed]

theorem portReturnedUndone_iff (passableBack : PortPassable (!isAdd) (portModePassed isAdd wrote mode) back) :
    portModePassed isAdd undone (portModePassed (!isAdd) back (portModePassed isAdd wrote mode)) = mode ↔
      PortReturnedUndone isAdd mode back undone := by
  unfold PortPassable at passable passableBack
  unfold PortReturnedUndone
  cases isAdd <;> cases mode <;> cases wrote <;> cases back <;> cases undone <;> simp_all [portModePassed]

theorem portUntold_iff : portModePassed isAdd wrote mode = mode ↔ PortUntold isAdd mode wrote := by
  unfold PortPassable at passable
  unfold PortUntold
  cases isAdd <;> cases mode <;> cases wrote <;> simp_all [portModePassed]

end

theorem PortModes.GoesThrough.passable (through : modes.GoesThrough isSet entries) (member : entry ∈ entries) :
    PortPassable isSet (modes entry.portId) (portModeWrote PortModeEntry.call entries entry.portId) := by
  obtain ⟨done, rest, rfl⟩ := List.append_of_mem member
  have free := through done entry rest rfl
  unfold PortModeEntry.Refused at free
  push Not at free
  obtain ⟨read, free⟩ := free
  unfold PortPassable
  cases isSet with
  | true => exact free
  | false =>
    by_cases unknown : modes entry.portId = .unknown
    · exact .inl unknown
    refine .inr ?_
    rw [portModeWrote_append, portModeWrote_cons]
    by_cases write : entry.call.write = .success
    · unfold PortModeCall.ok
      simp [read, write]
    · rw [Bool.eq_true_of_not_eq_false fun none => free ⟨unknown, write, none⟩]
      rfl

theorem PortModes.passed_absent (absent : ∀ entry ∈ entries, entry.portId ≠ portId) :
    modes.passed isSet entries portId = modes portId := by
  unfold PortModes.passed
  rw [portModeWrote_absent absent]
  rfl

theorem PortModes.undone_absent (absent : ∀ entry ∈ entries, entry.portId ≠ portId) :
    modes.undone isSet entries portId = modes portId := by
  unfold PortModes.undone
  rw [portModeWrote_absent absent]
  rfl

/-- The update of a list leaves every mode as it was when it fails, exactly when the ports
before the one that stops it are all such that the clean-up gives them their modes back. -/
theorem portListRoutingModeUpdate_kept_iff (modes : PortModes) (entries : List PortModeEntry) (isSet : Bool) :
    ((modes.listRoutingModeUpdate entries isSet).2 ≠ .success →
        (modes.listRoutingModeUpdate entries isSet).1 = modes) ↔
      ∀ done entry rest, entries = done ++ entry :: rest → modes.GoesThrough isSet done →
        entry.Refused isSet modes done → ∀ before ∈ done, PortKept isSet (modes before.portId)
          (portModeWrote PortModeEntry.call done before.portId)
          (portModeWrote PortModeEntry.undo done before.portId) := by
  constructor
  · intro kept done entry rest split through refused before member
    obtain ⟨status, failed, ended⟩ := PortModes.listRoutingModeUpdate_refused split through refused
    rw [ended] at kept
    exact (portKept_iff (through.passable member)).mp (congrFun (kept failed) before.portId)
  · intro condition failed
    rcases PortModes.goesThrough_or_refused isSet modes entries with
      through | ⟨done, entry, rest, split, through, refused⟩
    · rw [PortModes.listRoutingModeUpdate_through through] at failed
      exact absurd rfl failed
    · obtain ⟨status, -, ended⟩ := PortModes.listRoutingModeUpdate_refused split through refused
      rw [ended]
      funext q
      by_cases listed : ∃ before ∈ done, before.portId = q
      · obtain ⟨before, member, rfl⟩ := listed
        exact (portKept_iff (through.passable member)).mpr
          (condition done entry rest split through refused before member)
      · push Not at listed
        exact (PortModes.undone_absent listed).trans (PortModes.passed_absent listed)

end Restored

section Members
variable {s : FibState} {modes : PortModes} {rifId lagId : ObjectId} {entries : List LagPortEntry} {isAdd : Bool}
  {npu : SaiStatus}

/-- The ports of a list that an update goes through, as the opposite update finds them. -/
structure LagPortsReturned (isAdd : Bool) (modes : PortModes) (entries : List LagPortEntry) : Prop where
  through :
    (modes.passed isAdd (entries.map LagPortEntry.forth)).GoesThrough (!isAdd) (entries.map LagPortEntry.back) →
    ∀ entry ∈ entries, PortReturned isAdd (modes entry.portId)
      (portModeWrote PortModeEntry.call (entries.map LagPortEntry.back) entry.portId)
  stopped : ∀ done stop rest, entries.map LagPortEntry.back = done ++ stop :: rest →
    (modes.passed isAdd (entries.map LagPortEntry.forth)).GoesThrough (!isAdd) done →
    stop.Refused (!isAdd) (modes.passed isAdd (entries.map LagPortEntry.forth)) done →
    ∀ entry ∈ entries,
      ((∃ before ∈ done, before.portId = entry.portId) → PortReturnedUndone isAdd (modes entry.portId)
        (portModeWrote PortModeEntry.call done entry.portId) (portModeWrote PortModeEntry.undo done entry.portId)) ∧
      ((∀ before ∈ done, before.portId ≠ entry.portId) → PortUntold isAdd (modes entry.portId)
        (portModeWrote PortModeEntry.call (entries.map LagPortEntry.forth) entry.portId))

theorem LagPortsReturned.nil : LagPortsReturned isAdd modes [] := by
  refine ⟨fun _ entry member => absurd member List.not_mem_nil, fun done stop rest split => ?_⟩
  exact absurd split.symm (List.append_ne_nil_of_right_ne_nil done (List.cons_ne_nil stop rest))

theorem lagPortsReturned_iff (through : modes.GoesThrough isAdd (entries.map LagPortEntry.forth)) :
    (∀ entry ∈ entries, ((modes.passed isAdd (entries.map LagPortEntry.forth)).listRoutingModeUpdate
        (entries.map LagPortEntry.back) (!isAdd)).1 entry.portId = modes entry.portId) ↔
      LagPortsReturned isAdd modes entries := by
  have passable : ∀ entry ∈ entries, PortPassable isAdd (modes entry.portId)
      (portModeWrote PortModeEntry.call (entries.map LagPortEntry.forth) entry.portId) := by
    intro entry member
    have listed : entry.forth ∈ entries.map LagPortEntry.forth := List.mem_map_of_mem member
    exact through.passable listed
  have whole : (modes.passed isAdd (entries.map LagPortEntry.forth)).GoesThrough (!isAdd)
      (entries.map LagPortEntry.back) → ∀ entry ∈ entries,
        ((modes.passed isAdd (entries.map LagPortEntry.forth)).passed (!isAdd) (entries.map LagPortEntry.back)
          entry.portId = modes entry.portId ↔ PortReturned isAdd (modes entry.portId)
            (portModeWrote PortModeEntry.call (entries.map LagPortEntry.back) entry.portId)) := by
    intro throughBack entry member
    have listed : entry.back ∈ entries.map LagPortEntry.back := List.mem_map_of_mem member
    exact portReturned_iff (passable entry member) (throughBack.passable listed)
  have behind : ∀ done, (modes.passed isAdd (entries.map LagPortEntry.forth)).GoesThrough (!isAdd) done →
      ∀ entry ∈ entries, (∃ before ∈ done, before.portId = entry.portId) →
        (((modes.passed isAdd (entries.map LagPortEntry.forth)).passed (!isAdd) done).undone (!isAdd) done
          entry.portId = modes entry.portId ↔ PortReturnedUndone isAdd (modes entry.portId)
            (portModeWrote PortModeEntry.call done entry.portId)
            (portModeWrote PortModeEntry.undo done entry.portId)) := by
    rintro done throughBack entry member ⟨before, listed, same⟩
    have passableBack := throughBack.passable listed
    rw [same] at passableBack
    unfold PortModes.undone
    rw [Bool.not_not]
    exact portReturnedUndone_iff (passable entry member) passableBack
  have ahead : ∀ done : List PortModeEntry,
    ∀ entry ∈ entries, (∀ before ∈ done, before.portId ≠ entry.portId) →
      (((modes.passed isAdd (entries.map LagPortEntry.forth)).passed (!isAdd) done).undone (!isAdd) done
        entry.portId = modes entry.portId ↔ PortUntold isAdd (modes entry.portId)
          (portModeWrote PortModeEntry.call (entries.map LagPortEntry.forth) entry.portId)) := by
    intro done entry member absent
    rw [PortModes.undone_absent absent, PortModes.passed_absent absent]
    exact portUntold_iff (passable entry member)
  constructor
  · intro returned
    refine ⟨fun throughBack entry member => ?_, fun done stop rest split throughBack refused entry member => ?_⟩
    · rw [PortModes.listRoutingModeUpdate_through throughBack] at returned
      exact (whole throughBack entry member).mp (returned entry member)
    · obtain ⟨status, -, ended⟩ := PortModes.listRoutingModeUpdate_refused split throughBack refused
      rw [ended] at returned
      exact ⟨fun listed => (behind done throughBack entry member listed).mp (returned entry member),
        fun absent => (ahead done entry member absent).mp (returned entry member)⟩
  · intro returned entry member
    rcases PortModes.goesThrough_or_refused (!isAdd) (modes.passed isAdd (entries.map LagPortEntry.forth))
      (entries.map LagPortEntry.back) with throughBack | ⟨done, stop, rest, split, throughBack, refused⟩
    · rw [PortModes.listRoutingModeUpdate_through throughBack]
      exact (whole throughBack entry member).mpr (returned.through throughBack entry member)
    · obtain ⟨status, -, ended⟩ := PortModes.listRoutingModeUpdate_refused split throughBack refused
      rw [ended]
      obtain ⟨listed, unlisted⟩ := returned.stopped done stop rest split throughBack refused entry member
      by_cases isListed : ∃ before ∈ done, before.portId = entry.portId
      · exact (behind done throughBack entry member isListed).mpr (listed isListed)
      · push Not at isListed
        exact (ahead done entry member isListed).mpr (unlisted isListed)

theorem rifLagMemberUpdate_behind (some : entries ≠ [])
    (through : modes.GoesThrough isAdd (entries.map LagPortEntry.forth))
    (failed : rifLagMemberStatus s rifId lagId npu ≠ .success) :
    modes.rifLagMemberUpdate s rifId lagId entries isAdd npu =
      (((modes.passed isAdd (entries.map LagPortEntry.forth)).listRoutingModeUpdate
        (entries.map LagPortEntry.back) (!isAdd)).1, rifLagMemberStatus s rifId lagId npu) := by
  unfold PortModes.rifLagMemberUpdate
  rw [if_neg some, PortModes.listRoutingModeUpdate_through through]
  dsimp only
  split
  · next success => exact absurd success failed
  · rfl

/-- When the rest of a LAG member update fails after its ports were updated, the ports have
their modes back exactly when the opposite update returns them. -/
theorem rifLagMemberUpdate_returned_iff (s : FibState) (modes : PortModes) (rifId lagId : ObjectId)
    (entries : List LagPortEntry) (isAdd : Bool) (npu : SaiStatus) :
    ((modes.listRoutingModeUpdate (entries.map LagPortEntry.forth) isAdd).2 = .success →
        (modes.rifLagMemberUpdate s rifId lagId entries isAdd npu).2 ≠ .success → ∀ entry ∈ entries,
          (modes.rifLagMemberUpdate s rifId lagId entries isAdd npu).1 entry.portId = modes entry.portId) ↔
      (modes.GoesThrough isAdd (entries.map LagPortEntry.forth) →
        rifLagMemberStatus s rifId lagId npu ≠ .success →
        LagPortsReturned isAdd modes entries) := by
  by_cases some : entries = []
  · subst some
    exact iff_of_true (fun _ _ entry member => absurd member List.not_mem_nil) fun _ _ => .nil
  constructor
  · intro returned through failed
    have ended := @rifLagMemberUpdate_behind s modes rifId lagId entries isAdd npu some through failed
    rw [ended, PortModes.listRoutingModeUpdate_through through] at returned
    exact (lagPortsReturned_iff through).mp (returned rfl failed)
  · intro condition updated failed entry member
    rcases PortModes.goesThrough_or_refused isAdd modes (entries.map LagPortEntry.forth) with
      through | ⟨done, stop, rest, split, through, refused⟩
    · by_cases status : rifLagMemberStatus s rifId lagId npu = .success
      · refine absurd ?_ failed
        unfold PortModes.rifLagMemberUpdate
        rw [if_neg some, PortModes.listRoutingModeUpdate_through through]
        dsimp only
        rw [status]
      · rw [rifLagMemberUpdate_behind some through status]
        exact (lagPortsReturned_iff through).mpr (condition through status) entry member
    · obtain ⟨status, stopped, ended⟩ := PortModes.listRoutingModeUpdate_refused split through refused
      rw [ended] at updated
      exact absurd updated stopped

end Members

/-- Exactly which lists and which answers of the accessor let the modes return: those of
the list update when it is stopped, and those of a LAG member update that fails after it. -/
theorem portListRoutingMode_restored_iff (modes : PortModes) (entries : List PortModeEntry) (isSet : Bool)
    (s : FibState) (rifId lagId : ObjectId) (members : List LagPortEntry) (isAdd : Bool) (npu : SaiStatus) :
    (((modes.listRoutingModeUpdate entries isSet).2 ≠ .success →
        (modes.listRoutingModeUpdate entries isSet).1 = modes) ↔
      ∀ done entry rest, entries = done ++ entry :: rest → modes.GoesThrough isSet done →
        entry.Refused isSet modes done → ∀ before ∈ done, PortKept isSet (modes before.portId)
          (portModeWrote PortModeEntry.call done before.portId)
          (portModeWrote PortModeEntry.undo done before.portId)) ∧
    (((modes.listRoutingModeUpdate (members.map LagPortEntry.forth) isAdd).2 = .success →
        (modes.rifLagMemberUpdate s rifId lagId members isAdd npu).2 ≠ .success → ∀ entry ∈ members,
          (modes.rifLagMemberUpdate s rifId lagId members isAdd npu).1 entry.portId = modes entry.portId) ↔
      (modes.GoesThrough isAdd (members.map LagPortEntry.forth) →
        rifLagMemberStatus s rifId lagId npu ≠ .success → LagPortsReturned isAdd modes members)) :=
  ⟨portListRoutingModeUpdate_kept_iff modes entries isSet,
    rifLagMemberUpdate_returned_iff s modes rifId lagId members isAdd npu⟩

section Sample

def modeSample : PortModes := fun portId => if portId = ⟨.port, 1⟩ then .routing else .switching

def modeSampleEntry (npuObjectId : Nat) : PortModeEntry :=
  ⟨⟨.port, npuObjectId⟩, ⟨.success, .success⟩, ⟨.success, .success⟩⟩

/-- Port 2 stops the list and port 1 loses the mode that it had before. -/
theorem modeSample_not_kept : ¬ ((modeSample.listRoutingModeUpdate [modeSampleEntry 1, modeSampleEntry 2] true).2 ≠
    .success → (modeSample.listRoutingModeUpdate [modeSampleEntry 1, modeSampleEntry 2] true).1 = modeSample) := by
  intro kept
  have same := congrFun (kept (by decide)) ⟨.port, 1⟩
  revert same
  decide

end Sample

end SaiCommon
