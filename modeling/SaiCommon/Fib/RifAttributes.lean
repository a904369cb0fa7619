import SaiCommon.Fib.RifUnique

namespace SaiCommon

variable {vrId : ObjectId} {given : Prop} {rif node : Rif} {rifType : RifType} {α : Type}
  {value : RifAttr → Option α} {attrs' : List RifAttr} {next parse : RifParse}

/-- Two attributes of one id; ids that are not known are never the same here. -/
@[grind =]
def RifAttr.sameId : RifAttr → RifAttr → Bool
  | .virtualRouterId _, .virtualRouterId _ => true
  | .type _, .type _ => true
  | .portId _, .portId _ => true
  | .vlanId _, .vlanId _ => true
  | .srcMacAddress _, .srcMacAddress _ => true
  | .adminV4State _, .adminV4State _ => true
  | .adminV6State _, .adminV6State _ => true
  | .mtu _, .mtu _ => true
  | _, _ => false

def RifAttrsDistinct (attrs : List RifAttr) : Prop := attrs.Pairwise fun attr later => attr.sameId later = false

@[simp]
def RifAttr.vrIdValue : RifAttr → Option ObjectId
  | .virtualRouterId vrId => some vrId
  | _ => none

@[simp]
def RifAttr.typeValue : RifAttr → Option RifType
  | .type rifType => some rifType
  | _ => none

@[simp]
def RifAttr.portIdValue : RifAttr → Option ObjectId
  | .portId port => some port
  | _ => none

@[simp]
def RifAttr.vlanIdValue : RifAttr → Option (BitVec 16)
  | .vlanId vlan => some vlan
  | _ => none

@[simp]
def RifAttr.macValue : RifAttr → Option Mac
  | .srcMacAddress mac => some mac
  | _ => none

@[simp]
def RifAttr.v4StateValue : RifAttr → Option Bool
  | .adminV4State state => some state
  | _ => none

@[simp]
def RifAttr.v6StateValue : RifAttr → Option Bool
  | .adminV6State state => some state
  | _ => none

@[simp]
def RifAttr.mtuValue : RifAttr → Option (BitVec 32)
  | .mtu size => some size
  | _ => none

/-- Only attributes of one id have such a value. -/
def RifAttrById {α : Type} (value : RifAttr → Option α) : Prop :=
  ∀ attr later, (value attr).isSome → (value later).isSome → attr.sameId later = true

/-- A port or a LAG that a router interface can be put on. -/
def RifPortExists (p : Platform) (s : FibState) (portId : ObjectId) : Prop :=
  portId.objType = .lag ∧ isLagCreated s portId = true ∨
    portId.objType = .port ∧ isPortValid s portId = true ∧ portId ≠ p.cpuPort

/-- The attribute is known and its value can be taken, whatever else is in the list. -/
def RifAttr.Valid (p : Platform) (s : FibState) (vlanCreated : BitVec 16 → Bool) : RifAttr → Prop
  | .virtualRouterId vrId => vrId.objType = .virtualRouter ∧ (fibVrfNodeGet s vrId).isSome = true
  | .type rifType => rifType = .port ∨ rifType = .vlan
  | .portId port => RifPortExists p s port
  | .vlanId vlan => p.isValidVlanId vlan = true ∧ vlanCreated vlan = true
  | .srcMacAddress mac => mac ≠ 0
  | .other => False
  | _ => True

/-- A port and a VLAN are not both given, nor the one that is not of the type. -/
structure RifAttrsAgree (attrs : List RifAttr) : Prop where
  one : attrs.findSome? RifAttr.portIdValue = none ∨ attrs.findSome? RifAttr.vlanIdValue = none
  port : attrs.findSome? RifAttr.typeValue = some .vlan → attrs.findSome? RifAttr.portIdValue = none
  vlan : attrs.findSome? RifAttr.typeValue = some .port → attrs.findSome? RifAttr.vlanIdValue = none

/-- What the loop has once it has seen these attributes. -/
def rifParseOf (p : Platform) (defaults : RifDefaults) (attrs : List RifAttr) : RifParse where
  node :=
    { vrfId := (attrs.findSome? RifAttr.vrIdValue).getD nullObjectId
      rifType := (attrs.findSome? RifAttr.typeValue).getD .none
      attachment := (((attrs.findSome? RifAttr.portIdValue).map RifAttachment.port).or
        ((attrs.findSome? RifAttr.vlanIdValue).map RifAttachment.vlan)).getD (.port nullObjectId)
      srcMac := (attrs.findSome? RifAttr.macValue).getD p.switchMac
      v4AdminState := (attrs.findSome? RifAttr.v4StateValue).getD defaults.v4AdminState
      v6AdminState := (attrs.findSome? RifAttr.v6StateValue).getD defaults.v6AdminState
      mtu := (attrs.findSome? RifAttr.mtuValue).getD defaults.mtu
      ipOptionsPktAction := defaults.ipOptPktAction
      refCount := 0 }
  isPortSet := (attrs.findSome? RifAttr.portIdValue).isSome
  isVlanSet := (attrs.findSome? RifAttr.vlanIdValue).isSome
  isVrfSet := (attrs.findSome? RifAttr.vrIdValue).isSome
  type := (attrs.findSome? RifAttr.typeValue).getD .none
  v4StateSet := (attrs.findSome? RifAttr.v4StateValue).isSome
  v6StateSet := (attrs.findSome? RifAttr.v6StateValue).isSome
  srcMacSet := (attrs.findSome? RifAttr.macValue).isSome

/-- The node that the attributes ask for, with what its virtual router gives it. -/
def rifOfAttrs (p : Platform) (s : FibState) (defaults : RifDefaults) (attrs : List RifAttr) : Rif :=
  fibRifInheritVrfAttributes s (rifParseOf p defaults attrs)

section Lookups
variable {attrs done : List RifAttr} {attr : RifAttr}

theorem findSome_iff (byId : RifAttrById value) (distinct : RifAttrsDistinct attrs) (found : α) :
    attrs.findSome? value = some found ↔ ∃ attr ∈ attrs, value attr = some found := by
  induction attrs with
  | nil => simp
  | cons attr rest ih =>
    obtain ⟨new, distinct⟩ := List.pairwise_cons.mp distinct
    cases has : value attr with
    | none => simp [has, ih distinct]
    | some own =>
      simp only [List.findSome?_cons, has, List.mem_cons, exists_eq_or_imp]
      refine ⟨fun same => .inl same, fun either => either.elim id ?_⟩
      rintro ⟨later, member, hasLater⟩
      have same := byId attr later (by simp [has]) (by simp [hasLater])
      rw [new later member] at same
      cases same

theorem findSome_perm (byId : RifAttrById value)
    (distinct : RifAttrsDistinct attrs) (distinct' : RifAttrsDistinct attrs') (moved : attrs.Perm attrs') :
    attrs.findSome? value = attrs'.findSome? value := by
  ext found
  rw [findSome_iff byId distinct, findSome_iff byId distinct']
  exact exists_congr fun attr => and_congr_left fun _ => moved.mem_iff

theorem findSome_push (value : RifAttr → Option α) :
    (done ++ [attr]).findSome? value = (done.findSome? value).or (value attr) := by
  rw [List.findSome?_append]
  cases has : value attr <;> simp [has]

theorem findSome_new (byId : RifAttrById value)
    (new : ∀ before ∈ done, before.sameId attr = false) (has : (value attr).isSome) :
    done.findSome? value = none := by
  rw [List.findSome?_eq_none_iff]
  intro before member
  by_contra some
  have same := byId before attr (Option.isSome_iff_ne_none.mpr some) has
  rw [new before member] at same
  cases same

theorem vrIdValue_byId : RifAttrById RifAttr.vrIdValue := by
  rintro ⟨⟩ ⟨⟩ <;> simp [RifAttr.vrIdValue, RifAttr.sameId]

theorem typeValue_byId : RifAttrById RifAttr.typeValue := by
  rintro ⟨⟩ ⟨⟩ <;> simp [RifAttr.typeValue, RifAttr.sameId]

theorem portIdValue_byId : RifAttrById RifAttr.portIdValue := by
  rintro ⟨⟩ ⟨⟩ <;> simp [RifAttr.portIdValue, RifAttr.sameId]

theorem vlanIdValue_byId : RifAttrById RifAttr.vlanIdValue := by
  rintro ⟨⟩ ⟨⟩ <;> simp [RifAttr.vlanIdValue, RifAttr.sameId]

theorem macValue_byId : RifAttrById RifAttr.macValue := by
  rintro ⟨⟩ ⟨⟩ <;> simp [RifAttr.macValue, RifAttr.sameId]

theorem v4StateValue_byId : RifAttrById RifAttr.v4StateValue := by
  rintro ⟨⟩ ⟨⟩ <;> simp [RifAttr.v4StateValue, RifAttr.sameId]

theorem v6StateValue_byId : RifAttrById RifAttr.v6StateValue := by
  rintro ⟨⟩ ⟨⟩ <;> simp [RifAttr.v6StateValue, RifAttr.sameId]

theorem mtuValue_byId : RifAttrById RifAttr.mtuValue := by
  rintro ⟨⟩ ⟨⟩ <;> simp [RifAttr.mtuValue, RifAttr.sameId]

theorem RifAttr.sameId_symm (attr later : RifAttr) : attr.sameId later = later.sameId attr := by
  cases attr <;> cases later <;> rfl

theorem RifAttrsDistinct.perm (distinct : RifAttrsDistinct attrs)
    (moved : attrs.Perm attrs') : RifAttrsDistinct attrs' :=
  (moved.pairwise_iff fun {attr later} differ => by rw [RifAttr.sameId_symm, differ]).mp distinct

end Lookups

section Rounds
variable {p : Platform} {s : FibState} {defaults : RifDefaults} {vlanCreated : BitVec 16 → Bool}
  {attrs done : List RifAttr} {attr : RifAttr}

structure RifAttrsGood (p : Platform) (s : FibState) (vlanCreated : BitVec 16 → Bool)
    (attrs : List RifAttr) : Prop where
  valid : ∀ attr ∈ attrs, attr.Valid p s vlanCreated
  agree : RifAttrsAgree attrs

theorem rifAttrsAgree_iff : RifAttrsAgree attrs ↔
    (attrs.findSome? RifAttr.portIdValue = none ∨ attrs.findSome? RifAttr.vlanIdValue = none) ∧
    (attrs.findSome? RifAttr.typeValue = some .vlan → attrs.findSome? RifAttr.portIdValue = none) ∧
    (attrs.findSome? RifAttr.typeValue = some .port → attrs.findSome? RifAttr.vlanIdValue = none) :=
  ⟨fun agree => ⟨agree.one, agree.port, agree.vlan⟩, fun all => ⟨all.1, all.2.1, all.2.2⟩⟩

theorem rifParseOf_nil : rifParseOf p defaults [] =
    ⟨fibRifAttributesInit p defaults, false, false, false, .none, false, false, false⟩ := rfl

theorem RifAttrsGood.nil : RifAttrsGood p s vlanCreated [] :=
  ⟨by simp, ⟨.inl rfl, fun _ => rfl, fun _ => rfl⟩⟩

theorem ok_iff {value next : Rif} (holds : given) :
    (Except.ok value : Except SaiStatus Rif) = .ok next ↔ given ∧ next = value :=
  ⟨fun same => ⟨holds, (Except.ok.inj same).symm⟩, fun same => congrArg Except.ok same.2.symm⟩

theorem error_iff {status : SaiStatus} {value next : Rif} (fails : ¬ given) :
    (Except.error status : Except SaiStatus Rif) = .ok next ↔ given ∧ next = value :=
  ⟨fun same => (nomatch same), fun same => absurd same.1 fails⟩

theorem fibRifPortIdSet_iff {next : Rif} {portId : ObjectId} : fibRifPortIdSet p s node portId = .ok next ↔
    RifPortExists p s portId ∧ next = { node with attachment := .port portId } := by
  unfold fibRifPortIdSet RifPortExists
  dsimp only
  split
  · next neither =>
    exact error_iff fun either => either.elim (fun lag => neither.1 lag.1) fun port => neither.2 port.1
  next kind =>
  split
  · next missing =>
    apply error_iff
    rintro (⟨isLag, created⟩ | ⟨isPort, valid⟩) <;> rcases missing with ⟨lag, absent⟩ | ⟨port, invalid⟩
    · rw [created] at absent
      cases absent
    · rw [isLag] at port
      cases port
    · rw [isPort] at lag
      cases lag
    · exact invalid valid
  · next present =>
    apply ok_iff
    by_cases isLag : portId.objType = .lag
    · have created : isLagCreated s portId = true := by
        by_contra absent
        exact present (.inl ⟨isLag, Bool.eq_false_iff.mpr absent⟩)
      exact .inl ⟨isLag, created⟩
    · have isPort : portId.objType = .port := by
        by_contra notPort
        exact kind ⟨isLag, notPort⟩
      have valid : isPortValid s portId = true ∧ portId ≠ p.cpuPort := by
        by_contra invalid
        exact present (.inr ⟨isPort, invalid⟩)
      exact .inr ⟨isPort, valid⟩

theorem fibRifVlanIdSet_iff {next : Rif} {vlanId : BitVec 16} :
    fibRifVlanIdSet p vlanCreated node vlanId = .ok next ↔
      (p.isValidVlanId vlanId = true ∧ vlanCreated vlanId = true) ∧
        next = { node with attachment := .vlan vlanId } := by
  unfold fibRifVlanIdSet
  split
  · next invalid => exact error_iff fun both => by rw [invalid] at both; exact nomatch both.1
  next valid =>
  split
  · next absent => exact error_iff fun both => by rw [absent] at both; exact nomatch both.2
  · next created => exact ok_iff ⟨Bool.eq_true_of_not_eq_false valid, Bool.eq_true_of_not_eq_false created⟩

theorem fibRifVrfAttrSet_iff {next : Rif} : fibRifVrfAttrSet s node vrId = .ok next ↔
    (vrId.objType = .virtualRouter ∧ (fibVrfNodeGet s vrId).isSome = true) ∧
    next = { node with vrfId := vrId } := by
  unfold fibRifVrfAttrSet
  split
  · next other => exact error_iff fun both => other both.1
  next isVr =>
  split
  · next missing => exact error_iff fun both => by rw [missing] at both; exact nomatch both.2
  · next found => exact ok_iff ⟨not_not.mp isVr, by rw [found]; rfl⟩

theorem fibRifTypeAttrSet_iff {next : Rif} : fibRifTypeAttrSet node rifType = .ok next ↔
      (rifType = .port ∨ rifType = .vlan) ∧ next = { node with rifType := rifType } := by
  have valid : fibIsRifTypeValid rifType = true ↔ rifType = .port ∨ rifType = .vlan := by
    simp only [fibIsRifTypeValid, Bool.or_eq_true, decide_eq_true_eq]
  unfold fibRifTypeAttrSet
  split
  · next isValid => exact ok_iff (valid.mp isValid)
  · next invalid => exact error_iff fun either => invalid (valid.mpr either)

theorem RifAttrsGood.push (good : RifAttrsGood p s vlanCreated done) :
    RifAttrsGood p s vlanCreated (done ++ [attr]) ↔
      attr.Valid p s vlanCreated ∧ RifAttrsAgree (done ++ [attr]) := by
  constructor
  · intro both
    exact ⟨both.valid attr (by simp), both.agree⟩
  · rintro ⟨valid, agree⟩
    refine ⟨fun before member => ?_, agree⟩
    rcases List.mem_append.mp member with old | new
    · exact good.valid before old
    · rw [List.mem_singleton.mp new]
      exact valid

theorem RifAttrsGood.start {rest : List RifAttr} (good : RifAttrsGood p s vlanCreated (done ++ rest)) :
    RifAttrsGood p s vlanCreated done := by
  obtain ⟨valid, one, port, vlan⟩ := good
  simp only [List.findSome?_append, Option.or_eq_none_iff] at one port vlan
  refine ⟨fun attr member => valid attr (List.mem_append_left rest member), ?_, ?_, ?_⟩
  · exact one.imp And.left And.left
  · intro isVlan
    rw [isVlan] at port
    exact (port rfl).1
  · intro isPort
    rw [isPort] at vlan
    exact (vlan rfl).1

theorem RifAttrsAgree.push (agree : RifAttrsAgree done) (noType : attr.typeValue = none)
    (noPort : attr.portIdValue = none) (noVlan : attr.vlanIdValue = none) : RifAttrsAgree (done ++ [attr]) := by
  constructor <;> simp only [findSome_push, noType, noPort, noVlan, Option.or_none]
  · exact agree.one
  · exact agree.port
  · exact agree.vlan

theorem fibRifAttributeParse_optional (good : RifAttrsGood p s vlanCreated done)
    (optional : fibRifIsAttrMandatoryForCreate attr = false) (valid : attr.Valid p s vlanCreated)
    (isSet : fibRifOptionalAttrSet (rifParseOf p defaults done).node attr = .ok node)
    (isPushed : { rifParseOf p defaults done with node := node }.flag attr = rifParseOf p defaults (done ++ [attr])) :
    fibRifAttributeParse p s vlanCreated (rifParseOf p defaults done) attr = .ok next ↔
      (attr.Valid p s vlanCreated ∧ RifAttrsAgree (done ++ [attr])) ∧
        next = rifParseOf p defaults (done ++ [attr]) := by
  have agree : RifAttrsAgree (done ++ [attr]) := by
    cases attr <;> first | exact good.agree.push rfl rfl rfl | cases optional
  have parsed : fibRifAttributeParse p s vlanCreated (rifParseOf p defaults done) attr =
      .ok (rifParseOf p defaults (done ++ [attr])) := by
    unfold fibRifAttributeParse
    rw [optional, isSet, ← isPushed]
    rfl
  rw [parsed]
  exact ⟨fun same => ⟨⟨valid, agree⟩, (Except.ok.inj same).symm⟩, fun same =>
    congrArg Except.ok same.2.symm⟩

theorem fibRifAttributeParse_mandatory {pushed : RifParse} (valid : RifParse) (value : Rif)
    (mandatory : fibRifIsAttrMandatoryForCreate attr = true)
    (validated :
      fibRifCreateAttrValidate { parse with type := attr.typeValue.getD parse.node.rifType } attr = .ok valid)
    (spec : ∀ node, fibRifCreateAttrSet p s vlanCreated valid.node attr = .ok node ↔ given ∧ node = value)
    (isPushed : { valid with node := value } = pushed) :
    fibRifAttributeParse p s vlanCreated parse attr = .ok next ↔ given ∧ next = pushed := by
  have parsed : fibRifAttributeParse p s vlanCreated parse attr =
      (fibRifCreateAttrSet p s vlanCreated valid.node attr).map fun node => { valid with node := node } := by
    unfold fibRifAttributeParse
    rw [if_pos mandatory]
    cases attr <;> try cases mandatory
    all_goals
      dsimp only [RifAttr.typeValue, Option.getD_some, Option.getD_none] at validated ⊢
      rw [validated]
      dsimp only
      split <;> rename_i isSet <;> rw [isSet] <;> rfl
  rw [parsed]
  cases isSet : fibRifCreateAttrSet p s vlanCreated valid.node attr with
  | error error =>
    constructor
    · intro same
      cases same
    · rintro ⟨holds, -⟩
      have stored := (spec value).mpr ⟨holds, rfl⟩
      rw [isSet] at stored
      cases stored
  | ok node =>
    obtain ⟨holds, same⟩ := (spec node).mp isSet
    rw [same, ← isPushed]
    exact ⟨fun stored => ⟨holds, (Except.ok.inj stored).symm⟩, fun stored => congrArg Except.ok stored.2.symm⟩

theorem fibRifAttributeParse_refused {error : SaiStatus} (mandatory : fibRifIsAttrMandatoryForCreate attr = true)
    (refused : fibRifCreateAttrValidate { parse with type := attr.typeValue.getD parse.node.rifType } attr =
      .error error) : fibRifAttributeParse p s vlanCreated parse attr ≠ .ok next := by
  have parsed : fibRifAttributeParse p s vlanCreated parse attr = .error error := by
    unfold fibRifAttributeParse
    rw [if_pos mandatory]
    cases attr <;> try cases mandatory
    all_goals
      dsimp only [RifAttr.typeValue, Option.getD_some, Option.getD_none] at refused ⊢
      rw [refused]
  rw [parsed]
  exact fun same => (nomatch same)

/-- The round of an attribute goes through exactly when it is valid and agrees with the list before it. -/
def RifRoundExact (p : Platform) (s : FibState) (defaults : RifDefaults) (vlanCreated : BitVec 16 → Bool)
    (done : List RifAttr) (attr : RifAttr) : Prop :=
  ∀ next, fibRifAttributeParse p s vlanCreated (rifParseOf p defaults done) attr = .ok next ↔
    (attr.Valid p s vlanCreated ∧ RifAttrsAgree (done ++ [attr])) ∧ next = rifParseOf p defaults (done ++ [attr])

theorem RifRoundExact.of_clash {clash : Prop} [Decidable clash] {error : SaiStatus} (valid : RifParse) (value : Rif)
    (agreeing : RifAttrsAgree (done ++ [attr]) ↔ ¬ clash) (mandatory : fibRifIsAttrMandatoryForCreate attr = true)
    (validated : fibRifCreateAttrValidate
      { rifParseOf p defaults done with type := attr.typeValue.getD (rifParseOf p defaults done).node.rifType } attr =
        if clash then .error error else .ok valid)
    (spec : ∀ node, fibRifCreateAttrSet p s vlanCreated valid.node attr = .ok node ↔
      attr.Valid p s vlanCreated ∧ node = value)
    (isPushed : ¬ clash → { valid with node := value } = rifParseOf p defaults (done ++ [attr])) :
    RifRoundExact p s defaults vlanCreated done attr := by
  intro next
  by_cases clashing : clash
  · rw [if_pos clashing] at validated
    refine iff_of_false (fibRifAttributeParse_refused mandatory validated) ?_
    rintro ⟨⟨-, agree⟩, -⟩
    exact agreeing.mp agree clashing
  · rw [if_neg clashing] at validated
    rw [and_iff_left (agreeing.mpr clashing)]
    exact fibRifAttributeParse_mandatory valid value mandatory validated spec (isPushed clashing)

section
variable (good : RifAttrsGood p s vlanCreated done)
include good

theorem RifRoundExact.virtualRouterId (new : ∀ before ∈ done, before.sameId (.virtualRouterId vrId) = false) :
    RifRoundExact p s defaults vlanCreated done (.virtualRouterId vrId) := by
  have absent : done.findSome? RifAttr.vrIdValue = none := findSome_new vrIdValue_byId new rfl
  have agree : RifAttrsAgree (done ++ [.virtualRouterId vrId]) := good.agree.push rfl rfl rfl
  intro next
  rw [and_iff_left agree]
  exact fibRifAttributeParse_mandatory { rifParseOf p defaults done with isVrfSet := true }
    { (rifParseOf p defaults done).node with vrfId := vrId } rfl rfl (fun node => fibRifVrfAttrSet_iff)
    (by simp [rifParseOf, absent])

theorem RifRoundExact.type (new : ∀ before ∈ done, before.sameId (.type rifType) = false) :
    RifRoundExact p s defaults vlanCreated done (.type rifType) := by
  have absent : done.findSome? RifAttr.typeValue = none := findSome_new typeValue_byId new rfl
  have agreeing : RifAttrsAgree (done ++ [.type rifType]) ↔
      ¬ ((rifParseOf p defaults done).isPortSet = true ∧ rifType = .vlan ∨
        (rifParseOf p defaults done).isVlanSet = true ∧ rifType = .port) := by
    have one := good.agree.one
    rw [rifAttrsAgree_iff]
    simp only [rifParseOf, findSome_push, absent, RifAttr.typeValue, RifAttr.portIdValue, RifAttr.vlanIdValue,
      Option.or_none, Option.none_or]
    clear new absent
    generalize done.findSome? RifAttr.portIdValue = port at one ⊢
    generalize done.findSome? RifAttr.vlanIdValue = vlan at one ⊢
    cases port <;> cases vlan <;> simp_all
  exact .of_clash { rifParseOf p defaults done with type := rifType }
    { (rifParseOf p defaults done).node with rifType := rifType } agreeing rfl rfl
    (fun node => fibRifTypeAttrSet_iff) fun _ => by simp [rifParseOf, absent]

theorem RifRoundExact.portId {portId : ObjectId} (new : ∀ before ∈ done, before.sameId (.portId portId) = false) :
    RifRoundExact p s defaults vlanCreated done (.portId portId) := by
  have absent : done.findSome? RifAttr.portIdValue = none := findSome_new portIdValue_byId new rfl
  have agreeing : RifAttrsAgree (done ++ [.portId portId]) ↔
      ¬ ((rifParseOf p defaults done).isVlanSet = true ∨ (rifParseOf p defaults done).node.rifType = .vlan) := by
    have vlan := good.agree.vlan
    rw [rifAttrsAgree_iff]
    simp only [rifParseOf, findSome_push, absent, RifAttr.typeValue, RifAttr.portIdValue, RifAttr.vlanIdValue,
      Option.or_none, Option.none_or]
    clear new absent
    generalize done.findSome? RifAttr.typeValue = rifType at vlan ⊢
    generalize done.findSome? RifAttr.vlanIdValue = vlanId at vlan ⊢
    cases rifType <;> cases vlanId <;> simp_all
  refine .of_clash { rifParseOf p defaults done with isPortSet := true }
    { (rifParseOf p defaults done).node with attachment := .port portId } agreeing rfl rfl
    (fun node => fibRifPortIdSet_iff) fun free => ?_
  have noVlan : done.findSome? RifAttr.vlanIdValue = none := by
    by_contra some
    exact free (.inl (Option.isSome_iff_ne_none.mpr some))
  simp [rifParseOf, absent, noVlan]

theorem RifRoundExact.vlanId {vlanId : BitVec 16} (new : ∀ before ∈ done, before.sameId (.vlanId vlanId) = false) :
    RifRoundExact p s defaults vlanCreated done (.vlanId vlanId) := by
  have absent : done.findSome? RifAttr.vlanIdValue = none := findSome_new vlanIdValue_byId new rfl
  have agreeing : RifAttrsAgree (done ++ [.vlanId vlanId]) ↔
      ¬ ((rifParseOf p defaults done).isPortSet = true ∨ (rifParseOf p defaults done).node.rifType = .port) := by
    have port := good.agree.port
    rw [rifAttrsAgree_iff]
    simp only [rifParseOf, findSome_push, absent, RifAttr.typeValue, RifAttr.portIdValue, RifAttr.vlanIdValue,
      Option.or_none, Option.none_or]
    clear new absent
    generalize done.findSome? RifAttr.typeValue = rifType at port ⊢
    generalize done.findSome? RifAttr.portIdValue = portId at port ⊢
    cases rifType <;> cases portId <;> simp_all
  refine .of_clash { rifParseOf p defaults done with isVlanSet := true }
    { (rifParseOf p defaults done).node with attachment := .vlan vlanId } agreeing rfl rfl
    (fun node => fibRifVlanIdSet_iff) fun free => ?_
  have noPort : done.findSome? RifAttr.portIdValue = none := by
    by_contra some
    exact free (.inl (Option.isSome_iff_ne_none.mpr some))
  simp [rifParseOf, absent, noPort]

theorem RifRoundExact.srcMacAddress {mac : Mac}
    (new : ∀ before ∈ done, before.sameId (.srcMacAddress mac) = false) :
    RifRoundExact p s defaults vlanCreated done (.srcMacAddress mac) := by
  have absent : done.findSome? RifAttr.macValue = none := findSome_new macValue_byId new rfl
  intro next
  by_cases zero : mac = 0
  · constructor
    · intro parsed
      rw [zero] at parsed
      exact nomatch parsed
    · rintro ⟨⟨valid, -⟩, -⟩
      exact absurd zero valid
  · exact fibRifAttributeParse_optional good rfl zero (if_neg zero) (by simp [rifParseOf, RifParse.flag, absent])

theorem fibRifAttributeParse_iff (new : ∀ before ∈ done, before.sameId attr = false) :
    fibRifAttributeParse p s vlanCreated (rifParseOf p defaults done) attr = .ok next ↔
      RifAttrsGood p s vlanCreated (done ++ [attr]) ∧ next = rifParseOf p defaults (done ++ [attr]) := by
  rw [good.push]
  cases attr with
  | virtualRouterId vrId => exact RifRoundExact.virtualRouterId good new next
  | type rifType => exact RifRoundExact.type good new next
  | portId portId => exact RifRoundExact.portId good new next
  | vlanId vlanId => exact RifRoundExact.vlanId good new next
  | srcMacAddress mac => exact RifRoundExact.srcMacAddress good new next
  | adminV4State state =>
    have absent := findSome_new v4StateValue_byId new rfl
    exact fibRifAttributeParse_optional good rfl trivial rfl (by simp [rifParseOf, RifParse.flag, absent])
  | adminV6State state =>
    have absent := findSome_new v6StateValue_byId new rfl
    exact fibRifAttributeParse_optional good rfl trivial rfl (by simp [rifParseOf, RifParse.flag, absent])
  | mtu size =>
    have absent := findSome_new mtuValue_byId new rfl
    exact fibRifAttributeParse_optional good rfl trivial rfl (by simp [rifParseOf, RifParse.flag, absent])
  | other => exact ⟨fun parsed => (nomatch parsed), fun same => same.1.1.elim⟩

end

theorem fibRifAttributesLoop_iff {env : RifCreateEnv} {rest : List RifAttr} {listIdx : Nat}
    (validated : ∀ index, env.validate index = .success) (good : RifAttrsGood p s env.vlanCreated done)
    (distinct : RifAttrsDistinct (done ++ rest)) :
    fibRifAttributesLoop p s env rest listIdx (rifParseOf p defaults done) = .ok parse ↔
      RifAttrsGood p s env.vlanCreated (done ++ rest) ∧ parse = rifParseOf p defaults (done ++ rest) := by
  induction rest generalizing done listIdx with
  | nil =>
    rw [List.append_nil]
    exact ⟨fun same => ⟨good, (Except.ok.inj same).symm⟩, fun same => congrArg Except.ok same.2.symm⟩
  | cons attr rest ih =>
    have new : ∀ before ∈ done, before.sameId attr = false := fun before member =>
      (List.pairwise_append.mp distinct).2.2 before member attr List.mem_cons_self
    have round := fun next => @fibRifAttributeParse_iff next p s defaults env.vlanCreated done attr good new
    rw [List.append_cons] at distinct ⊢
    unfold fibRifAttributesLoop
    cases parsed : fibRifAttributeParse p s env.vlanCreated (rifParseOf p defaults done) attr with
    | error error =>
      refine iff_of_false (fun same => by cases same) ?_
      rintro ⟨whole, -⟩
      have first : RifAttrsGood p s env.vlanCreated (done ++ [attr]) := whole.start
      have taken := (round _).mpr ⟨first, rfl⟩
      rw [parsed] at taken
      cases taken
    | ok next =>
      obtain ⟨pushed, rfl⟩ := (round next).mp parsed
      dsimp only
      rw [validated listIdx]
      exact ih pushed distinct

end Rounds

/-- What an accepted list holds: an existing virtual router, a type with the one of port and
VLAN that goes with it, and nothing unknown or invalid. -/
structure RifAttrsAccepted (p : Platform) (s : FibState) (vlanCreated : BitVec 16 → Bool) (attrs : List RifAttr) :
    Prop where
  router : ∃ vrId, .virtualRouterId vrId ∈ attrs ∧ vrId.objType = .virtualRouter ∧
    (fibVrfNodeGet s vrId).isSome = true
  attached : (.type .port ∈ attrs ∧ (∃ portId, .portId portId ∈ attrs ∧ RifPortExists p s portId) ∧
      ∀ vlanId, .vlanId vlanId ∉ attrs) ∨
    (.type .vlan ∈ attrs ∧ (∃ vlanId, .vlanId vlanId ∈ attrs ∧ p.isValidVlanId vlanId = true ∧
      vlanCreated vlanId = true) ∧ ∀ portId, .portId portId ∉ attrs)
  optional : ∀ attr ∈ attrs, attr ≠ .other ∧ attr ≠ .srcMacAddress 0

section Lists
variable {p : Platform} {s : FibState} {defaults : RifDefaults} {vlanCreated : BitVec 16 → Bool}
  {attrs : List RifAttr}

theorem fibRifIsDuplicate_iff : fibRifIsDuplicate s rif = false ↔
    ∀ rifId stored, s.routerInterfaceTree.get rifId = some stored → ¬ RifAlike rif stored := by
  unfold fibRifIsDuplicate
  rw [decide_eq_false_iff_not, not_not]
  constructor
  · intro single rifId stored found alike
    refine absurd single (Nat.pos_iff_ne_zero.mp (KeyTree.tally_pos found ?_))
    rw [decide_eq_true_eq]
    exact alike
  · intro new
    apply KeyTree.tally_eq_zero
    intro rifId stored found
    rw [decide_eq_false_iff_not]
    exact new rifId stored found

theorem RifAttrsDistinct.one {attr later : RifAttr} {first second : α}
    (byId : RifAttrById value) (distinct : RifAttrsDistinct attrs) (member : attr ∈ attrs) (also : later ∈ attrs)
    (has : value attr = some first) (hasLater : value later = some second) : first = second := by
  have found := (findSome_iff byId distinct first).mpr ⟨attr, member, has⟩
  have again := (findSome_iff byId distinct second).mpr ⟨later, also, hasLater⟩
  exact Option.some.inj (found.symm.trans again)

theorem vrIdValue_mem (found : attrs.findSome? RifAttr.vrIdValue = some vrId) : .virtualRouterId vrId ∈ attrs := by
  obtain ⟨attr, member, has⟩ := List.exists_of_findSome?_eq_some found
  cases attr <;> cases has
  exact member

theorem typeValue_mem (found : attrs.findSome? RifAttr.typeValue = some rifType) : .type rifType ∈ attrs := by
  obtain ⟨attr, member, has⟩ := List.exists_of_findSome?_eq_some found
  cases attr <;> cases has
  exact member

theorem portIdValue_mem {portId : ObjectId} (found : attrs.findSome? RifAttr.portIdValue = some portId) :
    .portId portId ∈ attrs := by
  obtain ⟨attr, member, has⟩ := List.exists_of_findSome?_eq_some found
  cases attr <;> cases has
  exact member

theorem vlanIdValue_mem {vlanId : BitVec 16} (found : attrs.findSome? RifAttr.vlanIdValue = some vlanId) :
    .vlanId vlanId ∈ attrs := by
  obtain ⟨attr, member, has⟩ := List.exists_of_findSome?_eq_some found
  cases attr <;> cases has
  exact member

theorem portIdValue_none_iff : attrs.findSome? RifAttr.portIdValue = none ↔ ∀ portId, .portId portId ∉ attrs := by
  rw [List.findSome?_eq_none_iff]
  constructor
  · exact fun absent portId member => nomatch absent _ member
  · intro absent attr member
    cases attr <;> first | rfl | exact absurd member (absent _)

theorem vlanIdValue_none_iff : attrs.findSome? RifAttr.vlanIdValue = none ↔ ∀ vlanId, .vlanId vlanId ∉ attrs := by
  rw [List.findSome?_eq_none_iff]
  constructor
  · exact fun absent vlanId member => nomatch absent _ member
  · intro absent attr member
    cases attr <;> first | rfl | exact absurd member (absent _)

/-- The checks after the loop find nothing missing. -/
structure RifParse.Complete (parse : RifParse) : Prop where
  attached : parse.isPortSet = true ∨ parse.isVlanSet = true
  router : parse.isVrfSet = true
  typed : parse.type ≠ .none

theorem RifParse.complete_iff : parse.Complete ↔
    ¬ (parse.isPortSet = false ∧ parse.isVlanSet = false ∨ parse.isVrfSet = false ∨ parse.type = .none) := by
  constructor
  · rintro ⟨attached, router, typed⟩ (⟨noPort, noVlan⟩ | noRouter | untyped)
    · rw [noPort, noVlan] at attached
      simp at attached
    · rw [noRouter] at router
      cases router
    · exact typed untyped
  · intro all
    push Not at all
    refine ⟨?_, Bool.eq_true_of_not_eq_false all.2.1, all.2.2⟩
    cases isPort : parse.isPortSet with
    | true => exact .inl rfl
    | false => exact .inr (Bool.eq_true_of_not_eq_false (all.1 isPort))

theorem RifAttrsAccepted.good (distinct : RifAttrsDistinct attrs) (accepted : RifAttrsAccepted p s vlanCreated attrs) :
    RifAttrsGood p s vlanCreated attrs := by
  obtain ⟨⟨vrId, hasRouter, isVr, stored⟩, attached, optional⟩ := accepted
  have typeIs : ∀ rifType, .type rifType ∈ attrs → attrs.findSome? RifAttr.typeValue = some rifType :=
    fun rifType member => (findSome_iff typeValue_byId distinct rifType).mpr ⟨_, member, rfl⟩
  refine ⟨?_, ?_⟩
  · intro attr member
    cases attr with
    | virtualRouterId given =>
      have same : given = vrId := distinct.one vrIdValue_byId member hasRouter rfl rfl
      rw [same]
      exact ⟨isVr, stored⟩
    | type rifType =>
      rcases attached with ⟨typed, -⟩ | ⟨typed, -⟩
      · exact .inl (distinct.one typeValue_byId member typed rfl rfl)
      · exact .inr (distinct.one typeValue_byId member typed rfl rfl)
    | portId given =>
      rcases attached with ⟨-, ⟨portId, hasPort, present⟩, -⟩ | ⟨-, -, noPort⟩
      · have same : given = portId := distinct.one portIdValue_byId member hasPort rfl rfl
        rw [same]
        exact present
      · exact absurd member (noPort given)
    | vlanId given =>
      rcases attached with ⟨-, -, noVlan⟩ | ⟨-, ⟨vlanId, hasVlan, valid, created⟩, -⟩
      · exact absurd member (noVlan given)
      have same : given = vlanId := distinct.one vlanIdValue_byId member hasVlan rfl rfl
      rw [same]
      exact ⟨valid, created⟩
    | srcMacAddress mac => exact fun zero => (optional _ member).2 (by rw [zero])
    | adminV4State => exact trivial
    | adminV6State => exact trivial
    | mtu => exact trivial
    | other => exact (optional _ member).1 rfl
  · rcases attached with ⟨typed, -, noVlan⟩ | ⟨typed, -, noPort⟩
    · have absent := vlanIdValue_none_iff.mpr noVlan
      refine ⟨.inr absent, ?_, fun _ => absent⟩
      intro isVlan
      rw [typeIs _ typed] at isVlan
      cases isVlan
    · have absent := portIdValue_none_iff.mpr noPort
      refine ⟨.inl absent, fun _ => absent, ?_⟩
      intro isPort
      rw [typeIs _ typed] at isPort
      cases isPort

theorem RifAttrsAccepted.complete (distinct : RifAttrsDistinct attrs)
    (accepted : RifAttrsAccepted p s vlanCreated attrs) : (rifParseOf p defaults attrs).Complete := by
  obtain ⟨⟨vrId, hasRouter, -⟩, attached, -⟩ := accepted
  have router := (findSome_iff vrIdValue_byId distinct vrId).mpr ⟨_, hasRouter, rfl⟩
  unfold rifParseOf
  rcases attached with ⟨typed, ⟨portId, hasPort, -⟩, -⟩ | ⟨typed, ⟨vlanId, hasVlan, -⟩, -⟩
  · have isType := (findSome_iff typeValue_byId distinct .port).mpr ⟨_, typed, rfl⟩
    have port := (findSome_iff portIdValue_byId distinct portId).mpr ⟨_, hasPort, rfl⟩
    exact ⟨.inl (by rw [port]; rfl), by rw [router]; rfl, by rw [isType]; exact RifType.noConfusion⟩
  · have isType := (findSome_iff typeValue_byId distinct .vlan).mpr ⟨_, typed, rfl⟩
    have vlan := (findSome_iff vlanIdValue_byId distinct vlanId).mpr ⟨_, hasVlan, rfl⟩
    exact ⟨.inr (by rw [vlan]; rfl), by rw [router]; rfl, by rw [isType]; exact RifType.noConfusion⟩

theorem RifAttrsGood.accepted (good : RifAttrsGood p s vlanCreated attrs)
    (complete : (rifParseOf p defaults attrs).Complete) : RifAttrsAccepted p s vlanCreated attrs := by
  obtain ⟨valid, agree⟩ := good
  obtain ⟨attached, router, typed⟩ := complete
  obtain ⟨vrId, hasRouter⟩ := Option.isSome_iff_exists.mp router
  have routerIn := vrIdValue_mem hasRouter
  refine ⟨⟨vrId, routerIn, valid _ routerIn⟩, ?_, ?_⟩
  · cases isType : attrs.findSome? RifAttr.typeValue with
    | none => exact absurd (congrArg (·.getD RifType.none) isType) typed
    | some rifType =>
      have typeIn := typeValue_mem isType
      rcases valid _ typeIn with rfl | rfl
      · have noVlan := agree.vlan isType
        refine .inl ⟨typeIn, ?_, vlanIdValue_none_iff.mp noVlan⟩
        rcases attached with isPort | isVlan
        · obtain ⟨portId, hasPort⟩ := Option.isSome_iff_exists.mp isPort
          exact ⟨portId, portIdValue_mem hasPort, valid _ (portIdValue_mem hasPort)⟩
        · exact absurd noVlan (Option.isSome_iff_ne_none.mp isVlan)
      · have noPort := agree.port isType
        refine .inr ⟨typeIn, ?_, portIdValue_none_iff.mp noPort⟩
        rcases attached with isPort | isVlan
        · exact absurd noPort (Option.isSome_iff_ne_none.mp isPort)
        · obtain ⟨vlanId, hasVlan⟩ := Option.isSome_iff_exists.mp isVlan
          exact ⟨vlanId, vlanIdValue_mem hasVlan, valid _ (vlanIdValue_mem hasVlan)⟩
  · intro attr member
    refine ⟨?_, ?_⟩ <;> rintro rfl
    · exact valid _ member
    · exact valid _ member rfl

/-- What goes through the loop and the checks after it is what an accepted list holds. -/
theorem rifAttrsAccepted_iff (distinct : RifAttrsDistinct attrs) : RifAttrsAccepted p s vlanCreated attrs ↔
      RifAttrsGood p s vlanCreated attrs ∧ (rifParseOf p defaults attrs).Complete :=
  ⟨fun accepted => ⟨accepted.good distinct, accepted.complete distinct⟩, fun both => both.1.accepted both.2⟩

theorem fibRifAttributesParse_iff {env : RifCreateEnv}
    (validated : ∀ index, env.validate index = .success) (distinct : RifAttrsDistinct attrs) :
    fibRifAttributesParse p s defaults attrs env = .ok rif ↔
      (RifAttrsAccepted p s env.vlanCreated attrs ∧
        ∀ rifId stored, s.routerInterfaceTree.get rifId = some stored →
        ¬ RifAlike (rifOfAttrs p s defaults attrs) stored) ∧ rif = rifOfAttrs p s defaults attrs := by
  have loop := fun parse => @fibRifAttributesLoop_iff parse p s defaults [] env attrs 0 validated .nil distinct
  rw [List.nil_append] at loop
  have accepted := @rifAttrsAccepted_iff p s defaults env.vlanCreated attrs distinct
  rw [accepted, ← fibRifIsDuplicate_iff, RifParse.complete_iff]
  unfold fibRifAttributesParse
  dsimp only
  rw [← rifParseOf_nil]
  cases parsed : fibRifAttributesLoop p s env attrs 0 (rifParseOf p defaults []) with
  | error error =>
    refine iff_of_false (fun same => by cases same) ?_
    rintro ⟨⟨⟨good, -⟩, -⟩, -⟩
    have through := (loop _).mpr ⟨good, rfl⟩
    rw [parsed] at through
    cases through
  | ok parse =>
    obtain ⟨good, rfl⟩ := (loop parse).mp parsed
    dsimp only
    split
    · next missing => exact iff_of_false (fun same => (nomatch same)) fun all => all.1.1.2 missing
    next complete =>
    split
    · next duplicate =>
      refine iff_of_false (fun same => by cases same) ?_
      rintro ⟨⟨-, single⟩, -⟩
      exact Bool.eq_false_iff.mp single duplicate
    · next single =>
      constructor
      · intro same
        exact ⟨⟨⟨good, complete⟩, Bool.eq_false_iff.mpr single⟩, (Except.ok.inj same).symm⟩
      · exact fun all => congrArg Except.ok all.2.symm

theorem rifParseOf_perm (distinct : RifAttrsDistinct attrs) (moved : attrs.Perm attrs') :
    rifParseOf p defaults attrs = rifParseOf p defaults attrs' := by
  have distinct' := distinct.perm moved
  unfold rifParseOf
  rw [findSome_perm vrIdValue_byId distinct distinct' moved, findSome_perm typeValue_byId distinct distinct' moved,
    findSome_perm portIdValue_byId distinct distinct' moved, findSome_perm vlanIdValue_byId distinct distinct' moved,
    findSome_perm macValue_byId distinct distinct' moved, findSome_perm v4StateValue_byId distinct distinct' moved,
    findSome_perm v6StateValue_byId distinct distinct' moved, findSome_perm mtuValue_byId distinct distinct' moved]

theorem RifAttrsAccepted.perm (accepted : RifAttrsAccepted p s vlanCreated attrs)
    (moved : attrs.Perm attrs') : RifAttrsAccepted p s vlanCreated attrs' := by
  obtain ⟨router, attached, optional⟩ := accepted
  simp only [moved.mem_iff] at router attached optional
  exact ⟨router, attached, optional⟩

/-- A list of attributes with distinct ids and the same list in another order are accepted
alike and build the same node, and what is accepted is what is well formed and new. -/
theorem rifAttributesParse_exact {env : RifCreateEnv} {attrs' : List RifAttr}
    (validated : ∀ index, env.validate index = .success) (distinct : RifAttrsDistinct attrs)
    (moved : attrs.Perm attrs') : (∀ rif, fibRifAttributesParse p s defaults attrs env = .ok rif ↔
      fibRifAttributesParse p s defaults attrs' env = .ok rif) ∧
    ((∃ rif, fibRifAttributesParse p s defaults attrs env = .ok rif) ↔
      RifAttrsAccepted p s env.vlanCreated attrs ∧ ∀ rifId stored, s.routerInterfaceTree.get rifId = some stored →
        ¬ RifAlike (rifOfAttrs p s defaults attrs) stored) := by
  constructor
  · intro rif
    have sameNode : rifOfAttrs p s defaults attrs = rifOfAttrs p s defaults attrs' :=
      congrArg (fibRifInheritVrfAttributes s) (rifParseOf_perm distinct moved)
    have sameForm : RifAttrsAccepted p s env.vlanCreated attrs ↔ RifAttrsAccepted p s env.vlanCreated attrs' :=
      ⟨fun accepted => accepted.perm moved, fun accepted => accepted.perm moved.symm⟩
    rw [fibRifAttributesParse_iff validated distinct, fibRifAttributesParse_iff validated (distinct.perm moved),
      sameNode, sameForm]
  · constructor
    · rintro ⟨rif, parsed⟩
      exact ((fibRifAttributesParse_iff validated distinct).mp parsed).1
    · intro accepted
      exact ⟨_, (fibRifAttributesParse_iff validated distinct).mpr ⟨accepted, rfl⟩⟩

end Lists

section Sample

def rifSampleAttrs : List RifAttr :=
  [.virtualRouterId ⟨.virtualRouter, 1⟩, .type .port, .portId ⟨.port, 1⟩]

/-- The attachment comes before the type and the MAC last. -/
theorem rifSampleAttrs_exact :
    (∀ rif, fibRifAttributesParse fibSamplePlatform (rifSampleVrf.step fibSamplePlatform fibSample)
        ⟨true, true, 1500, .forward⟩ (rifSampleAttrs ++ [.srcMacAddress 7])
        ⟨true, fun _ => true, fun _ => .success,
          .success, 1, true⟩ = .ok rif ↔
      fibRifAttributesParse fibSamplePlatform (rifSampleVrf.step fibSamplePlatform fibSample)
        ⟨true, true, 1500, .forward⟩ (rifSampleAttrs.reverse ++ [.srcMacAddress 7]) ⟨true, fun _ => true,
          fun _ => .success, .success, 1, true⟩ = .ok rif) ∧
    ((∃ rif, fibRifAttributesParse fibSamplePlatform (rifSampleVrf.step fibSamplePlatform fibSample)
        ⟨true, true, 1500, .forward⟩ (rifSampleAttrs ++ [.srcMacAddress 7])
        ⟨true, fun _ => true, fun _ => .success,
          .success, 1, true⟩ = .ok rif) ↔
      RifAttrsAccepted fibSamplePlatform (rifSampleVrf.step fibSamplePlatform fibSample) (fun _ => true)
        (rifSampleAttrs ++ [.srcMacAddress 7]) ∧
      ∀ rifId stored, (rifSampleVrf.step fibSamplePlatform fibSample).routerInterfaceTree.get rifId = some stored →
        ¬ RifAlike (rifOfAttrs fibSamplePlatform (rifSampleVrf.step fibSamplePlatform fibSample)
          ⟨true, true, 1500, .forward⟩ (rifSampleAttrs ++ [.srcMacAddress 7])) stored) :=
  rifAttributesParse_exact (fun _ => rfl) (by unfold RifAttrsDistinct; decide)
    ((List.reverse_perm rifSampleAttrs).symm.append_right _)

end Sample

end SaiCommon
