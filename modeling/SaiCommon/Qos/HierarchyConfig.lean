import SaiCommon.Base
import Mathlib.Data.List.Basic

namespace SaiCommon

variable {numSchedGrps : Nat} {met : List HqosGroupNode}

/-- A node below a scheduler group of the configuration, with its attributes. -/
inductive HqosChildNode
  | childSchedGrp (childLevel index : Nat)
  | childQueue (queueNumber queueType : Nat)
  | other
deriving DecidableEq

structure HqosGroupNode where
  index : Nat
  numChild : Nat
  children : List HqosChildNode
deriving DecidableEq

structure HqosLevelNode where
  level : Nat
  numSchedGrps : Nat
  groups : List HqosGroupNode
deriving DecidableEq

structure HqosConfig where
  numLevels : Nat
  levels : List HqosLevelNode
deriving DecidableEq

inductive HqosChildKind
  | scheduler
  | queue
deriving DecidableEq

/-- An entry of `child_info`; without a type while it is zeroed. -/
structure HqosChildInfo where
  level : Nat
  childIndex : Nat
  queueType : Nat
  type : Option HqosChildKind
deriving DecidableEq

def HqosChildInfo.zero : HqosChildInfo := ⟨0, 0, 0, none⟩

/-- An entry of `sg_info`; `childInfo` is none while the pointer is NULL. -/
structure HqosSgInfo where
  childInfo : Option (List HqosChildInfo)
  nodeId : Nat
  numChildren : Nat
  schedMode : Nat
deriving DecidableEq

def HqosSgInfo.zero : HqosSgInfo := ⟨none, 0, 0, 0⟩

structure HqosLevelInfo where
  sgInfo : Option (List HqosSgInfo)
  level : Nat
  numSgGroups : Nat
deriving DecidableEq

def HqosLevelInfo.zero : HqosLevelInfo := ⟨none, 0, 0⟩

/-- Whether an allocation succeeds; groups and children are named by the places
of their nodes. -/
structure HqosAlloc where
  levelInfo : Bool
  sgInfo : Nat → Bool
  childInfo : Nat → Nat → Bool

/-- The parser ends with a status, or with an access outside an array. -/
inductive HqosError
  | status (status : SaiStatus)
  | outOfBounds
deriving DecidableEq

/-- A node of another name is counted and not read. -/
def HqosChildNode.writes : HqosChildNode → Bool
  | .other => false
  | _ => true

def HqosChildNode.fill (info : HqosChildInfo) : HqosChildNode → HqosChildInfo
  | .childSchedGrp childLevel index => { info with level := childLevel, childIndex := index, type := some .scheduler }
  | .childQueue queueNumber queueType =>
    { info with queueType := queueType, childIndex := queueNumber, type := some .queue }
  | .other => info

/-- `sai_qos_child_info_update`, from the child at a place on. -/
def hqosChildInfoUpdate (maxChildCount place : Nat) (childInfo : List HqosChildInfo) :
    List HqosChildNode → Except HqosError (List HqosChildInfo)
  | [] => .ok childInfo
  | child :: rest =>
    if maxChildCount ≤ place then .ok childInfo
    else if child.writes = false then hqosChildInfoUpdate maxChildCount (place + 1) childInfo rest
    else match childInfo[place]? with
      | none => .error .outOfBounds
      | some info => hqosChildInfoUpdate maxChildCount (place + 1) (childInfo.set place (child.fill info)) rest

/-- `sai_qos_sg_info_update`, from the group at a place on. The children are
allocated for the entry at the place of the group, and looked up and written in
the entry at its index. -/
def hqosSgInfoUpdate (alloc : Nat → Bool) (maxSchedulerGroups place : Nat) (sgInfo : List HqosSgInfo) :
    List HqosGroupNode → Except HqosError (List HqosSgInfo)
  | [] => .ok sgInfo
  | node :: rest =>
    if maxSchedulerGroups ≤ place then .ok sgInfo
    else
      let sgInfo := sgInfo.modify place fun entry =>
        { entry with childInfo := if alloc place then some (List.replicate node.numChild .zero) else none }
      match sgInfo[node.index]? with
      | none => .error .outOfBounds
      | some entry =>
        match entry.childInfo with
        | none => .error (.status .noMemory)
        | some childInfo =>
          let sgInfo := sgInfo.modify place fun entry =>
            { entry with nodeId := node.index, numChildren := node.numChild, schedMode := 0 }
          match hqosChildInfoUpdate node.numChild 0 childInfo node.children with
          | .error error => .error error
          | .ok childInfo =>
            let sgInfo := sgInfo.modify node.index fun entry => { entry with childInfo := some childInfo }
            hqosSgInfoUpdate alloc maxSchedulerGroups (place + 1) sgInfo rest

/-- The loop over the levels of `sai_qos_hierarchy_handler`. -/
def hqosLevelLoop (alloc : HqosAlloc) (place : Nat) (levelInfo : List HqosLevelInfo) :
    List HqosLevelNode → Except HqosError (List HqosLevelInfo)
  | [] => .ok levelInfo
  | node :: rest =>
    if levelInfo.length ≤ node.level then .error .outOfBounds
    else if alloc.sgInfo place = false then .error (.status .noMemory)
    else match hqosSgInfoUpdate (alloc.childInfo place) node.numSchedGrps 0
        (List.replicate node.numSchedGrps .zero) node.groups with
      | .error error => .error error
      | .ok sgInfo =>
        hqosLevelLoop alloc (place + 1) (levelInfo.set node.level ⟨some sgInfo, node.level, node.numSchedGrps⟩) rest

def hqosHierarchyHandler (alloc : HqosAlloc) (config : HqosConfig) : Except HqosError (List HqosLevelInfo) :=
  if alloc.levelInfo = false then .error (.status .noMemory)
  else hqosLevelLoop alloc 0 (List.replicate config.numLevels .zero) config.levels

def HqosAlloc.enough : HqosAlloc := ⟨true, fun _ => true, fun _ _ => true⟩

/-- What is wrong with a group: it comes before the group whose entry has its
index, or what it accesses lies outside. -/
inductive HqosDefect
  | early
  | outside
deriving DecidableEq

/-- `met` are the groups up to this one, each with children allocated for it. -/
def HqosGroupNode.defect (node : HqosGroupNode) (numSchedGrps : Nat) (met : List HqosGroupNode) :
    Option HqosDefect :=
  if numSchedGrps ≤ node.index then some .outside
  else match met[node.index]? with
    | none => some .early
    | some owner =>
      if ((node.children.take node.numChild).drop owner.numChild).any HqosChildNode.writes then some .outside
      else none

/-- The first defect among the groups that are read. -/
def hqosGroupsDefect (numSchedGrps : Nat) (met : List HqosGroupNode) : List HqosGroupNode → Option HqosDefect
  | [] => none
  | node :: rest =>
    if numSchedGrps ≤ met.length then none
    else (node.defect numSchedGrps (met ++ [node])).or (hqosGroupsDefect numSchedGrps (met ++ [node]) rest)

def HqosLevelNode.defect (numLevels : Nat) (node : HqosLevelNode) : Option HqosDefect :=
  if numLevels ≤ node.level then some .outside else hqosGroupsDefect node.numSchedGrps [] node.groups

/-- The first defect of the configuration in the order of its nodes. -/
def HqosConfig.defect (config : HqosConfig) : Option HqosDefect :=
  config.levels.findSome? (HqosLevelNode.defect config.numLevels)

/-- The children that are read are written, unless one of them lies behind the
entries that are there. -/
theorem hqosChildInfoUpdate_ends {maxChildCount place : Nat} {childInfo : List HqosChildInfo}
    (children : List HqosChildNode) :
    (((children.take (maxChildCount - place)).drop (childInfo.length - place)).any HqosChildNode.writes = false ∧
      ∃ written, hqosChildInfoUpdate maxChildCount place childInfo children = .ok written ∧
        written.length = childInfo.length) ∨
    (((children.take (maxChildCount - place)).drop (childInfo.length - place)).any HqosChildNode.writes = true ∧
      hqosChildInfoUpdate maxChildCount place childInfo children = .error .outOfBounds) := by
  induction children generalizing place childInfo with
  | nil => exact Or.inl ⟨by simp, childInfo, rfl, rfl⟩
  | cons child rest ih =>
    unfold hqosChildInfoUpdate
    by_cases ended : maxChildCount ≤ place
    · rw [if_pos ended, show maxChildCount - place = 0 by omega]
      exact Or.inl ⟨by simp, childInfo, rfl, rfl⟩
    rw [if_neg ended, show maxChildCount - place = maxChildCount - (place + 1) + 1 by omega, List.take_succ_cons]
    by_cases inside : place < childInfo.length
    · rw [show childInfo.length - place = childInfo.length - (place + 1) + 1 by omega, List.drop_succ_cons]
      by_cases skipped : child.writes = false
      · rw [if_pos skipped]
        exact ih
      rw [if_neg skipped, List.getElem?_eq_getElem inside]
      have next := @ih (place + 1) (childInfo.set place (child.fill childInfo[place]))
      rw [List.length_set] at next
      exact next
    · have behind := @ih (place + 1) childInfo
      rw [show childInfo.length - (place + 1) = 0 by omega, List.drop_zero] at behind
      rw [show childInfo.length - place = 0 by omega, List.drop_zero, List.any_cons]
      by_cases skipped : child.writes = false
      · rw [if_pos skipped, skipped, Bool.false_or]
        exact behind
      · rw [if_neg skipped, List.getElem?_eq_none (by omega)]
        have writes : child.writes = true := Bool.not_eq_false _ ▸ skipped
        exact Or.inr ⟨by rw [writes]; rfl, rfl⟩

theorem hqosChildInfoUpdate_fills {filled : List HqosChildInfo} (children : List HqosChildNode) :
    hqosChildInfoUpdate (filled.length + children.length) filled.length
      (filled ++ List.replicate children.length .zero) children =
      .ok (filled ++ children.map (HqosChildNode.fill .zero)) := by
  induction children generalizing filled with
  | nil => rfl
  | cons child rest ih =>
    have next := @ih (filled ++ [child.fill .zero])
    rw [List.length_append, List.length_singleton, List.append_assoc, List.append_assoc] at next
    unfold hqosChildInfoUpdate
    rw [if_neg (by simp), List.length_cons, List.replicate_succ, List.map_cons,
      show filled.length + (rest.length + 1) = filled.length + 1 + rest.length by omega]
    by_cases skipped : child.writes = false
    · have same : child.fill .zero = .zero := by
        cases child with
        | other => rfl
        | _ => cases skipped
      rw [if_pos skipped]
      rw [same] at next ⊢
      exact next
    · rw [if_neg skipped, List.getElem?_append_right (Nat.le_refl _), Nat.sub_self, List.getElem?_cons_zero]
      dsimp only
      rw [List.set_append_right _ _ (Nat.le_refl _), Nat.sub_self, List.set_cons_zero]
      exact next

/-- What the entries hold while the groups `met` have been read: the children of a
group are allocated at its place. -/
structure HqosEntries (numSchedGrps : Nat) (met : List HqosGroupNode) (sgInfo : List HqosSgInfo) : Prop where
  length : sgInfo.length = numSchedGrps
  fits : met.length ≤ numSchedGrps
  children : ∀ j : Nat, ((sgInfo[j]?).bind HqosSgInfo.childInfo).map List.length =
    (met[j]?).map HqosGroupNode.numChild

theorem HqosEntries.zero (numSchedGrps : Nat) : HqosEntries numSchedGrps [] (List.replicate numSchedGrps .zero) := by
  refine ⟨List.length_replicate, Nat.zero_le _, fun j => ?_⟩
  rw [List.getElem?_replicate]
  split <;> rfl

section
variable {sgInfo : List HqosSgInfo} (entries : HqosEntries numSchedGrps met sgInfo)
include entries

theorem HqosEntries.alloc (node : HqosGroupNode) (more : met.length < numSchedGrps) :
    HqosEntries numSchedGrps (met ++ [node]) (sgInfo.modify met.length fun entry =>
      { entry with childInfo := some (List.replicate node.numChild .zero) }) := by
  have length := entries.length
  refine ⟨by rw [List.length_modify, length], by rw [List.length_append]; exact more, fun j => ?_⟩
  by_cases here : met.length = j
  · have inside : j < sgInfo.length := by omega
    subst here
    rw [List.getElem?_modify_eq, List.getElem?_eq_getElem inside, List.getElem?_concat_length]
    simp
  · have same := entries.children j
    rw [List.getElem?_modify_ne _ _ here, same, List.getElem?_append]
    split
    · rfl
    · rw [List.getElem?_eq_none (by omega), List.getElem?_eq_none (by simp; omega)]

theorem HqosEntries.modify {place : Nat} {change : HqosSgInfo → HqosSgInfo}
    (kept : ∀ entry, sgInfo[place]? = some entry →
      (change entry).childInfo.map List.length = entry.childInfo.map List.length) :
    HqosEntries numSchedGrps met (sgInfo.modify place change) := by
  refine ⟨by rw [List.length_modify, entries.length], entries.fits, fun j => ?_⟩
  rw [← entries.children j]
  by_cases here : place = j
  · subst here
    rw [List.getElem?_modify_eq]
    cases found : sgInfo[place]? with
    | none => rfl
    | some entry => exact kept entry found
  · rw [List.getElem?_modify_ne _ _ here]

end

/-- How the parser ends with a first defect or without one. -/
def HqosEnds {α : Type} (result : Except HqosError α) : Option HqosDefect → Prop
  | none => ∃ table, result = .ok table
  | some .early => result = .error (.status .noMemory)
  | some .outside => result = .error .outOfBounds

theorem hqosSgInfoUpdate_ends {sgInfo : List HqosSgInfo}
    (entries : HqosEntries numSchedGrps met sgInfo) (groups : List HqosGroupNode) :
    HqosEnds (hqosSgInfoUpdate (fun _ => true) numSchedGrps met.length sgInfo groups)
      (hqosGroupsDefect numSchedGrps met groups) := by
  induction groups generalizing met sgInfo with
  | nil => exact ⟨sgInfo, rfl⟩
  | cons node rest ih =>
    unfold hqosSgInfoUpdate hqosGroupsDefect
    by_cases full : numSchedGrps ≤ met.length
    · rw [if_pos full, if_pos full]
      exact ⟨sgInfo, rfl⟩
    rw [if_neg full, if_neg full]
    have allocated := entries.alloc node (by omega)
    simp only [↓reduceIte]
    generalize sgInfo.modify met.length (fun entry =>
      { entry with childInfo := some (List.replicate node.numChild .zero) }) = next at allocated ⊢
    have length := allocated.length
    have children := allocated.children node.index
    unfold HqosGroupNode.defect
    by_cases outside : numSchedGrps ≤ node.index
    · rw [if_pos outside, List.getElem?_eq_none (by omega)]
      exact rfl
    rw [if_neg outside, List.getElem?_eq_getElem (by omega)]
    rw [List.getElem?_eq_getElem (by omega : node.index < next.length), Option.bind_some] at children
    dsimp only
    cases owned : next[node.index].childInfo with
    | none =>
      rw [owned] at children
      rw [Option.map_eq_none_iff.mp children.symm]
      exact rfl
    | some childInfo =>
      rw [owned] at children
      obtain ⟨owner, early, size⟩ := Option.map_eq_some_iff.mp children.symm
      rw [early]
      dsimp only
      rcases @hqosChildInfoUpdate_ends node.numChild 0 childInfo node.children with
        ⟨inside, written, filled, same⟩ | ⟨behind, error⟩
      · rw [Nat.sub_zero, Nat.sub_zero, ← size] at inside
        rw [filled, inside]
        have numbered := @HqosEntries.modify numSchedGrps _ _ allocated met.length (fun entry =>
          { entry with nodeId := node.index, numChildren := node.numChild, schedMode := 0 }) (fun _ _ => rfl)
        have complete := @HqosEntries.modify numSchedGrps _ _ numbered node.index
          (fun entry => { entry with childInfo := some written }) (by
            intro entry found
            have held := numbered.children node.index
            rw [found, early] at held
            rw [Option.bind_some] at held
            rw [held, Option.map_some, Option.map_some, same, size])
        have later := ih complete
        rw [List.length_append, List.length_singleton] at later
        exact later
      · rw [Nat.sub_zero, Nat.sub_zero, ← size] at behind
        rw [error, behind]
        exact rfl

theorem hqosLevelLoop_ends (place : Nat) (levelInfo : List HqosLevelInfo) (nodes : List HqosLevelNode) :
    HqosEnds (hqosLevelLoop .enough place levelInfo nodes)
      (nodes.findSome? (HqosLevelNode.defect levelInfo.length)) := by
  induction nodes generalizing place levelInfo with
  | nil => exact ⟨levelInfo, rfl⟩
  | cons node rest ih =>
    unfold hqosLevelLoop HqosLevelNode.defect
    by_cases outside : levelInfo.length ≤ node.level
    · rw [if_pos outside, List.findSome?_cons, if_pos outside]
      exact rfl
    rw [if_neg outside, List.findSome?_cons, if_neg outside]
    have groups := hqosSgInfoUpdate_ends (.zero node.numSchedGrps) node.groups
    rw [List.length_nil] at groups
    have next : ∀ sgInfo, HqosEnds (hqosLevelLoop .enough (place + 1)
        (levelInfo.set node.level ⟨some sgInfo, node.level, node.numSchedGrps⟩) rest)
        (rest.findSome? (HqosLevelNode.defect levelInfo.length)) := by
      intro sgInfo
      have later := ih (place + 1) (levelInfo.set node.level ⟨some sgInfo, node.level, node.numSchedGrps⟩)
      rw [List.length_set] at later
      exact later
    dsimp only [HqosAlloc.enough]
    cases found : hqosGroupsDefect node.numSchedGrps [] node.groups with
    | none =>
      rw [found] at groups
      obtain ⟨sgInfo, done⟩ := groups
      rw [done]
      exact next sgInfo
    | some defect =>
      rw [found] at groups
      cases defect with
      | early => rw [groups]; exact rfl
      | outside => rw [groups]; exact rfl

theorem hqosHierarchyHandler_ends (config : HqosConfig) :
    HqosEnds (hqosHierarchyHandler .enough config) config.defect := by
  have levels := hqosLevelLoop_ends 0 (List.replicate config.numLevels .zero) config.levels
  rw [List.length_replicate] at levels
  exact levels

theorem hqosHierarchyHandler_ok_iff (config : HqosConfig) :
    (∃ table, hqosHierarchyHandler .enough config = .ok table) ↔ config.defect = none := by
  have ends := hqosHierarchyHandler_ends config
  cases found : config.defect with
  | none =>
    rw [found] at ends
    exact iff_of_true ends rfl
  | some defect =>
    refine iff_of_false ?_ (Option.some_ne_none _)
    rintro ⟨table, ok⟩
    rw [found, ok] at ends
    cases defect <;> cases ends

theorem hqosHierarchyHandler_status_iff (config : HqosConfig) :
    (∃ status, hqosHierarchyHandler .enough config = .error (.status status)) ↔ config.defect = some .early := by
  have ends := hqosHierarchyHandler_ends config
  cases found : config.defect with
  | none =>
    rw [found] at ends
    obtain ⟨table, ok⟩ := ends
    refine iff_of_false ?_ (fun none => by cases none)
    rintro ⟨status, error⟩
    rw [ok] at error
    cases error
  | some defect =>
    rw [found] at ends
    cases defect with
    | early => exact iff_of_true ⟨.noMemory, ends⟩ rfl
    | outside =>
      refine iff_of_false ?_ (fun early => by cases early)
      rintro ⟨status, error⟩
      rw [show hqosHierarchyHandler .enough config = .error .outOfBounds from ends] at error
      cases error

/-- The levels, groups and children that the configuration names are declared;
`maxQueues` is the number of queues of a port. -/
def HqosChildNode.InRange (maxQueues : Nat) (config : HqosConfig) : HqosChildNode → Prop
  | .childSchedGrp childLevel index => childLevel < config.numLevels ∧
    ∃ node ∈ config.levels, node.level = childLevel ∧ index < node.numSchedGrps
  | .childQueue queueNumber _ => queueNumber < maxQueues
  | .other => True

structure HqosConfig.InRange (maxQueues : Nat) (config : HqosConfig) : Prop where
  level : ∀ node ∈ config.levels, node.level < config.numLevels
  group : ∀ node ∈ config.levels, ∀ group ∈ node.groups, group.index < node.numSchedGrps
  child : ∀ node ∈ config.levels, ∀ group ∈ node.groups, ∀ child ∈ group.children,
    child.InRange maxQueues config

/-- Every level is described once, and the counts are those of the nodes. -/
structure HqosConfig.WellFormed (maxQueues : Nat) (config : HqosConfig) : Prop where
  inRange : config.InRange maxQueues
  once : (config.levels.map HqosLevelNode.level).Nodup
  groups : ∀ node ∈ config.levels, node.groups.length = node.numSchedGrps
  distinct : ∀ node ∈ config.levels, (node.groups.map HqosGroupNode.index).Nodup
  children : ∀ node ∈ config.levels, ∀ group ∈ node.groups, group.children.length = group.numChild

/-- The table has what the configuration gives each of its groups, in the entry
with the index of the group. -/
structure HqosReads (config : HqosConfig) (table : List HqosLevelInfo) : Prop where
  length : table.length = config.numLevels
  levels : ∀ node ∈ config.levels, ∃ sgInfo,
    table[node.level]? = some ⟨some sgInfo, node.level, node.numSchedGrps⟩ ∧ sgInfo.length = node.numSchedGrps ∧
    ∀ group ∈ node.groups, (∃ entry ∈ sgInfo, entry.nodeId = group.index) ∧
      ∀ entry ∈ sgInfo, entry.nodeId = group.index → entry.numChildren = group.numChild ∧
        entry.childInfo = some (group.children.map (HqosChildNode.fill .zero))

/-- The groups of each level stand in the order of their indices. -/
def HqosConfig.Ordered (config : HqosConfig) : Prop :=
  ∀ node ∈ config.levels, node.groups.map HqosGroupNode.index = List.range node.groups.length

def HqosGroupNode.entry (group : HqosGroupNode) : HqosSgInfo :=
  ⟨some (group.children.map (HqosChildNode.fill .zero)), group.index, group.numChild, 0⟩

theorem modify_length_append {α : Type} (front back : List α) (x : α) (f : α → α) :
    (front ++ x :: back).modify front.length f = front ++ f x :: back := by
  induction front with
  | nil => rfl
  | cons y front ih =>
    rw [List.cons_append, List.length_cons, List.modify_succ_cons, ih]
    rfl

theorem hqosSgInfoUpdate_ordered {met : List HqosSgInfo} (groups : List HqosGroupNode)
    (ordered : groups.map HqosGroupNode.index = List.range' met.length groups.length)
    (children : ∀ group ∈ groups, group.children.length = group.numChild) :
    hqosSgInfoUpdate (fun _ => true) (met.length + groups.length) met.length
      (met ++ List.replicate groups.length .zero) groups = .ok (met ++ groups.map HqosGroupNode.entry) := by
  induction groups generalizing met with
  | nil => rfl
  | cons node rest ih =>
    rw [List.map_cons, List.length_cons, List.range'_succ] at ordered
    obtain ⟨here, later⟩ := List.cons.inj ordered
    have next := @ih (met ++ [node.entry]) (by rw [List.length_append, List.length_singleton]; exact later)
      (fun group member => children group (List.mem_cons_of_mem _ member))
    rw [List.length_append, List.length_singleton, List.append_assoc, List.append_assoc] at next
    have filled := @hqosChildInfoUpdate_fills [] node.children
    rw [List.length_nil, Nat.zero_add, children node (List.mem_cons_self ..), List.nil_append,
      List.nil_append] at filled
    unfold hqosSgInfoUpdate
    rw [if_neg (by simp), List.length_cons, List.replicate_succ, List.map_cons,
      show met.length + (rest.length + 1) = met.length + 1 + rest.length by omega]
    dsimp only
    rw [modify_length_append, here, List.getElem?_append_right (Nat.le_refl _), Nat.sub_self, List.getElem?_cons_zero]
    simp only [↓reduceIte]
    rw [filled]
    dsimp only
    rw [modify_length_append, modify_length_append]
    have own :
      node.entry = ⟨some (node.children.map (HqosChildNode.fill .zero)), met.length, node.numChild, 0⟩ := by
      rw [HqosGroupNode.entry, here]
    rw [own] at next ⊢
    exact next

theorem hqosLevelLoop_reads {place : Nat} {levelInfo : List HqosLevelInfo} (nodes : List HqosLevelNode)
    (level : ∀ node ∈ nodes, node.level < levelInfo.length) (once : (nodes.map HqosLevelNode.level).Nodup)
    (groups : ∀ node ∈ nodes, node.groups.length = node.numSchedGrps)
    (ordered : ∀ node ∈ nodes, node.groups.map HqosGroupNode.index = List.range node.groups.length)
    (children : ∀ node ∈ nodes, ∀ group ∈ node.groups, group.children.length = group.numChild) :
    ∃ table, hqosLevelLoop .enough place levelInfo nodes = .ok table ∧ table.length = levelInfo.length ∧
      (∀ node ∈ nodes, table[node.level]? =
        some ⟨some (node.groups.map HqosGroupNode.entry), node.level, node.numSchedGrps⟩) ∧
      ∀ other, other ∉ nodes.map HqosLevelNode.level → table[other]? = levelInfo[other]? := by
  induction nodes generalizing place levelInfo with
  | nil => exact ⟨levelInfo, rfl, rfl, by simp, fun _ _ => rfl⟩
  | cons node rest ih =>
    have inside := level node (List.mem_cons_self ..)
    have read := @hqosSgInfoUpdate_ordered [] node.groups
      (by rw [List.length_nil, ← List.range_eq_range']; exact ordered node (List.mem_cons_self ..))
      (children node (List.mem_cons_self ..))
    rw [List.length_nil, Nat.zero_add, List.nil_append, List.nil_append, groups node (List.mem_cons_self ..)] at read
    change hqosSgInfoUpdate (HqosAlloc.enough.childInfo place) _ _ _ _ = _ at read
    unfold hqosLevelLoop
    rw [if_neg (by omega), if_neg (show ¬HqosAlloc.enough.sgInfo place = false from Bool.noConfusion), read]
    dsimp only
    rw [List.map_cons, List.nodup_cons] at once
    obtain ⟨table, done, length, rows, others⟩ := @ih (place + 1)
      (levelInfo.set node.level ⟨some (node.groups.map HqosGroupNode.entry), node.level, node.numSchedGrps⟩)
      (fun other member => by rw [List.length_set]; exact level other (List.mem_cons_of_mem _ member)) once.2
      (fun other member => groups other (List.mem_cons_of_mem _ member))
      (fun other member => ordered other (List.mem_cons_of_mem _ member))
      (fun other member => children other (List.mem_cons_of_mem _ member))
    refine ⟨table, done, by rw [length, List.length_set], ?_, ?_⟩
    · intro other member
      rcases List.mem_cons.mp member with rfl | member
      · rw [others _ once.1, List.getElem?_set_self inside]
      · exact rows other member
    · intro other absent
      rw [List.map_cons, List.mem_cons, not_or] at absent
      rw [others other absent.2, List.getElem?_set_ne (Ne.symm absent.1)]

theorem eq_range_of_le_place {places : List Nat} (distinct : places.Nodup)
    (early : ∀ (place : Nat) i, places[place]? = some i → i ≤ place) : places = List.range places.length := by
  have own : ∀ (place : Nat) i, places[place]? = some i → i = place := by
    intro place
    induction place using Nat.strong_induction_on with
    | _ place ih =>
      intro i found
      have least := early place i found
      by_contra differ
      have below : i < place := by omega
      obtain ⟨bound, value⟩ := List.getElem?_eq_some_iff.mp found
      have inside : i < places.length := by omega
      have same := ih i below places[i] (List.getElem?_eq_getElem inside)
      exact differ ((List.Nodup.getElem_inj_iff distinct).mp (same.trans value.symm))
  apply List.ext_getElem (by rw [List.length_range])
  intro place bound _
  rw [List.getElem_range]
  exact own place places[place] (List.getElem?_eq_getElem bound)

theorem hqosGroupsDefect_none {groups : List HqosGroupNode}
    (fits : met.length + groups.length ≤ numSchedGrps) (none : hqosGroupsDefect numSchedGrps met groups = none)
    (place i : Nat) (found : (groups.map HqosGroupNode.index)[place]? = some i) : i ≤ met.length + place := by
  induction groups generalizing met place with
  | nil => cases found
  | cons node rest ih =>
    rw [List.length_cons] at fits
    unfold hqosGroupsDefect at none
    rw [if_neg (by omega), Option.or_eq_none_iff] at none
    cases place with
    | zero =>
      obtain rfl : node.index = i := Option.some.inj found
      have checked := none.1
      unfold HqosGroupNode.defect at checked
      split at checked
      · cases checked
      cases owner : (met ++ [node])[node.index]? with
      | none => rw [owner] at checked; cases checked
      | some owner =>
        obtain ⟨bound, -⟩ := List.getElem?_eq_some_iff.mp owner
        rw [List.length_append, List.length_singleton] at bound
        omega
    | succ place =>
      have later := ih (by rw [List.length_append, List.length_singleton]; omega) none.2 place found
      rw [List.length_append, List.length_singleton] at later
      omega

section
variable {config : HqosConfig} {maxQueues : Nat} (formed : config.WellFormed maxQueues)
include formed

theorem HqosConfig.WellFormed.ordered (none : config.defect = none) : config.Ordered := by
  intro node member
  have whole := List.findSome?_eq_none_iff.mp none node member
  unfold HqosLevelNode.defect at whole
  rw [if_neg (by have level := formed.inRange.level node member; omega)] at whole
  have early := hqosGroupsDefect_none (by rw [List.length_nil, Nat.zero_add, formed.groups node member]) whole
  have range := eq_range_of_le_place (formed.distinct node member) (fun place i found => by
    have below := early place i found
    rw [List.length_nil, Nat.zero_add] at below
    exact below)
  rw [List.length_map] at range
  exact range

theorem HqosConfig.WellFormed.reads
    (ordered : config.Ordered) : ∃ table, hqosHierarchyHandler .enough config = .ok table ∧
    HqosReads config table := by
  obtain ⟨table, done, length, rows, -⟩ :=
    @hqosLevelLoop_reads 0 (List.replicate config.numLevels .zero) config.levels
    (fun node member => by rw [List.length_replicate]; exact formed.inRange.level node member) formed.once formed.groups
    ordered formed.children
  rw [List.length_replicate] at length
  refine ⟨table, done, length, fun node member => ⟨_, rows node member, ?_, fun group found => ⟨?_, ?_⟩⟩⟩
  · rw [List.length_map]
    exact formed.groups node member
  · exact ⟨group.entry, List.mem_map_of_mem found, rfl⟩
  · intro entry held named
    obtain ⟨other, member', rfl⟩ := List.mem_map.mp held
    obtain rfl : other = group := List.inj_on_of_nodup_map (formed.distinct node member) member' found named
    exact ⟨rfl, rfl⟩

end

/-- What the parser should do: read a well-formed configuration into the right
entries, and reject one that names something that is not declared. -/
structure HqosConfig.ReadRight (maxQueues : Nat) (config : HqosConfig) : Prop where
  reads : config.WellFormed maxQueues →
    ∃ table, hqosHierarchyHandler .enough config = .ok table ∧ HqosReads config table
  rejects : ¬config.InRange maxQueues → ∃ status, hqosHierarchyHandler .enough config = .error (.status status)

/-- A group is allocated at its place among the nodes, and looked up and written at
its index. So a well-formed configuration is read exactly when the two agree, and
what rejects a wrong one is only a group that comes too early. -/
theorem hqosConfig_readRight_iff (maxQueues : Nat) (config : HqosConfig) : config.ReadRight maxQueues ↔
    (config.WellFormed maxQueues → config.Ordered) ∧
    (¬config.InRange maxQueues → config.defect = some .early) := by
  constructor
  · intro right
    constructor
    · intro formed
      obtain ⟨table, done, -⟩ := right.reads formed
      exact formed.ordered ((hqosHierarchyHandler_ok_iff config).mp ⟨table, done⟩)
    · intro outside
      exact (hqosHierarchyHandler_status_iff config).mp (right.rejects outside)
  · rintro ⟨ordered, early⟩
    exact ⟨fun formed => formed.reads (ordered formed), fun outside =>
      (hqosHierarchyHandler_status_iff config).mpr (early outside)⟩

def hqosSwapped : HqosConfig where
  numLevels := 1
  levels := [⟨0, 2, [⟨1, 1, [.childQueue 1 0]⟩, ⟨0, 1, [.childQueue 0 0]⟩]⟩]

/-- A well-formed configuration is refused, and a level that is not declared is
written outside the levels. -/
theorem hqosConfig_not_readRight : ¬ (∀ maxQueues config, HqosConfig.WellFormed maxQueues config →
      ∃ table, hqosHierarchyHandler .enough config = .ok table ∧ HqosReads config table) ∧
    ¬ ∀ maxQueues config, ¬HqosConfig.InRange maxQueues config →
      ∃ status, hqosHierarchyHandler .enough config = .error (.status status) := by
  constructor
  · intro all
    have formed : hqosSwapped.WellFormed 8 := by
      refine ⟨⟨by decide, by decide, ?_⟩, by decide, by decide, by decide, by decide⟩
      simp [hqosSwapped, HqosChildNode.InRange]
    obtain ⟨table, done, -⟩ := all 8 hqosSwapped formed
    have refused : hqosHierarchyHandler .enough hqosSwapped = .error (.status .noMemory) := by decide
    rw [refused] at done
    cases done
  · intro all
    have outside : ¬HqosConfig.InRange 8 ⟨1, [⟨1, 0, []⟩]⟩ := by
      intro inRange
      exact absurd (inRange.level _ (List.mem_cons_self ..)) (by decide)
    obtain ⟨status, rejected⟩ := all 8 ⟨1, [⟨1, 0, []⟩]⟩ outside
    have written : hqosHierarchyHandler .enough ⟨1, [⟨1, 0, []⟩]⟩ = .error .outOfBounds := by decide
    rw [written] at rejected
    cases rejected

end SaiCommon
