import DesignTokens.Alias.Path
import DesignTokens.Json.Inline
import DesignTokens.Report

/-! Following an alias from path to path until it ends at a literal, at a path that leads nowhere, or
at a path it has been at before. Every path after the first is the path of an alias in the tree, so
a chain ends after as many steps as the tree has aliases. -/

namespace DesignTokens

mutual

/-- The values that a path from the root of a tree can lead to. -/
def answersIn : Json → List Json
  | .object members => if (Json.object members).isToken then [] else memberAnswers members
  | _ => []
termination_by structural node => node

def memberAnswers : List (String × Json) → List Json
  | [] => []
  | (_, node) :: rest => (answer? node).toList ++ answersIn node ++ memberAnswers rest
termination_by structural members => members

end

/-- The paths of all aliases that a path in the tree can lead to. -/
def aliasPaths (tree : Json) : List String :=
  (answersIn tree).filterMap aliasPath?

private theorem answersIn_of_isGroup {node : Json} (group : node.isGroup = true) :
    answersIn node = memberAnswers node.members := by
  match node with
  | .object members =>
    have : (Json.object members).isToken = false := by
      simpa [Json.isGroup, Json.isObject] using group
    simp [answersIn, this, Json.members]
  | .null | .bool _ | .int _ | .float _ | .string _ | .array _ =>
    simp [Json.isGroup, Json.isObject] at group

theorem memberAnswers_subset {members : Entries Json} {entry : String × Json}
    (member : entry ∈ members) {value : Json}
    (inside : value ∈ (answer? entry.2).toList ++ answersIn entry.2) :
    value ∈ memberAnswers members := by
  induction members with
  | nil => cases member
  | cons first rest ih =>
    obtain ⟨key, node⟩ := first
    rw [memberAnswers]
    rcases List.mem_cons.mp member with same | later
    · cases same
      exact List.mem_append_left _ inside
    · exact List.mem_append_right _ (ih later)

theorem mem_of_child {members : Entries Json} {segment : String} {node : Json}
    (found : child? members segment = some node) : ∃ key, (key, node) ∈ members := by
  unfold child? at found
  split at found
  · next lookup =>
    cases found
    exact ⟨_, Entries.mem_of_get? lookup⟩
  · obtain ⟨entry, first, rfl⟩ := Option.map_eq_some_iff.mp found
    exact ⟨entry.1, List.mem_of_find?_eq_some first⟩

theorem segments_ne_nil (path : String) : segments path ≠ [] := by
  simp [segments, List.splitOn_ne_nil]

private theorem answer_mem_answersIn {node target value : Json} {path : List String} (step : path ≠ [])
    (reached : reach? node path = some target) (answers : answer? target = some value) :
    value ∈ answersIn node := by
  induction path generalizing node with
  | nil => exact absurd rfl step
  | cons segment rest ih =>
    rw [reach?] at reached
    split at reached
    · next group =>
      obtain ⟨inner, found, onward⟩ := Option.bind_eq_some_iff.mp reached
      obtain ⟨key, member⟩ := mem_of_child found
      rw [answersIn_of_isGroup group]
      apply memberAnswers_subset member
      cases rest with
      | nil =>
        cases onward
        simp [answers]
      | cons next later => exact List.mem_append_right _ (ih (by simp) onward)
    · cases reached

mutual

private theorem answersIn_anchor : ∀ (tree : Json) {anchor value : Json}, anchor ∈ anchors tree →
    value ∈ answersIn anchor → value ∈ answersIn tree
  | .null, _, _, member, _ => by simp [anchors] at member
  | .object members, _, _, member, inside => by
    rw [anchors] at member
    rcases List.mem_cons.mp member with rfl | below
    · exact inside
    · split at below
      · cases below
      · next group =>
        rw [answersIn, if_neg group]
        exact memberAnswers_anchor members below inside
  | .bool _, _, _, member, inside => by simp [anchors] at member; exact member ▸ inside
  | .int _, _, _, member, inside => by simp [anchors] at member; exact member ▸ inside
  | .float _, _, _, member, inside => by simp [anchors] at member; exact member ▸ inside
  | .string _, _, _, member, inside => by simp [anchors] at member; exact member ▸ inside
  | .array _, _, _, member, inside => by simp [anchors] at member; exact member ▸ inside
termination_by structural tree => tree

private theorem memberAnswers_anchor : ∀ (members : List (String × Json)) {anchor value : Json},
    anchor ∈ anchorsIn members → value ∈ answersIn anchor → value ∈ memberAnswers members
  | [], _, _, member, _ => by simp [anchorsIn] at member
  | (_, node) :: rest, _, _, member, inside => by
    rw [anchorsIn] at member
    rw [memberAnswers]
    rcases List.mem_append.mp member with here | later
    · split at here
      · exact List.mem_append_left _ (List.mem_append_right _ (answersIn_anchor node here inside))
      · cases here
    · exact List.mem_append_right _ (memberAnswers_anchor rest later inside)
termination_by structural members => members

end

/-- A path leads to null or to a value that the tree has. -/
theorem valueAt_mem (tree : Json) (path : String) :
    valueAt tree path = .null ∨ valueAt tree path ∈ answersIn tree := by
  unfold valueAt
  match found : (anchors tree).findSome? fun anchor =>
      (reach? anchor (segments path)).bind answer? with
  | none => exact .inl rfl
  | some value =>
    obtain ⟨anchor, member, reached⟩ := List.exists_of_findSome?_eq_some found
    obtain ⟨target, ends, answers⟩ := Option.bind_eq_some_iff.mp reached
    exact .inr (answersIn_anchor tree member
      (answer_mem_answersIn (segments_ne_nil path) ends answers))

theorem aliasPath_mem {tree : Json} {path next : String}
    (found : aliasPath? (valueAt tree path) = some next) : next ∈ aliasPaths tree := by
  rcases valueAt_mem tree path with nothing | member
  · rw [nothing] at found
    cases found
  · exact List.mem_filterMap.mpr ⟨_, member, found⟩

/-- The number of aliases in the tree whose path has not been visited. -/
def unvisited (tree : Json) (visited : List String) : Nat :=
  ((aliasPaths tree).filter (! visited.contains ·)).length

/-- Bounds the steps that a chain at a path can still take: one for every alias ahead, and one more
if the path itself is no alias of the tree. -/
def stepsLeft (tree : Json) (visited : List String) (path : String) : Nat :=
  2 * unvisited tree visited + if path ∈ aliasPaths tree then 0 else 1

private theorem filter_length_le {α : Type} {keep stricter : α → Bool} (items : List α)
    (implies : ∀ item, stricter item = true → keep item = true) :
    (items.filter stricter).length ≤ (items.filter keep).length := by
  rw [← List.countP_eq_length_filter, ← List.countP_eq_length_filter]
  exact List.countP_mono_left fun item _ => implies item

private theorem unvisited_cons_le (tree : Json) (visited : List String) (path : String) :
    unvisited tree (path :: visited) ≤ unvisited tree visited := by
  apply filter_length_le
  intro item
  simp

private theorem unvisited_cons_lt {tree : Json} {visited : List String} {path : String}
    (member : path ∈ aliasPaths tree) (fresh : path ∉ visited) :
    unvisited tree (path :: visited) < unvisited tree visited := by
  unfold unvisited
  generalize aliasPaths tree = paths at member
  induction paths with
  | nil => cases member
  | cons first rest ih =>
    have shorter : (rest.filter (! (path :: visited).contains ·)).length ≤
        (rest.filter (! visited.contains ·)).length :=
      filter_length_le rest (by simp)
    by_cases same : first = path
    · subst same
      simp [fresh] at shorter ⊢
      omega
    · have := ih ((List.mem_cons.mp member).resolve_left (Ne.symm same))
      by_cases seen : first ∈ visited <;> simp_all

theorem stepsLeft_lt {tree : Json} {visited : List String} {path next : String}
    (fresh : path ∉ visited) (found : aliasPath? (valueAt tree path) = some next) :
    stepsLeft tree (path :: visited) next < stepsLeft tree visited path := by
  unfold stepsLeft
  rw [if_pos (aliasPath_mem found)]
  split
  · next member =>
    have := unvisited_cons_lt member fresh
    omega
  · have := unvisited_cons_le tree visited path
    omega

/-- How a chain of aliases ends. -/
inductive Ending where
  | literal (value : Json)
  | cycle (path : String)
  | unresolved (path : String)

/-- Follows the alias with a path, and gives the paths visited then, the latest first. -/
def follow (tree : Json) (visited : List String) (path : String) : Ending × List String :=
  if path ∈ visited then (.cycle path, visited)
  else
    match _found : aliasPath? (valueAt tree path) with
    | some next => follow tree (path :: visited) next
    | none =>
      let value := valueAt tree path
      (if value.isNull then .unresolved path else .literal value, path :: visited)
termination_by stepsLeft tree visited path
decreasing_by exact stepsLeft_lt ‹_› _found

namespace Ending

/-- A chain that ends in no literal leaves the alias where it stopped. -/
def value : Ending → Json
  | .literal value => value
  | .cycle path | .unresolved path => .string (aliasText path)

def notes : Ending → List Note
  | .literal _ => []
  | .cycle path => [.cycle path]
  | .unresolved path => [.unresolved path]

end Ending

/-- The value that a raw value stands for, and the paths visited on the way to it. -/
def resolveFrom (tree : Json) (visited : List String) (value : Json) :
    Noted Json × List String :=
  match aliasPath? value with
  | none => (pure value, visited)
  | some path =>
    let (ending, visited) := follow tree visited path
    (⟨ending.notes, ending.value⟩, visited)

def resolve (tree value : Json) : Noted Json :=
  (resolveFrom tree [] value).1

end DesignTokens
