import DesignTokens.Key
import DesignTokens.Tree

/-! An alias is a text `{dotted.path}`. Its path need not start at the root of the tree: every group
is tried as a starting point, in document order, and the first one from which the whole path leads
to a token or a literal answers. -/

namespace DesignTokens

/-- The path of an alias: its text without the braces around it. -/
def aliasPath? : Json → Option String
  | .string text =>
    match text.toList with
    | '{' :: rest => if rest.getLast? == some '}' then some (String.ofList rest.dropLast) else none
    | _ => none
  | _ => none

def aliasText (path : String) : String :=
  "\x7b" ++ path ++ "\x7d"

theorem toList_aliasText (path : String) : (aliasText path).toList = '{' :: (path.toList ++ ['}']) := by
  simp [aliasText, String.toList_append]

theorem aliasPath?_eq_some_iff {value : Json} {path : String} :
    aliasPath? value = some path ↔ value = .string (aliasText path) := by
  constructor
  · intro found
    unfold aliasPath? at found
    split at found
    · next text =>
      split at found
      · next rest spelled =>
        split at found
        · next closed =>
          cases found
          obtain ⟨inner, rfl⟩ : ∃ inner, rest = inner ++ ['}'] :=
            List.getLast?_eq_some_iff.mp (by simpa using closed)
          congr 1
          apply String.toList_injective
          simp [toList_aliasText, spelled]
        · cases found
      · cases found
    · cases found
  · rintro rfl
    simp [aliasPath?, toList_aliasText]

@[simp] theorem aliasPath?_aliasText (path : String) :
    aliasPath? (.string (aliasText path)) = some path :=
  aliasPath?_eq_some_iff.mpr rfl

/-- The parts of a path between its dots; a path without a dot is one part. -/
def segments (path : String) : List String :=
  (path.toList.splitOn '.').map String.ofList

/-- The member with the very key, or else the first one with a loosely equal key. -/
def child? (members : Entries Json) (segment : String) : Option Json :=
  match members.get? segment with
  | some node => some node
  | none => (members.find? fun entry => Key.loose entry.1 == Key.loose segment).map Prod.snd

/-- The node at the end of a path. The path goes through groups only, never into a token. -/
def reach? (node : Json) : List String → Option Json
  | [] => some node
  | segment :: rest =>
    if node.isGroup then (child? node.members segment).bind (reach? · rest) else none

/-- What a node says when a path ends on it: a token its value, a text or a number itself. -/
def answer? (node : Json) : Option Json :=
  if node.isToken then some node.tokenValue
  else
    match node with
    | .string _ | .int _ | .float _ => some node
    | _ => none

theorem answer_of_isToken {node : Json} (token : node.isToken = true) :
    answer? node = some node.tokenValue := by
  unfold answer?
  rw [if_pos token]

theorem answer_of_group {node : Json} (object : node.isObject = true) (open_node : ¬ node.isToken = true) :
    answer? node = none := by
  unfold answer?
  rw [if_neg open_node]
  cases node <;> first | rfl | cases object

mutual

/-- The starting points for a path: the tree itself and every group below it, each before those
inside it. -/
def anchors : Json → List Json
  | .null => []
  | .object members =>
    .object members :: if (Json.object members).isToken then [] else anchorsIn members
  | node => [node]
termination_by structural node => node

def anchorsIn : List (String × Json) → List Json
  | [] => []
  | (_, node) :: rest => (if node.isGroup then anchors node else []) ++ anchorsIn rest
termination_by structural members => members

end

theorem anchors_of_isToken {node : Json} (token : node.isToken = true) : anchors node = [node] := by
  cases node with
  | object members => rw [anchors, if_pos token]
  | _ => cases token

theorem anchorsIn_append (before after : Entries Json) :
    anchorsIn (before ++ after) = anchorsIn before ++ anchorsIn after := by
  induction before with
  | nil => rfl
  | cons entry rest ih => rw [List.cons_append, anchorsIn, anchorsIn, ih, List.append_assoc]

theorem findSome_congr {α β : Type} {f g : α → Option β} {items : List α}
    (same : ∀ item ∈ items, f item = g item) : items.findSome? f = items.findSome? g := by
  induction items with
  | nil => rfl
  | cons item rest ih =>
    obtain ⟨first, others⟩ := List.forall_mem_cons.mp same
    rw [List.findSome?_cons, List.findSome?_cons, first, ih others]

/-- The value that a dotted path leads to; null if no starting point answers, or if the token that
answers has no value. -/
def valueAt (tree : Json) (path : String) : Json :=
  ((anchors tree).findSome? fun anchor => (reach? anchor (segments path)).bind answer?).getD .null

/-- The root is tried before all other starting points. -/
theorem valueAt_of_root {tree value : Json} {path : String} (object : tree.isObject = true)
    (answers : (reach? tree (segments path)).bind answer? = some value) : valueAt tree path = value := by
  cases tree with
  | object members => rw [valueAt, anchors, List.findSome?_cons, answers, Option.getD_some]
  | _ => cases object

end DesignTokens
