import DesignTokens.Alias.Follow
import Mathlib.Data.List.Lex

/-! The search for a path, told by positions. A starting point is a chain of groups below the root, and
its position is the list of places in the document at which the chain goes down. The search finds what
the first position in lexicographic order leads to, among those from which the whole path can be
followed to something that answers. Nothing else at the end of a path stops it. -/

namespace DesignTokens.Proofs.AnchorOrder

/-- The last of a chain of groups, the first of which is the node itself. -/
def anchorAt? (node : Json) : List Nat → Option Json
  | [] => if node.isGroup then some node else none
  | index :: rest =>
    if node.isGroup then node.members[index]?.bind fun entry => anchorAt? entry.2 rest else none

/-- The member that a segment stands for. A loosely equal key counts only if no key is the segment
itself, and of several such keys the first. -/
inductive Chosen (segment : String) : Entries Json → Json → Prop
  | same (before after : Entries Json) (node : Json) (first : segment ∉ before.keys) :
      Chosen segment (before ++ (segment, node) :: after) node
  | loose (before after : Entries Json) (key : String) (node : Json)
      (absent : segment ∉ (before ++ (key, node) :: after : Entries Json).keys)
      (equal : Key.loose key = Key.loose segment)
      (first : ∀ name ∈ before.keys, Key.loose name ≠ Key.loose segment) :
      Chosen segment (before ++ (key, node) :: after) node

inductive Leads : Json → List String → Json → Prop
  | here (node : Json) : Leads node [] node
  | step {node child target : Json} {segment : String} {rest : List String}
      (group : node.isGroup = true) (chosen : Chosen segment node.members child)
      (onward : Leads child rest target) : Leads node (segment :: rest) target

/-- Tokens have their value to tell, even if it is null; texts and numbers stand for themselves. -/
inductive Tells : Json → Json → Prop
  | token {node : Json} (token : node.isToken = true) : Tells node node.tokenValue
  | string (text : String) : Tells (.string text) (.string text)
  | int (number : Int) : Tells (.int number) (.int number)
  | float (number : Number.Binary64) : Tells (.float number) (.float number)

/-- The whole path can be followed from the starting point at a position, and what is there has a value
to tell. -/
def Answers (tree : Json) (path : String) (position : List Nat) (value : Json) : Prop :=
  ∃ anchor target, anchorAt? tree position = some anchor ∧ Leads anchor (segments path) target ∧
    Tells target value

def FirstAnswer (tree : Json) (path : String) (value : Json) : Prop :=
  ∃ position, Answers tree path position value ∧
    ∀ earlier, earlier < position → ∀ other, ¬ Answers tree path earlier other

variable {node target value : Json}

theorem chosen_iff {segment : String} {members : Entries Json} :
    Chosen segment members node ↔ child? members segment = some node := by
  constructor
  · intro chosen
    cases chosen with
    | same before after node first =>
      have missed := Entries.get?_eq_none_iff.mpr first
      rw [child?, Entries.get?_append, missed, Option.none_or, Entries.get?_cons, if_pos rfl]
    | loose before after key node absent equal first =>
      have passed : before.find? (fun entry => Key.loose entry.1 == Key.loose segment) = none := by
        apply List.find?_eq_none.mpr
        intro entry member
        simpa using first entry.1 (List.mem_map_of_mem member)
      rw [child?, Entries.get?_eq_none_iff.mpr absent, List.find?_append, passed, Option.none_or,
        List.find?_cons_of_pos (by simpa using equal)]
      rfl
  · intro found
    rw [child?] at found
    split at found
    · next exact_key =>
      cases found
      obtain ⟨before, after, rfl, first⟩ := List.lookup_eq_some_iff.mp exact_key
      refine .same before after _ ?_
      intro member
      obtain ⟨entry, inside, named⟩ := List.mem_map.mp member
      exact absurd named.symm (by simpa using first entry inside)
    · next absent =>
      obtain ⟨⟨key, node⟩, matched, rfl⟩ := Option.map_eq_some_iff.mp found
      obtain ⟨equal, before, after, rfl, first⟩ := List.find?_eq_some_iff_append.mp matched
      refine .loose before after key _ (Entries.get?_eq_none_iff.mp absent) (by simpa using equal) ?_
      intro name member
      obtain ⟨entry, inside, rfl⟩ := List.mem_map.mp member
      simpa using first entry inside

theorem leads_iff {path : List String} : Leads node path target ↔ reach? node path = some target := by
  induction path generalizing node with
  | nil =>
    constructor
    · intro leads
      cases leads
      rfl
    · intro reached
      cases reached
      exact .here _
  | cons segment rest ih =>
    rw [reach?]
    constructor
    · intro leads
      cases leads with
      | step group chosen onward =>
        rw [if_pos group, chosen_iff.mp chosen, Option.bind_some]
        exact ih.mp onward
    · intro reached
      split at reached
      · next group =>
        obtain ⟨child, chosen, onward⟩ := Option.bind_eq_some_iff.mp reached
        exact .step group (chosen_iff.mpr chosen) (ih.mpr onward)
      · cases reached

theorem tells_iff : Tells node value ↔ answer? node = some value := by
  constructor
  · intro tells
    cases tells with
    | token token => exact answer_of_isToken token
    | string text => rfl
    | int number => rfl
    | float number => rfl
  · intro answers
    unfold answer? at answers
    split at answers
    · next token =>
      cases answers
      exact .token token
    · split at answers
      · cases answers
        exact .string _
      · cases answers
        exact .int _
      · cases answers
        exact .float _
      · cases answers

def reply? (path : String) (anchor : Json) : Option Json :=
  (reach? anchor (segments path)).bind answer?

theorem answers_iff {tree : Json} {path : String} {position : List Nat} :
    Answers tree path position value ↔
      ∃ anchor, anchorAt? tree position = some anchor ∧ reply? path anchor = some value := by
  constructor
  · intro ⟨anchor, target, placed, leads, tells⟩
    refine ⟨anchor, placed, ?_⟩
    rw [reply?, leads_iff.mp leads, Option.bind_some, tells_iff.mp tells]
  · intro ⟨anchor, placed, replies⟩
    obtain ⟨target, reached, answers⟩ := Option.bind_eq_some_iff.mp replies
    exact ⟨anchor, target, placed, leads_iff.mpr reached, tells_iff.mpr answers⟩

mutual

/-- The starting points with their positions, each before those inside it. -/
def placed : Json → List (List Nat × Json)
  | .object members =>
    if (Json.object members).isToken then [] else ([], .object members) :: placedIn 0 members
  | _ => []
termination_by structural node => node

def placedIn (index : Nat) : List (String × Json) → List (List Nat × Json)
  | [] => []
  | (_, node) :: rest =>
    (placed node).map (fun place => (index :: place.1, place.2)) ++ placedIn (index + 1) rest
termination_by structural members => members

end

theorem isGroup_object {members : Entries Json} :
    (Json.object members).isGroup = !(Json.object members).isToken := rfl

private theorem placed_of_not_isGroup (plain : node.isGroup = false) : placed node = [] := by
  cases node with
  | object members =>
    have token : (Json.object members).isToken = true := by simpa [isGroup_object] using plain
    rw [placed, if_pos token]
  | _ => rfl

mutual

private theorem anchors_placed : ∀ (node : Json), node.isGroup = true →
    (placed node).map Prod.snd = anchors node
  | .object members, group => by
    have inner : ¬ (Json.object members).isToken = true := by simpa [isGroup_object] using group
    rw [placed, anchors, if_neg inner, if_neg inner, List.map_cons, anchorsIn_placed members 0]
  | .null, group | .bool _, group | .int _, group | .float _, group | .string _, group
  | .array _, group => nomatch group
termination_by structural node => node

private theorem anchorsIn_placed : ∀ (members : List (String × Json)) (index : Nat),
    (placedIn index members).map Prod.snd = anchorsIn members
  | [], _ => rfl
  | (key, node) :: rest, index => by
    rw [placedIn, anchorsIn, List.map_append, List.map_map, anchorsIn_placed rest (index + 1)]
    congr 1
    split
    · next group => exact anchors_placed node group
    · next plain => rw [placed_of_not_isGroup (Bool.not_eq_true _ ▸ plain), List.map_nil]
termination_by structural members => members

end

mutual

theorem mem_placed : ∀ (node : Json) {position : List Nat} {anchor : Json},
    (position, anchor) ∈ placed node ↔ anchorAt? node position = some anchor
  | .object members, position, anchor => by
    rw [placed]
    split
    · next token =>
      have plain : (Json.object members).isGroup = false := by simpa [isGroup_object] using token
      cases position <;> simp [anchorAt?, plain]
    · next inner =>
      have group : (Json.object members).isGroup = true := by simpa [isGroup_object] using inner
      cases position with
      | nil =>
        have below : ([], anchor) ∉ placedIn 0 members := by
          intro member
          obtain ⟨_, _, _, shape, _⟩ := (mem_placedIn members).mp member
          cases shape
        simp [anchorAt?, group, below, eq_comm]
      | cons index rest =>
        have deeper := @mem_placedIn members 0 (index :: rest) anchor
        simp only [Nat.zero_add, List.cons.injEq] at deeper
        simp only [List.mem_cons, Prod.mk.injEq, reduceCtorEq, false_and, false_or, anchorAt?, group, if_true,
          Option.bind_eq_some_iff, deeper, Json.members]
        constructor
        · intro ⟨offset, entry, later, ⟨first, same⟩, found, inside⟩
          cases first
          cases same
          exact ⟨entry, found, inside⟩
        · intro ⟨entry, found, inside⟩
          exact ⟨index, entry, rest, ⟨rfl, rfl⟩, found, inside⟩
  | .null, position, _ | .bool _, position, _ | .int _, position, _ | .float _, position, _
  | .string _, position, _ | .array _, position, _ => by
    cases position <;> simp [placed, anchorAt?, Json.isGroup, Json.isObject]
termination_by structural node => node

theorem mem_placedIn : ∀ (members : List (String × Json)) {index : Nat} {position : List Nat}
    {anchor : Json}, (position, anchor) ∈ placedIn index members ↔
      ∃ offset entry rest, position = (index + offset) :: rest ∧ members[offset]? = some entry ∧
        anchorAt? entry.2 rest = some anchor
  | [], _, _, _ => by simp [placedIn]
  | (key, node) :: later, index, position, anchor => by
    rw [placedIn, List.mem_append, List.mem_map, mem_placedIn later]
    constructor
    · intro member
      rcases member with ⟨⟨rest, found⟩, inside, same⟩ | ⟨offset, entry, rest, same, found, inside⟩
      · cases same
        exact ⟨0, (key, node), rest, rfl, rfl, (mem_placed node).mp inside⟩
      · exact ⟨offset + 1, entry, rest, by rw [same]; congr 1; omega, found, inside⟩
    · intro ⟨offset, entry, rest, same, found, inside⟩
      cases offset with
      | zero =>
        cases found
        cases same
        exact Or.inl ⟨(rest, anchor), (mem_placed node).mpr inside, rfl⟩
      | succ offset =>
        exact Or.inr ⟨offset, entry, rest, by rw [same]; congr 1; omega, found, inside⟩
termination_by structural members => members

end

mutual

private theorem placed_ordered : ∀ (node : Json), (placed node).Pairwise fun one two => one.1 < two.1
  | .object members => by
    rw [placed]
    split
    · exact .nil
    · refine .cons ?_ (placedIn_ordered members 0)
      intro place member
      obtain ⟨_, _, _, shape, _⟩ := (mem_placedIn members).mp member
      rw [shape]
      exact List.nil_lt_cons _ _
  | .null | .bool _ | .int _ | .float _ | .string _ | .array _ => .nil
termination_by structural node => node

private theorem placedIn_ordered : ∀ (members : List (String × Json)) (index : Nat),
    (placedIn index members).Pairwise fun one two => one.1 < two.1
  | [], _ => .nil
  | (_, node) :: rest, index => by
    rw [placedIn]
    refine List.pairwise_append.mpr ⟨?_, placedIn_ordered rest (index + 1), ?_⟩
    · apply List.pairwise_map.mpr
      apply (placed_ordered node).imp
      intro one two before
      exact List.cons_lt_cons_iff.mpr (Or.inr ⟨rfl, before⟩)
    · intro one member two later
      obtain ⟨place, _, rfl⟩ := List.mem_map.mp member
      obtain ⟨offset, _, _, shape, _⟩ := (mem_placedIn rest).mp later
      rw [shape]
      exact List.cons_lt_cons_iff.mpr (Or.inl (by omega))
termination_by structural members => members

end

private theorem reach_of_not_isGroup {path : List String} (plain : node.isGroup = false) (step : path ≠ []) :
    reach? node path = none := by
  cases path with
  | nil => exact absurd rfl step
  | cons segment rest => rw [reach?, if_neg (by simp [plain])]

/-- A root that is no group leads nowhere, so it does not matter that it is tried. -/
theorem valueAt_placed (tree : Json) (path : String) :
    valueAt tree path = ((placed tree).findSome? fun place => reply? path place.2).getD .null := by
  have search : valueAt tree path = ((anchors tree).findSome? (reply? path)).getD .null := rfl
  rw [search]
  by_cases group : tree.isGroup = true
  · rw [← anchors_placed tree group, List.findSome?_map]
    rfl
  · have plain : tree.isGroup = false := Bool.not_eq_true _ ▸ group
    have silent : reply? path tree = none := by
      rw [reply?, reach_of_not_isGroup plain (segments_ne_nil path), Option.bind_none]
    have alone : anchors tree = [] ∨ anchors tree = [tree] := by
      cases tree with
      | null => exact Or.inl rfl
      | object members =>
        have token : (Json.object members).isToken = true := by simpa [isGroup_object] using plain
        exact Or.inr (by rw [anchors, if_pos token])
      | _ => exact Or.inr rfl
    rw [placed_of_not_isGroup plain]
    rcases alone with none | one
    · rw [none, List.findSome?_nil, List.findSome?_nil]
    · rw [one, List.findSome?_cons, silent, List.findSome?_nil, List.findSome?_nil]

private theorem valueAt_of_silent {tree : Json} {path : String}
    (silent : ∀ position value, ¬ Answers tree path position value) : valueAt tree path = .null := by
  have nothing : (placed tree).findSome? (fun place => reply? path place.2) = none := by
    apply List.findSome?_eq_none_iff.mpr
    intro ⟨position, anchor⟩ member
    apply Option.eq_none_iff_forall_ne_some.mpr
    intro value replies
    exact silent position value (answers_iff.mpr ⟨anchor, (mem_placed tree).mp member, replies⟩)
  rw [valueAt_placed, nothing, Option.getD_none]

/-- Positions before the one found are tried before it, and do not answer. -/
theorem firstAnswer_of_found {tree value : Json} {path : String}
    (found : ((placed tree).findSome? fun place => reply? path place.2) = some value) :
    FirstAnswer tree path value := by
  obtain ⟨before, ⟨least, start⟩, after, listed, replies, silent⟩ := List.findSome?_eq_some_iff.mp found
  have sorted := placed_ordered tree
  have member : (least, start) ∈ placed tree := by simp [listed]
  refine ⟨least, answers_iff.mpr ⟨start, (mem_placed tree).mp member, replies⟩, ?_⟩
  intro earlier less other contrary
  obtain ⟨anchor, present, answered⟩ := answers_iff.mp contrary
  have inside := (mem_placed tree).mpr present
  rw [listed] at inside sorted
  have rest := (List.pairwise_append.mp sorted).2.1
  rcases List.mem_append.mp inside with passed | behind
  · rw [silent _ passed] at answered
    cases answered
  · rcases List.mem_cons.mp behind with self | later
    · cases self
      exact List.lt_irrefl _ less
    · exact List.lt_asymm less (List.rel_of_pairwise_cons rest later)

private theorem firstAnswer_of_answers {tree value : Json} {path : String} {position : List Nat}
    (answers : Answers tree path position value) : FirstAnswer tree path (valueAt tree path) := by
  obtain ⟨anchor, present, replies⟩ := answers_iff.mp answers
  have found : ((placed tree).findSome? fun place => reply? path place.2).isSome = true :=
    List.findSome?_isSome_iff.mpr ⟨_, (mem_placed tree).mpr present, by rw [replies]; rfl⟩
  obtain ⟨first, same⟩ := Option.isSome_iff_exists.mp found
  rw [valueAt_placed, same, Option.getD_some]
  exact firstAnswer_of_found same

theorem Answers.unique {tree value other : Json} {path : String} {position : List Nat}
    (one : Answers tree path position value) (two : Answers tree path position other) :
    value = other := by
  obtain ⟨anchor, present, replies⟩ := answers_iff.mp one
  obtain ⟨anchor', present', replies'⟩ := answers_iff.mp two
  cases present.symm.trans present'
  exact Option.some.inj (replies.symm.trans replies')

theorem FirstAnswer.unique {tree value other : Json} {path : String}
    (one : FirstAnswer tree path value) (two : FirstAnswer tree path other) : value = other := by
  obtain ⟨position, answers, least⟩ := one
  obtain ⟨position', answers', least'⟩ := two
  rcases lt_trichotomy position position' with less | rfl | less
  · exact absurd answers (least' position less value)
  · exact answers.unique answers'
  · exact absurd answers' (least position' less other)

/-- The search finds the answer of the first position that answers, and null if no position does. -/
theorem valueAt_firstAnswer (tree : Json) (path : String) :
    (∀ value, FirstAnswer tree path value → valueAt tree path = value) ∧
    ((∃ position value, Answers tree path position value) → FirstAnswer tree path (valueAt tree path)) ∧
    ((∀ position value, ¬ Answers tree path position value) → valueAt tree path = .null) := by
  refine ⟨?_, ?_, valueAt_of_silent⟩
  · intro value first
    obtain ⟨position, answers, least⟩ := first
    exact (firstAnswer_of_answers answers).unique ⟨position, answers, least⟩
  · intro ⟨position, value, answers⟩
    exact firstAnswer_of_answers answers

/-- The path `a.b` ends on a group, then on a boolean, then on a token without a value, and last on a
text. -/
def crossroads : Json :=
  let inner (name : String) (node : Json) : Json := .object [(name, .object [("b", node)])]
  .object [("a", .object []), ("one", inner "a" (.object [])), ("two", inner "a" (.bool true)),
    ("three", inner "A" (.token "color" .null)),
    ("four", inner "a" (.string "red"))]

theorem valueAt_firstAnswer_crossroads :
    FirstAnswer crossroads "a.b" .null ∧ valueAt crossroads "a.b" = .null ∧
    Answers crossroads "a.b" [4] (.string "red") := by
  have first : FirstAnswer crossroads "a.b" .null := firstAnswer_of_found rfl
  refine ⟨first, (valueAt_firstAnswer crossroads "a.b").1 .null first, ?_⟩
  exact answers_iff.mpr ⟨_, rfl, rfl⟩

end DesignTokens.Proofs.AnchorOrder
