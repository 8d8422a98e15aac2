import DesignTokens.Proofs.MergedPaths

/-! Descriptions of groups. The search for a path takes the text of a description for a member like any
other, so it can answer an alias, or stand before a member whose key is loosely equal to the same
segment. Only a path with a segment that is loosely equal to the key of a description comes to one. All
other paths lead to the same value whatever the descriptions say. -/

namespace DesignTokens.Proofs.Descriptions
open MergedPaths ModelTexts

def descriptionKeys : List String := ["description", "$description"]

def isText : Json → Bool
  | .string _ => true
  | _ => false

def describes (key : String) (node : Json) : Bool :=
  descriptionKeys.contains key && isText node

mutual

/-- A tree without the descriptions of its groups. -/
def bare : Json → Json
  | .object members =>
    if (Json.object members).isToken then .object members else .object (bareIn members)
  | node => node
termination_by structural node => node

def bareIn : List (String × Json) → List (String × Json)
  | [] => []
  | (key, node) :: rest =>
    if describes key node then bareIn rest else (key, bare node) :: bareIn rest
termination_by structural members => members

end

/-- One tree becomes the other by adding, changing and removing descriptions of groups. -/
def SameButDescriptions (tree other : Json) : Prop :=
  bare tree = bare other

def NamesDescription (segment : String) : Prop :=
  ∃ key ∈ descriptionKeys, Key.loose key = Key.loose segment

instance (segment : String) : Decidable (NamesDescription segment) :=
  inferInstanceAs (Decidable (∃ key ∈ descriptionKeys, _))

variable {tree node target : Json} {members : Entries Json} {key segment : String}

theorem bareIn_cons (key : String) (node : Json) (rest : Entries Json) :
    bareIn ((key, node) :: rest) =
      if describes key node then bareIn rest else (key, bare node) :: bareIn rest := rfl

private theorem describes_of_not_mem (plain : key ∉ descriptionKeys) (node : Json) :
    describes key node = false := by
  simp [describes, plain]

private theorem get_bareIn (plain : key ∉ descriptionKeys) (members : Entries Json) :
    Entries.get? (bareIn members) key = (members.get? key).map bare := by
  induction members with
  | nil => rfl
  | cons entry rest ih =>
    obtain ⟨name, node⟩ := entry
    rw [bareIn_cons, Entries.get?_cons]
    by_cases same : name = key
    · subst same
      simp [describes_of_not_mem plain, Entries.get?_cons]
    · rw [if_neg same, ← ih]
      split
      · rfl
      · rw [Entries.get?_cons, if_neg same]

theorem isToken_bareIn (members : Entries Json) :
    (Json.object (bareIn members)).isToken = (Json.object members).isToken := by
  apply Json.isToken_congr
  intro key member
  have plain : key ∉ descriptionKeys := by
    revert key
    decide
  rw [Json.has, Json.has, Json.members, Json.members, get_bareIn plain, Option.isSome_map]

theorem bare_of_isToken (token : node.isToken = true) : bare node = node := by
  cases node with
  | object members => rw [bare, if_pos token]
  | _ => rfl

theorem bare_group (group : (Json.object members).isToken = false) :
    bare (.object members) = .object (bareIn members) := by
  rw [bare, if_neg (Bool.not_eq_true _ ▸ group)]

private theorem isToken_bare (node : Json) : (bare node).isToken = node.isToken := by
  cases node with
  | object members =>
    cases token : (Json.object members).isToken with
    | true => rw [bare_of_isToken token, token]
    | false => rw [bare_group token, isToken_bareIn, token]
  | _ => rfl

private theorem isObject_bare (node : Json) : (bare node).isObject = node.isObject := by
  cases node with
  | object members =>
    rw [bare]
    split <;> rfl
  | _ => rfl

private theorem isGroup_bare (node : Json) : (bare node).isGroup = node.isGroup := by
  rw [Json.isGroup, Json.isGroup, isObject_bare, isToken_bare]

private theorem answer_bare (node : Json) : answer? (bare node) = answer? node := by
  by_cases token : node.isToken = true
  · rw [bare_of_isToken token]
  · cases node with
    | object members =>
      have stays : ¬ (bare (.object members)).isToken = true := by rwa [isToken_bare]
      rw [answer_of_group rfl token, answer_of_group (isObject_bare _) stays]
    | _ => rfl

private theorem find_bareIn (free : ¬ NamesDescription segment) (members : Entries Json) :
    ((bareIn members).find? fun entry => Key.loose entry.1 == Key.loose segment).map Prod.snd =
      ((members.find? fun entry => Key.loose entry.1 == Key.loose segment).map Prod.snd).map bare := by
  induction members with
  | nil => rfl
  | cons entry rest ih =>
    obtain ⟨name, node⟩ := entry
    rw [bareIn_cons]
    by_cases equal : Key.loose name = Key.loose segment
    · have plain : name ∉ descriptionKeys := fun member => free ⟨name, member, equal⟩
      simp [describes_of_not_mem plain, equal]
    · rw [List.find?_cons_of_neg (by simpa using equal), ← ih]
      split
      · rfl
      · rw [List.find?_cons_of_neg (by simpa using equal)]

/-- Without descriptions the same member is found, unless the segment names a description. -/
theorem child_bareIn (free : ¬ NamesDescription segment) (members : Entries Json) :
    child? (bareIn members) segment = (child? members segment).map bare := by
  have plain : segment ∉ descriptionKeys := fun member => free ⟨segment, member, rfl⟩
  rw [child?, child?, get_bareIn plain]
  cases members.get? segment with
  | some node => rfl
  | none => exact find_bareIn free members

private theorem reach_bare {path : List String} (free : ∀ segment ∈ path, ¬ NamesDescription segment)
    (node : Json) : reach? (bare node) path = (reach? node path).map bare := by
  induction path generalizing node with
  | nil => rfl
  | cons segment rest ih =>
    obtain ⟨first, later⟩ := List.forall_mem_cons.mp free
    rw [reach?, reach?, isGroup_bare]
    split
    · next group =>
      cases node with
      | object members =>
        have inner : (Json.object members).isToken = false := by
          simpa [Json.isGroup, Json.isObject] using group
        rw [bare_group inner, Json.members, Json.members, child_bareIn first]
        cases child? members segment with
        | none => rfl
        | some child => exact ih later child
      | _ => cases group
    · rfl

mutual

private theorem anchors_bare : ∀ (node : Json), anchors (bare node) = (anchors node).map bare
  | .object members => by
    cases token : (Json.object members).isToken with
    | true => rw [bare_of_isToken token, anchors_of_isToken token, List.map_singleton, bare_of_isToken token]
    | false =>
      rw [bare_group token, anchors, anchors, isToken_bareIn, token]
      simp only [Bool.false_eq_true, if_false, List.map_cons, bare_group token, anchorsIn_bareIn members]
  | .null | .bool _ | .int _ | .float _ | .string _ | .array _ => rfl
termination_by structural node => node

private theorem anchorsIn_bareIn : ∀ (members : List (String × Json)),
    anchorsIn (bareIn members) = (anchorsIn members).map bare
  | [] => rfl
  | (key, node) :: rest => by
    rw [bareIn, anchorsIn, List.map_append, ← anchorsIn_bareIn rest]
    split
    · next described =>
      -- A text is no starting point.
      have plain : node.isGroup = false := by
        cases node <;> simp [describes, isText, Json.isGroup, Json.isObject] at described ⊢
      simp [plain]
    · rw [anchorsIn, isGroup_bare, anchors_bare node]
      split <;> simp
termination_by structural members => members

end

private theorem valueAt_bare {path : String} (free : ∀ segment ∈ segments path, ¬ NamesDescription segment)
    (tree : Json) : valueAt (bare tree) path = valueAt tree path := by
  have same : ∀ anchor, (reach? (bare anchor) (segments path)).bind answer? =
      (reach? anchor (segments path)).bind answer? := by
    intro anchor
    rw [reach_bare free]
    cases reach? anchor (segments path) with
    | none => rfl
    | some target => exact answer_bare target
  rw [valueAt, valueAt, anchors_bare, List.findSome?_map]
  simp only [Function.comp_def, same]

mutual

def height : Json → Nat
  | .object members => heightIn members + 1
  | _ => 0
termination_by structural node => node

def heightIn : List (String × Json) → Nat
  | [] => 0
  | (_, node) :: rest => max (height node) (heightIn rest)
termination_by structural members => members

end

private theorem height_le_of_mem {entry : String × Json} (member : entry ∈ members) :
    height entry.2 ≤ heightIn members := by
  induction members with
  | nil => cases member
  | cons first rest ih =>
    rw [heightIn]
    rcases List.mem_cons.mp member with rfl | later
    · exact Nat.le_max_left _ _
    · have := ih later
      omega

private theorem length_le_of_reach {path : List String} (reached : reach? node path = some target) :
    path.length ≤ height node := by
  induction path generalizing node with
  | nil => exact Nat.zero_le _
  | cons segment rest ih =>
    rw [reach?] at reached
    split at reached
    · next group =>
      obtain ⟨child, found, onward⟩ := Option.bind_eq_some_iff.mp reached
      obtain ⟨key, member⟩ := mem_of_child found
      have shorter := ih onward
      cases node with
      | object members =>
        have inside : height child ≤ heightIn members := height_le_of_mem member
        rw [height, List.length_cons]
        omega
      | _ => cases group
    · cases reached

mutual

private theorem height_anchor : ∀ (node : Json) {anchor : Json}, anchor ∈ anchors node →
    height anchor ≤ height node
  | .object members, anchor, member => by
    rw [anchors] at member
    rcases List.mem_cons.mp member with rfl | below
    · exact Nat.le_refl _
    · split at below
      · cases below
      · have := heightIn_anchor members below
        rw [height]
        omega
  | .null, _, member => by simp [anchors] at member
  | .bool _, _, member | .int _, _, member | .float _, _, member | .string _, _, member
  | .array _, _, member => by
    simp only [anchors, List.mem_singleton] at member
    exact Nat.le_of_eq (congrArg height member)
termination_by structural node => node

theorem heightIn_anchor : ∀ (members : List (String × Json)) {anchor : Json},
    anchor ∈ anchorsIn members → height anchor ≤ heightIn members
  | [], _, member => by simp [anchorsIn] at member
  | (key, node) :: rest, anchor, member => by
    rw [anchorsIn] at member
    rw [heightIn]
    rcases List.mem_append.mp member with here | later
    · split at here
      · have := height_anchor node here
        omega
      · cases here
    · have := heightIn_anchor rest later
      omega
termination_by structural members => members

end

/-- A path as long as the tree is high can only be followed from the root. -/
theorem valueAt_of_high {path : String} (high : height tree ≤ (segments path).length)
    (silent : (reach? tree (segments path)).bind answer? = none) : valueAt tree path = .null := by
  have nothing : (anchors tree).findSome? (fun anchor => (reach? anchor (segments path)).bind answer?) =
      none := by
    apply List.findSome?_eq_none_iff.mpr
    intro anchor member
    cases tree with
    | null => cases member
    | object members =>
      rw [anchors] at member
      rcases List.mem_cons.mp member with rfl | below
      · exact silent
      · split at below
        · cases below
        · cases reached : reach? anchor (segments path) with
          | none => rfl
          | some target =>
            have long := length_le_of_reach reached
            have low := heightIn_anchor members below
            rw [height] at high
            omega
    | _ =>
      cases List.mem_singleton.mp member
      exact silent
  rw [valueAt, nothing, Option.getD_none]

/-- A node inside groups that have one member each. -/
def chain (node : Json) : List String → Json
  | [] => node
  | key :: rest => .object [(key, chain node rest)]

theorem isToken_single (key : String) (node : Json) : (Json.object [(key, node)]).isToken = false := by
  simp only [Json.isToken, Json.has, Json.members, Entries.get?_cons, Entries.get?_nil]
  by_cases value : key = "value" ∨ key = "$value"
  · rcases value with rfl | rfl <;> rfl
  · obtain ⟨one, two⟩ := not_or.mp value
    simp [one, two]

theorem isObject_chain (object : node.isObject = true) (keys : List String) :
    (chain node keys).isObject = true := by
  cases keys with
  | nil => exact object
  | cons key rest => rfl

theorem reach_chain (node : Json) (keys rest : List String) :
    reach? (chain node keys) (keys ++ rest) = reach? node rest := by
  induction keys with
  | nil => rfl
  | cons key later ih =>
    have group : (Json.object [(key, chain node later)]).isGroup = true := by
      rw [Json.isGroup, isToken_single]
      rfl
    rw [chain, List.cons_append, reach?, if_pos group, Json.members, child?, Entries.get?_cons,
      if_pos rfl]
    exact ih

private theorem height_chain (node : Json) (keys : List String) :
    height (chain node keys) = keys.length + height node := by
  induction keys with
  | nil => exact (Nat.zero_add _).symm
  | cons key rest ih =>
    rw [chain, height, heightIn, heightIn, ih, List.length_cons]
    omega

private theorem bare_chain (object : node.isObject = true) (keys : List String) :
    bare (chain node keys) = chain (bare node) keys := by
  induction keys with
  | nil => rfl
  | cons key rest ih =>
    have stays : describes key (chain node rest) = false := by
      have inner := isObject_chain object rest
      cases shape : chain node rest <;> simp_all [describes, isText, Json.isObject]
    rw [chain, bare_group (isToken_single _ _), bareIn_cons, stays, ih]
    rfl

private theorem unique_object (distinct : members.keys.Nodup) (inner : ∀ entry ∈ members, Unique entry.2) :
    Unique (.object members) := by
  intro keys deeper found
  cases keys with
  | nil =>
    cases found
    exact distinct
  | cons key rest =>
    obtain ⟨node, here, onward⟩ := Option.bind_eq_some_iff.mp found
    exact inner _ (Entries.mem_of_get? here) rest deeper onward

theorem unique_chain (unique : Unique node) (keys : List String) : Unique (chain node keys) := by
  induction keys with
  | nil => exact unique
  | cons key rest ih =>
    apply unique_object (by simp [Entries.keys])
    intro entry member
    cases List.mem_singleton.mp member
    exact ih

private theorem unique_text (text : String) : Unique (.string text) := by
  intro keys members found
  cases keys <;> cases found

/-- There is always another key beside that of the description that is loosely equal to the segment. -/
theorem exists_twin (names : NamesDescription segment) :
    ∃ key ∈ descriptionKeys, ∃ twin, Key.loose key = Key.loose segment ∧
      Key.loose twin = Key.loose segment ∧ twin ≠ segment ∧ twin ∉ descriptionKeys := by
  obtain ⟨key, member, equal⟩ := names
  have twins : ∀ key ∈ descriptionKeys, ∀ twin ∈ [key ++ "-", key ++ "_"],
      Key.loose twin = Key.loose key ∧ twin ∉ descriptionKeys := by
    decide +kernel
  have different : key ++ "-" ≠ key ++ "_" := by
    intro same
    exact absurd (String.append_right_inj key |>.mp same) (by decide)
  by_cases taken : key ++ "-" = segment
  · obtain ⟨loose, plain⟩ := twins key member (key ++ "_") (by simp)
    exact ⟨key, member, key ++ "_", equal, loose.trans equal, fun same => different (taken.trans same.symm), plain⟩
  · obtain ⟨loose, plain⟩ := twins key member (key ++ "-") (by simp)
    exact ⟨key, member, key ++ "-", equal, loose.trans equal, taken, plain⟩

/-- A group with one member, whose description comes before it. -/
def noted (key twin : String) (inner : Json) : Json :=
  .object [(key, .string "note"), (twin, inner)]

section Noted

variable {twin : String} {inner : Json}

private theorem bareIn_noted (described : key ∈ descriptionKeys) (twin : String) (inner : Json) :
    bareIn [(key, .string "note"), (twin, inner)] = bareIn [(twin, inner)] := by
  rw [bareIn_cons, if_pos (by simp [describes, described, isText])]

private theorem isToken_noted (described : key ∈ descriptionKeys) (twin : String) (inner : Json) :
    (noted key twin inner).isToken = false := by
  rw [noted, ← isToken_bareIn, bareIn_noted described, isToken_bareIn, isToken_single]

private theorem bare_noted (described : key ∈ descriptionKeys) (twin : String) (inner : Json) :
    bare (noted key twin inner) = bare (chain inner [twin]) := by
  rw [noted, bare_group (isToken_noted described twin inner), chain, chain,
    bare_group (isToken_single twin inner), bareIn_noted described]

private theorem unique_noted (different : key ≠ twin) (unique : Unique inner) :
    Unique (noted key twin inner) := by
  apply unique_object (by simp [Entries.keys, different])
  intro entry member
  rcases List.mem_cons.mp member with rfl | last
  · exact unique_text _
  · cases List.mem_singleton.mp last
    exact unique

/-- The description is taken, by its own key or as the first that is loosely equal. -/
theorem reach_noted (described : key ∈ descriptionKeys) (loose : Key.loose key = Key.loose segment)
    (other : twin ≠ segment) (rest : List String) :
    reach? (noted key twin inner) (segment :: rest) = reach? (.string "note") rest := by
  have group : (noted key twin inner).isGroup = true := by
    rw [Json.isGroup, isToken_noted described]
    rfl
  rw [reach?, if_pos group, noted, Json.members, child?, Entries.get?_cons]
  by_cases same : key = segment
  · rw [if_pos same]
    rfl
  · rw [if_neg same, Entries.get?_cons, if_neg other, Entries.get?_nil,
      List.find?_cons_of_pos (by simpa using loose)]
    rfl

private theorem reach_twin (loose : Key.loose twin = Key.loose segment) (other : twin ≠ segment)
    (rest : List String) : reach? (chain inner [twin]) (segment :: rest) = reach? inner rest := by
  have group : (chain inner [twin]).isGroup = true := by
    rw [chain, Json.isGroup, isToken_single]
    rfl
  rw [reach?, if_pos group, chain, Json.members, child?, Entries.get?_cons, if_neg other,
    Entries.get?_nil, List.find?_cons_of_pos (by simpa using loose)]
  rfl

variable {path : String} {before after : List String}
  (spelled : segments path = before ++ segment :: after)

include spelled

private theorem valueAt_twin (loose : Key.loose twin = Key.loose segment) (other : twin ≠ segment) :
    valueAt (chain (chain (chain (.string "found") after) [twin]) before) path = .string "found" := by
  apply valueAt_of_root (isObject_chain rfl before)
  have whole := reach_chain (.string "found") after []
  rw [List.append_nil] at whole
  rw [spelled, reach_chain, reach_twin loose other, whole]
  rfl

private theorem valueAt_noted_ne (described : key ∈ descriptionKeys) (loose : Key.loose key = Key.loose segment)
    (other : twin ≠ segment) :
    valueAt (chain (noted key twin (chain (.string "found") after)) before) path ≠ .string "found" := by
  have stopped : reach? (chain (noted key twin (chain (.string "found") after)) before) (segments path) =
      reach? (.string "note") after := by
    rw [spelled, reach_chain, reach_noted described loose other]
  -- At the end of the path the description answers, before the end it is no group to go on in.
  cases after with
  | nil =>
    rw [valueAt_of_root (isObject_chain rfl before) (by rw [stopped]; rfl)]
    exact fun same => absurd (Json.string.inj same) (by decide)
  | cons next later =>
    have high : height (chain (noted key twin (chain (.string "found") (next :: later))) before) ≤
        (segments path).length := by
      have flat (text : String) : height (.string text) = 0 := rfl
      rw [height_chain, noted, height, heightIn, heightIn, heightIn, height_chain, flat, flat, spelled]
      simp only [List.length_append, List.length_cons]
      omega
    rw [valueAt_of_high high (by rw [stopped]; rfl)]
    exact Json.noConfusion

end Noted

private theorem exists_different {path : String} (listed : segment ∈ segments path)
    (names : NamesDescription segment) :
    ∃ tree other, Unique tree ∧ Unique other ∧ SameButDescriptions tree other ∧
      valueAt tree path ≠ valueAt other path := by
  obtain ⟨key, described, twin, loose, loose', other, plain⟩ := exists_twin names
  obtain ⟨before, after, spelled⟩ := List.append_of_mem listed
  have unique : Unique (chain (.string "found") after) := unique_chain (unique_text _) after
  have different : key ≠ twin := fun same => plain (same ▸ described)
  refine ⟨chain (noted key twin (chain (.string "found") after)) before,
    chain (chain (chain (.string "found") after) [twin]) before,
    unique_chain (unique_noted different unique) before, unique_chain (unique_chain unique [twin]) before, ?_, ?_⟩
  · rw [SameButDescriptions, bare_chain rfl, bare_chain rfl, bare_noted described]
  · rw [valueAt_twin spelled loose' other]
    exact valueAt_noted_ne spelled described loose other

/-- Where no segment names a description, descriptions can be added, changed and removed without a
difference. For any other path there is a tree in which one makes a difference. -/
theorem valueAt_sameButDescriptions (path : String) :
    ((∀ segment ∈ segments path, ¬ NamesDescription segment) →
      ∀ tree other, SameButDescriptions tree other → valueAt tree path = valueAt other path) ∧
    ((∃ segment ∈ segments path, NamesDescription segment) →
      ∃ tree other, Unique tree ∧ Unique other ∧ SameButDescriptions tree other ∧
        valueAt tree path ≠ valueAt other path) := by
  refine ⟨?_, ?_⟩
  · intro free tree other same
    calc valueAt tree path
      _ = valueAt (bare tree) path := (valueAt_bare free tree).symm
      _ = valueAt (bare other) path := by rw [same]
      _ = valueAt other path := valueAt_bare free other
  · intro ⟨segment, listed, names⟩
    exact exists_different listed names

/-- A palette with or without a description, and behind it a token whose key is loosely equal to that of
the description. -/
def brandPalette (description : Entries Json) : Json :=
  .object [("palette", .object (description ++ [("red", .color "#ff3757")])),
    ("text", .object [("Description", .color "#333333")])]

def described : Json :=
  brandPalette [("description", .string "Brand palette")]

private theorem eq_string {value : Json} {text : String} (isString : isText value = true)
    (shown : value.display = text) : value = .string text := by
  cases value with
  | string other => exact congrArg Json.string shown
  | _ => cases isString

theorem description_answers :
    Unique described ∧ Unique (brandPalette []) ∧ SameButDescriptions described (brandPalette []) ∧
    valueAt described "Description" = .string "Brand palette" ∧
    valueAt (brandPalette []) "Description" = .string "#333333" := by
  have unique (tree : Json) (texts : Texts (fun _ => True) tree) : Unique tree := unique_of_texts texts
  refine ⟨unique _ ?_, unique _ ?_, rfl, ?_, ?_⟩
  · simp [described, brandPalette, Json.color, Json.token, Texts, TextsIn, Entries.keys]
  · simp [brandPalette, Json.color, Json.token, Texts, TextsIn, Entries.keys]
  · exact eq_string (by decide +kernel) (by decide +kernel)
  · exact eq_string (by decide +kernel) (by decide +kernel)

theorem valueAt_sameButDescriptions_palette :
    SameButDescriptions described (brandPalette []) ∧
    valueAt described "palette.red" = valueAt (brandPalette []) "palette.red" ∧
    valueAt (brandPalette []) "palette.red" = .string "#ff3757" ∧
    ∃ tree other, SameButDescriptions tree other ∧
      valueAt tree "text.Description" ≠ valueAt other "text.Description" := by
  have same : SameButDescriptions described (brandPalette []) := rfl
  have red : valueAt (brandPalette []) "palette.red" = .string "#ff3757" := rfl
  have free : ∀ segment ∈ segments "palette.red", ¬ NamesDescription segment := by decide +kernel
  have named : ∃ segment ∈ segments "text.Description", NamesDescription segment := by decide +kernel
  obtain ⟨tree, other, _, _, alike, different⟩ := (valueAt_sameButDescriptions "text.Description").2 named
  exact ⟨same, (valueAt_sameButDescriptions "palette.red").1 free _ _ same, red, tree, other, alike, different⟩

end DesignTokens.Proofs.Descriptions
