import DesignTokens.Proofs.ModelTexts
import DesignTokens.Proofs.ReachedTokens

/-! The colours of a group against its tokens. What the nested map has at its ends are the tokens that
are colours, in the order of the document and under the normalised keys on the way to them, as long as
no two names in one group are the same. -/

namespace DesignTokens.Proofs.ColorTokens
open ModelTexts ReachedTokens

mutual

/-- The values in a nested map that are no maps, each with the names on the way to it. -/
def ends : Json → List (List String × Json)
  | .object members => endsIn members
  | value => [([], value)]
termination_by structural value => value

def endsIn : List (String × Json) → List (List String × Json)
  | [] => []
  | (name, value) :: rest => (ends value).map (fun leaf => (name :: leaf.1, leaf.2)) ++ endsIn rest
termination_by structural members => members

end

def colorTokens (members : Entries Json) : List (List String × Json) :=
  (tokensIn members).filter fun token => isColor token.2

def painted (tree : Json) (token : List String × Json) : List String × Json :=
  (token.1.map Key.normalize, .string (resolve tree token.2.rawValue).value.display)

/-- A text, or a map that is not empty and has only such values. -/
def Filled (value : Json) : Prop :=
  ∀ inner, Occurs inner value → (∃ text, inner = .string text) ∨ ∃ first rest, inner = .object (first :: rest)

variable {tree : Json} {key name : String} {node : Json} {members rest found : Entries Json}

mutual

private theorem leaves_eq_length : ∀ value : Json, value.leaves = (ends value).length
  | .object members => leavesIn_eq_length members
  | .null | .bool _ | .int _ | .float _ | .string _ | .array _ => rfl
termination_by structural value => value

theorem leavesIn_eq_length : ∀ members : List (String × Json), Json.leavesIn members = (endsIn members).length
  | [] => rfl
  | (name, value) :: rest => by
    rw [Json.leavesIn, endsIn, List.length_append, List.length_map, leaves_eq_length value,
      leavesIn_eq_length rest]
termination_by structural members => members

end

theorem endsIn_append (one two : Entries Json) : endsIn (one ++ two) = endsIn one ++ endsIn two := by
  induction one with
  | nil => rfl
  | cons entry rest ih => rw [List.cons_append, endsIn, endsIn, ih, List.append_assoc]

private theorem endsIn_put (fresh : name ∉ found.keys) (value : Json) : endsIn (found.put name value) =
    endsIn found ++ (ends value).map fun leaf => (name :: leaf.1, leaf.2) := by
  rw [Entries.put_new fresh, endsIn_append, endsIn, endsIn, List.append_nil]

section Distinct

variable {later : List String} (distinct : (found.keys ++ name :: later).Nodup)

include distinct

theorem fresh_of_distinct : name ∉ found.keys := by
  intro present
  exact (List.nodup_append.mp distinct).2.2 name present name List.mem_cons_self rfl

private theorem distinct_passed : (found.keys ++ later).Nodup :=
  distinct.sublist (List.Sublist.append_left (List.sublist_cons_self name later) found.keys)

private theorem distinct_put (value : Json) : ((found.put name value).keys ++ later).Nodup := by
  rw [Entries.keys_put, if_neg (fresh_of_distinct distinct), List.append_assoc]
  exact distinct

end Distinct

private theorem colorTokens_token (kept : ¬ (isReserved key || !node.isObject) = true)
    (token : node.isToken = true) :
    colorTokens ((key, node) :: rest) =
      if isColor node then ([key], node) :: colorTokens rest else colorTokens rest := by
  rw [colorTokens, tokensIn_token kept token, List.filter_cons]
  rfl

private theorem colorTokens_group {inner : Entries Json}
    (kept : ¬ (isReserved key || !(Json.object inner).isObject) = true)
    (group : (Json.object inner).isToken = false) : colorTokens ((key, .object inner) :: rest) =
      (colorTokens inner).map (fun token => (key :: token.1, token.2)) ++ colorTokens rest := by
  rw [colorTokens, tokensIn_group kept group, List.filter_append, List.filter_map]
  rfl

theorem painted_cons (tree : Json) (key : String) (tokens : List (List String × Json)) :
    (tokens.map fun token => (key :: token.1, token.2)).map (painted tree) =
      (tokens.map (painted tree)).map fun leaf => (Key.normalize key :: leaf.1, leaf.2) := by
  rw [List.map_map, List.map_map]
  rfl

/-- As long as no name comes twice, every colour comes behind those before it. -/
theorem endsIn_addColors (distinct : (found.keys ++ names members).Nodup)
    (below : ∀ group ∈ groupsIn members, (names group).Nodup) :
    endsIn (addColors tree found members).value =
      endsIn found ++ (colorTokens members).map (painted tree) := by
  induction members using walk generalizing found with
  | nil => exact (List.append_nil _).symm
  | skipped skip ih =>
    rw [names_skipped skip] at distinct
    rw [groupsIn_skipped skip] at below
    rw [addColors, if_pos skip, colorTokens, tokensIn_skipped skip]
    exact ih distinct below
  | @token key node rest kept token ih =>
    rw [names_kept kept] at distinct
    rw [groupsIn_token kept token] at below
    rw [addColors, if_neg kept, if_pos token, colorTokens_token kept token]
    split
    · rw [Noted.value_bind, ih (distinct_put distinct _) below, endsIn_put (fresh_of_distinct distinct),
        List.append_assoc]
      rfl
    · exact ih (distinct_passed distinct) below
  | @group key inner rest kept group ihInner ih =>
    rw [names_kept kept] at distinct
    rw [groupsIn_group kept group, List.forall_mem_append, List.forall_mem_cons] at below
    obtain ⟨⟨here, deeper⟩, later⟩ := below
    have nested : endsIn (addColors tree [] inner).value = (colorTokens inner).map (painted tree) :=
      ihInner here deeper
    rw [addColors, if_neg kept, group, if_neg Bool.false_ne_true, Noted.value_bind, colors,
      colorTokens_group kept group, List.map_append, painted_cons, ← nested]
    split
    · next empty =>
      rw [List.isEmpty_iff.mp empty]
      exact ih (distinct_passed distinct) later
    · rw [ih (distinct_put distinct _) later, endsIn_put (fresh_of_distinct distinct), List.append_assoc]
      rfl

private theorem filled_text (text : String) : Filled (.string text) := by
  intro inner occurs
  exact Or.inl ⟨text, occurs_string_iff.mp occurs⟩

private theorem filled_object (some_member : members ≠ []) (inside : ∀ entry ∈ members, Filled entry.2) :
    Filled (.object members) := by
  intro inner occurs
  rcases occurs_object_iff.mp occurs with rfl | ⟨entry, member, deeper⟩
  · obtain ⟨first, rest, shape⟩ := List.exists_cons_of_ne_nil some_member
    exact Or.inr ⟨first, rest, congrArg Json.object shape⟩
  · exact inside entry member inner deeper

private theorem filled_put (before : ∀ entry ∈ found, Filled entry.2) {value : Json} (filled : Filled value) :
    ∀ entry ∈ found.put name value, Filled entry.2 := by
  intro entry member
  rcases Entries.mem_put member with old | rfl
  · exact before entry old
  · exact filled

private theorem addColors_filled (before : ∀ entry ∈ found, Filled entry.2) :
    ∀ entry ∈ (addColors tree found members).value, Filled entry.2 := by
  induction members using walk generalizing found with
  | nil => exact before
  | skipped skip ih =>
    rw [addColors, if_pos skip]
    exact ih before
  | token kept token ih =>
    rw [addColors, if_neg kept, if_pos token]
    split
    · exact ih (filled_put before (filled_text _))
    · exact ih before
  | group kept group below later =>
    rw [addColors, if_neg kept, group, if_neg Bool.false_ne_true, Noted.value_bind, colors]
    have inner : ∀ entry ∈ (addColors tree [] _).value, Filled entry.2 := below fun _ member => nomatch member
    split
    · exact later before
    · next some_color => exact later (filled_put before (filled_object (by simpa using some_color) inner))

/-- Where no two names in a group are the same, the ends of the map are the colours of the group in
order, and there are as many of them. Whatever the names are, all ends are texts and no map within the
map is empty. -/
theorem colors_keep_tokens (tree : Json) (members : Entries Json) :
    ((∀ group ∈ members :: groupsIn members, (names group).Nodup) →
      endsIn (colors tree (.object members)).value = (colorTokens members).map (painted tree) ∧
      Json.leavesIn (colors tree (.object members)).value = (colorTokens members).length) ∧
    ∀ entry ∈ (colors tree (.object members)).value, Filled entry.2 := by
  rw [colors]
  refine ⟨?_, ?_⟩
  · intro distinct
    obtain ⟨here, below⟩ := List.forall_mem_cons.mp distinct
    have ends : endsIn (addColors tree [] members).value = (colorTokens members).map (painted tree) :=
      endsIn_addColors here below
    exact ⟨ends, by rw [leavesIn_eq_length, ends, List.length_map]⟩
  · exact addColors_filled fun _ member => nomatch member

def swatches : Entries Json :=
  [("description", .object [("note", .color "#000")]),
    ("Brand Blue", .object [("500", .color "#387adf"), ("gap", .dimension "8")]),
    ("sizes", .object [("sm", .dimension "4")]), ("type", .string "color"),
    ("link", .color "{brand-blue.500}")]

theorem colors_keep_tokens_swatches :
    (∀ group ∈ swatches :: groupsIn swatches, (names group).Nodup) ∧
    (endsIn (colors (.object swatches) (.object swatches)).value).map
        (fun leaf => (leaf.1, leaf.2.display)) =
      [(["brand-blue", "500"], "#387adf"), (["link"], "#387adf")] ∧
    Json.leavesIn (colors (.object swatches) (.object swatches)).value = 2 := by
  have distinct : ∀ group ∈ swatches :: groupsIn swatches, (names group).Nodup := by decide +kernel
  obtain ⟨ends, count⟩ := (colors_keep_tokens (.object swatches) swatches).1 distinct
  refine ⟨distinct, ?_, ?_⟩
  · rw [ends]
    decide +kernel
  · rw [count]
    decide +kernel

end DesignTokens.Proofs.ColorTokens
