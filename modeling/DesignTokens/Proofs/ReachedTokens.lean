import DesignTokens.Key
import DesignTokens.Tree

/-! The tokens of a group in document order, each with the keys on the way to it, and the groups that
they stand in. Keys that describe a group lead to none, and neither does a token. -/

namespace DesignTokens.Proofs.ReachedTokens

mutual

/-- The token that a node is, or the tokens below it. -/
def tokens : Json → List (List String × Json)
  | .object members =>
    if (Json.object members).isToken then [([], .object members)] else tokensIn members
  | _ => []
termination_by structural node => node

def tokensIn : List (String × Json) → List (List String × Json)
  | [] => []
  | (key, node) :: rest =>
    (if isReserved key then [] else (tokens node).map fun token => (key :: token.1, token.2)) ++
      tokensIn rest
termination_by structural members => members

end

mutual

/-- The group that a node is, before the groups below it. -/
def groups : Json → List (Entries Json)
  | .object members => if (Json.object members).isToken then [] else members :: groupsIn members
  | _ => []
termination_by structural node => node

def groupsIn : List (String × Json) → List (Entries Json)
  | [] => []
  | (key, node) :: rest => (if isReserved key then [] else groups node) ++ groupsIn rest
termination_by structural members => members

end

/-- The names that lead on from a group, as they are normalised. -/
def names (members : Entries Json) : List String :=
  (members.filter fun entry => !isReserved entry.1 && entry.2.isObject).map fun entry =>
    Key.normalize entry.1

variable {key : String} {node : Json} {rest members : Entries Json}

private theorem tokens_of_leaf (leaf : node.isObject = false) : tokens node = [] := by
  cases node with
  | object members => cases leaf
  | _ => rfl

private theorem groups_of_leaf (leaf : node.isObject = false) : groups node = [] := by
  cases node with
  | object members => cases leaf
  | _ => rfl

theorem skipped_cases (skipped : (isReserved key || !node.isObject) = true) :
    isReserved key = true ∨ node.isObject = false := by
  simpa using skipped

theorem kept_cases (kept : ¬ (isReserved key || !node.isObject) = true) :
    isReserved key = false ∧ node.isObject = true := by
  simpa using kept

theorem tokensIn_skipped (skipped : (isReserved key || !node.isObject) = true) :
    tokensIn ((key, node) :: rest) = tokensIn rest := by
  rw [tokensIn]
  rcases skipped_cases skipped with reserved | leaf
  · rw [if_pos reserved, List.nil_append]
  · rw [tokens_of_leaf leaf, List.map_nil, ite_self, List.nil_append]

theorem groupsIn_skipped (skipped : (isReserved key || !node.isObject) = true) :
    groupsIn ((key, node) :: rest) = groupsIn rest := by
  rw [groupsIn]
  rcases skipped_cases skipped with reserved | leaf
  · rw [if_pos reserved, List.nil_append]
  · rw [groups_of_leaf leaf, ite_self, List.nil_append]

theorem names_skipped (skipped : (isReserved key || !node.isObject) = true) :
    names ((key, node) :: rest) = names rest := by
  rw [names, List.filter_cons_of_neg]
  · rfl
  · rcases skipped_cases skipped with reserved | leaf
    · simp [reserved]
    · simp [leaf]

theorem names_kept (kept : ¬ (isReserved key || !node.isObject) = true) :
    names ((key, node) :: rest) = Key.normalize key :: names rest := by
  obtain ⟨plain, object⟩ := kept_cases kept
  rw [names, List.filter_cons_of_pos (by simp [plain, object])]
  rfl

theorem tokensIn_token (kept : ¬ (isReserved key || !node.isObject) = true) (token : node.isToken = true) :
    tokensIn ((key, node) :: rest) = ([key], node) :: tokensIn rest := by
  cases node with
  | object members =>
    rw [tokensIn, (kept_cases kept).1, tokens, if_pos token]
    rfl
  | _ => cases token

theorem groupsIn_token (kept : ¬ (isReserved key || !node.isObject) = true) (token : node.isToken = true) :
    groupsIn ((key, node) :: rest) = groupsIn rest := by
  cases node with
  | object members =>
    rw [groupsIn, (kept_cases kept).1, groups, if_pos token]
    rfl
  | _ => cases token

section Group

variable {inner : Entries Json} (kept : ¬ (isReserved key || !(Json.object inner).isObject) = true)
  (group : (Json.object inner).isToken = false)

include kept group

theorem tokensIn_group : tokensIn ((key, .object inner) :: rest) =
    (tokensIn inner).map (fun token => (key :: token.1, token.2)) ++ tokensIn rest := by
  rw [tokensIn, (kept_cases kept).1, if_neg Bool.false_ne_true, tokens, group, if_neg Bool.false_ne_true]

theorem groupsIn_group : groupsIn ((key, .object inner) :: rest) =
    (inner :: groupsIn inner) ++ groupsIn rest := by
  rw [groupsIn, (kept_cases kept).1, if_neg Bool.false_ne_true, groups, group, if_neg Bool.false_ne_true]

end Group

section Walk

variable {motive : Entries Json → Prop} (nil : motive [])
  (skipped : ∀ {key node rest}, (isReserved key || !node.isObject) = true → motive rest →
    motive ((key, node) :: rest))
  (token : ∀ {key node rest}, ¬ (isReserved key || !node.isObject) = true → node.isToken = true →
    motive rest → motive ((key, node) :: rest))
  (group : ∀ {key inner rest}, ¬ (isReserved key || !(Json.object inner).isObject) = true →
    (Json.object inner).isToken = false → motive inner → motive rest →
    motive ((key, .object inner) :: rest))

include nil skipped token group

/-- A member is passed over, or it is a token, or it is a group, to which the same applies. -/
@[elab_as_elim]
theorem walk (members : Entries Json) : motive members := by
  match members with
  | [] => exact nil
  | (key, node) :: rest =>
    have later := walk rest
    by_cases skip : (isReserved key || !node.isObject) = true
    · exact skipped skip later
    · match node with
      | .object inner =>
        have below := walk inner
        cases isToken : (Json.object inner).isToken with
        | true => exact token skip isToken later
        | false => exact group skip isToken below later
      | .null | .bool _ | .int _ | .float _ | .string _ | .array _ => exact absurd (Bool.or_true _) skip
termination_by sizeOf members

end Walk

theorem keys_ne_nil (members : Entries Json) : ∀ token ∈ tokensIn members, token.1 ≠ [] := by
  induction members using walk with
  | nil => exact fun _ member => nomatch member
  | skipped skip ih => rwa [tokensIn_skipped skip]
  | token kept isToken ih =>
    rw [tokensIn_token kept isToken]
    exact List.forall_mem_cons.mpr ⟨List.cons_ne_nil _ _, ih⟩
  | group kept isGroup _ ih =>
    rw [tokensIn_group kept isGroup, List.forall_mem_append]
    refine ⟨?_, ih⟩
    intro token member
    obtain ⟨inner, _, rfl⟩ := List.mem_map.mp member
    exact List.cons_ne_nil _ inner.1

/-- The keys on the way to a token lead on from groups on that way. -/
theorem mem_names_of_key (members : Entries Json) : ∀ token ∈ tokensIn members, ∀ key ∈ token.1,
    Key.normalize key ∈ names members ∨ ∃ group ∈ groupsIn members, Key.normalize key ∈ names group := by
  induction members using walk with
  | nil => exact fun _ member => nomatch member
  | skipped skip ih => rwa [tokensIn_skipped skip, groupsIn_skipped skip, names_skipped skip]
  | @token key node rest kept isToken ih =>
    rw [tokensIn_token kept isToken, groupsIn_token kept isToken, names_kept kept]
    intro token member name listed
    rcases List.mem_cons.mp member with rfl | later
    · cases List.mem_singleton.mp listed
      exact Or.inl List.mem_cons_self
    · exact (ih token later name listed).imp_left (List.mem_cons_of_mem _)
  | @group key inner rest kept isGroup below ih =>
    rw [tokensIn_group kept isGroup, groupsIn_group kept isGroup, names_kept kept]
    intro token member name listed
    rcases List.mem_append.mp member with inside | later
    · obtain ⟨deeper, reached, rfl⟩ := List.mem_map.mp inside
      rcases List.mem_cons.mp listed with rfl | further
      · exact Or.inl List.mem_cons_self
      · right
        rcases below deeper reached name further with here | ⟨group, member, named⟩
        · exact ⟨inner, by simp, here⟩
        · exact ⟨group, by simp [member], named⟩
    · rcases ih token later name listed with here | ⟨group, member, named⟩
      · exact Or.inl (List.mem_cons_of_mem _ here)
      · exact Or.inr ⟨group, by simp [member], named⟩

theorem filled_keys (named : ∀ group ∈ members :: groupsIn members, "" ∉ names group)
    {token : List String × Json} (reached : token ∈ tokensIn members) :
    ∀ key ∈ token.1, Key.normalize key ≠ "" := by
  intro key listed empty
  obtain ⟨here, below⟩ := List.forall_mem_cons.mp named
  rcases mem_names_of_key members token reached key listed with found | ⟨group, member, found⟩
  · exact here (empty ▸ found)
  · exact below group member (empty ▸ found)

end DesignTokens.Proofs.ReachedTokens
