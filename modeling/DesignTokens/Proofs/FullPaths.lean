import DesignTokens.Alias.Follow

/-! The full path of a token. The root is the first starting point of every path, and at each group the
very key of a segment comes before all keys that are only loosely equal to it. So the keys on the way from
the root to a token, joined by dots, lead to this token, wherever else in the tree the same path might
lead. The keys may be empty, but a key with a dot in it would come out as two segments. -/

namespace DesignTokens.Proofs.FullPaths

/-- What keys lead to from a node, each of them the key of a member of a group. -/
inductive Stands : Json → List String → Json → Prop
  | here (node : Json) : Stands node [] node
  | inside {node child target : Json} {key : String} {rest : List String} (group : node.isGroup = true)
      (held : node.members.get? key = some child) (onward : Stands child rest target) :
      Stands node (key :: rest) target

variable {tree node target : Json} {keys : List String}

private theorem reach_of_stands (stands : Stands node keys target) : reach? node keys = some target := by
  induction stands with
  | here node => rfl
  | inside group held _ ih => rw [reach?, if_pos group, child?, held, Option.bind_some, ih]

private theorem isObject_of_stands (deep : keys ≠ []) (stands : Stands node keys target) :
    node.isObject = true := by
  cases stands with
  | here => exact absurd rfl deep
  | inside group => exact (Bool.and_eq_true_iff.mp group).1

/-- The segments of keys joined by dots are the keys. -/
theorem segments_joined (deep : keys ≠ []) (free : ∀ key ∈ keys, '.' ∉ key.toList) :
    segments (".".intercalate keys) = keys := by
  have parts : ∀ part ∈ keys.map String.toList, '.' ∉ part := by
    intro part member
    obtain ⟨key, inside, rfl⟩ := List.mem_map.mp member
    exact free key inside
  have split := List.splitOn_intercalate '.' parts (by simpa using deep)
  have dot : ".".toList = ['.'] := rfl
  rw [segments, String.toList_intercalate, dot, split, List.map_map]
  simp

/-- An alias that was not visited goes on with the value that its path leads to. -/
theorem resolveFrom_alias {visited : List String} {path : String} (fresh : path ∉ visited) :
    resolveFrom tree visited (.string (aliasText path)) =
      if (valueAt tree path).isNull then
        (⟨[.unresolved path], .string (aliasText path)⟩, path :: visited)
      else resolveFrom tree (path :: visited) (valueAt tree path) := by
  rw [resolveFrom, resolveFrom, aliasPath?_aliasText]
  dsimp only
  rw [follow, if_neg fresh]
  split
  · next next found =>
    -- An alias is a text, so it is not null.
    have answers : ¬ (valueAt tree path).isNull = true := by
      rw [aliasPath?_eq_some_iff.mp found]
      exact Bool.false_ne_true
    rw [if_neg answers, found]
  · next literal =>
    dsimp only
    rw [literal]
    split
    · rfl
    · rfl

/-- From the root, the keys of the groups around a token and its own key find the token, and its value is
what an alias with this path stands for. -/
theorem full_path_finds_token {token : Json} (stands : Stands tree keys token)
    (ends : token.isToken = true) (deep : keys ≠ []) (free : ∀ key ∈ keys, '.' ∉ key.toList) :
    valueAt tree (".".intercalate keys) = token.tokenValue ∧
    ∀ visited, ".".intercalate keys ∉ visited →
      resolveFrom tree visited (.string (aliasText (".".intercalate keys))) =
        if token.tokenValue.isNull then
          (⟨[.unresolved (".".intercalate keys)], .string (aliasText (".".intercalate keys))⟩,
            ".".intercalate keys :: visited)
        else resolveFrom tree (".".intercalate keys :: visited) token.tokenValue := by
  have found : valueAt tree (".".intercalate keys) = token.tokenValue := by
    apply valueAt_of_root (isObject_of_stands deep stands)
    rw [segments_joined deep free, reach_of_stands stands, Option.bind_some, answer_of_isToken ends]
  refine ⟨found, ?_⟩
  intro visited fresh
  rw [resolveFrom_alias fresh, found]

/-- Of the keys `text`, none at all and `on dark`, each stands behind one that is loosely equal to it. -/
def signs : Json :=
  .object [
    ("Text", .object [("", .object [("on dark", .color "#fff")])]),
    ("text", .object [
      ("-", .object [("on dark", .color "#ddd")]),
      ("", .object [("on-dark", .color "#ccc"), ("on dark", .color (aliasText "ink"))])]),
    ("ink", .color "#111")]

theorem full_path_finds_token_signs :
    valueAt signs "text..on dark" = .string (aliasText "ink") ∧
    resolve signs (.string (aliasText "text..on dark")) = pure (.string "#111") := by
  have onDark : Stands signs ["text", "", "on dark"] (.color (aliasText "ink")) :=
    .inside rfl rfl (.inside rfl rfl (.inside rfl rfl (.here _)))
  have ink : Stands signs ["ink"] (.color "#111") := .inside rfl rfl (.here _)
  obtain ⟨found, onward⟩ := full_path_finds_token onDark rfl (by decide) (by decide)
  obtain ⟨_, last⟩ := full_path_finds_token ink rfl (by decide) (by decide)
  refine ⟨found, ?_⟩
  calc resolve signs (.string (aliasText "text..on dark"))
      = (resolveFrom signs ["text..on dark"] (.string (aliasText "ink"))).1 :=
        congrArg Prod.fst (onward [] (by decide))
    _ = (resolveFrom signs ["ink", "text..on dark"] (.string "#111")).1 :=
        congrArg Prod.fst (last ["text..on dark"] (by decide))
    _ = pure (.string "#111") := rfl

end DesignTokens.Proofs.FullPaths
