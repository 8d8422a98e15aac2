import DesignTokens.Proofs.AnchorOrder
import Mathlib.Data.Set.Card

/-! How long it can take to resolve a value. Each call either ends or visits a path that has not been
visited and calls itself with what stands there. From the second call on such a path is that of an alias in
the tree, so the aliases of the tree that are not visited yet are all that is left to visit. -/

namespace DesignTokens.Proofs.ResolutionBounds
open AnchorOrder

/-- A group of the tree has a token whose value is an alias with the path, or has that alias itself as a
literal. -/
inductive Offers : Json → String → Prop where
  | here {members name node path} (group : (Json.object members).isToken = false)
      (listed : (name, node) ∈ members) (tells : Tells node (.string (aliasText path))) :
      Offers (.object members) path
  | inside {members name node path} (group : (Json.object members).isToken = false)
      (listed : (name, node) ∈ members) (offers : Offers node path) : Offers (.object members) path

variable {tree value : Json} {visited : List String} {path : String}

theorem mem_aliasPaths_iff : path ∈ aliasPaths tree ↔ .string (aliasText path) ∈ answersIn tree := by
  rw [aliasPaths, List.mem_filterMap]
  constructor
  · rintro ⟨value, member, spelled⟩
    rwa [← aliasPath?_eq_some_iff.mp spelled]
  · exact fun member => ⟨_, member, aliasPath?_aliasText path⟩

mutual

private theorem offers_of_answersIn :
    ∀ (tree : Json), .string (aliasText path) ∈ answersIn tree → Offers tree path
  | .object members, member => by
    rw [answersIn] at member
    split at member
    · cases member
    · next group =>
      have open_group : (Json.object members).isToken = false := by simpa using group
      obtain ⟨name, node, listed, answers | inside⟩ := offers_of_memberAnswers members member
      · exact .here open_group listed (tells_iff.mpr answers)
      · exact .inside open_group listed inside
  | .null, member | .bool _, member | .int _, member | .float _, member | .string _, member
  | .array _, member => nomatch member
termination_by structural tree => tree

private theorem offers_of_memberAnswers : ∀ (members : List (String × Json)),
    .string (aliasText path) ∈ memberAnswers members → ∃ name node, (name, node) ∈ members ∧
      (answer? node = some (.string (aliasText path)) ∨ Offers node path)
  | (name, node) :: rest, member => by
    rw [memberAnswers, List.mem_append, List.mem_append] at member
    rcases member with (answers | inside) | later
    · exact ⟨name, node, List.mem_cons_self, Or.inl (Option.mem_toList.mp answers)⟩
    · exact ⟨name, node, List.mem_cons_self, Or.inr (offers_of_answersIn node inside)⟩
    · obtain ⟨other, node, listed, found⟩ := offers_of_memberAnswers rest later
      exact ⟨other, node, List.mem_cons_of_mem _ listed, found⟩
termination_by structural members => members

end

theorem offers_iff : Offers tree path ↔ path ∈ aliasPaths tree := by
  rw [mem_aliasPaths_iff]
  constructor
  · intro offers
    induction offers with
    | here group listed tells =>
      rw [answersIn, if_neg (by simp [group])]
      exact memberAnswers_subset listed (List.mem_append_left _ (by simp [tells_iff.mp tells]))
    | inside group listed offers ih =>
      rw [answersIn, if_neg (by simp [group])]
      exact memberAnswers_subset listed (List.mem_append_right _ ih)
  · exact offers_of_answersIn tree

/-- What an alias leads to is no alias from outside the tree. -/
theorem offers_valueAt {next : String} (onward : aliasPath? (valueAt tree path) = some next) :
    Offers tree next :=
  offers_iff.mpr (aliasPath_mem onward)

theorem offers_finite (tree : Json) : {path | Offers tree path}.Finite :=
  (List.finite_toSet (aliasPaths tree)).subset fun _ offers => offers_iff.mp offers

/-- The number of aliases in the tree whose path has not been visited. Two spellings of a path are two
aliases. -/
noncomputable def remaining (tree : Json) (visited : List String) : Nat :=
  {path | Offers tree path ∧ path ∉ visited}.ncard

theorem remaining_finite (tree : Json) (visited : List String) :
    {path | Offers tree path ∧ path ∉ visited}.Finite :=
  (offers_finite tree).subset fun _ => And.left

private theorem remaining_le_offers (tree : Json) (visited : List String) :
    remaining tree visited ≤ {path | Offers tree path}.ncard :=
  Set.ncard_le_ncard (fun _ => And.left) (offers_finite tree)

private theorem remaining_cons_le (tree : Json) (visited : List String) (path : String) :
    remaining tree (path :: visited) ≤ remaining tree visited := by
  apply Set.ncard_le_ncard _ (remaining_finite tree visited)
  rintro other ⟨offers, fresh⟩
  exact ⟨offers, fun seen => fresh (List.mem_cons_of_mem _ seen)⟩

private theorem remaining_cons_lt (offers : Offers tree path) (fresh : path ∉ visited) :
    remaining tree (path :: visited) < remaining tree visited := by
  apply Set.ncard_lt_ncard _ (remaining_finite tree visited)
  refine Set.ssubset_iff_exists.mpr ⟨?_, path, ⟨offers, fresh⟩, fun kept => kept.2 List.mem_cons_self⟩
  rintro other ⟨offered, unseen⟩
  exact ⟨offered, fun seen => unseen (List.mem_cons_of_mem _ seen)⟩

/-- Resolving a value with some paths visited calls itself with the value that a new path leads to. -/
inductive Calls (tree : Json) : Json × List String → Json × List String → Prop where
  | onward {visited : List String} {path : String} (fresh : path ∉ visited) (found : valueAt tree path ≠ .null) :
      Calls tree (.string (aliasText path), visited) (valueAt tree path, path :: visited)

/-- Resolves a value if no more than so many calls are needed. -/
def attempt (tree : Json) : (calls : Nat) → List String → Json → Option (Noted Json × List String)
  | 0, _, _ => none
  | calls + 1, visited, value =>
    match aliasPath? value with
    | none => some (pure value, visited)
    | some path =>
      if path ∈ visited then some (⟨[.cycle path], value⟩, visited)
      else if (valueAt tree path).isNull then some (⟨[.unresolved path], value⟩, path :: visited)
      else attempt tree calls (path :: visited) (valueAt tree path)

private theorem not_isNull (found : value ≠ .null) : value.isNull = false := by
  cases value <;> first | rfl | exact absurd rfl found

private theorem attempt_literal (calls : Nat) (literal : aliasPath? value = none) :
    attempt tree (calls + 1) visited value = some (pure value, visited) := by
  rw [attempt, literal]

private theorem attempt_seen (calls : Nat) (seen : path ∈ visited) :
    attempt tree (calls + 1) visited (.string (aliasText path)) =
      some (⟨[.cycle path], .string (aliasText path)⟩, visited) := by
  rw [attempt, aliasPath?_aliasText]
  exact if_pos seen

private theorem attempt_dead (calls : Nat) (fresh : path ∉ visited) (dead : valueAt tree path = .null) :
    attempt tree (calls + 1) visited (.string (aliasText path)) =
      some (⟨[.unresolved path], .string (aliasText path)⟩, path :: visited) := by
  rw [attempt, aliasPath?_aliasText]
  dsimp only
  rw [if_neg fresh, dead]
  rfl

/-- An attempt makes the calls of the relation and no others. -/
theorem attempt_calls {before after : Json × List String} (calls : Nat) (call : Calls tree before after) :
    attempt tree (calls + 1) before.2 before.1 = attempt tree calls after.2 after.1 := by
  obtain ⟨fresh, found⟩ := call
  rw [attempt, aliasPath?_aliasText]
  dsimp only
  rw [if_neg fresh, not_isNull found]
  rfl

/-- A call leaves no more to visit, and less if the alias is one of the tree. -/
theorem Calls.remaining_le {before after : Json × List String} (call : Calls tree before after) :
    remaining tree after.2 ≤ remaining tree before.2 := by
  obtain ⟨fresh, found⟩ := call
  exact remaining_cons_le tree _ _

theorem Calls.remaining_lt {before middle after : Json × List String} (first : Calls tree before middle)
    (second : Calls tree middle after) : remaining tree after.2 < remaining tree middle.2 := by
  obtain @⟨visited, path, fresh, found⟩ := first
  -- The second call is about what stands at the path of the first, so its alias is one of the tree.
  generalize standing : valueAt tree path = value at second
  obtain @⟨_, next, unseen, _⟩ := second
  exact remaining_cons_lt (offers_valueAt (aliasPath?_eq_some_iff.mpr standing)) unseen

private theorem room_behind {calls : Nat} (fresh : path ∉ visited)
    (enough : remaining tree visited + 1 < calls ∨
    (Offers tree path ∧ remaining tree visited < calls)) : remaining tree (path :: visited) + 1 < calls := by
  rcases enough with enough | ⟨offers, enough⟩
  · have := remaining_cons_le tree visited path
    omega
  · have := remaining_cons_lt offers fresh
    omega

/-- Enough calls for a chain at a path: one for every alias of the tree that is left, one more for a path
from outside, and one for the end. -/
theorem attempt_follow (tree : Json) (visited : List String) (path : String) : ∀ calls,
    remaining tree visited + 1 < calls ∨ (Offers tree path ∧ remaining tree visited < calls) →
    attempt tree calls visited (.string (aliasText path)) =
      some (⟨(follow tree visited path).1.notes, (follow tree visited path).1.value⟩,
        (follow tree visited path).2) := by
  fun_induction follow tree visited path with
  | case1 visited path seen =>
    intro calls enough
    obtain ⟨others, rfl⟩ := Nat.exists_eq_add_one_of_ne_zero (n := calls) (by omega)
    exact attempt_seen others seen
  | case2 visited path fresh next onward ih =>
    intro calls enough
    have spelled := aliasPath?_eq_some_iff.mp onward
    have found : valueAt tree path ≠ .null := by
      rw [spelled]
      rintro ⟨⟩
    have room := room_behind fresh enough
    obtain ⟨others, rfl⟩ := Nat.exists_eq_add_one_of_ne_zero (n := calls) (by omega)
    rw [attempt_calls others (.onward fresh found), spelled]
    exact ih others (Or.inr ⟨offers_valueAt onward, by omega⟩)
  | case3 visited path fresh stops value =>
    intro calls enough
    have room := room_behind fresh enough
    obtain ⟨others, rfl⟩ := Nat.exists_eq_add_one_of_ne_zero (n := calls) (by omega)
    -- A path that leads nowhere ends in this call, and a literal takes one more.
    by_cases dead : valueAt tree path = .null
    · rw [attempt_dead others fresh dead]
      simp [value, dead, Json.isNull, Ending.notes, Ending.value]
    · obtain ⟨last, rfl⟩ := Nat.exists_eq_add_one_of_ne_zero (n := others) (by omega)
      rw [attempt_calls (last + 1) (.onward fresh dead), attempt_literal last stops]
      simp [value, not_isNull dead, Ending.notes, Ending.value]
      rfl

/-- The paths that a chain at a path adds to the visited ones. -/
structure Added (tree : Json) (visited : List String) (path : String) (added : List String) : Prop where
  distinct : added.Nodup
  fresh : ∀ other ∈ added, other ∉ visited
  known : ∀ other ∈ added, other = path ∨ Offers tree other

private theorem follow_adds (tree : Json) (visited : List String) (path : String) :
    ∃ added, (follow tree visited path).2 = added ++ visited ∧ Added tree visited path added := by
  fun_induction follow tree visited path with
  | case1 visited path seen =>
    exact ⟨[], rfl, List.nodup_nil, by rintro _ ⟨⟩, by rintro _ ⟨⟩⟩
  | case2 visited path fresh next onward ih =>
    obtain ⟨added, same, adds⟩ := ih
    have apart : path ∉ added := fun member => adds.fresh path member List.mem_cons_self
    refine ⟨added ++ [path], by rw [same, List.append_assoc]; rfl, ?_, ?_, ?_⟩
    · exact List.nodup_append_comm.mp (List.nodup_cons.mpr ⟨apart, adds.distinct⟩)
    · refine List.forall_mem_append.mpr ⟨fun other member seen => ?_, List.forall_mem_singleton.mpr fresh⟩
      exact adds.fresh other member (List.mem_cons_of_mem path seen)
    · refine List.forall_mem_append.mpr ⟨fun other member => ?_, List.forall_mem_singleton.mpr (Or.inl rfl)⟩
      rcases adds.known other member with rfl | offers
      · exact Or.inr (offers_valueAt onward)
      · exact Or.inr offers
  | case3 visited path fresh stops value =>
    exact ⟨[path], rfl, List.nodup_singleton path, List.forall_mem_singleton.mpr fresh,
      List.forall_mem_singleton.mpr (Or.inl rfl)⟩

/-- All that a chain visits, but for the path at which it starts, are aliases of the tree that were left. -/
theorem Added.length_le {added : List String} (adds : Added tree visited path added) :
    added.length ≤ remaining tree visited + 1 := by
  have inside : {other | other ∈ added} ⊆ insert path {path | Offers tree path ∧ path ∉ visited} := by
    intro other member
    rcases adds.known other member with same | offers
    · exact Or.inl same
    · exact Or.inr ⟨offers, adds.fresh other member⟩
  calc added.length = {other | other ∈ added}.ncard := by
        rw [← List.toFinset_card_of_nodup adds.distinct, ← Set.ncard_coe_finset, List.coe_toFinset]
    _ ≤ (insert path {path | Offers tree path ∧ path ∉ visited}).ncard :=
        Set.ncard_le_ncard inside ((remaining_finite tree visited).insert path)
    _ ≤ remaining tree visited + 1 := Set.ncard_insert_le path _

private theorem attempt_resolveFrom {calls : Nat} (enough : remaining tree visited + 1 < calls) (value : Json) :
    attempt tree calls visited value = some (resolveFrom tree visited value) := by
  rw [resolveFrom]
  cases spelled : aliasPath? value with
  | none =>
    obtain ⟨others, rfl⟩ := Nat.exists_eq_add_one_of_ne_zero (n := calls) (by omega)
    exact attempt_literal others spelled
  | some path =>
    rw [aliasPath?_eq_some_iff.mp spelled]
    exact attempt_follow tree visited path calls (Or.inl enough)

/-- Resolving a value ends, whatever the tree, the value and the paths visited before: two calls more than
there are aliases left to visit are enough. The paths visited in it are new ones, each visited once; there
are at most one more of them than aliases left, and no more aliases are left than the tree has. The aliases
left are a measure: a call never has more of them than the one before it, and fewer from the second on. -/
theorem resolution_ends (tree value : Json) (visited : List String) :
    (∀ calls, remaining tree visited + 2 ≤ calls →
      attempt tree calls visited value = some (resolveFrom tree visited value)) ∧
    (∃ added, (resolveFrom tree visited value).2 = added ++ visited ∧ added.Nodup ∧
      (∀ path ∈ added, path ∉ visited) ∧ added.length ≤ remaining tree visited + 1) ∧
    {path | Offers tree path}.Finite ∧ remaining tree visited ≤ {path | Offers tree path}.ncard ∧
    (∀ before middle, Calls tree before middle → remaining tree middle.2 ≤ remaining tree before.2 ∧
      ∀ after, Calls tree middle after → remaining tree after.2 < remaining tree middle.2) := by
  refine ⟨fun calls enough => attempt_resolveFrom enough value, ?_, offers_finite tree,
    remaining_le_offers tree visited, ?_⟩
  · rw [resolveFrom]
    split
    · exact ⟨[], rfl, List.nodup_nil, by rintro _ ⟨⟩, Nat.zero_le _⟩
    · next path spelled =>
      obtain ⟨added, same, adds⟩ := follow_adds tree visited path
      exact ⟨added, same, adds.distinct, adds.fresh, adds.length_le⟩
  · exact fun before middle first => ⟨first.remaining_le, fun after second => first.remaining_lt second⟩

end DesignTokens.Proofs.ResolutionBounds
