import DesignTokens.Proofs.CollectedEntries
import DesignTokens.Proofs.DimensionTokens

/-! The keys of the flat map of dimensions. Each is the names on the way to a length joined by hyphens. A
name can hold hyphens itself, so two lengths may come under one key, and the later one takes the place of
the other. That needs a name that goes on where another one in its group ends with a hyphen. -/

namespace DesignTokens.Proofs.FlatKeys
open CollectedEntries ColorLeaves DimensionTokens KeyWords ReachedTokens SharedReport TypeFaults

def lengthTokens (members : Entries Json) : List (List String × Json) :=
  (tokensIn members).filter fun token => isLength token.2

def flatKey (token : List String × Json) : String :=
  hyphened (token.1.map Key.normalize)

def flatKeys (members : Entries Json) : List String :=
  (lengthTokens members).map flatKey

def Extends (name text : String) : Prop :=
  name.toList ++ ['-'] <+: text.toList

instance (name text : String) : Decidable (Extends name text) :=
  inferInstanceAs (Decidable (_ <+: _))

/-- The names of a group are different, and none is another one with a hyphen behind it and more. -/
structure Apart (names : List String) : Prop where
  distinct : names.Nodup
  separate : ∀ one ∈ names, ∀ two ∈ names, ¬ Extends one two

instance (names : List String) : Decidable (Apart names) :=
  decidable_of_iff (names.Nodup ∧ ∀ one ∈ names, ∀ two ∈ names, ¬ Extends one two)
    ⟨fun ⟨distinct, separate⟩ => ⟨distinct, separate⟩, fun apart => ⟨apart.distinct, apart.separate⟩⟩

variable {tree : Json} {unit : Option String} {members : Entries Json} {one two text name : String}

private theorem keys_inserted (found : Entries String) (flat : Entries Json) :
    (inserted tree unit found flat).keys = (flat.map Prod.fst).foldl addNew found.keys := by
  have shape : inserted tree unit found flat = collected found
      (flat.map fun token => (token.1, formatDimension unit (resolve tree token.2.rawValue).value)) := by
    rw [inserted, collected, List.foldl_map]
  have keys : Entries.keys (flat.map fun token =>
      (token.1, formatDimension unit (resolve tree token.2.rawValue).value)) = flat.map Prod.fst := by
    rw [Entries.keys, List.map_map]
    rfl
  rw [shape, keys_collected, keys]

private theorem keys_lengths (named : ∀ group ∈ members :: groupsIn members, "" ∉ names group) :
    (lengths (flattened members)).map Prod.fst = flatKeys members := by
  rw [lengths, flattened, List.filter_map, List.map_map]
  apply List.map_congr_left
  intro token reached
  exact normalize_joined (filled_keys named (List.mem_filter.mp reached).1)

def Starts (name text : String) : Prop :=
  text = name ∨ Extends name text

theorem Starts.refl (name : String) : Starts name name := .inl rfl

theorem extends_append (name text : String) : Extends name (name ++ "-" ++ text) := by
  rw [Extends, String.toList_append, String.toList_append]
  exact List.prefix_append _ _

/-- Of two names that start one text, one goes on where the other one ends, unless they are the same. -/
theorem extends_of_starts (first : Starts one text) (second : Starts two text) :
    one = two ∨ Extends one two ∨ Extends two one := by
  rcases first with rfl | first
  · rcases second with rfl | second
    · exact .inl rfl
    · exact .inr (.inr second)
  · rcases second with rfl | second
    · exact .inr (.inl first)
    · rcases List.prefix_or_prefix_of_prefix first second with ordered | ordered
      · rcases List.prefix_concat_iff.mp ordered with same | shorter
        · exact .inl (String.toList_injective (List.append_cancel_right same))
        · exact .inr (.inl shorter)
      · rcases List.prefix_concat_iff.mp ordered with same | shorter
        · exact .inl (String.toList_injective (List.append_cancel_right same)).symm
        · exact .inr (.inr shorter)

theorem Apart.tail {rest : List String} (apart : Apart (name :: rest)) : Apart rest where
  distinct := apart.distinct.of_cons
  separate := fun one first two second =>
    apart.separate one (List.mem_cons_of_mem _ first) two (List.mem_cons_of_mem _ second)

theorem Apart.head {rest : List String} (apart : Apart (name :: rest)) (first : Starts name text)
    {other : String} (later : other ∈ rest) : ¬ Starts other text := by
  intro second
  have member : other ∈ name :: rest := List.mem_cons_of_mem _ later
  rcases extends_of_starts first second with rfl | goes | goes
  · exact (List.nodup_cons.mp apart.distinct).1 later
  · exact apart.separate name List.mem_cons_self other member goes
  · exact apart.separate other member name List.mem_cons_self goes

theorem flatKey_cons {key : String} {token : List String × Json} (deeper : token.1 ≠ []) :
    flatKey (key :: token.1, token.2) = Key.normalize key ++ "-" ++ flatKey token := by
  have named : token.1.map Key.normalize ≠ [] := by simpa using deeper
  rw [flatKey, List.map_cons, hyphened, String.intercalate_cons_of_ne_nil named]
  rfl

private theorem starts_of_mem (members : Entries Json) : ∀ token ∈ tokensIn members,
    ∃ name ∈ names members, Starts name (flatKey token) := by
  induction members using walk with
  | nil => exact fun _ member => nomatch member
  | skipped skip ih => rwa [tokensIn_skipped skip, names_skipped skip]
  | @token key node rest kept isToken ih =>
    rw [tokensIn_token kept isToken, names_kept kept]
    intro token member
    rcases List.mem_cons.mp member with rfl | later
    · exact ⟨Key.normalize key, List.mem_cons_self, .inl (by simp [flatKey, hyphened])⟩
    · obtain ⟨name, listed, starts⟩ := ih token later
      exact ⟨name, List.mem_cons_of_mem _ listed, starts⟩
  | @group key inner rest kept isGroup _ ih =>
    rw [tokensIn_group kept isGroup, names_kept kept]
    intro token member
    rcases List.mem_append.mp member with inside | later
    · obtain ⟨deeper, reached, rfl⟩ := List.mem_map.mp inside
      rw [flatKey_cons (keys_ne_nil inner deeper reached)]
      exact ⟨Key.normalize key, List.mem_cons_self, .inr (extends_append _ _)⟩
    · obtain ⟨name, listed, starts⟩ := ih token later
      exact ⟨name, List.mem_cons_of_mem _ listed, starts⟩

theorem map_flatKey_cons (key : String) (members : Entries Json) :
    ((tokensIn members).map fun token => (key :: token.1, token.2)).map flatKey =
      ((tokensIn members).map flatKey).map (Key.normalize key ++ "-" ++ ·) := by
  rw [List.map_map, List.map_map]
  apply List.map_congr_left
  intro token reached
  exact flatKey_cons (keys_ne_nil members token reached)

private theorem tokens_apart (here : Apart (names members))
    (below : ∀ group ∈ groupsIn members, Apart (names group)) :
    ((tokensIn members).map flatKey).Nodup := by
  induction members using walk with
  | nil => exact List.nodup_nil
  | skipped skip ih =>
    rw [names_skipped skip] at here
    rw [groupsIn_skipped skip] at below
    rw [tokensIn_skipped skip]
    exact ih here below
  | @token key node rest kept isToken ih =>
    rw [names_kept kept] at here
    rw [groupsIn_token kept isToken] at below
    have single : flatKey ([key], node) = Key.normalize key := by simp [flatKey, hyphened]
    rw [tokensIn_token kept isToken, List.map_cons, single]
    refine List.nodup_cons.mpr ⟨?_, ih here.tail below⟩
    intro again
    obtain ⟨token, later, same⟩ := List.mem_map.mp again
    obtain ⟨name, listed, starts⟩ := starts_of_mem rest token later
    exact here.head (.refl _) listed (same ▸ starts)
  | @group key inner rest kept isGroup ihInner ih =>
    rw [names_kept kept] at here
    rw [groupsIn_group kept isGroup, List.forall_mem_append, List.forall_mem_cons] at below
    obtain ⟨⟨inside, deeper⟩, later⟩ := below
    rw [tokensIn_group kept isGroup, List.map_append, map_flatKey_cons]
    refine List.nodup_append.mpr ⟨?_, ih here.tail later, ?_⟩
    · exact (ihInner inside deeper).map fun one two same => by simpa using same
    · -- Below the group a key goes on behind the name of the group, which starts none of the later ones.
      intro text first other second same
      subst same
      obtain ⟨behind, _, rfl⟩ := List.mem_map.mp first
      obtain ⟨token, reached, shape⟩ := List.mem_map.mp second
      obtain ⟨name, listed, starts⟩ := starts_of_mem rest token reached
      exact here.head (.inr (extends_append _ behind)) listed (shape ▸ starts)

/-- Without faults there is an entry for each key, so no length is lost exactly where all keys are
different. They are where the names of every group stay apart. -/
theorem dimensions_entries (tree : Json) (unit : Option String) (members : Entries Json)
    (named : ∀ group ∈ members :: groupsIn members, "" ∉ names group)
    (sound : ∀ token ∈ tokensIn members, typeFault? token.2 = none) :
    ∃ found, (dimensions tree unit members).run.value = .ok found ∧
      found.keys = (flatKeys members).eraseDups ∧
      (found.length = (lengthTokens members).length ↔ (flatKeys members).Nodup) ∧
      ((∀ group ∈ members :: groupsIn members, Apart (names group)) →
        found.length = (lengthTokens members).length) := by
  have clean : flatFault? (flattened members) = none :=
    List.findSome?_eq_none_iff.mpr (List.forall_mem_map.mpr sound)
  have answer : (dimensions tree unit members).run.value =
      .ok (inserted tree unit [] (lengths (flattened members))) := by
    rw [dimensions_eq_foldlM named, foldlM_addToken, clean]
  have keys : (inserted tree unit [] (lengths (flattened members))).keys = (flatKeys members).eraseDups := by
    rw [keys_inserted, keys_lengths named]
    exact foldl_addNew_eraseDups [] _
  have counted : (inserted tree unit [] (lengths (flattened members))).length =
      (lengthTokens members).length ↔ (flatKeys members).Nodup := by
    rw [← length_eraseDups_iff, ← keys, Entries.keys, List.length_map, flatKeys, List.length_map]
  refine ⟨_, answer, keys, counted, ?_⟩
  intro apart
  obtain ⟨here, below⟩ := List.forall_mem_cons.mp apart
  exact counted.mpr ((tokens_apart here below).sublist (List.filter_sublist.map flatKey))

def gaps : Entries Json :=
  [("x-small", .object [("2", .token "dimension" (.int 2)), ("4", .dimension "{small.x-large}")]),
    ("small", .object [("x-large", .token "dimension" (.int 16))]), ("xs", .dimension "1rem")]

theorem dimensions_entries_gaps :
    (∀ group ∈ gaps :: groupsIn gaps, "" ∉ names group) ∧
    (∀ token ∈ tokensIn gaps, typeFault? token.2 = none) ∧
    (∀ group ∈ gaps :: groupsIn gaps, Apart (names group)) ∧
    ∃ found, (dimensions (.object gaps) "px" gaps).run.value = .ok found ∧
      found.keys = ["x-small-2", "x-small-4", "small-x-large", "xs"] ∧ found.length = 4 := by
  have named : ∀ group ∈ gaps :: groupsIn gaps, "" ∉ names group := by decide +kernel
  have sound : ∀ token ∈ tokensIn gaps, typeFault? token.2 = none := by decide +kernel
  have apart : ∀ group ∈ gaps :: groupsIn gaps, Apart (names group) := by decide +kernel
  obtain ⟨found, answer, keys, _, kept⟩ := dimensions_entries (.object gaps) "px" gaps named sound
  refine ⟨named, sound, apart, found, answer, ?_, ?_⟩
  · rw [keys]
    decide +kernel
  · rw [kept apart]
    decide +kernel

/-- A key that goes on where another one of its group ends, with a hyphen and the key of a token there. -/
def twoWays : Entries Json :=
  [("a-b", .token "dimension" (.int 1)), ("a", .object [("b", .token "dimension" (.int 2))])]

theorem twoWays_meet :
    (∀ group ∈ twoWays :: groupsIn twoWays, (names group).Nodup ∧ "" ∉ names group) ∧
    (∀ token ∈ tokensIn twoWays, typeFault? token.2 = none) ∧
    (lengthTokens twoWays).length = 2 ∧
    (dimensions (.object twoWays) "px" twoWays).run.value = .ok [("a-b", "2px")] := by
  refine ⟨by decide +kernel, by decide +kernel, by decide +kernel, ?_⟩
  rfl

end DesignTokens.Proofs.FlatKeys
