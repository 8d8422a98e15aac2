/-! Maps that keep the order in which their keys were first put in. -/

namespace DesignTokens

/-- Keys with their values in order. A map built by `put` holds each key once. -/
abbrev Entries (α : Type) := List (String × α)

namespace Entries

variable {α : Type}

def get? (entries : Entries α) (key : String) : Option α :=
  List.lookup key entries

/-- A key that is present keeps its place and takes the new value; a new key comes last. -/
def put : Entries α → String → α → Entries α
  | [], key, value => [(key, value)]
  | (present, old) :: rest, key, value =>
    if present = key then (key, value) :: rest else (present, old) :: put rest key value

def keys (entries : Entries α) : List String :=
  entries.map Prod.fst

theorem mem_of_get? {entries : Entries α} {key : String} {value : α}
    (found : entries.get? key = some value) : (key, value) ∈ entries := by
  obtain ⟨before, after, rfl, _⟩ := List.lookup_eq_some_iff.mp found
  simp

@[simp] theorem get?_nil (key : String) : get? ([] : Entries α) key = none := rfl

theorem get?_cons (present key : String) (value : α) (rest : Entries α) :
    get? ((present, value) :: rest) key = if present = key then some value else get? rest key := by
  by_cases same : present = key
  · simp [get?, same]
  · have : (key == present) = false := beq_false_of_ne (Ne.symm same)
    simp [get?, List.lookup_cons, same, this]

theorem get?_append (entries others : Entries α) (key : String) :
    get? (entries ++ others) key = (entries.get? key).or (others.get? key) :=
  List.lookup_append

theorem get?_eq_none_iff {entries : Entries α} {key : String} :
    entries.get? key = none ↔ key ∉ entries.keys := by
  induction entries with
  | nil => simp [keys]
  | cons first rest ih =>
    obtain ⟨present, value⟩ := first
    rw [get?_cons]
    split
    · next same => simp [keys, same]
    · next other =>
      rw [ih, keys, keys, List.map_cons, List.mem_cons, not_or]
      exact ⟨fun absent => ⟨Ne.symm other, absent⟩, And.right⟩

@[simp] theorem get?_put_self (entries : Entries α) (key : String) (value : α) :
    (entries.put key value).get? key = some value := by
  fun_induction put entries key value <;> simp_all [get?_cons]

theorem get?_put_of_ne {key other : String} (different : other ≠ key) (entries : Entries α)
    (value : α) : (entries.put key value).get? other = entries.get? other := by
  fun_induction put entries key value <;> simp_all [get?_cons, Ne.symm different]

theorem keys_put (entries : Entries α) (key : String) (value : α) :
    (entries.put key value).keys =
      if key ∈ entries.keys then entries.keys else entries.keys ++ [key] := by
  fun_induction put entries key value with
  | case1 => simp [keys]
  | case2 => simp_all [keys]
  | case3 present old rest key value different ih =>
    have : key ≠ present := Ne.symm different
    simp only [keys, List.map_cons, List.mem_cons, this, false_or] at ih ⊢
    rw [ih]
    split <;> simp_all

theorem mem_keys_put {entries : Entries α} {key other : String} {value : α}
    (member : other ∈ (entries.put key value).keys) : other ∈ entries.keys ∨ other = key := by
  rw [keys_put] at member
  split at member
  · exact Or.inl member
  · simpa using member

theorem put_new {entries : Entries α} {key : String} (absent : key ∉ entries.keys)
    (value : α) : entries.put key value = entries ++ [(key, value)] := by
  induction entries with
  | nil => rfl
  | cons first rest ih =>
    obtain ⟨present, old⟩ := first
    obtain ⟨other, absent⟩ := not_or.mp (fun member => absent (List.mem_cons.mpr member))
    rw [put, if_neg (Ne.symm other), ih absent, List.cons_append]

theorem mem_put {entries : Entries α} {key : String} {value : α} {entry : String × α}
    (member : entry ∈ entries.put key value) : entry ∈ entries ∨ entry = (key, value) := by
  induction entries with
  | nil => exact Or.inr (List.mem_singleton.mp member)
  | cons first rest ih =>
    obtain ⟨present, old⟩ := first
    rw [put] at member
    split at member
    · rcases List.mem_cons.mp member with same | inside
      · exact Or.inr same
      · exact Or.inl (List.mem_cons_of_mem _ inside)
    · rcases List.mem_cons.mp member with same | inside
      · exact Or.inl (same ▸ List.mem_cons_self)
      · rcases ih inside with old | new
        · exact Or.inl (List.mem_cons_of_mem _ old)
        · exact Or.inr new

/-- Maps with the same keys in the same order, each once, and the same value under each key are the same. -/
theorem eq_of_get? {one two : Entries α} (distinct : one.keys.Nodup) (keys : one.keys = two.keys)
    (found : ∀ key, one.get? key = two.get? key) : one = two := by
  induction one generalizing two with
  | nil =>
    cases two with
    | nil => rfl
    | cons other rest => cases keys
  | cons entry rest ih =>
    cases two with
    | nil => cases keys
    | cons other others =>
      obtain ⟨key, value⟩ := entry
      obtain ⟨name, content⟩ := other
      obtain ⟨same, onward⟩ : key = name ∧ Entries.keys rest = Entries.keys others := List.cons.inj keys
      subst same
      obtain ⟨absent, distinct⟩ := List.nodup_cons.mp distinct
      have here := found key
      rw [get?_cons, get?_cons, if_pos rfl, if_pos rfl] at here
      cases here
      refine congrArg _ (ih distinct onward ?_)
      intro other
      by_cases same : key = other
      · subst same
        have elsewhere : key ∉ Entries.keys others := by rwa [← onward]
        exact (get?_eq_none_iff.mpr absent).trans (get?_eq_none_iff.mpr elsewhere).symm
      · have later := found other
        rwa [get?_cons, get?_cons, if_neg same, if_neg same] at later

end Entries

end DesignTokens
