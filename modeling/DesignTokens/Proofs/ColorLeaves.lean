import DesignTokens.Proofs.ModelTexts
import DesignTokens.Stylesheet

/-! The colours in a stylesheet by the keys on the way to them. The names that it declares for them are
these keys joined by hyphens. -/

namespace DesignTokens.Proofs.ColorLeaves
open ModelTexts Stylesheet

mutual

/-- The texts in a nested map, each with the keys on the way to it. -/
def textLeaves : Json → List (List String × String)
  | .object members => textLeavesIn members
  | .string text => [([], text)]
  | _ => []
termination_by structural value => value

def textLeavesIn : List (String × Json) → List (List String × String)
  | [] => []
  | (key, value) :: rest => (textLeaves value).map (fun leaf => (key :: leaf.1, leaf.2)) ++ textLeavesIn rest
termination_by structural members => members

end

def paths (members : Entries Json) : List (List String) :=
  (textLeavesIn members).map Prod.fst

def hyphened (keys : List String) : String :=
  "-".intercalate keys

mutual

private theorem colorLeaves_eq : ∀ (value : Json) (path : String),
    colorLeaves path value = (textLeaves value).map fun leaf => (leaf.1.foldl joinPath path, leaf.2)
  | .object members, path => memberLeaves_foldl members path
  | .string _, _ | .null, _ | .bool _, _ | .int _, _ | .float _, _ | .array _, _ => rfl
termination_by structural value => value

theorem memberLeaves_foldl : ∀ (members : List (String × Json)) (path : String),
    memberLeaves path members = (textLeavesIn members).map fun leaf => (leaf.1.foldl joinPath path, leaf.2)
  | [], _ => rfl
  | (key, value) :: rest, path => by
    rw [memberLeaves, textLeavesIn, List.map_append, List.map_map, colorLeaves_eq value,
      memberLeaves_foldl rest]
    rfl
termination_by structural members => members

end

theorem foldl_joinPath_of_ne {path : String} (named : path ≠ "") (keys : List String) :
    keys.foldl joinPath path = hyphened (path :: keys) := by
  induction keys generalizing path with
  | nil => simp [hyphened]
  | cons key rest ih =>
    have joined : joinPath path key = path ++ "-" ++ key := by
      rw [joinPath, if_neg (by simpa using named)]
    have further : path ++ "-" ++ key ≠ "" := by simp
    rw [List.foldl_cons, joined, ih further, hyphened, hyphened, String.intercalate_cons_append,
      String.intercalate_cons_cons]

/-- Empty keys show only behind a key that is not empty. -/
theorem foldl_joinPath (keys : List String) :
    keys.foldl joinPath "" = hyphened (keys.dropWhile String.isEmpty) := by
  induction keys with
  | nil => simp [hyphened]
  | cons key rest ih =>
    have first : joinPath "" key = key := rfl
    rw [List.foldl_cons, first, List.dropWhile_cons]
    by_cases empty : key = ""
    · subst empty
      exact ih
    · rw [if_neg (by simpa using empty), foldl_joinPath_of_ne empty]

theorem memberLeaves_eq (members : Entries Json) :
    memberLeaves "" members =
      (textLeavesIn members).map fun leaf => (hyphened (leaf.1.dropWhile String.isEmpty), leaf.2) := by
  rw [memberLeaves_foldl]
  simp only [foldl_joinPath]

theorem ne_nil_of_mem_textLeavesIn : ∀ {members : Entries Json} {leaf : List String × String},
    leaf ∈ textLeavesIn members → leaf.1 ≠ []
  | (key, value) :: rest, leaf, member => by
    rw [textLeavesIn, List.mem_append] at member
    rcases member with inside | later
    · obtain ⟨inner, _, rfl⟩ := List.mem_map.mp inside
      exact List.cons_ne_nil key inner.1
    · exact ne_nil_of_mem_textLeavesIn later

/-- The texts under as many keys as wanted, by their names. -/
def named (wanted : Nat → Bool) (members : Entries Json) : Entries String :=
  ((textLeavesIn members).filter fun leaf => wanted leaf.1.length).map fun leaf => (hyphened leaf.1, leaf.2)

def under (key : String) (entries : Entries String) : Entries String :=
  entries.map fun entry => (key ++ "-" ++ entry.1, entry.2)

theorem named_congr {wanted other : Nat → Bool} (same : ∀ count, wanted (count + 1) = other (count + 1))
    (members : Entries Json) : named wanted members = named other members := by
  have equal : (textLeavesIn members).filter (fun leaf => wanted leaf.1.length) =
      (textLeavesIn members).filter fun leaf => other leaf.1.length := by
    apply List.filter_congr
    intro leaf member
    obtain ⟨key, rest, shape⟩ := List.exists_cons_of_ne_nil (ne_nil_of_mem_textLeavesIn member)
    rw [shape]
    exact same rest.length
  rw [named, named, equal]

private theorem named_none (members : Entries Json) : named (fun _ => false) members = [] := by
  rw [named, List.filter_false, List.map_nil]

section Cons

variable (wanted : Nat → Bool) (key : String) (rest : Entries Json)

private theorem named_string (text : String) :
    named wanted ((key, .string text) :: rest) =
      (if wanted 1 then [(key, text)] else []) ++ named wanted rest := by
  rw [named, textLeavesIn, List.filter_append, List.map_append, ← named]
  cases shown : wanted 1 <;> simp [textLeaves, shown, hyphened]

theorem named_object (members : Entries Json) :
    named wanted ((key, .object members) :: rest) =
      under key (named (fun count => wanted (count + 1)) members) ++ named wanted rest := by
  rw [named, textLeavesIn, List.filter_append, List.map_append, ← named, List.filter_map, List.map_map]
  congr 1
  rw [under, named, List.map_map]
  apply List.map_congr_left
  intro leaf member
  have deeper : leaf.1 ≠ [] := ne_nil_of_mem_textLeavesIn (List.mem_filter.mp member).1
  simp [hyphened, String.intercalate_cons_of_ne_nil deeper]

end Cons

private theorem texts_eq (members : Entries Json) : texts members = named (· == 1) members := by
  induction members with
  | nil => rfl
  | cons entry rest ih =>
    obtain ⟨key, value⟩ := entry
    cases value with
    | string text =>
      rw [texts, named_string, ih]
      rfl
    | object members =>
      have deeper : named (fun count => count + 1 == 1) members = [] := by
        rw [← named_none members]
        exact named_congr (fun count => by simp) members
      rw [named_object, deeper]
      exact ih
    | _ => exact ih

private theorem familyLeaves_eq (members : Entries Json) :
    familyLeaves members = named (fun count => count == 1 || count == 2) members := by
  induction members with
  | nil => rfl
  | cons entry rest ih =>
    obtain ⟨shade, value⟩ := entry
    cases value with
    | string text =>
      rw [familyLeaves, named_string, ih]
      rfl
    | object members =>
      have deeper : named (fun count => count + 1 == 1 || count + 1 == 2) members = texts members := by
        rw [texts_eq]
        exact named_congr (fun count => by simp) members
      rw [familyLeaves, named_object, deeper, ih]
      rfl
    | _ => exact ih

/-- Primitive colours show with two or three keys on the way. -/
theorem primitiveLeaves_eq (members : Entries Json) :
    primitiveLeaves members = named (fun count => count == 2 || count == 3) members := by
  induction members with
  | nil => rfl
  | cons entry rest ih =>
    obtain ⟨family, value⟩ := entry
    cases value with
    | object members =>
      have deeper : named (fun count => count + 1 == 2 || count + 1 == 3) members =
          familyLeaves members := by
        rw [familyLeaves_eq]
        exact named_congr (fun count => by simp) members
      rw [primitiveLeaves, named_object, deeper, ih]
      rfl
    | _ => exact ih

theorem paths_cons (key : String) (value : Json) (rest : Entries Json) :
    paths ((key, value) :: rest) = ((textLeaves value).map Prod.fst).map (key :: ·) ++ paths rest := by
  rw [paths, textLeavesIn, List.map_append, List.map_map, List.map_map]
  rfl

theorem head_of_mem_paths {members : Entries Json} {path : List String} (member : path ∈ paths members) :
    ∃ key ∈ members.keys, ∃ rest, path = key :: rest := by
  induction members with
  | nil => cases member
  | cons entry others ih =>
    obtain ⟨key, value⟩ := entry
    rw [paths_cons, List.mem_append] at member
    rcases member with inside | later
    · obtain ⟨rest, _, rfl⟩ := List.mem_map.mp inside
      exact ⟨key, List.mem_cons_self, rest, rfl⟩
    · obtain ⟨other, listed, rest, shape⟩ := ih later
      exact ⟨other, List.mem_cons_of_mem key listed, rest, shape⟩

section Distinct

variable {P : String → Prop}

mutual

private theorem textLeaves_distinct : ∀ (value : Json), Texts P value → ((textLeaves value).map Prod.fst).Nodup
  | .object members, texts => paths_distinct members texts
  | .string _, _ => List.nodup_singleton []
termination_by structural value => value

/-- Where each name comes once, so does each path. -/
theorem paths_distinct : ∀ (members : List (String × Json)), TextsIn P members → (paths members).Nodup
  | [], _ => List.nodup_nil
  | (key, value) :: rest, texts => by
    obtain ⟨absent, inner, later⟩ := texts
    have here : (((textLeaves value).map Prod.fst).map (key :: ·)).Nodup :=
      (textLeaves_distinct value inner).map (List.cons_injective)
    rw [paths_cons]
    refine List.nodup_append.mpr ⟨here, paths_distinct rest later, ?_⟩
    intro path inside other elsewhere same
    obtain ⟨deeper, _, rfl⟩ := List.mem_map.mp inside
    obtain ⟨name, listed, further, shape⟩ := head_of_mem_paths elsewhere
    cases same.trans shape
    exact absent listed
termination_by structural members => members

end

end Distinct

end DesignTokens.Proofs.ColorLeaves
