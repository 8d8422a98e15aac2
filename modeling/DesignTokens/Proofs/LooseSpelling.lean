import DesignTokens.Proofs.AnchorOrder
import Mathlib.Data.List.Forall2

/-! Spellings of a path. Where the keys of every group differ loosely, the exact key of a segment is the
only one that is loosely equal to it, so it does not matter that exact keys come first. Two paths whose
segments are loosely equal then lead to the same node from every starting point. -/

namespace DesignTokens.Proofs.LooseSpelling
open AnchorOrder

/-- No two keys of a group are loosely equal. -/
def Distinct (members : Entries Json) : Prop :=
  ∀ one ∈ members.keys, ∀ two ∈ members.keys, Key.loose one = Key.loose two → one = two

instance (members : Entries Json) : Decidable (Distinct members) :=
  inferInstanceAs (Decidable (∀ one ∈ members.keys, ∀ two ∈ members.keys, _ → one = two))

def Unambiguous (tree : Json) : Prop :=
  ∀ position group, anchorAt? tree position = some group → Distinct group.members

/-- As many segments, each loosely equal to the other one at its place. -/
def SameSpelling (one two : List String) : Prop :=
  List.Forall₂ (fun segment other => Key.loose segment = Key.loose other) one two

variable {tree node : Json} {members : Entries Json} {segment other : String}

private theorem find_of_get (distinct : Distinct members) (found : members.get? segment = some node) :
    (members.find? fun entry => Key.loose entry.1 == Key.loose segment).map Prod.snd = some node := by
  obtain ⟨before, after, rfl, first⟩ := List.lookup_eq_some_iff.mp found
  have passed : before.find? (fun entry => Key.loose entry.1 == Key.loose segment) = none := by
    apply List.find?_eq_none.mpr
    intro entry inside equal
    have same : entry.1 = segment := by
      apply distinct entry.1 _ segment _ (by simpa using equal)
      · simp only [Entries.keys, List.map_append, List.mem_append]
        exact Or.inl (List.mem_map_of_mem inside)
      · simp [Entries.keys]
    exact absurd same.symm (by simpa using first entry inside)
  rw [List.find?_append, passed, Option.none_or, List.find?_cons_of_pos (by simp)]
  rfl

/-- An exact key is found in the same way as a loosely equal one. -/
theorem child_eq_find (distinct : Distinct members) (segment : String) : child? members segment =
    (members.find? fun entry => Key.loose entry.1 == Key.loose segment).map Prod.snd := by
  rw [child?]
  split
  · next found => exact (find_of_get distinct found).symm
  · rfl

theorem child_congr (distinct : Distinct members) (equal : Key.loose segment = Key.loose other) :
    child? members segment = child? members other := by
  rw [child_eq_find distinct, child_eq_find distinct, equal]

/-- Groups below a group of the tree are groups of the tree. -/
theorem Unambiguous.inside {members : Entries Json} {entry : String × Json}
    (unambiguous : Unambiguous (.object members)) (group : (Json.object members).isGroup = true)
    (member : entry ∈ members) : Unambiguous entry.2 := by
  intro position inner placed
  obtain ⟨index, found⟩ := List.mem_iff_getElem?.mp member
  apply unambiguous (index :: position)
  rw [anchorAt?, if_pos group, Json.members, found, Option.bind_some]
  exact placed

theorem Unambiguous.distinct (unambiguous : Unambiguous node) (group : node.isGroup = true) :
    Distinct node.members :=
  unambiguous [] node (by rw [anchorAt?, if_pos group])

theorem Unambiguous.child (unambiguous : Unambiguous node) (group : node.isGroup = true) {child : Json}
    (found : child? node.members segment = some child) : Unambiguous child := by
  obtain ⟨key, member⟩ := mem_of_child found
  cases node with
  | object members => exact unambiguous.inside group member
  | _ => cases group

theorem reach_congr {path path' : List String} (alike : SameSpelling path path')
    (unambiguous : Unambiguous node) : reach? node path = reach? node path' := by
  induction alike generalizing node with
  | nil => rfl
  | @cons segment other rest rest' equal _ ih =>
    rw [reach?, reach?]
    split
    · next group =>
      rw [child_congr (unambiguous.distinct group) equal]
      cases found : child? node.members other with
      | none => rfl
      | some child => exact ih (unambiguous.child group found)
    · rfl

theorem anchorAt_append {position : List Nat} {anchor : Json} (placed : anchorAt? tree position = some anchor)
    (rest : List Nat) : anchorAt? tree (position ++ rest) = anchorAt? anchor rest := by
  induction position generalizing tree with
  | nil =>
    rw [anchorAt?] at placed
    split at placed
    · cases placed
      rfl
    · cases placed
  | cons index later ih =>
    rw [anchorAt?] at placed
    split at placed
    · next group =>
      obtain ⟨entry, found, onward⟩ := Option.bind_eq_some_iff.mp placed
      rw [List.cons_append, anchorAt?, if_pos group, found, Option.bind_some]
      exact ih onward
    · cases placed

theorem Unambiguous.anchor (unambiguous : Unambiguous tree) {position : List Nat} {anchor : Json}
    (placed : anchorAt? tree position = some anchor) : Unambiguous anchor := by
  intro rest group inner
  exact unambiguous (position ++ rest) group ((anchorAt_append placed rest).trans inner)

theorem unambiguous_iff : Unambiguous tree ↔ ∀ place ∈ placed tree, Distinct place.2.members := by
  constructor
  · intro unambiguous place member
    exact unambiguous place.1 place.2 ((mem_placed tree).mp member)
  · intro distinct position group present
    exact distinct (position, group) ((mem_placed tree).mpr present)

/-- If no group that a chain of groups leads to has two loosely equal keys, paths whose segments are
loosely equal lead to the same value, or none of them leads anywhere. -/
theorem valueAt_sameSpelling {path other : String} (unambiguous : Unambiguous tree)
    (alike : SameSpelling (segments path) (segments other)) : valueAt tree path = valueAt tree other := by
  have same : ∀ place ∈ placed tree, reply? path place.2 = reply? other place.2 := by
    intro place member
    rw [reply?, reply?, reach_congr alike (unambiguous.anchor ((mem_placed tree).mp member))]
  rw [valueAt_placed, valueAt_placed, findSome_congr same]

def headingWeight : Json :=
  .object [("h 1", .object [("W", .token "number" (.int 700))])]

theorem valueAt_sameSpelling_heading :
    Unambiguous headingWeight ∧ SameSpelling (segments "H1.w") (segments "h 1.W") ∧
    SameSpelling (segments "h_1.w") (segments "h 1.W") ∧
    valueAt headingWeight "H1.w" = .int 700 ∧ valueAt headingWeight "h_1.w" = .int 700 := by
  have unambiguous : Unambiguous headingWeight := unambiguous_iff.mpr (by decide +kernel)
  have one : SameSpelling (segments "H1.w") (segments "h 1.W") :=
    .cons (by decide +kernel) (.cons (by decide +kernel) .nil)
  have two : SameSpelling (segments "h_1.w") (segments "h 1.W") :=
    .cons (by decide +kernel) (.cons (by decide +kernel) .nil)
  have found : valueAt headingWeight "h 1.W" = .int 700 := rfl
  refine ⟨unambiguous, one, two, ?_, ?_⟩
  · exact (valueAt_sameSpelling unambiguous one).trans found
  · exact (valueAt_sameSpelling unambiguous two).trans found

end DesignTokens.Proofs.LooseSpelling
