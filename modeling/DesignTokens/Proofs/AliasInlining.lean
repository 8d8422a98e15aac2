import DesignTokens.Proofs.AliasOrbit
import DesignTokens.Proofs.AssemblyLikeness

/-! A token may hold the value that its alias resolves to instead of the alias. Every chain that went
through the token now stops at it, with the same value, and every other chain is as before, so both
trees have one model and one report. -/

namespace DesignTokens.Proofs.AliasInlining
open AliasOrbit Likeness

def effectiveKey (node : Json) : String :=
  if (node.member "value").isNull then "$value" else "value"

def withValue (node value : Json) : Json :=
  .object (node.members.put (effectiveKey node) value)

/-- A tree before and after one token, reached through groups, gets a value in the place of the alias
`{start}`. -/
inductive Inlined (start : String) (value : Json) : Json → Json → Prop
  | token {node : Json} (token : node.isToken = true)
      (holds : node.tokenValue = .string (aliasText start)) :
      Inlined start value node (withValue node value)
  | group (before after : Entries Json) (key : String) {node twin : Json}
      (group : (Json.object (before ++ (key, node) :: after)).isGroup = true)
      (inner : Inlined start value node twin) :
      Inlined start value (.object (before ++ (key, node) :: after))
        (.object (before ++ (key, twin) :: after))

/-- Nodes at one place in both trees, as far as a path can see them. -/
def Kin (start : String) (value node twin : Json) : Prop :=
  node = twin ∨ Inlined start value node twin

variable {start : String} {value tree other node twin : Json}

theorem Kin.refl (node : Json) : Kin start value node node := Or.inl rfl

private theorem isObject_of_isToken (token : node.isToken = true) : node.isObject = true := by
  cases node <;> first | rfl | cases token

private theorem get_effectiveKey (holds : node.tokenValue = .string (aliasText start)) :
    node.members.get? (effectiveKey node) = some (.string (aliasText start)) := by
  rw [Json.tokenValue, Json.eitherMember] at holds
  rw [effectiveKey]
  apply Json.get?_of_member
  split at holds
  · next null => rwa [if_pos null]
  · next present => rwa [if_neg present]

private theorem effectiveKey_cases (node : Json) :
    effectiveKey node = "value" ∨
      (effectiveKey node = "$value" ∧ (node.member "value").isNull = true) := by
  rw [effectiveKey]
  split
  · next null => exact Or.inr ⟨rfl, null⟩
  · exact Or.inl rfl

private theorem member_withValue_self (node value : Json) :
    (withValue node value).member (effectiveKey node) = value := by
  rw [withValue, Json.member, Json.members, Entries.get?_put_self, Option.getD_some]

private theorem member_withValue (value : Json) {key : String} (different : key ≠ effectiveKey node) :
    (withValue node value).member key = node.member key := by
  rw [withValue, Json.member, Json.members, Entries.get?_put_of_ne different, Json.member]

private theorem tokenValue_withValue (node : Json) (answers : value ≠ .null) :
    (withValue node value).tokenValue = value := by
  have answers : value.isNull = false := by
    cases value <;> first | rfl | exact absurd rfl answers
  have self := member_withValue_self node value
  rw [Json.tokenValue, Json.eitherMember]
  rcases effectiveKey_cases node with same | ⟨same, null⟩
  · rw [same] at self
    simp [self, answers]
  · rw [same] at self
    have unchanged : (withValue node value).member "value" = node.member "value" :=
      member_withValue value (by rw [same]; decide)
    simp [unchanged, null, self]

private theorem tokenType_withValue (node value : Json) :
    (withValue node value).tokenType = node.tokenType := by
  have unchanged (key : String) (one : key ≠ "value") (two : key ≠ "$value") :
      (withValue node value).member key = node.member key := by
    apply member_withValue
    rcases effectiveKey_cases node with same | ⟨same, _⟩ <;> rw [same] <;> assumption
  rw [Json.tokenType, Json.tokenType, Json.eitherMember, Json.eitherMember,
    unchanged "type" (by decide) (by decide), unchanged "$type" (by decide) (by decide)]

private theorem withValue_paired {R : Json → Json → Prop} (reflexive : ∀ node, R node node)
    (holds : node.tokenValue = .string (aliasText start))
    (related : R (.string (aliasText start)) value) :
    Paired R node.members (withValue node value).members :=
  paired_put reflexive (get_effectiveKey holds) related

private theorem isToken_withValue (token : node.isToken = true)
    (holds : node.tokenValue = .string (aliasText start)) :
    (withValue node value).isToken = true := by
  have paired : Paired (fun _ _ => True) node.members (withValue node value).members :=
    withValue_paired (fun _ => trivial) holds trivial
  cases node <;> exact paired.isToken_eq.symm.trans token

theorem Inlined.isObject (inlined : Inlined start value node twin) :
    node.isObject = true ∧ twin.isObject = true := by
  cases inlined with
  | token token _ => exact ⟨isObject_of_isToken token, rfl⟩
  | group before after key group inner => exact ⟨rfl, rfl⟩

theorem Inlined.isToken (inlined : Inlined start value node twin) : node.isToken = twin.isToken := by
  cases inlined with
  | token token holds => rw [token, isToken_withValue token holds]
  | group before after key group inner =>
    exact Paired.isToken_eq (paired_at (R := fun _ _ => True) (fun _ => trivial) _ _ _ trivial)

theorem Inlined.isGroup (inlined : Inlined start value node twin) : node.isGroup = twin.isGroup := by
  rw [Json.isGroup, Json.isGroup, inlined.isObject.1, inlined.isObject.2, inlined.isToken]

/-- A token on either side of the change is the token that changes. -/
theorem Inlined.of_isToken (inlined : Inlined start value node twin) (token : node.isToken = true) :
    node.tokenValue = .string (aliasText start) ∧ twin = withValue node value := by
  cases inlined with
  | token _ holds => exact ⟨holds, rfl⟩
  | group before after key group inner =>
    rw [Json.isGroup, token] at group
    cases group

theorem Kin.isToken (kin : Kin start value node twin) : node.isToken = twin.isToken := by
  rcases kin with rfl | inlined
  · rfl
  · exact inlined.isToken

theorem Kin.isGroup (kin : Kin start value node twin) : node.isGroup = twin.isGroup := by
  rcases kin with rfl | inlined
  · rfl
  · exact inlined.isGroup

theorem Kin.members (kin : Kin start value node twin) (group : node.isGroup = true) :
    Paired (Kin start value) node.members twin.members := by
  rcases kin with rfl | inlined
  · exact paired_self Kin.refl node.members
  · cases inlined with
    | token token _ =>
      rw [Json.isGroup, token] at group
      simp at group
    | group before after key _ inner => exact paired_at Kin.refl before after key (Or.inr inner)

/-- What one path leads to in both trees: the same, or the alias in one and its value in the other. -/
def Swapped (start : String) (value found found' : Json) : Prop :=
  found' = found ∨ (found = .string (aliasText start) ∧ found' = value)

private theorem rel_bind {α β : Type} {R : α → α → Prop} {S : β → β → Prop} {one two : Option α}
    {f g : α → Option β} (related : Option.Rel R one two)
    (onward : ∀ x y, R x y → Option.Rel S (f x) (g y)) : Option.Rel S (one.bind f) (two.bind g) := by
  cases related with
  | none => exact .none
  | some related => exact onward _ _ related

private theorem rel_findSome {α β : Type} {R : α → α → Prop} {S : β → β → Prop} {one two : List α}
    {f : α → Option β} (related : List.Forall₂ R one two)
    (onward : ∀ x y, R x y → Option.Rel S (f x) (f y)) :
    Option.Rel S (one.findSome? f) (two.findSome? f) := by
  induction related with
  | nil => exact .none
  | @cons x y one two related _ ih =>
    have first := onward x y related
    rw [List.findSome?_cons, List.findSome?_cons]
    generalize f x = found at first
    generalize f y = found' at first
    cases first with
    | none => exact ih
    | some same => exact .some same

private theorem rel_find {R : Json → Json → Prop} {one two : Entries Json} (paired : Paired R one two)
    (matching : String → Bool) :
    Option.Rel R ((one.find? fun entry => matching entry.1).map Prod.snd)
      ((two.find? fun entry => matching entry.1).map Prod.snd) := by
  induction paired with
  | nil => exact .none
  | @cons entry entry' one two related _ ih =>
    obtain ⟨same, related⟩ := related
    rw [List.find?_cons, List.find?_cons, same]
    cases matching entry'.1 with
    | true => exact .some related
    | false => exact ih

private theorem rel_child {R : Json → Json → Prop} {one two : Entries Json} (paired : Paired R one two)
    (segment : String) : Option.Rel R (child? one segment) (child? two segment) := by
  have exact_key := paired.get? segment
  rw [child?, child?]
  generalize one.get? segment = found at exact_key
  generalize two.get? segment = found' at exact_key
  cases exact_key with
  | none => exact rel_find paired fun name => Key.loose name == Key.loose segment
  | some related => exact .some related

private theorem reach_kin (kin : Kin start value node twin) (path : List String) :
    Option.Rel (Kin start value) (reach? node path) (reach? twin path) := by
  induction path generalizing node twin with
  | nil => exact .some kin
  | cons segment rest ih =>
    rw [reach?, reach?, ← kin.isGroup]
    split
    · next group => exact rel_bind (rel_child (kin.members group) segment) fun _ _ kin => ih kin
    · exact .none

private theorem answer_kin (kin : Kin start value node twin) (answers : value ≠ .null) :
    Option.Rel (Swapped start value) (answer? node) (answer? twin) := by
  rcases kin with rfl | inlined
  · cases answer? node with
    | none => exact .none
    | some found => exact .some (Or.inl rfl)
  · by_cases token : node.isToken = true
    · obtain ⟨holds, same⟩ := inlined.of_isToken token
      rw [answer_of_isToken token, answer_of_isToken (inlined.isToken ▸ token), holds, same,
        tokenValue_withValue node answers]
      exact .some (Or.inr ⟨rfl, rfl⟩)
    · rw [answer_of_group inlined.isObject.1 token,
        answer_of_group inlined.isObject.2 (inlined.isToken ▸ token)]
      exact .none

private theorem anchors_kin (kin : Kin start value tree other) :
    List.Forall₂ (Kin start value) (anchors tree) (anchors other) := by
  have same (nodes : List Json) : List.Forall₂ (Kin start value) nodes nodes :=
    List.forall₂_same.mpr fun node _ => Kin.refl node
  rcases kin with rfl | inlined
  · exact same _
  · induction inlined with
    | @token node token holds =>
      rw [anchors_of_isToken token, anchors_of_isToken (isToken_withValue token holds)]
      exact .cons (Or.inr (.token token holds)) .nil
    | @group before after key node twin group inner ih =>
      have kin := Inlined.group before after key group inner
      have open_tree : ¬ (Json.object (before ++ (key, node) :: after)).isToken = true := by
        simpa [Json.isGroup, Json.isObject] using group
      have open_other := kin.isToken ▸ open_tree
      rw [anchors, anchors, if_neg open_tree, if_neg open_other, anchorsIn_append, anchorsIn_append,
        anchorsIn, anchorsIn, ← inner.isGroup]
      refine .cons (Or.inr kin) (List.rel_append (same _) (List.rel_append ?_ (same _)))
      split
      · exact ih
      · exact .nil

private theorem valueAt_swapped (kin : Kin start value tree other) (answers : value ≠ .null)
    (path : String) : Swapped start value (valueAt tree path) (valueAt other path) := by
  have found := rel_findSome (anchors_kin kin) fun _ _ kin =>
    rel_bind (reach_kin kin (segments path)) fun _ _ kin => answer_kin kin answers
  rw [valueAt, valueAt]
  generalize (anchors tree).findSome? _ = one at found
  generalize (anchors other).findSome? _ = two at found
  cases found with
  | none => exact Or.inl rfl
  | some swapped => exact swapped

/-- The second tree may have the value where the first has the alias of `start`, and that alias
resolves to the value. -/
structure Replaced (start : String) (value tree other : Json) : Prop where
  swapped : ∀ path, Swapped start value (valueAt tree path) (valueAt other path)
  settled : ∃ last, Stops tree start last ∧ valueAt tree last = value
  answers : value ≠ .null
  plain : aliasPath? value = none

/-- A chain comes to a place where the trees differ. -/
def Hits (start : String) (value tree other : Json) (path : String) : Prop :=
  ∃ hit, Reaches tree path hit ∧ Reaches other path hit ∧
    valueAt tree hit = .string (aliasText start) ∧ valueAt other hit = value

namespace Replaced

variable (replaced : Replaced start value tree other)
include replaced

/-- Until a chain comes to such a place, it is the same in both trees. -/
theorem orbit_eq {path : String} (misses : ¬ Hits start value tree other path) (steps : Nat) :
    orbit other path steps = orbit tree path steps ∧
      ∀ reached, orbit tree path steps = some reached → valueAt other reached = valueAt tree reached := by
  have same_value (steps : Nat) (same : orbit other path steps = orbit tree path steps)
      (reached : String) (present : orbit tree path steps = some reached) :
      valueAt other reached = valueAt tree reached := by
    rcases replaced.swapped reached with equal | ⟨points, found⟩
    · exact equal
    · exact absurd ⟨reached, ⟨steps, present⟩, ⟨steps, same.trans present⟩, points, found⟩ misses
  induction steps with
  | zero => exact ⟨rfl, same_value 0 rfl⟩
  | succ steps ih =>
    have onward : orbit other path (steps + 1) = orbit tree path (steps + 1) := by
      rw [orbit, orbit, ih.1]
      cases present : orbit tree path steps with
      | none => rfl
      | some reached => rw [Option.bind_some, Option.bind_some, next?, next?, ih.2 reached present]
    exact ⟨onward, same_value (steps + 1) onward⟩

private theorem resolve_hit {path : String} (hits : Hits start value tree other path) :
    resolve tree (.string (aliasText path)) = ⟨[], value⟩ ∧
      resolve other (.string (aliasText path)) = ⟨[], value⟩ := by
  obtain ⟨hit, ⟨steps, reached⟩, reached', points, found⟩ := hits
  obtain ⟨last, ⟨⟨more, onward⟩, stops⟩, ends⟩ := replaced.settled
  constructor
  · have start_reached : orbit tree path (steps + 1) = some start := by
      rw [orbit, reached, Option.bind_some, next?, points, aliasPath?_aliasText]
    have last_reached : Reaches tree path last := ⟨_, (orbit_add start_reached more).trans onward⟩
    rw [resolve_of_literal ⟨last_reached, stops⟩ (by rw [ends]; exact replaced.answers), ends]
  · have stops' : Stops other path hit := ⟨reached', by rw [next?, found, replaced.plain]⟩
    rw [resolve_of_literal stops' (by rw [found]; exact replaced.answers), found]

private theorem resolve_miss {path : String} (misses : ¬ Hits start value tree other path) :
    resolve other (.string (aliasText path)) = resolve tree (.string (aliasText path)) := by
  apply resolve_congr
  intro reached present
  obtain ⟨steps, present⟩ := present
  exact (replaced.orbit_eq misses steps).2 reached present

private theorem resolve_eq (raw : Json) : resolve other raw = resolve tree raw := by
  cases points : aliasPath? raw with
  | none => simp [resolve, resolveFrom, points]
  | some path =>
    rw [aliasPath?_eq_some_iff.mp points]
    by_cases hits : Hits start value tree other path
    · obtain ⟨before, after⟩ := replaced.resolve_hit hits
      rw [before, after]
    · exact replaced.resolve_miss hits

private theorem resolve_start : resolve tree (.string (aliasText start)) = ⟨[], value⟩ := by
  obtain ⟨last, stops, ends⟩ := replaced.settled
  rw [resolve_of_literal stops (by rw [ends]; exact replaced.answers), ends]

private theorem resolve_value : resolve other value = ⟨[], value⟩ := by
  simp only [resolve, resolveFrom, replaced.plain]
  rfl

end Replaced

/-- Nodes at one place in both trees, as far as an extraction can see them: what stands under the key
of a value is no object on either side. -/
def Alike (start : String) (value node twin : Json) : Prop :=
  Kin start value node twin ∨ (node.isObject = false ∧ twin.isObject = false)

theorem Alike.refl (node : Json) : Alike start value node node := Or.inl (Kin.refl node)

private theorem members_of_not_isObject (plain : node.isObject = false) : node.members = [] := by
  cases node <;> first | rfl | cases plain

theorem isToken_of_not_isObject (plain : node.isObject = false) : node.isToken = false := by
  cases node <;> first | rfl | cases plain

theorem Alike.members (alike : Alike start value node twin) (scalar : value.isObject = false) :
    Paired (Alike start value) node.members twin.members := by
  rcases alike with (rfl | inlined) | ⟨plain, plain'⟩
  · exact paired_self Alike.refl node.members
  · cases inlined with
    | token _ holds => exact withValue_paired Alike.refl holds (Or.inr ⟨rfl, scalar⟩)
    | group before after key _ inner =>
      exact paired_at Alike.refl before after key (Or.inl (Or.inr inner))
  · rw [members_of_not_isObject plain, members_of_not_isObject plain']
    exact .nil

private theorem rawValue_of_tokenValue (answers : value ≠ .null) (holds : node.tokenValue = value) :
    node.rawValue = value := by
  rw [Json.rawValue, holds]
  cases value <;> first | rfl | exact absurd rfl answers

theorem Replaced.mirror (replaced : Replaced start value tree other)
    (scalar : value.isObject = false) : Mirror (fun _ => True) tree other (Alike start value) where
  nothing := Alike.refl .null
  object := by
    intro node twin alike
    rcases alike with (rfl | inlined) | ⟨plain, plain'⟩
    · rfl
    · rw [inlined.isObject.1, inlined.isObject.2]
    · rw [plain, plain']
  token := by
    intro node twin alike
    rcases alike with kin | ⟨plain, plain'⟩
    · exact kin.isToken
    · rw [isToken_of_not_isObject plain, isToken_of_not_isObject plain']
  type := by
    intro node twin alike token
    rcases alike with (rfl | inlined) | ⟨plain, _⟩
    · rfl
    · obtain ⟨_, rfl⟩ := inlined.of_isToken token
      exact (tokenType_withValue node value).symm
    · rw [isToken_of_not_isObject plain] at token
      cases token
  value := by
    intro node twin alike token
    refine .of_eq ?_
    rcases alike with (rfl | inlined) | ⟨plain, _⟩
    · exact (replaced.resolve_eq node.rawValue).symm
    · obtain ⟨holds, rfl⟩ := inlined.of_isToken token
      rw [rawValue_of_tokenValue (by simp) holds,
        rawValue_of_tokenValue replaced.answers (tokenValue_withValue node replaced.answers),
        replaced.resolve_start, replaced.resolve_value]
    · rw [isToken_of_not_isObject plain] at token
      cases token
  members := fun alike => alike.members scalar

/-- An alias that resolves without leaving anything in the report ends at a value. -/
theorem settled_of_quiet (quiet : (resolve tree (.string (aliasText start))).report = {}) :
    ∃ last, Stops tree start last ∧ valueAt tree last ≠ .null ∧
      (resolve tree (.string (aliasText start))).value = valueAt tree last := by
  rcases resolve_cases tree start with ⟨last, stops, answers, resolved⟩ | ⟨path, value, noted⟩
  · exact ⟨last, stops, answers, by rw [resolved]⟩
  · rcases noted with resolved | resolved <;>
    · rw [resolved] at quiet
      cases quiet

/-- A token, reached through groups, whose alias resolves to a value that is neither an alias nor an
object and leaves the report empty, may have that value itself: the model and the report of the tree
stay the same. -/
theorem assemble_inlined (options : Options) (inlined : Inlined start value tree other)
    (resolves : (resolve tree (.string (aliasText start))).value = value)
    (quiet : (resolve tree (.string (aliasText start))).report = {})
    (plain : aliasPath? value = none) (scalar : value.isObject = false) :
    assemble options other = assemble options tree := by
  obtain ⟨last, stops, answers, found⟩ := settled_of_quiet quiet
  have ends : valueAt tree last = value := found.symm.trans resolves
  rw [ends] at answers
  have replaced : Replaced start value tree other :=
    ⟨valueAt_swapped (Or.inr inlined) answers, ⟨last, stops, ends⟩, answers, plain⟩
  exact ((replaced.mirror scalar).assemble_eq (Or.inl (Or.inr inlined)) options).symm

def linkPalette (link : String) : Json :=
  .object [("TokenStudio", .object [("color", .object
    [("red", .color "#f00"), ("link", .color link), ("far", .color "{link}")])])]

private theorem palette_inlined : Inlined "red" (.string "#f00") (linkPalette "{red}") (linkPalette "#f00") := by
  have token : Inlined "red" (.string "#f00") (.color "{red}") (.color "#f00") := .token rfl rfl
  have colors := Inlined.group [("red", .color "#f00")] [("far", .color "{link}")] "link" rfl token
  exact .group [] [] "TokenStudio" rfl (.group [] [] "color" rfl colors)

theorem assemble_inlined_palette :
    Inlined "red" (.string "#f00") (linkPalette "{red}") (linkPalette "#f00") ∧
    (resolve (linkPalette "{red}") (.string (aliasText "red"))).value = .string "#f00" ∧
    (resolve (linkPalette "{red}") (.string (aliasText "red"))).report = {} ∧
    assemble {} (linkPalette "#f00") = assemble {} (linkPalette "{red}") := by
  have stops : Stops (linkPalette "{red}") "red" "red" := ⟨⟨0, rfl⟩, rfl⟩
  have resolved : resolve (linkPalette "{red}") (.string (aliasText "red")) = ⟨[], .string "#f00"⟩ :=
    resolve_of_literal stops (by simp [show valueAt (linkPalette "{red}") "red" = .string "#f00" from rfl])
  refine ⟨palette_inlined, by rw [resolved], by rw [resolved]; rfl, ?_⟩
  exact assemble_inlined {} palette_inlined (by rw [resolved]) (by rw [resolved]; rfl) rfl rfl

end DesignTokens.Proofs.AliasInlining
