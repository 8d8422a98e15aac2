import DesignTokens.Proofs.ConstantRoundTrip

/-! When a run stops. The only tokens that can stop it are those of the groups that fill the buckets of
lengths, and of these only the ones with an array or an object for a type. The run stops at the first
of them in document order; all other trees have a model. -/

namespace DesignTokens.Proofs.TypeFaults
open ModelTexts ConstantRoundTrip

def typeFault? (token : Json) : Option TypeFault :=
  match token.tokenType with
  | .array _ => some .array
  | .object _ => some .object
  | _ => none

/-- The node is the token, or the token is reached from a member of the node, which is a group, under a
key that is not reserved. -/
inductive ReachedFrom (token : Json) : Json → Prop
  | here (isToken : token.isToken = true) : ReachedFrom token token
  | inside {members : List (String × Json)} {key : String} {node : Json}
      (isGroup : (Json.object members).isToken = false) (member : (key, node) ∈ members)
      (plain : isReserved key = false) (reached : ReachedFrom token node) : ReachedFrom token (.object members)

def sizeGroups (options : Options) (raw : Json) : List (Option (Entries Json)) :=
  let primitive := raw.atPath [options.setName, "primitive"]
  let semantic := raw.atPath [options.setName, "semantic", "size"]
  let legacy := raw.member Legacy.primitiveSize
  [subgroup? "size-unit" [primitive, legacy], subgroup? "space" [semantic, legacy],
    subgroup? "border-radius" [semantic, legacy], subgroup? "border-width" [semantic, legacy],
    subgroup? "container" [semantic]]

def scaleGroups (options : Options) (raw : Json) : List (Option (Entries Json)) :=
  match (firstGroup raw [[options.setName, "primitive", "typography"],
    ["", Legacy.primitiveTypography], ["." ++ Legacy.primitiveTypography]]).value with
  | some scales =>
    ["font size", "line height", "letter spacing", "font weight"].map (subgroup? · [.object scales])
  | none => []

/-- A token with a fault is, or is reached from, a group that fills a bucket of lengths. -/
def Offends (options : Options) (raw : Json) (fault : TypeFault) : Prop :=
  ∃ group, some group ∈ sizeGroups options raw ++ scaleGroups options raw ∧
    ∃ token, ReachedFrom token (.object group) ∧ typeFault? token = some fault

mutual

def firstFault? : Json → Option TypeFault
  | .object members =>
    if (Json.object members).isToken then typeFault? (.object members) else faultIn? members
  | _ => none
termination_by structural node => node

def faultIn? : List (String × Json) → Option TypeFault
  | [] => none
  | (key, node) :: rest => (if isReserved key then none else firstFault? node).or (faultIn? rest)
termination_by structural members => members

end

def groupFault? (group : Option (Entries Json)) : Option TypeFault :=
  group.bind fun members => firstFault? (.object members)

variable {fault : TypeFault} {token node : Json}

private theorem firstFault_of_isToken (isToken : node.isToken = true) : firstFault? node = typeFault? node := by
  cases node with
  | object members => rw [firstFault?, if_pos isToken]
  | _ => cases isToken

private theorem firstFault_of_leaf (isLeaf : node.isObject = false) : firstFault? node = none := by
  cases node with
  | object members => cases isLeaf
  | _ => rfl

private theorem faultIn_isSome {members : Entries Json} {key : String} (member : (key, node) ∈ members)
    (plain : isReserved key = false) (faulty : (firstFault? node).isSome = true) :
    (faultIn? members).isSome = true := by
  induction members with
  | nil => cases member
  | cons entry rest ih =>
    obtain ⟨name, other⟩ := entry
    rw [faultIn?, Option.isSome_or, Bool.or_eq_true]
    rcases List.mem_cons.mp member with same | later
    · cases same
      exact Or.inl (by simpa [plain] using faulty)
    · exact Or.inr (ih later)

/-- No token with a fault is passed over. -/
theorem firstFault_isSome (reached : ReachedFrom token node) (faulty : typeFault? token = some fault) :
    (firstFault? node).isSome = true := by
  induction reached with
  | here isToken => rw [firstFault_of_isToken isToken, faulty, Option.isSome_some]
  | inside isGroup member plain reached ih =>
    rw [firstFault?, if_neg (Bool.not_eq_true _ ▸ isGroup)]
    exact faultIn_isSome member plain ih

mutual

private theorem reachedFrom_of_firstFault : ∀ (node : Json), firstFault? node = some fault →
    ∃ token, ReachedFrom token node ∧ typeFault? token = some fault
  | .object members, found => by
    rw [firstFault?] at found
    split at found
    · next isToken => exact ⟨_, .here isToken, found⟩
    · next isGroup =>
      obtain ⟨key, node, token, member, plain, reached, faulty⟩ := reachedFrom_of_faultIn members found
      exact ⟨token, .inside (Bool.not_eq_true _ ▸ isGroup) member plain reached, faulty⟩
  | .null, found | .bool _, found | .int _, found | .float _, found | .string _, found
  | .array _, found => nomatch found
termination_by structural node => node

private theorem reachedFrom_of_faultIn : ∀ (members : List (String × Json)), faultIn? members = some fault →
    ∃ key node token, (key, node) ∈ members ∧ isReserved key = false ∧ ReachedFrom token node ∧
      typeFault? token = some fault
  | (key, node) :: rest, found => by
    rw [faultIn?] at found
    rcases Option.or_eq_some_iff.mp found with here | ⟨_, later⟩
    · split at here
      · cases here
      · next plain =>
        obtain ⟨token, reached, faulty⟩ := reachedFrom_of_firstFault node here
        exact ⟨key, node, token, List.mem_cons_self, Bool.not_eq_true _ ▸ plain, reached, faulty⟩
    · obtain ⟨name, inner, token, member, facts⟩ := reachedFrom_of_faultIn rest later
      exact ⟨name, inner, token, List.mem_cons_of_mem _ member, facts⟩
termination_by structural members => members

end

section Run

variable {α β : Type}

def fault? (extraction : Extraction α) : Option TypeFault :=
  match extraction.run.value with
  | .ok _ => none
  | .error fault => some fault

theorem fault_pure (value : α) : fault? (pure value : Extraction α) = none := rfl

private theorem fault_ofNoted (noted : Noted α) : fault? (.ofNoted noted) = none := rfl

/-- Whatever comes next stops at the same fault, unless there is one before. -/
theorem fault_bind {first : Extraction α} {next : α → Extraction β} {later : Option TypeFault}
    (same : ∀ value, fault? (next value) = later) :
    fault? (first >>= next) = (fault? first).or later := by
  have step : (first >>= next).run = first.run >>= ExceptT.bindCont next := rfl
  rw [fault?, step, Noted.value_bind, fault?]
  cases first.run.value with
  | ok value => exact same value
  | error fault => rfl

private theorem fault_bind_noted (noted : Noted α) (next : α → Extraction β) :
    fault? (.ofNoted noted >>= next) = fault? (next noted.value) := by
  have step : (Extraction.ofNoted noted >>= next).run =
    (Extraction.ofNoted noted).run >>= ExceptT.bindCont next := rfl
  rw [fault?, step, Noted.value_bind, fault?, Extraction.value_ofNoted]
  rfl

end Run

private theorem fault_isDimension (node : Json) : fault? (.ofExcept (isDimension node)) = typeFault? node := by
  rw [fault?, Extraction.ofExcept, isDimension, typeFault?]
  cases node.tokenType <;> rfl

private theorem fault_token {α : Type} {next : Bool → Extraction α} {later : Option TypeFault}
    (isToken : node.isToken = true) (same : ∀ counts, fault? (next counts) = later) :
    fault? (.ofExcept (isDimension node) >>= next) = (firstFault? node).or later := by
  rw [fault_bind same, fault_isDimension, firstFault_of_isToken isToken]

section Dimensions

variable (tree : Json) (unit : Option String)

mutual

private theorem fault_addGroupDimensions : ∀ (node : Json) (path : String) (found : Entries String),
    node.isToken = false → fault? (addGroupDimensions tree unit path found node) = firstFault? node
  | .object members, path, found, isGroup => by
    rw [addGroupDimensions, firstFault?, if_neg (Bool.not_eq_true _ ▸ isGroup)]
    exact fault_addDimensions members path found
  | .null, _, _, _ | .bool _, _, _, _ | .int _, _, _, _ | .float _, _, _, _ | .string _, _, _, _
  | .array _, _, _, _ => rfl
termination_by structural node => node

theorem fault_addDimensions : ∀ (members : List (String × Json)) (path : String)
    (found : Entries String), fault? (addDimensions tree unit path found members) = faultIn? members
  | [], _, _ => rfl
  | (key, node) :: rest, path, found => by
    rw [addDimensions, faultIn?]
    split
    · next skipped =>
      have passed : (if isReserved key then none else firstFault? node) = none := by
        rcases Bool.or_eq_true _ _ ▸ skipped with reserved | isLeaf
        · exact if_pos reserved
        · rw [firstFault_of_leaf (Bool.not_eq_true' _ ▸ isLeaf), ite_self]
      rw [passed, Option.none_or]
      exact fault_addDimensions rest path found
    · next kept =>
      obtain ⟨plain, object⟩ : isReserved key = false ∧ node.isObject = true := by simpa using kept
      rw [plain, if_neg Bool.false_ne_true]
      dsimp only
      split
      · next isToken =>
        refine fault_token isToken fun counts => ?_
        cases counts with
        | false => exact fault_addDimensions rest path found
        | true => exact (fault_bind fun text => fault_addDimensions rest path _).trans rfl
      · next isGroup =>
        rw [fault_bind fun found => fault_addDimensions rest path found,
          fault_addGroupDimensions node _ _ (Bool.not_eq_true _ ▸ isGroup)]
termination_by structural members => members

end

end Dimensions

variable {options : Options} {raw : Json}

theorem fault_bucketDimensions {name : String} (plain : isReserved name = false) (unit : Option String)
    (group : Option (Entries Json)) :
    fault? (bucketDimensions raw unit name group) = groupFault? group := by
  cases group with
  | none => rfl
  | some members =>
    rw [bucketDimensions, dimensions, fault_addDimensions, faultIn?, if_neg (Bool.not_eq_true _ ▸ plain)]
    exact Option.or_none

theorem findSome_groupFault_cons (group : Option (Entries Json)) (others : List (Option (Entries Json))) :
    (group :: others).findSome? groupFault? = (groupFault? group).or (others.findSome? groupFault?) := by
  rw [List.findSome?_cons]
  cases groupFault? group <;> rfl

private theorem fault_assembleSizes :
    fault? (assembleSizes raw options) = (sizeGroups options raw).findSome? groupFault? := by
  refine (fault_bind fun units => fault_bind fun spaces => fault_bind fun borderRadius =>
    fault_bind fun borderWidth => fault_bind fun container => fault_pure _).trans ?_
  simp only [sizeGroups, findSome_groupFault_cons, List.findSome?_nil]
  rw [fault_bucketDimensions rfl, fault_bucketDimensions rfl, fault_bucketDimensions rfl,
    fault_bucketDimensions rfl, fault_bucketDimensions rfl]

private theorem fault_assembleScales :
    fault? (assembleScales raw options) = (scaleGroups options raw).findSome? groupFault? := by
  rw [assembleScales, scaleGroups, fault_bind_noted]
  cases (firstGroup raw _).value with
  | none => rfl
  | some scales =>
    refine (fault_bind fun fontSize => fault_bind fun lineHeight => fault_bind fun letterSpacing =>
      fault_bind fun fontWeight => fault_pure _).trans ?_
    simp only [List.map_cons, List.map_nil, findSome_groupFault_cons, List.findSome?_nil]
    rw [fault_bucketDimensions rfl, fault_bucketDimensions rfl, fault_bucketDimensions rfl,
      fault_bucketDimensions rfl]

private theorem fault_assemble : fault? (assemble options raw) =
    (sizeGroups options raw ++ scaleGroups options raw).findSome? groupFault? := by
  rw [List.findSome?_append, ← fault_assembleSizes, ← fault_assembleScales]
  refine (fault_bind fun colors => fault_bind fun sizes => fault_bind fun scales =>
    fault_bind fun typography => fault_pure _).trans ?_
  rw [fault_ofNoted, fault_ofNoted, Option.none_or, Option.or_none, Option.or_none]

private theorem fault_isSome_of_offends {fault : TypeFault} (offends : Offends options raw fault) :
    (fault? (assemble options raw)).isSome = true := by
  obtain ⟨group, selected, token, reached, faulty⟩ := offends
  rw [fault_assemble, List.findSome?_isSome_iff]
  exact ⟨some group, selected, firstFault_isSome reached faulty⟩

private theorem offends_of_fault {fault : TypeFault} (stops : fault? (assemble options raw) = some fault) :
    Offends options raw fault := by
  rw [fault_assemble] at stops
  obtain ⟨group, selected, found⟩ := List.exists_of_findSome?_eq_some stops
  obtain ⟨members, rfl, found⟩ := Option.bind_eq_some_iff.mp found
  exact ⟨members, selected, reachedFrom_of_firstFault _ found⟩

/-- A run stops exactly if a token of a group of lengths has an array or an object for a type, and
with the fault of such a token. Any other run has a model, a nested map of texts that the check of
models accepts as it is. -/
theorem assemble_stops_iff (options : Options) (raw : Json) :
    ((∃ fault, (assemble options raw).run.value = .error fault) ↔ ∃ fault, Offends options raw fault) ∧
    (∀ fault, (assemble options raw).run.value = .error fault → Offends options raw fault) ∧
    ((¬ ∃ fault, Offends options raw fault) → ∃ model, (assemble options raw).run.value = .ok model ∧
      AllTexts (fun _ => True) (fun _ => True) model ∧ Model.decode model.literal = .valid model) := by
  have faulty {fault : TypeFault} (stops : (assemble options raw).run.value = .error fault) :
      Offends options raw fault := offends_of_fault (by rw [fault?, stops])
  refine ⟨⟨fun ⟨fault, stops⟩ => ⟨fault, faulty stops⟩, fun ⟨fault, offends⟩ => ?stops⟩,
    fun fault => faulty, fun harmless => ?builds⟩
  case stops =>
    have some_fault := fault_isSome_of_offends offends
    cases outcome : (assemble options raw).run.value with
    | ok model => simp [fault?, outcome] at some_fault
    | error fault => exact ⟨fault, rfl⟩
  case builds =>
    cases outcome : (assemble options raw).run.value with
    | ok model => exact ⟨model, rfl, assemble_allTexts outcome, decode_literal model⟩
    | error fault => exact absurd ⟨fault, faulty outcome⟩ harmless

/-- The type of a token that is no length at all stops the run where a length could stand. -/
example : (assemble {} (.object [("TokenStudio", .object [("semantic", .object [("size", .object [
    ("space", .object [("gap", .object [("value", .null), ("type", .array [])])])])])])])).run.value =
    .error .array := rfl

end DesignTokens.Proofs.TypeFaults
