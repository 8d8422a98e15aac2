import DesignTokens.Proofs.ColorLeaves
import DesignTokens.Proofs.KeyWords
import DesignTokens.Proofs.ReachedTokens
import DesignTokens.Proofs.SharedReport
import DesignTokens.Proofs.TypeFaults

/-! The dimensions of a group as a fold over its tokens. The traversal joins names on its way down, but
what it does is to go through the list of all tokens, each under its whole path as one key, up to the
first one whose type is a fault. -/

namespace DesignTokens.Proofs.DimensionTokens
open ColorLeaves KeyWords ReachedTokens TypeFaults WrittenNotes
open Session (Step Outcome)

def isLength (node : Json) : Bool :=
  match node.tokenType with
  | .string kind => kind == "dimension" || kind == "number"
  | _ => false

/-- The tokens below a group, each under the keys on the way to it as one key. -/
def flattened (members : Entries Json) : Entries Json :=
  (tokensIn members).map fun token => (Key.normalize ("/".intercalate token.1), token.2)

def lengths (flat : Entries Json) : Entries Json :=
  flat.filter fun token => isLength token.2

/-- The tokens before the first one whose type is a fault. -/
def beforeFault (flat : Entries Json) : Entries Json :=
  flat.takeWhile fun token => (typeFault? token.2).isNone

def inserted (tree : Json) (unit : Option String) (found : Entries String) (flat : Entries Json) :
    Entries String :=
  flat.foldl (fun found token =>
    found.put token.1 (formatDimension unit (resolve tree token.2.rawValue).value)) found

def resolvedAll (tree : Json) (flat : Entries Json) (report : Report) : Report :=
  flat.foldl (fun report token => ((Session.resolve tree token.2.rawValue).run report).2) report

variable {tree : Json} {unit : Option String} {members : Entries Json}

def addToken (tree : Json) (unit : Option String) (found : Entries String) (token : String × Json) :
    Extraction (Entries String) := do
  if ← .ofExcept (isDimension token.2) then
    let text ← .ofNoted (resolvedDimension tree unit token.2)
    return found.put token.1 text
  else return found

def joinName (path key : String) : String :=
  Stylesheet.joinPath path (Key.normalize key)

private theorem addDimensions_eq_foldlM (path : String) (found : Entries String) (members : Entries Json) :
    addDimensions tree unit path found members =
      ((tokensIn members).map fun token => (token.1.foldl joinName path, token.2)).foldlM
        (addToken tree unit) found := by
  induction members using walk generalizing path found with
  | nil => rfl
  | skipped skip ih =>
    rw [addDimensions, if_pos skip, tokensIn_skipped skip]
    exact ih path found
  | @token key node rest kept token ih =>
    rw [addDimensions, if_neg kept, tokensIn_token kept token, List.map_cons, List.foldlM_cons, addToken,
      bind_assoc]
    dsimp only
    rw [if_pos token]
    congr 1
    funext counts
    cases counts with
    | true =>
      rw [if_pos rfl, if_pos rfl, bind_assoc]
      congr 1
      funext text
      rw [pure_bind]
      exact ih path _
    | false =>
      rw [if_neg Bool.false_ne_true, if_neg Bool.false_ne_true, pure_bind]
      exact ih path found
  | @group key inner rest kept group below ih =>
    rw [addDimensions, if_neg kept, tokensIn_group kept group, List.map_append, List.foldlM_append]
    dsimp only
    rw [group, if_neg Bool.false_ne_true, addGroupDimensions, below, List.map_map]
    congr 1
    funext found
    exact ih path found

def flatFault? (flat : Entries Json) : Option TypeFault :=
  flat.findSome? fun token => typeFault? token.2

theorem isDimension_eq (node : Json) : isDimension node =
    match typeFault? node with
    | some fault => .error fault
    | none => .ok (isLength node) := by
  rw [isDimension, typeFault?, isLength]
  cases node.tokenType <;> rfl

private theorem resolvedDimension_eq (node : Json) : resolvedDimension tree unit node =
    ⟨(resolve tree node.rawValue).notes, formatDimension unit (resolve tree node.rawValue).value⟩ :=
  Noted.ext (List.append_nil _) rfl

private theorem addToken_run (found : Entries String) (token : String × Json) :
    (addToken tree unit found token).run =
      match typeFault? token.2 with
      | some fault => ⟨[], .error fault⟩
      | none =>
        if isLength token.2 then
          ⟨(resolve tree token.2.rawValue).notes,
            .ok (found.put token.1 (formatDimension unit (resolve tree token.2.rawValue).value))⟩
        else ⟨[], .ok found⟩ := by
  rw [addToken, isDimension_eq, resolvedDimension_eq]
  cases typeFault? token.2 with
  | some fault => rfl
  | none =>
    cases isLength token.2 with
    | true => exact Noted.ext (List.append_nil _) rfl
    | false => rfl

/-- The notes are those of the lengths before the fault, if there is one. -/
theorem foldlM_addToken (found : Entries String) (flat : Entries Json) :
    (flat.foldlM (addToken tree unit) found).run =
      ⟨(lengths (beforeFault flat)).flatMap fun token => (resolve tree token.2.rawValue).notes,
        match flatFault? flat with
        | some fault => .error fault
        | none => .ok (inserted tree unit found (lengths flat))⟩ := by
  induction flat generalizing found with
  | nil => rfl
  | cons token rest ih =>
    have step (next : Entries String → Extraction (Entries String)) :
        (addToken tree unit found token >>= next).run =
          (addToken tree unit found token).run >>= ExceptT.bindCont next := rfl
    rw [List.foldlM_cons, step, addToken_run, beforeFault, List.takeWhile_cons, flatFault?, List.findSome?_cons]
    cases typeFault? token.2 with
    | some fault => rfl
    | none =>
      simp only [lengths, Option.isNone_none, if_true, List.filter_cons]
      cases isLength token.2 with
      | true =>
        have onward := ih (found.put token.1 (formatDimension unit (resolve tree token.2.rawValue).value))
        have notes := congrArg Noted.notes onward
        have value := congrArg Noted.value onward
        exact Noted.ext (congrArg ((resolve tree token.2.rawValue).notes ++ ·) notes) value
      | false => exact ih found

private theorem foldl_joinPath_filled {names : List String} (filled : ∀ name ∈ names, name ≠ "") :
    names.foldl Stylesheet.joinPath "" = hyphened names := by
  cases names with
  | nil => rfl
  | cons first rest => exact foldl_joinPath_of_ne (filled first List.mem_cons_self) rest

private theorem foldl_joinName {keys : List String} (filled : ∀ key ∈ keys, Key.normalize key ≠ "") :
    keys.foldl joinName "" = Key.normalize ("/".intercalate keys) :=
  calc
    keys.foldl joinName "" = (keys.map Key.normalize).foldl Stylesheet.joinPath "" := by
      rw [List.foldl_map]
      rfl
    _ = hyphened (keys.map Key.normalize) := foldl_joinPath_filled (List.forall_mem_map.mpr filled)
    _ = Key.normalize ("/".intercalate keys) := (normalize_joined filled).symm

theorem dimensions_eq_foldlM (named : ∀ group ∈ members :: groupsIn members, "" ∉ names group) :
    dimensions tree unit members = (flattened members).foldlM (addToken tree unit) [] := by
  have keys : (tokensIn members).map (fun token => (token.1.foldl joinName "", token.2)) =
      flattened members := by
    apply List.map_congr_left
    intro token reached
    rw [foldl_joinName (filled_keys named reached)]
  rw [dimensions, addDimensions_eq_foldlM, keys]

private theorem addAll_notes (tree : Json) (flat : Entries Json) (report : Report) :
    report.addAll (flat.flatMap fun token => (resolve tree token.2.rawValue).notes) =
      resolvedAll tree flat report := by
  induction flat generalizing report with
  | nil => rfl
  | cons token rest ih =>
    rw [List.flatMap_cons, Report.addAll_append, ih, resolvedAll, resolvedAll, List.foldl_cons,
      resolve_written]
    rfl

/-- Where no name on the way is empty, the dimensions of a group are those of its tokens in order. The
first token whose type is a fault ends the step, with the report as the lengths before it leave it. -/
theorem dimensions_fold (tree : Json) (unit : Option String) (members : Entries Json) (report : Report)
    (named : ∀ group ∈ members :: groupsIn members, "" ∉ names group) :
    (Step.dimensions tree unit members).perform.run report =
      (match flatFault? (flattened members) with
        | some fault => .error fault
        | none => .ok (.dimensions (inserted tree unit [] (lengths (flattened members)))),
      resolvedAll tree (lengths (beforeFault (flattened members))) report) := by
  have fold : dimensions tree unit members = (flattened members).foldlM (addToken tree unit) [] :=
    dimensions_eq_foldlM named
  rw [perform_written, stepNoted, fold, foldlM_addToken, ← addAll_notes]
  cases flatFault? (flattened members) with
  | some fault => exact congrArg (Prod.mk _ <| report.addAll ·) (List.append_nil _)
  | none => exact congrArg (Prod.mk _ <| report.addAll ·) (List.append_nil _)

/-- A group with a description, nested keys, a key that comes twice, a colour, an alias and a dead one. -/
def spaces : Entries Json :=
  [("$description", .object [("note", .token "number" (.string "1"))]),
    ("Space", .object [("4", .token "number" (.string " 4")),
      ("Ratio (wide)", .object [("1/2", .token "number" (.string "{space.4}"))])]),
    ("space-4", .dimension "1rem"), ("rule", .color "#000"), ("off", .dimension "{nowhere}")]

/-- The same group and a token whose type is an array, with another dead alias behind it. -/
def brokenSpaces : Entries Json :=
  spaces ++ [("steps", .object [("value", .int 8), ("type", .array [.string "number"])]),
    ("late", .token "number" (.string "{missing}"))]

theorem dimensions_fold_spaces :
    (∀ group ∈ spaces :: groupsIn spaces, "" ∉ names group) ∧
    (Step.dimensions (.object spaces) "px" spaces).perform.run {} =
      (.ok (.dimensions [("space-4", "1rem"), ("space-ratio-wide-1-2", "4px"), ("off", "{nowhere}")]),
        { unresolved := ["nowhere"] }) ∧
    (Step.dimensions (.object brokenSpaces) "px" brokenSpaces).perform.run {} =
      (.error .array, { unresolved := ["nowhere"] }) := by
  have named : ∀ group ∈ spaces :: groupsIn spaces, "" ∉ names group := by decide +kernel
  have alsoNamed : ∀ group ∈ brokenSpaces :: groupsIn brokenSpaces, "" ∉ names group := by decide +kernel
  have clean : flatFault? (flattened spaces) = none := by decide +kernel
  have broken : flatFault? (flattened brokenSpaces) = some .array := by decide +kernel
  have found : inserted (.object spaces) "px" [] (lengths (flattened spaces)) =
      [("space-4", "1rem"), ("space-ratio-wide-1-2", "4px"), ("off", "{nowhere}")] := by decide +kernel
  have report : resolvedAll (.object spaces) (lengths (beforeFault (flattened spaces))) {} =
      { unresolved := ["nowhere"] } := by decide +kernel
  have before : resolvedAll (.object brokenSpaces) (lengths (beforeFault (flattened brokenSpaces))) {} =
      { unresolved := ["nowhere"] } := by decide +kernel
  refine ⟨named, ?_, ?_⟩
  · rw [dimensions_fold _ _ _ _ named, clean, found, report]
  · rw [dimensions_fold _ _ _ _ alsoNamed, broken, before]

end DesignTokens.Proofs.DimensionTokens
