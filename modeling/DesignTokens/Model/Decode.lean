import DesignTokens.Model.Basic

/-! Reading a model from plain data. Each field is looked up under the name of the generated constant
and, failing that, under the same words joined by underscores; a missing field is empty, and unknown
ones are passed over. Every problem is reported, in the order of the fields. -/

namespace DesignTokens

inductive ProblemKind where
  /-- An object with fixed fields is due. -/
  | model
  /-- An object with any members is due. -/
  | map
  | text
  deriving DecidableEq, Repr

def ProblemKind.name : ProblemKind → String
  | .model => "model_type"
  | .map => "dict_type"
  | .text => "string_type"

/-- What is wrong, and the path of names to it. -/
structure Problem where
  path : List String
  kind : ProblemKind
  deriving DecidableEq, Repr

def Problem.message (problem : Problem) : String :=
  ".".intercalate problem.path ++ ":" ++ problem.kind.name

/-- A value, or everything that is wrong with it. -/
inductive Decoded (α : Type) where
  | valid (value : α)
  | invalid (problems : List Problem)

namespace Decoded

variable {α β : Type}

/-- Applies a function, and keeps the problems of both sides. -/
def apply (function : Decoded (α → β)) (argument : Decoded α) : Decoded β :=
  match function, argument with
  | .valid f, .valid value => .valid (f value)
  | .valid _, .invalid problems => .invalid problems
  | .invalid problems, .valid _ => .invalid problems
  | .invalid first, .invalid second => .invalid (first ++ second)

instance : Applicative Decoded where
  pure := .valid
  seq function argument := function.apply (argument ())

def problem (path : List String) (kind : ProblemKind) : Decoded α :=
  .invalid [⟨path, kind⟩]

end Decoded

/-- The first of some spellings of a name that an object has, and its value. -/
def spelled? (members : Entries Json) : List String → Option (String × Json)
  | [] => none
  | name :: others =>
    match members.get? name with
    | some value => some (name, value)
    | none => spelled? members others

/-- Decodes a field, or takes the default where no spelling of its name is present. -/
def decodeField {α : Type} (decode : List String → Json → Decoded α) (default : α)
    (path : List String) (members : Entries Json) (spellings : List String) : Decoded α :=
  match spelled? members spellings with
  | some (name, value) => decode (path ++ [name]) value
  | none => .valid default

/-- Decodes the members of a map one by one. -/
def decodeMembers {α : Type} (decode : List String → Json → Decoded α) (path : List String) :
    List (String × Json) → Decoded (Entries α)
  | [] => .valid []
  | (name, value) :: rest =>
    (fun value rest => (name, value) :: rest) <$> decode (path ++ [name]) value <*>
      decodeMembers decode path rest

def decodeText (path : List String) : Json → Decoded String
  | .string text => .valid text
  | _ => .problem path .text

def decodeOptionalText (path : List String) : Json → Decoded (Option String)
  | .string text => .valid (some text)
  | .null => .valid none
  | _ => .problem path .text

/-- A map of colours may hold values of any kind. -/
def decodeColors (path : List String) : Json → Decoded (Entries Json)
  | .object members => .valid members
  | _ => .problem path .map

def decodeDimensions (path : List String) : Json → Decoded (Entries String)
  | .object members => decodeMembers decodeText path members
  | _ => .problem path .map

def decodePreset (path : List String) : Json → Decoded Preset
  | .object members =>
    let field := decodeField decodeOptionalText none path members
    Preset.mk <$> field ["fontSize", "font_size"] <*> field ["lineHeight", "line_height"] <*>
      field ["letterSpacing", "letter_spacing"] <*> field ["fontWeight", "font_weight"]
  | _ => .problem path .model

def decodePresets (path : List String) : Json → Decoded (Entries Preset)
  | .object members => decodeMembers decodePreset path members
  | _ => .problem path .map

def decodeColorBuckets (path : List String) : Json → Decoded ColorBuckets
  | .object members =>
    let field := decodeField decodeColors [] path members
    ColorBuckets.mk <$> field ["primitive"] <*> field ["text"] <*> field ["bg"] <*>
      field ["border"] <*> field ["icon"]
  | _ => .problem path .model

def decodeTypographyBuckets (path : List String) : Json → Decoded TypographyBuckets
  | .object members =>
    let field := decodeField decodePresets [] path members
    TypographyBuckets.mk <$> field ["heading"] <*> field ["body"]
  | _ => .problem path .model

namespace Model

def decode : Json → Decoded Model
  | .object members =>
    let field := decodeField decodeDimensions [] [] members
    Model.mk <$> decodeField decodeColorBuckets {} [] members ["colors"] <*>
      field ["spacing"] <*> field ["container"] <*>
      field ["fontSize", "font_size"] <*> field ["lineHeight", "line_height"] <*>
      field ["fontWeight", "font_weight"] <*> field ["letterSpacing", "letter_spacing"] <*>
      field ["borderRadius", "border_radius"] <*> field ["borderWidth", "border_width"] <*>
      decodeField decodeTypographyBuckets {} [] members ["typography"]
  | _ => .problem [] .model

end Model

/-- All problems in one line. -/
def problemsMessage (problems : List Problem) : String :=
  "; ".intercalate (problems.map Problem.message)

end DesignTokens
