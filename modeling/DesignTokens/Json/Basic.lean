import DesignTokens.Entries
import DesignTokens.Number.Binary64

/-! JSON values. Objects keep the order of their members, and whole numbers are kept apart from
floats. -/

namespace DesignTokens

inductive Json where
  | null
  | bool (value : Bool)
  | int (value : Int)
  | float (value : Number.Binary64)
  | string (value : String)
  | array (items : List Json)
  | object (members : List (String × Json))
  deriving Inhabited

namespace Json

/-- The members of an object; any other value has none. -/
def members : Json → Entries Json
  | .object members => members
  | _ => []

def isObject : Json → Bool
  | .object _ => true
  | _ => false

def isNull : Json → Bool
  | .null => true
  | _ => false

/-- The value of a member; null where there is none. -/
def member (value : Json) (key : String) : Json :=
  (value.members.get? key).getD .null

/-- What holds of all values that are no maps, and of a map if it holds of the values in it, holds of every
value. -/
@[elab_as_elim]
theorem nested_induction {P : Json → Prop} (leaf : ∀ value, value.isObject = false → P value)
    (object : ∀ members, (∀ entry ∈ members, P entry.2) → P (.object members)) : ∀ value, P value
  | .object members => object members fun entry _ => nested_induction leaf object entry.2
  | .null | .bool _ | .int _ | .float _ | .string _ | .array _ => leaf _ rfl
termination_by value => sizeOf value
decreasing_by
  have smaller := List.sizeOf_lt_of_mem ‹entry ∈ members›
  obtain ⟨key, value⟩ := entry
  simp only [Prod.mk.sizeOf_spec, Json.object.sizeOf_spec] at smaller ⊢
  omega

end Json

end DesignTokens
