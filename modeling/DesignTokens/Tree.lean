import DesignTokens.Json.Basic

/-! The tree of raw tokens. A node is a token, which has a value and a type, a group of named nodes,
or a value that stands in the tree without being either. -/

namespace DesignTokens

/-- Keys that describe a group instead of naming a token in it. -/
def reservedKeys : List String := ["type", "description", "$type", "$description"]

def isReserved (key : String) : Bool :=
  reservedKeys.contains key

namespace Json

def has (node : Json) (key : String) : Bool :=
  (node.members.get? key).isSome

theorem get?_of_member {node : Json} {key text : String} (holds : node.member key = .string text) :
    node.members.get? key = some (.string text) := by
  rw [member] at holds
  cases found : node.members.get? key with
  | none =>
    rw [found] at holds
    cases holds
  | some value =>
    rw [found] at holds
    exact congrArg some holds

/-- Either spelling of the two keys makes an object a token, whatever their values. -/
def isToken (node : Json) : Bool :=
  (node.has "value" || node.has "$value") && (node.has "type" || node.has "$type")

def isGroup (node : Json) : Bool :=
  node.isObject && !node.isToken

/-- A token with a value and a type, under the plain keys. -/
def token (type : String) (value : Json) : Json :=
  .object [("value", value), ("type", .string type)]

def color (value : String) : Json :=
  token "color" (.string value)

def dimension (value : String) : Json :=
  token "dimension" (.string value)

/-- The keys whose presence makes an object a token. -/
def tokenKeys : List String := ["value", "$value", "type", "$type"]

theorem isToken_congr {node other : Json} (same : ∀ key ∈ tokenKeys, node.has key = other.has key) :
    node.isToken = other.isToken := by
  rw [isToken, isToken, same "value" (by simp [tokenKeys]), same "$value" (by simp [tokenKeys]),
    same "type" (by simp [tokenKeys]), same "$type" (by simp [tokenKeys])]

/-- The member under the first key, unless it is null. -/
def eitherMember (node : Json) (key other : String) : Json :=
  let value := node.member key
  if value.isNull then node.member other else value

def tokenValue (node : Json) : Json :=
  node.eitherMember "value" "$value"

def tokenType (node : Json) : Json :=
  node.eitherMember "type" "$type"

/-- The value that a token is read with: a token without one has the empty text. -/
def rawValue (node : Json) : Json :=
  if node.tokenValue.isNull then .string "" else node.tokenValue

/-- The node at a path of exact keys; null where there is none. -/
def atPath (node : Json) : List String → Json
  | [] => node
  | key :: rest => (node.member key).atPath rest

mutual

def leaves : Json → Nat
  | .object members => leavesIn members
  | _ => 1
termination_by structural node => node

/-- The number of values in a nested map that are not maps themselves. -/
def leavesIn : List (String × Json) → Nat
  | [] => 0
  | (_, node) :: rest => node.leaves + leavesIn rest
termination_by structural members => members

end

end Json

end DesignTokens
