import DesignTokens.Json.Basic

/-! Merging nested maps. Maps on both sides are merged; anything else on the later side replaces what
the earlier one has. -/

namespace DesignTokens

mutual

/-- What a later value makes of an earlier one. -/
def overlay (old : Option Json) : Json → Json
  | .object members =>
    match old with
    | some (.object present) => .object (mergeMembers present members)
    | _ => .object members
  | value => value
termination_by structural value => value

/-- Keys keep their places; those of the later map that are new come last, in its order. -/
def mergeMembers (target : Entries Json) : List (String × Json) → Entries Json
  | [] => target
  | (key, value) :: rest =>
    mergeMembers (target.put key (overlay (target.get? key) value)) rest
termination_by structural members => members

end

end DesignTokens
