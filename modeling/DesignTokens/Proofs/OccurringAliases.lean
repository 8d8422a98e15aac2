import DesignTokens.Proofs.AliasOrbit
import DesignTokens.Proofs.AssemblyLikeness
import DesignTokens.Proofs.ModelTexts

/-! Aliases that occur in a tree. A path that leads to an alias leads to one that stands in the tree, so
a chain that starts at such an alias comes to no others. Runs over two trees go together on the nodes
that both of them have, if the aliases in these nodes resolve alike. -/

namespace DesignTokens.Proofs.OccurringAliases
open AliasOrbit Likeness ModelTexts

private theorem occurs_member {node : Json} {name text : String} (holds : node.member name = .string text) :
    Occurs (.string text) node := by
  cases node with
  | object members => exact .inside (Entries.mem_of_get? (Json.get?_of_member holds)) .here
  | _ => cases holds

private theorem occurs_tokenValue {node : Json} {text : String} (holds : node.tokenValue = .string text) :
    Occurs (.string text) node := by
  rw [Json.tokenValue, Json.eitherMember] at holds
  split at holds
  · exact occurs_member holds
  · exact occurs_member holds

private theorem occurs_answer {node : Json} {text : String} (answers : answer? node = some (.string text)) :
    Occurs (.string text) node := by
  unfold answer? at answers
  split at answers
  · exact occurs_tokenValue (Option.some.inj answers)
  · split at answers <;> cases answers
    exact .here

mutual

private theorem occurs_of_answersIn : ∀ (node : Json) {text : String}, .string text ∈ answersIn node →
    Occurs (.string text) node
  | .object members, _, member => by
    rw [answersIn] at member
    split at member
    · cases member
    · obtain ⟨entry, listed, occurs⟩ := occurs_of_memberAnswers members member
      exact .inside listed occurs
  | .null, _, member | .bool _, _, member | .int _, _, member | .float _, _, member
  | .string _, _, member | .array _, _, member => nomatch member
termination_by structural node => node

private theorem occurs_of_memberAnswers : ∀ (members : List (String × Json)) {text : String},
    .string text ∈ memberAnswers members → ∃ entry ∈ members, Occurs (.string text) entry.2
  | (name, node) :: rest, text, member => by
    rw [memberAnswers, List.mem_append, List.mem_append] at member
    rcases member with (answers | inside) | later
    · exact ⟨_, List.mem_cons_self, occurs_answer (Option.mem_toList.mp answers)⟩
    · exact ⟨_, List.mem_cons_self, occurs_of_answersIn node inside⟩
    · obtain ⟨entry, listed, occurs⟩ := occurs_of_memberAnswers rest later
      exact ⟨entry, List.mem_cons_of_mem _ listed, occurs⟩
termination_by structural members => members

end

/-- The path of an alias in the tree leads to no alias from outside it. -/
theorem occurs_next {tree : Json} {path next : String} (onward : next? tree path = some next) :
    Occurs (.string (aliasText next)) tree := by
  have points := aliasPath?_eq_some_iff.mp onward
  apply occurs_of_answersIn
  rcases valueAt_mem tree path with nothing | member
  · rw [nothing] at points
    cases points
  · rwa [points] at member

theorem occurs_of_reaches {tree : Json} {start path : String}
    (occurs : Occurs (.string (aliasText start)) tree) (reached : Reaches tree start path) :
    Occurs (.string (aliasText path)) tree := by
  obtain ⟨steps, present⟩ := reached
  cases steps with
  | zero =>
    cases present
    exact occurs
  | succ steps =>
    obtain ⟨before, _, onward⟩ := Option.bind_eq_some_iff.mp present
    exact occurs_next onward

private theorem rawValue_alias {node : Json} {path : String}
    (holds : node.rawValue = .string (aliasText path)) :
    Occurs (.string (aliasText path)) node := by
  rw [Json.rawValue] at holds
  split at holds
  · have nothing := congrArg aliasPath? holds
    rw [aliasPath?_aliasText] at nothing
    cases nothing
  · exact occurs_tokenValue holds

def Known (tree node : Json) : Prop :=
  ∀ path, Occurs (.string (aliasText path)) node → Occurs (.string (aliasText path)) tree

def Shared (tree node twin : Json) : Prop :=
  node = twin ∧ Known tree node

theorem mirror_shared {allowed : Note → Prop} {tree other : Json}
    (alike : ∀ raw, (∀ path, raw = .string (aliasText path) → Occurs raw tree) →
      Together allowed Eq (resolve tree raw) (resolve other raw)) :
    Mirror allowed tree other (Shared tree) where
  nothing := ⟨rfl, fun _ occurs => nomatch occurs⟩
  object shared := congrArg Json.isObject shared.1
  token shared := congrArg Json.isToken shared.1
  type shared _ := congrArg Json.tokenType shared.1
  value := by
    intro node twin shared token
    obtain ⟨rfl, known⟩ := shared
    apply alike
    intro path spelled
    rw [spelled]
    exact known path (rawValue_alias spelled)
  members := by
    intro node twin shared
    obtain ⟨rfl, known⟩ := shared
    refine List.forall₂_same.mpr fun entry member => ⟨rfl, rfl, ?_⟩
    cases node with
    | object members => exact fun path occurs => known path (.inside member occurs)
    | _ => cases member

end DesignTokens.Proofs.OccurringAliases
