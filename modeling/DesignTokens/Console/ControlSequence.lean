import DesignTokens.Text.Digits

/-! Control sequences: what a terminal takes as an order, such as one for a colour. Where no terminal
shows a text, they are left out of it. -/

namespace DesignTokens.Console

/-- Orders take numbers with semicolons between them; a question mark starts a private one. -/
def isParameter (c : Char) : Bool :=
  Text.isDigit c || c == ';' || c == '?'

/-- What follows a control sequence at the start of a text. The sequence is an escape sign, an opening
bracket, parameters, and a letter that names the order. -/
def afterSequence? : List Char → Option (List Char)
  | '\x1B' :: '[' :: rest =>
    match rest.dropWhile isParameter with
    | c :: after => if c.isAlpha then some after else none
    | [] => none
  | _ => none

/-- A sequence takes characters. -/
theorem afterSequence?_length {text after : List Char} (found : afterSequence? text = some after) :
    after.length < text.length := by
  unfold afterSequence? at found
  split at found
  · next rest =>
    have shorter := (List.dropWhile_sublist (p := isParameter) (l := rest)).length_le
    split at found
    · next c behind equal =>
      split at found
      · obtain rfl := Option.some.inj found
        rw [equal] at shorter
        simp only [List.length_cons] at shorter ⊢
        omega
      · contradiction
    · contradiction
  · contradiction

/-- A text without control sequences. What remains is not looked at again, although the parts around a
sequence may make up another one. -/
def withoutSequences (text : List Char) : List Char :=
  match text with
  | [] => []
  | c :: rest =>
    match _found : afterSequence? (c :: rest) with
    | some after => withoutSequences after
    | none => c :: withoutSequences rest
termination_by text.length
decreasing_by
  · exact afterSequence?_length _found
  · simp

end DesignTokens.Console
