import DesignTokens.Json.Token

/-! Reading a JSON document. The words are taken one by one; what is open around the next word is
kept on a stack, so the depth of a document costs nothing. -/

namespace DesignTokens.Json

/-- A value that is open around the place of reading. -/
inductive Frame where
  /-- The items so far, the last one first. -/
  | array (items : List Json)
  /-- The members so far and the name of the one whose value is due. -/
  | object (members : Entries Json) (name : String)

/-- What the next word may be. -/
inductive Reading where
  | atValue (around : List Frame)
  /-- At the start of an array, which may be empty. -/
  | atFirstItem (around : List Frame)
  /-- At the start of an object, which may be empty. -/
  | atFirstName (around : List Frame)
  | atName (members : Entries Json) (around : List Frame)
  | atColon (members : Entries Json) (name : String) (around : List Frame)
  | afterItem (items : List Json) (around : List Frame)
  | afterMember (members : Entries Json) (around : List Frame)
  | finished (value : Json)

/-- The reading goes on behind a complete value. A name that comes again keeps its place in the
object and takes the later value. -/
def supply (value : Json) : List Frame → Reading
  | [] => .finished value
  | .array items :: around => .afterItem (value :: items) around
  | .object members name :: around => .afterMember (members.put name value) around

def startValue (around : List Frame) (lexeme : Lexeme) : Except SyntaxError Reading :=
  match lexeme.token with
  | .scalar value => .ok (supply value around)
  | .string text => .ok (supply (.string text) around)
  | .openList => .ok (.atFirstItem around)
  | .openObject => .ok (.atFirstName around)
  | .broken error => .error error
  | _ => .error ⟨.expectedValue, lexeme.place⟩

def startMember (members : Entries Json) (around : List Frame) (lexeme : Lexeme) :
    Except SyntaxError Reading :=
  match lexeme.token with
  | .string name => .ok (.atColon members name around)
  | .broken error => .error error
  | _ => .error ⟨.expectedName, lexeme.place⟩

def Reading.step (reading : Reading) (lexeme : Lexeme) : Except SyntaxError Reading :=
  match reading, lexeme.token with
  | .atValue around, _ => startValue around lexeme
  | .atFirstItem around, .closeList => .ok (supply (.array []) around)
  | .atFirstItem around, _ => startValue (.array [] :: around) lexeme
  | .atFirstName around, .closeObject => .ok (supply (.object []) around)
  | .atFirstName around, _ => startMember [] around lexeme
  | .atName members around, _ => startMember members around lexeme
  | .atColon members name around, .colon => .ok (.atValue (.object members name :: around))
  | .atColon _ _ _, _ => .error ⟨.expectedColon, lexeme.place⟩
  | .afterItem items around, .comma => .ok (.atValue (.array items :: around))
  | .afterItem items around, .closeList => .ok (supply (.array items.reverse) around)
  | .afterItem _ _, _ => .error ⟨.expectedComma, lexeme.place⟩
  | .afterMember members around, .comma => .ok (.atName members around)
  | .afterMember members around, .closeObject => .ok (supply (.object members) around)
  | .afterMember _ _, _ => .error ⟨.expectedComma, lexeme.place⟩
  | .finished _, _ => .error ⟨.extraData, lexeme.place⟩

/-- The end of the document is in order behind one complete value. -/
def Reading.finish : Reading → Except SyntaxError Json
  | .finished value => .ok value
  | .atValue _ | .atFirstItem _ => .error ⟨.expectedValue, []⟩
  | .atFirstName _ | .atName _ _ => .error ⟨.expectedName, []⟩
  | .atColon _ _ _ => .error ⟨.expectedColon, []⟩
  | .afterItem _ _ | .afterMember _ _ => .error ⟨.expectedComma, []⟩

def Reading.run (reading : Reading) : List Lexeme → Except SyntaxError Json
  | [] => reading.finish
  | lexeme :: rest =>
    match reading.step lexeme with
    | .ok next => next.run rest
    | .error error => .error error

def parse (document : List Char) : Except SyntaxError Json :=
  match document with
  | '\uFEFF' :: _ => .error ⟨.byteOrderMark, document⟩
  | _ => (Reading.atValue []).run (lex document)

end DesignTokens.Json
