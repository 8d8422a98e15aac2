/-! Markup in console texts: tags in square brackets, such as `[bold]`, which do not show. A backslash
before a tag makes it plain text; a text is escaped so that what looks like a tag in it shows. -/

namespace DesignTokens.Console

def startsTag (c : Char) : Bool :=
  ('a' ≤ c && c ≤ 'z') || c == '#' || c == '/' || c == '@'

/-- The tag at the start of a text, brackets included, and the rest. It ends at the first closing
bracket and holds no other opening one. -/
def readTag? : List Char → Option (List Char × List Char)
  | '[' :: c :: rest =>
    let name := rest.takeWhile fun c => c != '[' && c != ']'
    match startsTag c, rest.drop name.length with
    | true, ']' :: after => some ('[' :: c :: name ++ [']'], after)
    | _, _ => none
  | _ => none

/-- A piece of markup. -/
inductive Piece where
  | char (c : Char)
  /-- A tag and the number of backslashes before it. -/
  | tag (backslashes : Nat) (text : List Char)

/-- Cuts markup into pieces; `backslashes` counts those just before the text. No more pieces come out
than there are characters. -/
def piecesFrom : (bound : Nat) → (backslashes : Nat) → List Char → List Piece
  | 0, backslashes, _ => List.replicate backslashes (.char '\\')
  | bound + 1, backslashes, text =>
    match readTag? text with
    | some (tag, rest) => .tag backslashes tag :: piecesFrom bound 0 rest
    | none =>
      match text with
      | '\\' :: rest => piecesFrom bound (backslashes + 1) rest
      | c :: rest => List.replicate backslashes (.char '\\') ++ .char c :: piecesFrom bound 0 rest
      | [] => List.replicate backslashes (.char '\\')

def pieces (markup : List Char) : List Piece :=
  piecesFrom (markup.length + 1) 0 markup

/-- Twice the backslashes before a tag, and one more, make it plain text. -/
def Piece.escape : Piece → List Char
  | .char c => [c]
  | .tag backslashes text => List.replicate (2 * backslashes + 1) '\\' ++ text

/-- A single backslash at the end is doubled, lest it escape what comes behind the text. -/
def escapeEnd (markup : List Char) : List Char :=
  match markup.reverse with
  | ['\\'] => markup ++ ['\\']
  | '\\' :: c :: _ => if c == '\\' then markup else markup ++ ['\\']
  | _ => markup

/-- Markup that shows a text as it is. -/
def escape (text : String) : List Char :=
  escapeEnd ((pieces text.toList).flatMap Piece.escape)

/-- Half of the backslashes before a tag show; an odd one makes the tag show. Before a bracket that
opens no tag, one backslash does not show. -/
def showPieces : List Piece → List Char
  | [] => []
  | .tag backslashes text :: rest =>
    List.replicate (backslashes / 2) '\\' ++ (if backslashes % 2 == 0 then [] else text) ++
      showPieces rest
  | .char '\\' :: .char '[' :: rest => '[' :: showPieces rest
  | .char c :: rest => c :: showPieces rest

/-- What markup shows. -/
def render (markup : List Char) : List Char :=
  showPieces (pieces markup)

end DesignTokens.Console
