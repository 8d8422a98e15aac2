import DesignTokens.Text.Digits

/-! The words of a TOML document: blanks, comments, texts, keys, numbers, dates and times. Each reader
takes what it knows from the start of a text and gives the rest. -/

namespace DesignTokens.Toml
open Text

def isBlankChar (c : Char) : Bool :=
  c == ' ' || c == '\t'

def isBlankOrNewline (c : Char) : Bool :=
  isBlankChar c || c == '\n'

/-- Control characters have no place in comments and texts on one line, except the tab. -/
def isIllegal (c : Char) : Bool :=
  (c < ' ' && c != '\t') || c == '\x7F'

/-- A text of several lines may hold line feeds too. -/
def isIllegalIn (multiline : Bool) (c : Char) : Bool :=
  isIllegal c && !(multiline && c == '\n')

def skipBlanks (text : List Char) : List Char :=
  text.dropWhile isBlankChar

/-- A comment runs to the end of its line. -/
def skipComment? : List Char → Option (List Char)
  | '#' :: rest =>
    if (rest.takeWhile (· != '\n')).any isIllegal then none else some (rest.dropWhile (· != '\n'))
  | text => some text

/-- Drops a word from the start of a text that starts with it. -/
def dropWord? (word : String) (text : List Char) : Option (List Char) :=
  if word.toList.isPrefixOf text then some (text.drop word.length) else none

/-- Behind a backslash at the end of a line, blanks and line feeds are passed over. -/
inductive Folding where
  | off
  /-- Only blanks may come before the end of the line. -/
  | toLineEnd
  /-- All blanks and line feeds are passed over. -/
  | toText

def simpleEscape? : Char → Option Char
  | 'b' => some '\x08'
  | 't' => some '\t'
  | 'n' => some '\n'
  | 'f' => some '\x0C'
  | 'r' => some '\r'
  | '"' => some '"'
  | '\\' => some '\\'
  | _ => none

/-- A character by the hexadecimal digits of its code, if they stand for one. -/
def charOfHex? (digits : List Char) : Option Char := do
  let values ← digits.mapM hexValue?
  let code := values.foldl (fun code digit => code * 16 + digit) 0
  if code < 0xD800 || (0xDFFF < code && code ≤ 0x10FFFF) then some (Char.ofNat code) else none

/-- Reads a text with escapes up to its closing quotes. -/
def readBasic? (multiline : Bool) (folding : Folding) : List Char → Option (List Char × List Char)
  | [] => none
  | c :: rest =>
    let plain (c : Char) (rest : Option (List Char × List Char)) :=
      rest.map fun (text, rest) => (c :: text, rest)
    match folding, isBlankChar c, c == '\n' with
    | .toLineEnd, true, _ => readBasic? multiline .toLineEnd rest
    | .toLineEnd, _, true => readBasic? multiline .toText rest
    | .toLineEnd, _, _ => none
    | .toText, true, _ => readBasic? multiline .toText rest
    | .toText, _, true => readBasic? multiline .toText rest
    | _, _, _ =>
      if c == '"' then
        if !multiline then some ([], rest)
        else
          match rest with
          | '"' :: '"' :: rest => some ([], rest)
          | _ => plain c (readBasic? multiline .off rest)
      else if c == '\\' then
        match rest with
        | 'u' :: a :: b :: c :: d :: rest => do
          let char ← charOfHex? [a, b, c, d]
          plain char (readBasic? multiline .off rest)
        | 'U' :: a :: b :: c :: d :: e :: f :: g :: h :: rest => do
          let char ← charOfHex? [a, b, c, d, e, f, g, h]
          plain char (readBasic? multiline .off rest)
        | '\n' :: rest => if multiline then readBasic? multiline .toText rest else none
        | c :: rest =>
          if multiline && isBlankChar c then readBasic? multiline .toLineEnd rest
          else do
            let char ← simpleEscape? c
            plain char (readBasic? multiline .off rest)
        | [] => none
      else if isIllegalIn multiline c then none
      else plain c (readBasic? multiline .off rest)
termination_by structural text => text

/-- Reads a text without escapes up to its closing quotes. -/
def readLiteral? (multiline : Bool) : List Char → Option (List Char × List Char)
  | [] => none
  | c :: rest =>
    if c == '\'' && !multiline then some ([], rest)
    else
      match c == '\'', rest with
      | true, '\'' :: '\'' :: after => some ([], after)
      | _, _ =>
        if isIllegalIn multiline c then none
        else (readLiteral? multiline rest).map fun (text, rest) => (c :: text, rest)

/-- A closing mark of four or five quotes leaves one or two of them to the text. -/
def takeExtra (mark : Char) (read : List Char × List Char) : List Char × List Char :=
  let extra := (read.2.take 2).takeWhile (· == mark)
  (read.1 ++ extra, read.2.drop extra.length)

/-- A line feed right behind the opening quotes does not count. -/
def dropFirstNewline : List Char → List Char
  | '\n' :: rest => rest
  | text => text

/-- A text on one line, with either kind of quotes. -/
def readLineText? : List Char → Option (List Char × List Char)
  | '"' :: rest => readBasic? false .off rest
  | '\'' :: rest => readLiteral? false rest
  | _ => none

/-- A text in any of the four forms. -/
def readText? (text : List Char) : Option (List Char × List Char) :=
  match dropWord? "\"\"\"" text, dropWord? "'''" text with
  | some rest, _ => (readBasic? true .off (dropFirstNewline rest)).map (takeExtra '"')
  | _, some rest => (readLiteral? true (dropFirstNewline rest)).map (takeExtra '\'')
  | _, _ => readLineText? text

def isBareKeyChar (c : Char) : Bool :=
  isDigit c || ('a' ≤ c && c ≤ 'z') || ('A' ≤ c && c ≤ 'Z') || c == '-' || c == '_'

def readKeyPart? (text : List Char) : Option (String × List Char) :=
  let bare := text.takeWhile isBareKeyChar
  if bare.isEmpty then (readLineText? text).map fun (part, rest) => (String.ofList part, rest)
  else some (String.ofList bare, text.dropWhile isBareKeyChar)

/-- Parts of a key are joined by dots, with blanks around them or not; a part takes at least one
character, so their number is bounded by the length of the text. -/
def readKeyParts? : (bound : Nat) → List Char → Option (List String × List Char)
  | 0, _ => none
  | bound + 1, text => do
    let (part, rest) ← readKeyPart? text
    match skipBlanks rest with
    | '.' :: rest => do
      let (parts, rest) ← readKeyParts? bound (skipBlanks rest)
      return (part :: parts, rest)
    | rest => return ([part], rest)

/-- A key and the rest behind the blanks that follow it. -/
def readKey? (text : List Char) : Option (List String × List Char) :=
  readKeyParts? (text.length + 1) text

/-- Digits of a kind, with single underscores between them. -/
def dropDigits (kind : Char → Bool) : List Char → List Char
  | [] => []
  | '_' :: c :: rest => if kind c then dropDigits kind rest else '_' :: c :: rest
  | c :: rest => if kind c then dropDigits kind rest else c :: rest

/-- At least one digit, then more. -/
def readDigits? (kind : Char → Bool) : List Char → Option (List Char)
  | [] => none
  | c :: rest => if kind c then some (dropDigits kind rest) else none

def readRadix? : List Char → Option (List Char)
  | '0' :: 'x' :: rest => readDigits? (fun c => (hexValue? c).isSome) rest
  | '0' :: 'b' :: rest => readDigits? (fun c => c == '0' || c == '1') rest
  | '0' :: 'o' :: rest => readDigits? (fun c => '0' ≤ c && c ≤ '7') rest
  | _ => none

def dropSign : List Char → List Char
  | '+' :: rest => rest
  | '-' :: rest => rest
  | text => text

/-- A point or an exponent mark belongs to a number only if digits follow. -/
def dropFraction : List Char → List Char
  | '.' :: rest => (readDigits? isDigit rest).getD ('.' :: rest)
  | text => text

def dropExponent : List Char → List Char
  | 'e' :: rest => (readDigits? isDigit (dropSign rest)).getD ('e' :: rest)
  | 'E' :: rest => (readDigits? isDigit (dropSign rest)).getD ('E' :: rest)
  | text => text

def readDecimal? (text : List Char) : Option (List Char) :=
  match dropSign text with
  | '0' :: rest => some (dropExponent (dropFraction rest))
  | rest => (readDigits? isDigit rest).map fun rest => dropExponent (dropFraction rest)

def readSpecial? (text : List Char) : Option (List Char) :=
  (dropWord? "inf" (dropSign text)).or (dropWord? "nan" (dropSign text))

/-- A number of exactly so many digits between two bounds. -/
def readFixed? (width least greatest : Nat) (text : List Char) : Option (Nat × List Char) :=
  let digits := text.take width
  let value := natOfDigits digits
  if digits.length == width && digits.all isDigit && least ≤ value && value ≤ greatest then
    some (value, text.drop width)
  else none

def dropChar? (kind : Char → Bool) : List Char → Option (List Char)
  | [] => none
  | c :: rest => if kind c then some rest else none

def readTime? (text : List Char) : Option (List Char) := do
  let (_, rest) ← readFixed? 2 0 23 text
  let (_, rest) ← readFixed? 2 0 59 (← dropChar? (· == ':') rest)
  let (_, rest) ← readFixed? 2 0 59 (← dropChar? (· == ':') rest)
  match rest with
  | '.' :: c :: after => if isDigit c then some (after.dropWhile isDigit) else some rest
  | _ => some rest

def readZone? (text : List Char) : Option (List Char) :=
  match text with
  | 'Z' :: rest => some rest
  | 'z' :: rest => some rest
  | _ => do
    let rest ← dropChar? (fun c => c == '+' || c == '-') text
    let (_, rest) ← readFixed? 2 0 23 rest
    let (_, rest) ← readFixed? 2 0 59 (← dropChar? (· == ':') rest)
    return rest

structure DateText where
  year : Nat
  month : Nat
  day : Nat
  rest : List Char

/-- A date as it is spelled, whether or not the month has the day. -/
def readDate? (text : List Char) : Option DateText := do
  let (year, rest) ← readFixed? 4 0 9999 text
  let (month, rest) ← readFixed? 2 1 12 (← dropChar? (· == '-') rest)
  let (day, rest) ← readFixed? 2 1 31 (← dropChar? (· == '-') rest)
  return { year, month, day, rest }

/-- A time behind a date, with or without a zone. Without a time, the date stands alone. -/
def dropTimeOfDay (text : List Char) : List Char :=
  match (dropChar? (fun c => c == 'T' || c == 't' || c == ' ') text).bind readTime? with
  | some rest => (readZone? rest).getD rest
  | none => text

end DesignTokens.Toml
