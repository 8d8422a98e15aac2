import DesignTokens.Calendar
import DesignTokens.Toml.Lexical
import DesignTokens.Toml.Value

/-! Reading a TOML document. A document that breaks any rule is refused as a whole. Reading a value,
an item or a line takes at least one character, so the length of the document bounds the steps. -/

namespace DesignTokens.Toml

/-- Dates that are spelled well may still not exist. -/
def isDate (date : DateText) : Bool :=
  1 ≤ date.year && date.day ≤ Calendar.daysInMonth date.year date.month

/-- A truth value, a date, a time or a number. What is spelled like a date has to be one. -/
def readScalar? (text : List Char) : Option (List Char) :=
  match dropWord? "true" text, dropWord? "false" text, readDate? text with
  | some rest, _, _ => some rest
  | _, some rest, _ => some rest
  | _, _, some date => if isDate date then some (dropTimeOfDay date.rest) else none
  | _, _, _ =>
    (((readTime? text).or (readRadix? text)).or (readDecimal? text)).or (readSpecial? text)

/-- Blanks, line feeds and comments between the items of an array. -/
def skipFiller? : (bound : Nat) → List Char → Option (List Char)
  | 0, text => some text
  | bound + 1, text => do
    let rest ← skipComment? (text.dropWhile isBlankOrNewline)
    if rest.length == text.length then some rest else skipFiller? bound rest

/-- Whether a path starts with one of some other paths. -/
def isUnder (paths : List (List String)) (path : List String) : Bool :=
  paths.any (·.isPrefixOf path)

/-- Arrays and inline tables are complete where they are written. -/
def Value.isComplete : Value → Bool
  | .array _ => true
  | .table _ => true
  | _ => false

/-- An inline table while it is read, with the paths in it that are complete. -/
structure Inline where
  members : Entries Value := []
  complete : List (List String) := []

/-- Adds a member of an inline table under a dotted key. -/
def Inline.add? (table : Inline) (key : List String) (value : Value) : Option Inline := do
  if isUnder table.complete key then none
  else
    let members ← updateAt false (addNew (key.getLastD "") value) key.dropLast table.members
    return { members, complete := if value.isComplete then key :: table.complete else table.complete }

mutual

def readValue? : (bound : Nat) → List Char → Option (Value × List Char)
  | 0, _ => none
  | bound + 1, text =>
    match text with
    | '[' :: rest => do
      let rest ← skipFiller? rest.length rest
      match rest with
      | ']' :: rest => return (.array [], rest)
      | _ =>
        let (items, rest) ← readItems? bound rest
        return (.array items, rest)
    | '\x7b' :: rest =>
      match skipBlanks rest with
      | '\x7d' :: rest => some (.table [], rest)
      | rest => readInline? bound {} rest
    | _ =>
      if text.head? == some '"' || text.head? == some '\'' then
        (readText? text).map fun (value, rest) => (.text (String.ofList value), rest)
      else (readScalar? text).map fun rest => (.scalar, rest)
termination_by structural bound => bound

/-- The items of an array up to its end; a comma may come behind the last one. -/
def readItems? : (bound : Nat) → List Char → Option (List Value × List Char)
  | 0, _ => none
  | bound + 1, text => do
    let (item, rest) ← readValue? bound text
    let rest ← skipFiller? rest.length rest
    match rest with
    | ']' :: rest => return ([item], rest)
    | ',' :: rest => do
      let rest ← skipFiller? rest.length rest
      match rest with
      | ']' :: rest => return ([item], rest)
      | _ =>
        let (items, rest) ← readItems? bound rest
        return (item :: items, rest)
    | _ => none
termination_by structural bound => bound

/-- The members of an inline table up to its end, which no comma precedes. -/
def readInline? : (bound : Nat) → Inline → List Char → Option (Value × List Char)
  | 0, _, _ => none
  | bound + 1, table, text => do
    let (key, rest) ← readKey? text
    let rest ← dropChar? (· == '=') rest
    let (value, rest) ← readValue? bound (skipBlanks rest)
    let table ← table.add? key value
    match skipBlanks rest with
    | '\x7d' :: rest => return (.table table.members, rest)
    | ',' :: rest => readInline? bound table (skipBlanks rest)
    | _ => none
termination_by structural bound => bound

end

/-- A document while it is read. -/
structure Document where
  root : Entries Value := []
  /-- The table that the last header opened. -/
  header : List String := []
  /-- Tables that no header and no dotted key of another part may open again. -/
  closed : List (List String) := []
  /-- Tables that dotted keys of this part made; they are closed when the part ends. -/
  opened : List (List String) := []
  /-- Arrays and inline tables, into which nothing may be added. -/
  complete : List (List String) := []

namespace Document

/-- A header ends the part before it. -/
def endPart (document : Document) : Document :=
  { document with closed := document.opened ++ document.closed, opened := [] }

def openTable? (document : Document) (key : List String) : Option Document := do
  if document.closed.contains key || isUnder document.complete key then none
  else
    let root ← updateAt true some key document.root
    return { document with root, header := key, closed := key :: document.closed }

/-- A new table in an array of tables frees the names that the one before it used. -/
def appendTable? (document : Document) (key : List String) : Option Document := do
  if isUnder document.complete key then none
  else
    let root ← updateAt true (appendTable (key.getLastD "")) key.dropLast document.root
    return { document with
      root
      header := key
      closed := key :: document.closed.filter (!key.isPrefixOf ·)
      complete := document.complete.filter (!key.isPrefixOf ·) }

/-- The paths to the tables that a dotted key goes through. -/
def through (header : List String) : List String → List (List String)
  | [] => []
  | [_] => []
  | key :: rest => (header ++ [key]) :: through (header ++ [key]) rest

def add? (document : Document) (key : List String) (value : Value) : Option Document := do
  let tables := through document.header key
  if tables.any document.closed.contains then none
  else if isUnder document.complete (document.header ++ key.dropLast) then none
  else
    let root ← updateAt true (addNew (key.getLastD "") value) (document.header ++ key.dropLast)
      document.root
    return { document with
      root
      opened := tables ++ document.opened
      complete :=
        if value.isComplete then (document.header ++ key) :: document.complete
        else document.complete }

/-- A header, a member or nothing at the start of a line, and the rest of the line. -/
def readStatement? (document : Document) (text : List Char) : Option (Document × List Char) :=
  match text with
  | [] => some (document, [])
  | '\n' :: _ => some (document, text)
  | '#' :: _ => some (document, text)
  | '[' :: '[' :: rest => do
    let (key, rest) ← readKey? (skipBlanks rest)
    let document ← document.endPart.appendTable? key
    let rest ← dropWord? "]]" rest
    return (document, rest)
  | '[' :: rest => do
    let (key, rest) ← readKey? (skipBlanks rest)
    let document ← document.endPart.openTable? key
    let rest ← dropChar? (· == ']') rest
    return (document, rest)
  | _ => do
    let (key, rest) ← readKey? text
    let rest ← dropChar? (· == '=') rest
    let (value, rest) ← readValue? (text.length + 1) (skipBlanks rest)
    let document ← document.add? key value
    return (document, rest)

/-- Reads line by line. -/
def readLines? : (bound : Nat) → Document → List Char → Option Document
  | 0, _, _ => none
  | bound + 1, document, text => do
    let (document, rest) ← document.readStatement? (skipBlanks text)
    let rest ← skipComment? (skipBlanks rest)
    match rest with
    | [] => return document
    | '\n' :: rest => readLines? bound document rest
    | _ => none

end Document

/-- The members of a document, if it is one. -/
def parse? (text : List Char) : Option (Entries Value) :=
  (Document.readLines? (text.length + 1) {} text).map Document.root

end DesignTokens.Toml
