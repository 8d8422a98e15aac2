import DesignTokens.Json.Fault
import DesignTokens.Text.Utf8

/-! Texts in a JSON document, read from behind their opening quote. -/

namespace DesignTokens.Json
open Text

def codeUnit? (a b c d : Char) : Option Nat := do
  let a ← hexValue? a
  let b ← hexValue? b
  let c ← hexValue? c
  let d ← hexValue? d
  return ((a * 16 + b) * 16 + c) * 16 + d

def isLeading (unit : Nat) : Bool := 0xD800 ≤ unit && unit ≤ 0xDBFF

def isTrailing (unit : Nat) : Bool := 0xDC00 ≤ unit && unit ≤ 0xDFFF

/-- Half of a pair without the other half is no character, and has one that stands for it. -/
def charOfUnit (unit : Nat) : Char :=
  if isLeading unit || isTrailing unit then standIn unit else Char.ofNat unit

def charOfPair (leading trailing : Nat) : Char :=
  Char.ofNat (0x10000 + (leading - 0xD800) * 0x400 + (trailing - 0xDC00))

def escaped? : Char → Option Char
  | '"' => some '"'
  | '\\' => some '\\'
  | '/' => some '/'
  | 'b' => some '\x08'
  | 'f' => some '\x0C'
  | 'n' => some '\n'
  | 'r' => some '\r'
  | 't' => some '\t'
  | _ => none

/-- The second half of a pair, if it comes next; without it the first half stands alone. -/
def readTrailing (unit : Nat) : List Char → Except SyntaxError (Char × List Char)
  | '\\' :: 'u' :: a :: b :: c :: d :: e :: rest =>
    match codeUnit? a b c d with
    | none => .error ⟨.brokenCodeEscape, 'u' :: a :: b :: c :: d :: e :: rest⟩
    | some next =>
      if isTrailing next then .ok (charOfPair unit next, e :: rest)
      else .ok (charOfUnit unit, '\\' :: 'u' :: a :: b :: c :: d :: e :: rest)
  | rest => .ok (charOfUnit unit, rest)

/-- The character of an escape by code, from behind its `u`. The escape needs a further character
behind it, so one at the very end of a document is broken. -/
def readCode : List Char → Except SyntaxError (Char × List Char)
  | a :: b :: c :: d :: e :: rest =>
    match codeUnit? a b c d with
    | none => .error ⟨.brokenCodeEscape, 'u' :: a :: b :: c :: d :: e :: rest⟩
    | some unit =>
      if isLeading unit then readTrailing unit (e :: rest) else .ok (charOfUnit unit, e :: rest)
  | rest => .error ⟨.brokenCodeEscape, 'u' :: rest⟩

private theorem readTrailing_length {unit : Nat} {text rest : List Char} {c : Char}
    (read : readTrailing unit text = .ok (c, rest)) : rest.length ≤ text.length := by
  fun_cases readTrailing unit text <;> simp_all [readTrailing]
  all_goals grind

private theorem readCode_length {text rest : List Char} {c : Char}
    (read : readCode text = .ok (c, rest)) : rest.length < text.length := by
  fun_cases readCode text <;> simp_all [readCode]
  all_goals grind [→ readTrailing_length]

/-- Puts a character before a text that was read, and leaves a fault as it is. -/
def prepend (c : Char) : Except SyntaxError (List Char × List Char) →
    Except SyntaxError (List Char × List Char)
  | .ok (text, rest) => .ok (c :: text, rest)
  | .error error => .error error

/-- The text up to the closing quote and the rest behind it; the quote at `opening` opened it. -/
def readText (opening : List Char) : List Char → Except SyntaxError (List Char × List Char)
  | [] => .error ⟨.unterminatedText, opening⟩
  | '"' :: rest => .ok ([], rest)
  | ['\\'] => .error ⟨.unterminatedText, opening⟩
  | '\\' :: 'u' :: rest =>
    match _read : readCode rest with
    | .ok (c, after) => prepend c (readText opening after)
    | .error error => .error error
  | '\\' :: c :: rest =>
    match escaped? c with
    | some plain => prepend plain (readText opening rest)
    | none => .error ⟨.unknownEscape, '\\' :: c :: rest⟩
  | c :: rest =>
    if c < ' ' then .error ⟨.controlCharacter, c :: rest⟩
    else prepend c (readText opening rest)
termination_by text => text.length
decreasing_by
  · have := readCode_length _read
    simp only [List.length_cons]
    omega
  · simp only [List.length_cons]
    omega
  · simp

theorem prepend_eq_ok {c : Char} {result : Except SyntaxError (List Char × List Char)}
    {read : List Char × List Char} (done : prepend c result = .ok read) :
    ∃ text, result = .ok (text, read.2) ∧ read.1 = c :: text := by
  match result, done with
  | .ok (text, rest), rfl => exact ⟨text, rfl, rfl⟩

theorem readText_length {opening text : List Char} {read : List Char × List Char}
    (done : readText opening text = .ok read) : read.2.length < text.length := by
  fun_induction readText opening text generalizing read <;> grind [→ prepend_eq_ok, → readCode_length]

end DesignTokens.Json
