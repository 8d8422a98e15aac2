import DesignTokens.Text.Digits

/-! Text stored as bytes. Decoding names the first place that is no UTF-8 and what is wrong there. -/

namespace DesignTokens.Text

inductive Utf8Cause where
  /-- No character starts with this byte. -/
  | start
  /-- A byte that has to continue a character does not. -/
  | continuation
  /-- The bytes end inside a character. -/
  | ending
  deriving DecidableEq, Repr

/-- The first wrong byte, its offset, and the number of bytes at fault. -/
structure Utf8Fault where
  cause : Utf8Cause
  byte : Nat
  offset : Nat
  length : Nat
  deriving DecidableEq, Repr

def Utf8Cause.message : Utf8Cause → String
  | .start => "invalid start byte"
  | .continuation => "invalid continuation byte"
  | .ending => "unexpected end of data"

def Utf8Fault.message (fault : Utf8Fault) : String :=
  let place :=
    if fault.length == 1 then
      s!"byte 0x{String.ofList (hexDigits 2 fault.byte)} in position {fault.offset}"
    else s!"bytes in position {fault.offset}-{fault.offset + fault.length - 1}"
  "'utf-8' codec can't decode " ++ place ++ ": " ++ fault.cause.message

/-- What a first byte says about its character: the bits it holds, how many bytes follow, and the
bounds of the second byte, which rule out long forms, surrogates and codes beyond the last one. -/
structure Lead where
  bits : Nat
  following : Nat
  least : Nat
  greatest : Nat

def lead? (byte : Nat) : Option Lead :=
  if byte < 0x80 then some ⟨byte, 0, 0, 0⟩
  else if byte < 0xC2 then none
  else if byte < 0xE0 then some ⟨byte - 0xC0, 1, 0x80, 0xBF⟩
  else if byte == 0xE0 then some ⟨0, 2, 0xA0, 0xBF⟩
  else if byte == 0xED then some ⟨0x0D, 2, 0x80, 0x9F⟩
  else if byte < 0xF0 then some ⟨byte - 0xE0, 2, 0x80, 0xBF⟩
  else if byte == 0xF0 then some ⟨0, 3, 0x90, 0xBF⟩
  else if byte < 0xF4 then some ⟨byte - 0xF0, 3, 0x80, 0xBF⟩
  else if byte == 0xF4 then some ⟨4, 3, 0x80, 0x8F⟩
  else none

/-- A place between characters, or inside one whose first byte stood at an offset. -/
inductive Utf8State where
  | between
  | inside (first offset bits missing least greatest : Nat)

/-- Reads bytes from an offset on. -/
def decodeFrom (state : Utf8State) (offset : Nat) : List UInt8 → Except Utf8Fault (List Char)
  | [] =>
    match state with
    | .between => .ok []
    | .inside first start _ _ _ _ => .error ⟨.ending, first, start, offset - start⟩
  | byte :: rest =>
    let byte := byte.toNat
    match state with
    | .between =>
      match lead? byte with
      | none => .error ⟨.start, byte, offset, 1⟩
      | some ⟨bits, 0, _, _⟩ => (Char.ofNat bits :: ·) <$> decodeFrom .between (offset + 1) rest
      | some ⟨bits, missing, least, greatest⟩ =>
        decodeFrom (.inside byte offset bits missing least greatest) (offset + 1) rest
    | .inside first start bits missing least greatest =>
      if least ≤ byte && byte ≤ greatest then
        let bits := bits * 64 + (byte - 0x80)
        if missing == 1 then (Char.ofNat bits :: ·) <$> decodeFrom .between (offset + 1) rest
        else decodeFrom (.inside first start bits (missing - 1) 0x80 0xBF) (offset + 1) rest
      else .error ⟨.continuation, first, start, offset - start⟩

def decode (bytes : List UInt8) : Except Utf8Fault (List Char) :=
  decodeFrom .between 0 bytes

def encode (text : String) : List UInt8 :=
  text.toList.flatMap String.utf8EncodeChar

/-- The character that a text holds in place of half of a surrogate pair. Its plane has no characters. -/
def standIn (unit : Nat) : Char :=
  Char.ofNat (0xD0000 + unit)

def isStandIn (c : Char) : Bool :=
  0xDD800 ≤ c.toNat && c.toNat ≤ 0xDDFFF

/-- The half that a character stands for. -/
def standInUnit (c : Char) : Nat :=
  c.toNat - 0xD0000

/-- The first halves of pairs in a text that follow each other: the code unit of the first of them, its
offset, and their number. -/
structure EncodeFault where
  unit : Nat
  offset : Nat
  length : Nat
  deriving DecidableEq, Repr

def EncodeFault.message (fault : EncodeFault) : String :=
  let place :=
    if fault.length == 1 then
      s!"character '\\u{String.ofList (hexDigits 4 fault.unit)}' in position {fault.offset}"
    else s!"characters in position {fault.offset}-{fault.offset + fault.length - 1}"
  "'utf-8' codec can't encode " ++ place ++ ": surrogates not allowed"

/-- Looks for halves of pairs from an offset on. -/
def firstHalves (isHalf : Char → Bool) (offset : Nat) : List Char → Option EncodeFault
  | [] => none
  | c :: rest =>
    if isHalf c then some ⟨standInUnit c, offset, (rest.takeWhile isHalf).length + 1⟩
    else firstHalves isHalf (offset + 1) rest

/-- The bytes of a text without halves of pairs, which have none. -/
def encode? (isHalf : Char → Bool) (text : String) : Except EncodeFault (List UInt8) :=
  match firstHalves isHalf 0 text.toList with
  | none => .ok (encode text)
  | some fault => .error fault

theorem firstHalves_eq_none_iff {isHalf : Char → Bool} {text : List Char} (offset : Nat) :
    firstHalves isHalf offset text = none ↔ ∀ c ∈ text, isHalf c = false := by
  induction text generalizing offset with
  | nil => simp [firstHalves]
  | cons c rest ih =>
    rw [firstHalves, List.forall_mem_cons]
    cases half : isHalf c with
    | true => simp
    | false => simpa using ih (offset + 1)

theorem encode?_eq_ok_iff {isHalf : Char → Bool} {text : String} {bytes : List UInt8} :
    encode? isHalf text = .ok bytes ↔ (∀ c ∈ text.toList, isHalf c = false) ∧ encode text = bytes := by
  rw [← firstHalves_eq_none_iff 0, encode?]
  cases firstHalves isHalf 0 text.toList with
  | none => simp
  | some fault => simp

/-- Line ends of all kinds become line feeds. -/
def unifyLines : List Char → List Char
  | '\r' :: '\n' :: rest => '\n' :: unifyLines rest
  | '\r' :: rest => '\n' :: unifyLines rest
  | c :: rest => c :: unifyLines rest
  | [] => []

end DesignTokens.Text
