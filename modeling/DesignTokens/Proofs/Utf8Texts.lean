import DesignTokens.Text.Utf8

/-! Bytes that are a text. The reader of bytes has a result exactly if they are the bytes of some
characters, one behind the other, and then it gives these characters. -/

namespace DesignTokens.Proofs.Utf8Texts
open Text

def stored (text : List Char) : List UInt8 :=
  text.flatMap String.utf8EncodeChar

def IsText (bytes : List UInt8) : Prop :=
  ∃ text, bytes = stored text

theorem stored_cons (c : Char) (text : List Char) :
    stored (c :: text) = String.utf8EncodeChar c ++ stored text :=
  List.flatMap_cons

/-- The bytes that complete a character of which some bits are known: their number, the bounds of the
next one, and the code that all bits make. -/
def Completes (bits : Nat) : (missing least greatest : Nat) → List UInt8 → Nat → Prop
  | 0, _, _, rest, code => rest = [] ∧ code = bits
  | missing + 1, least, greatest, byte :: rest, code =>
    (least ≤ byte.toNat ∧ byte.toNat ≤ greatest) ∧
      Completes (bits * 64 + (byte.toNat - 0x80)) missing 0x80 0xBF rest code
  | _ + 1, _, _, [], _ => False

/-- The bytes of a character: a first one, and those that it asks for. -/
def Spells (first : UInt8) (rest : List UInt8) (code : Nat) : Prop :=
  ∃ lead, lead? first.toNat = some lead ∧
    Completes lead.bits lead.following lead.least lead.greatest rest code

/-- By the number of bytes, the first one tells the highest bits. The bounds of the second one differ
where it might make a code too small, too large or a surrogate. -/
theorem lead_eq (byte : Nat) : lead? byte =
    if byte < 0x80 then some ⟨byte, 0, 0, 0⟩
    else if byte < 0xC2 then none
    else if byte < 0xE0 then some ⟨byte - 0xC0, 1, 0x80, 0xBF⟩
    else if byte < 0xF0 then
      some ⟨byte - 0xE0, 2, if byte = 0xE0 then 0xA0 else 0x80, if byte = 0xED then 0x9F else 0xBF⟩
    else if byte < 0xF5 then
      some ⟨byte - 0xF0, 3, if byte = 0xF0 then 0x90 else 0x80, if byte = 0xF4 then 0x8F else 0xBF⟩
    else none := by
  grind [lead?]

theorem encode_ofNat {code : Nat} (valid : code.isValidChar) :
    String.utf8EncodeChar (Char.ofNat code) =
      if code ≤ 0x7F then [.ofNat code]
      else if code ≤ 0x7FF then [.ofNat (code / 64 % 32 + 0xC0), .ofNat (code % 64 + 0x80)]
      else if code ≤ 0xFFFF then
        [.ofNat (code / 4096 % 16 + 0xE0), .ofNat (code / 64 % 64 + 0x80), .ofNat (code % 64 + 0x80)]
      else
        [.ofNat (code / 262144 % 8 + 0xF0), .ofNat (code / 4096 % 64 + 0x80),
          .ofNat (code / 64 % 64 + 0x80), .ofNat (code % 64 + 0x80)] := by
  have same : (Char.ofNat code).val.toNat = code := by
    rw [Char.ofNat, dif_pos valid]
    rfl
  rw [String.utf8EncodeChar.eq_1, same]

theorem ofNat_eq_iff {number : Nat} (small : number < 256) {byte : UInt8} :
    UInt8.ofNat number = byte ↔ number = byte.toNat := by
  rw [← UInt8.toNat_inj, UInt8.toNat_ofNat', Nat.mod_eq_of_lt small]

/-- One bound is other than usual behind one first byte. -/
theorem bounds_iff {first second low least high greatest : Nat} (above : 0x80 ≤ least)
    (below : greatest ≤ 0xBF) :
    (if first = low then least else 0x80) ≤ second ∧ second ≤ (if first = high then greatest else 0xBF) ↔
      (0x80 ≤ second ∧ second ≤ 0xBF) ∧ (first = low → least ≤ second) ∧
        (first = high → second ≤ greatest) := by
  grind

section Encoded

variable {first second third fourth : UInt8} {code : Nat}

private theorem encode_one (low : first.toNat < 0x80) (same : code = first.toNat) :
    code.isValidChar ∧ String.utf8EncodeChar (Char.ofNat code) = [first] := by
  have valid : code.isValidChar := Or.inl (by omega)
  rw [encode_ofNat valid, if_pos (by omega), same, UInt8.ofNat_toNat]
  exact ⟨same ▸ valid, rfl⟩

private theorem encode_two (leads : 0xC2 ≤ first.toNat ∧ first.toNat < 0xE0)
    (bounds : 0x80 ≤ second.toNat ∧ second.toNat ≤ 0xBF)
    (same : code = (first.toNat - 0xC0) * 64 + (second.toNat - 0x80)) :
    code.isValidChar ∧ String.utf8EncodeChar (Char.ofNat code) = [first, second] := by
  have valid : code.isValidChar := Or.inl (by omega)
  rw [encode_ofNat valid, if_neg (by omega), if_pos (by omega), List.cons.injEq, List.cons.injEq,
    ofNat_eq_iff (by omega), ofNat_eq_iff (by omega)]
  exact ⟨valid, by omega, by omega, rfl⟩

private theorem encode_three (leads : 0xE0 ≤ first.toNat ∧ first.toNat < 0xF0)
    (bounds : 0x80 ≤ second.toNat ∧ second.toNat ≤ 0xBF) (large : first.toNat = 0xE0 → 0xA0 ≤ second.toNat)
    (plain : first.toNat = 0xED → second.toNat ≤ 0x9F) (last : 0x80 ≤ third.toNat ∧ third.toNat ≤ 0xBF)
    (same : code =
      ((first.toNat - 0xE0) * 64 + (second.toNat - 0x80)) * 64 + (third.toNat - 0x80)) :
    code.isValidChar ∧ String.utf8EncodeChar (Char.ofNat code) = [first, second, third] := by
  have valid : code.isValidChar := by
    rw [Nat.isValidChar]
    omega
  rw [encode_ofNat valid, if_neg (by omega), if_neg (by omega), if_pos (by omega), List.cons.injEq,
    List.cons.injEq, List.cons.injEq, ofNat_eq_iff (by omega), ofNat_eq_iff (by omega),
    ofNat_eq_iff (by omega)]
  exact ⟨valid, by omega, by omega, by omega, rfl⟩

private theorem encode_four (leads : 0xF0 ≤ first.toNat ∧ first.toNat < 0xF5)
    (bounds : 0x80 ≤ second.toNat ∧ second.toNat ≤ 0xBF) (large : first.toNat = 0xF0 → 0x90 ≤ second.toNat)
    (small : first.toNat = 0xF4 → second.toNat ≤ 0x8F) (next : 0x80 ≤ third.toNat ∧ third.toNat ≤ 0xBF)
    (last : 0x80 ≤ fourth.toNat ∧ fourth.toNat ≤ 0xBF)
    (same : code = (((first.toNat - 0xF0) * 64 + (second.toNat - 0x80)) * 64 +
      (third.toNat - 0x80)) * 64 + (fourth.toNat - 0x80)) :
    code.isValidChar ∧ String.utf8EncodeChar (Char.ofNat code) = [first, second, third, fourth] := by
  have valid : code.isValidChar := by
    rw [Nat.isValidChar]
    omega
  rw [encode_ofNat valid, if_neg (by omega), if_neg (by omega), if_neg (by omega), List.cons.injEq,
    List.cons.injEq, List.cons.injEq, List.cons.injEq, ofNat_eq_iff (by omega), ofNat_eq_iff (by omega),
    ofNat_eq_iff (by omega), ofNat_eq_iff (by omega)]
  exact ⟨valid, by omega, by omega, by omega, by omega, rfl⟩

private theorem encode_of_spells {rest : List UInt8} (spells : Spells first rest code) :
    code.isValidChar ∧ String.utf8EncodeChar (Char.ofNat code) = first :: rest := by
  obtain ⟨lead, leads, completes⟩ := spells
  rw [lead_eq] at leads
  split at leads
  next low =>
    cases leads
    obtain ⟨rfl, same⟩ := completes
    exact encode_one low same
  split at leads
  next => cases leads
  split at leads
  next high low =>
    obtain rfl := Option.some.inj leads
    obtain - | ⟨second, rest⟩ := rest
    · cases completes
    obtain ⟨bounds, rfl, same⟩ := completes
    exact encode_two ⟨Nat.le_of_not_lt high, low⟩ bounds same
  split at leads
  next high low =>
    obtain rfl := Option.some.inj leads
    obtain - | ⟨second, - | ⟨third, rest⟩⟩ := rest
    · cases completes
    · cases completes.2
    obtain ⟨bounds, last, rfl, same⟩ := completes
    obtain ⟨bounds, large, plain⟩ := (bounds_iff (by omega) (by omega)).mp bounds
    exact encode_three ⟨Nat.le_of_not_lt high, low⟩ bounds large plain last same
  split at leads
  next high low =>
    obtain rfl := Option.some.inj leads
    obtain - | ⟨second, - | ⟨third, - | ⟨fourth, rest⟩⟩⟩ := rest
    · cases completes
    · cases completes.2
    · cases completes.2.2
    obtain ⟨bounds, next, last, rfl, same⟩ := completes
    obtain ⟨bounds, large, small⟩ := (bounds_iff (by omega) (by omega)).mp bounds
    exact encode_four ⟨Nat.le_of_not_lt high, low⟩ bounds large small next last same
  cases leads

end Encoded

private theorem spells_encode (c : Char) :
    ∃ first rest, String.utf8EncodeChar c = first :: rest ∧ Spells first rest c.toNat := by
  have valid : c.toNat.isValidChar := c.valid
  have encoded := encode_ofNat valid
  rw [Char.ofNat_toNat] at encoded
  rw [encoded]
  rw [Nat.isValidChar] at valid
  generalize c.toNat = code at valid ⊢
  split
  next one =>
    refine ⟨_, _, rfl, ?_⟩
    rw [Spells, UInt8.toNat_ofNat', Nat.mod_eq_of_lt (by omega), lead_eq, if_pos (by omega)]
    exact ⟨_, rfl, rfl, rfl⟩
  split
  next two =>
    refine ⟨_, _, rfl, ?_⟩
    rw [Spells, UInt8.toNat_ofNat', Nat.mod_eq_of_lt (by omega), lead_eq, if_neg (by omega),
      if_neg (by omega), if_pos (by omega)]
    refine ⟨_, rfl, ?_⟩
    simp only [Completes, UInt8.toNat_ofNat', true_and]
    omega
  split
  next three =>
    refine ⟨_, _, rfl, ?_⟩
    rw [Spells, UInt8.toNat_ofNat', Nat.mod_eq_of_lt (by omega), lead_eq, if_neg (by omega),
      if_neg (by omega), if_neg (by omega), if_pos (by omega)]
    refine ⟨_, rfl, ?_⟩
    simp only [Completes, UInt8.toNat_ofNat', bounds_iff, Nat.reduceLeDiff, true_and]
    omega
  next four =>
    refine ⟨_, _, rfl, ?_⟩
    rw [Spells, UInt8.toNat_ofNat', Nat.mod_eq_of_lt (by omega), lead_eq, if_neg (by omega),
      if_neg (by omega), if_neg (by omega), if_neg (by omega), if_pos (by omega)]
    refine ⟨_, rfl, ?_⟩
    simp only [Completes, UInt8.toNat_ofNat', bounds_iff, Nat.reduceLeDiff, true_and]
    omega

def Follows (bits missing least greatest : Nat) (bytes : List UInt8) (text : List Char) : Prop :=
  ∃ rest code others, Completes bits missing least greatest rest code ∧
    text = Char.ofNat code :: others ∧ bytes = rest ++ stored others

private theorem follows_zero {bits least greatest : Nat} {bytes : List UInt8} {text : List Char} :
    Follows bits 0 least greatest bytes text ↔
      ∃ others, text = Char.ofNat bits :: others ∧ bytes = stored others := by
  constructor
  · rintro ⟨rest, code, others, ⟨rfl, rfl⟩, spelled, same⟩
    exact ⟨others, spelled, same⟩
  · rintro ⟨others, spelled, same⟩
    exact ⟨[], bits, others, ⟨rfl, rfl⟩, spelled, same⟩

theorem not_follows_nil {bits missing least greatest : Nat} {text : List Char} :
    ¬ Follows bits (missing + 1) least greatest [] text := by
  rintro ⟨rest, code, others, completes, spelled, same⟩
  obtain ⟨rfl, _⟩ := List.append_eq_nil_iff.mp same.symm
  exact completes

theorem follows_succ {bits missing least greatest : Nat} {byte : UInt8} {bytes : List UInt8}
    {text : List Char} : Follows bits (missing + 1) least greatest (byte :: bytes) text ↔
      (least ≤ byte.toNat ∧ byte.toNat ≤ greatest) ∧
        Follows (bits * 64 + (byte.toNat - 0x80)) missing 0x80 0xBF bytes text := by
  constructor
  · rintro ⟨rest, code, others, completes, spelled, same⟩
    cases rest with
    | nil => cases completes
    | cons next rest =>
      cases same
      exact ⟨completes.1, rest, code, others, completes.2, spelled, rfl⟩
  · rintro ⟨bounds, rest, code, others, completes, spelled, same⟩
    exact ⟨byte :: rest, code, others, ⟨bounds, completes⟩, spelled, congrArg (byte :: ·) same⟩

theorem cons_eq_stored_iff {byte : UInt8} {bytes : List UInt8} {text : List Char} :
    byte :: bytes = stored text ↔ ∃ lead, lead? byte.toNat = some lead ∧
      Follows lead.bits lead.following lead.least lead.greatest bytes text := by
  constructor
  · intro same
    cases text with
    | nil => cases same
    | cons c others =>
      obtain ⟨first, rest, spelled, lead, leads, completes⟩ := spells_encode c
      rw [stored_cons, spelled] at same
      cases same
      exact ⟨lead, leads, rest, _, others, completes, by rw [Char.ofNat_toNat], rfl⟩
  · rintro ⟨lead, leads, rest, code, others, completes, rfl, rfl⟩
    rw [stored_cons, (encode_of_spells ⟨lead, leads, completes⟩).2, List.cons_append]

/-- The bytes that may follow a state, and the characters that they give. -/
def FollowedBy : Utf8State → List UInt8 → List Char → Prop
  | .between, bytes, text => bytes = stored text
  | .inside _ _ bits missing least greatest, bytes, text =>
    missing ≠ 0 ∧ Follows bits missing least greatest bytes text

theorem map_ok_iff {result : Except Utf8Fault (List Char)} {c : Char} {text : List Char} :
    (c :: ·) <$> result = .ok text ↔ ∃ others, text = c :: others ∧ result = .ok others := by
  cases result with
  | error fault => simp [Functor.map, Except.map]
  | ok others => simp [Functor.map, Except.map, eq_comm]

/-- From every state on, the reader has a result exactly for the bytes that may follow the state. -/
theorem decodeFrom_iff (state : Utf8State) (offset : Nat) (bytes : List UInt8) (text : List Char) :
    decodeFrom state offset bytes = .ok text ↔ FollowedBy state bytes text := by
  induction bytes generalizing state offset text with
  | nil =>
    cases state with
    | between =>
      cases text with
      | nil => exact iff_of_true rfl rfl
      | cons c others =>
        rw [FollowedBy, stored_cons, eq_comm (a := []), List.append_eq_nil_iff]
        exact iff_of_false (fun impossible => by cases impossible)
          fun empty => String.utf8EncodeChar_ne_nil empty.1
    | inside first start bits missing least greatest =>
      refine iff_of_false (fun impossible => by cases impossible) ?_
      rintro ⟨nonzero, follows⟩
      obtain ⟨missing, rfl⟩ := Nat.exists_eq_succ_of_ne_zero nonzero
      exact not_follows_nil follows
  | cons byte rest ih =>
    cases state with
    | between =>
      rw [FollowedBy, cons_eq_stored_iff, decodeFrom]
      cases leads : lead? byte.toNat with
      | none => simp
      | some lead =>
        obtain ⟨bits, missing, least, greatest⟩ := lead
        cases missing with
        | zero =>
          simp only [map_ok_iff, ih, FollowedBy, Option.some.injEq, exists_eq_left', follows_zero]
        | succ missing =>
          simp only [ih, FollowedBy, Option.some.injEq, exists_eq_left', ne_eq, Nat.succ_ne_zero,
            not_false_eq_true, true_and]
    | inside first start bits missing least greatest =>
      rw [FollowedBy, decodeFrom]
      by_cases bounds : least ≤ byte.toNat ∧ byte.toNat ≤ greatest
      · rw [if_pos (by simpa using bounds)]
        match missing with
        -- No byte leads into this state, and none leads out of it.
        | 0 => simp [ih, FollowedBy]
        | 1 => simp [map_ok_iff, ih, FollowedBy, follows_succ, follows_zero, bounds]
        | missing + 2 => simp [ih, FollowedBy, follows_succ, bounds]
      · rw [if_neg (by simpa using bounds)]
        refine iff_of_false (fun impossible => by cases impossible) ?_
        rintro ⟨nonzero, follows⟩
        obtain ⟨missing, rfl⟩ := Nat.exists_eq_succ_of_ne_zero nonzero
        exact bounds (follows_succ.mp follows).1

/-- The characters of some bytes are those of which they are the bytes. -/
theorem decode_iff {bytes : List UInt8} {text : List Char} :
    decode bytes = .ok text ↔ bytes = stored text :=
  decodeFrom_iff .between 0 bytes text

theorem isText_iff {bytes : List UInt8} : IsText bytes ↔ ∃ text, decode bytes = .ok text := by
  simp only [IsText, decode_iff]

end DesignTokens.Proofs.Utf8Texts
