import DesignTokens.Json.Reader
import DesignTokens.Json.Writer
import DesignTokens.Proofs.ModelTexts

/-! A written document reads back. The words of a written value are read one after the other, and
lead from the place where a value is due to the place behind that value; line breaks and the blanks
of the indentation are no words. -/

namespace DesignTokens.Proofs.JsonRoundTrip
open Json ModelTexts Text

private theorem hexValue_hexDigit : ∀ digit, digit < 16 → hexValue? (hexDigit digit) = some digit := by
  decide

private theorem codeUnit_hexDigits (n : Nat) (small : n < 65536) (rest : List Char) :
    ∃ a b c d, hexDigits 4 n ++ rest = a :: b :: c :: d :: rest ∧ codeUnit? a b c d = some n := by
  refine ⟨hexDigit (n / 16 / 16 / 16 % 16), hexDigit (n / 16 / 16 % 16), hexDigit (n / 16 % 16),
    hexDigit (n % 16), by simp [hexDigits], ?_⟩
  have digit (value : Nat) : hexValue? (hexDigit (value % 16)) = some (value % 16) :=
    hexValue_hexDigit _ (Nat.mod_lt _ (by decide))
  simp only [codeUnit?, digit, Option.bind_eq_bind, Option.bind_some, Option.pure_def,
    Option.some.injEq]
  omega

/-- A control character has no pair to read on for, whatever follows. -/
theorem readCode_control {control : Char} (low : control.toNat < 32) (next : Char)
    (rest : List Char) :
    readCode (hexDigits 4 control.toNat ++ next :: rest) = .ok (control, next :: rest) := by
  obtain ⟨a, b, c, d, spelled, code⟩ :=
    codeUnit_hexDigits control.toNat (by omega) (next :: rest)
  have single : isLeading control.toNat = false := by simp [isLeading]; omega
  have single' : isTrailing control.toNat = false := by simp [isTrailing]; omega
  rw [spelled]
  simp [readCode, code, single, charOfUnit, single', Char.ofNat_toNat]

/-- A character is written by a letter of its own, by its code, or as it is. -/
theorem escape_cases (c : Char) :
    (∃ mark, escape c = ['\\', mark] ∧ escaped? mark = some c) ∨
    (escape c = '\\' :: 'u' :: hexDigits 4 c.toNat ∧ c < ' ') ∨
    (escape c = [c] ∧ ¬ c < ' ' ∧ c ≠ '"' ∧ c ≠ '\\') := by
  unfold escape
  split
  · next same =>
    cases eq_of_beq same
    exact Or.inl ⟨_, rfl, rfl⟩
  next quote =>
  split
  · next same =>
    cases eq_of_beq same
    exact Or.inl ⟨_, rfl, rfl⟩
  next backslash =>
  split
  · next same =>
    cases eq_of_beq same
    exact Or.inl ⟨_, rfl, rfl⟩
  split
  · next same =>
    cases eq_of_beq same
    exact Or.inl ⟨_, rfl, rfl⟩
  split
  · next same =>
    cases eq_of_beq same
    exact Or.inl ⟨_, rfl, rfl⟩
  split
  · next same =>
    cases eq_of_beq same
    exact Or.inl ⟨_, rfl, rfl⟩
  split
  · next same =>
    cases eq_of_beq same
    exact Or.inl ⟨_, rfl, rfl⟩
  split
  · next control => exact Or.inr (Or.inl ⟨rfl, control⟩)
  · next plain =>
    exact Or.inr (Or.inr ⟨rfl, plain, fun same => quote (beq_iff_eq.mpr same),
      fun same => backslash (beq_iff_eq.mpr same)⟩)

private theorem readText_escape (opening : List Char) (c next : Char) (rest : List Char) :
    readText opening (escape c ++ next :: rest) = prepend c (readText opening (next :: rest)) := by
  rcases escape_cases c with ⟨mark, spelled, named⟩ | ⟨spelled, control⟩ |
    ⟨spelled, plain, quote, backslash⟩
  · have notCode : mark ≠ 'u' := by
      rintro rfl
      cases named
    rw [spelled, List.cons_append, List.cons_append, List.nil_append, readText]
    · rw [named]
    · exact notCode
  · rw [spelled, List.cons_append, List.cons_append, readText]
    split
    · next read =>
      rw [readCode_control control] at read
      cases read
      rfl
    · next read =>
      rw [readCode_control control] at read
      cases read
  · rw [spelled, List.cons_append, List.nil_append, readText, if_neg plain]
    · exact quote
    · intro same
      exact absurd same backslash
    · intro _ same
      exact absurd same backslash
    · intro _ _ same
      exact absurd same backslash

private theorem readText_quoted (opening text rest : List Char) :
    readText opening (text.flatMap escape ++ '"' :: rest) = .ok (text, rest) := by
  induction text with
  | nil => rw [List.flatMap_nil, List.nil_append, readText]
  | cons c text ih =>
    obtain ⟨next, others, spelled⟩ : ∃ next others, text.flatMap escape ++ '"' :: rest = next :: others :=
      List.exists_cons_of_ne_nil (by simp)
    rw [List.flatMap_cons, List.append_assoc, spelled, readText_escape, ← spelled, ih]
    rfl

theorem lex_skip {c : Char} (space : isSpace c = true) (rest : List Char) : lex (c :: rest) = lex rest := by
  rw [lex, if_pos space]

theorem lex_indent (depth : Nat) (rest : List Char) : lex (indent depth ++ rest) = lex rest := by
  rw [indent]
  generalize 2 * depth = blanks
  induction blanks with
  | zero => rfl
  | succ blanks ih => rw [List.replicate_succ, List.cons_append, lex_skip rfl, ih]

theorem lex_punctuation {c : Char} {token : Token} (mark : punctuation? c = some token)
    (solid : isSpace c = false) (rest : List Char) : lex (c :: rest) = ⟨token, c :: rest⟩ :: lex rest := by
  have read : readToken c rest = (token, rest) := by rw [readToken, mark]
  rw [lex, if_neg (by simp [solid]), read]

private theorem lex_quoted (text : String) (rest : List Char) :
    lex (quoted text ++ rest) = ⟨.string text, quoted text ++ rest⟩ :: lex rest := by
  have spelled : quoted text ++ rest = '"' :: (text.toList.flatMap escape ++ '"' :: rest) := by
    simp [quoted]
  have read : readToken '"' (text.toList.flatMap escape ++ '"' :: rest) = (.string text, rest) := by
    have noMark : punctuation? '"' = none := rfl
    simp only [readToken, noMark, BEq.rfl, if_pos, readText_quoted, String.ofList_toList]
  rw [spelled, lex, if_neg (by decide), read]

/-- A word that the reading accepts is taken, and the reading goes on. -/
theorem run_cons {reading next : Reading} {lexeme : Lexeme} (taken : reading.step lexeme = .ok next)
    (rest : List Lexeme) : reading.run (lexeme :: rest) = next.run rest := by
  rw [Reading.run, taken]

/-- Where a name is due, a name and its value can come. -/
theorem run_member {reading : Reading} {before : Entries Json} {name : String} {value : Json}
    {around : List Frame} {text rest : List Char}
    (due : ∀ place, reading.step ⟨.string name, place⟩ = .ok (.atColon before name around))
    (reads : (Reading.atValue (.object before name :: around)).run (lex (text ++ rest)) =
      (supply value (.object before name :: around)).run (lex rest)) :
    reading.run (lex (quoted name ++ ':' :: ' ' :: (text ++ rest))) =
      (Reading.afterMember (before.put name value) around).run (lex rest) := by
  rw [lex_quoted, run_cons (due _), lex_punctuation rfl rfl, run_cons rfl, lex_skip rfl, reads]
  rfl

variable {P : String → Prop}

mutual

theorem run_write (rest : List Char) : ∀ (value : Json) (around : List Frame) (depth : Nat),
    Texts P value →
    (Reading.atValue around).run (lex (write depth value ++ rest)) =
      (supply value around).run (lex rest)
  | .string text, _, _, _ => by
    rw [write, lex_quoted]
    exact run_cons rfl _
  | .object [], _, _, _ => by
    rw [write, List.cons_append, lex_punctuation rfl rfl, List.cons_append, List.nil_append,
      lex_punctuation rfl rfl, run_cons rfl, run_cons rfl]
  | .object ((name, value) :: members), around, depth, texts => by
    obtain ⟨absent, holds, later⟩ := texts
    rw [write]
    simp only [List.append_assoc, List.cons_append]
    rw [lex_punctuation rfl rfl, run_cons rfl, lex_skip rfl, lex_indent,
      run_member (fun _ => rfl) (run_write _ value _ _ holds)]
    have fresh : ∀ other ∈ Entries.keys members, other ∉ Entries.keys [(name, value)] := by
      intro other member same
      exact absent ((List.mem_singleton.mp same : other = name) ▸ member)
    rw [Entries.put, run_writeMembers _ members _ _ _ later fresh, lex_skip rfl, lex_indent,
      List.nil_append, lex_punctuation rfl rfl, run_cons rfl]
    rfl
  | .null, _, _, texts | .bool _, _, _, texts | .int _, _, _, texts | .float _, _, _, texts
  | .array _, _, _, texts => texts.elim
termination_by structural value => value

/-- The members behind those that are read already. -/
theorem run_writeMembers (rest : List Char) : ∀ (members : List (String × Json))
    (around : List Frame) (depth : Nat) (before : Entries Json), TextsIn P members →
    (∀ name ∈ Entries.keys members, name ∉ before.keys) →
    (Reading.afterMember before around).run (lex (writeMembers depth members ++ rest)) =
      (Reading.afterMember (before ++ members) around).run (lex rest)
  | [], _, _, before, _, _ => by rw [writeMembers, List.nil_append, List.append_nil]
  | (name, value) :: members, around, depth, before, texts, fresh => by
    obtain ⟨absent, holds, later⟩ := texts
    rw [writeMembers]
    simp only [List.append_assoc, List.cons_append]
    rw [lex_punctuation rfl rfl, run_cons rfl, lex_skip rfl, lex_indent,
      run_member (fun _ => rfl) (run_write _ value _ _ holds),
      Entries.put_new (fresh name List.mem_cons_self)]
    have fresh : ∀ other ∈ Entries.keys members, other ∉ Entries.keys (before ++ [(name, value)]) := by
      intro other member same
      rw [Entries.keys, List.map_append, List.mem_append] at same
      rcases same with old | new
      · exact fresh other (List.mem_cons_of_mem _ member) old
      · exact absent ((List.mem_singleton.mp new : other = name) ▸ member)
    rw [run_writeMembers _ members _ _ _ later fresh, List.append_assoc]
    rfl
termination_by structural members => members

end

private theorem write_ne_mark (rest : List Char) : ∀ value, Texts P value →
    write 0 value ≠ '\uFEFF' :: rest
  | .string text, _ => by simp [write, quoted]
  | .object [], _ => by simp [write]
  | .object (_ :: _), _ => by simp [write]
  | .null, texts | .bool _, texts | .int _, texts | .float _, texts | .array _, texts => texts.elim

/-- A value made of texts and maps, each name once in its map, reads back from its own document. -/
theorem parse_render {value : Json} (texts : Texts P value) :
    parse value.render.toList = .ok value := by
  have read := run_write [] value [] 0 texts
  rw [List.append_nil, lex] at read
  rw [render, String.toList_ofList, parse]
  · exact read
  · intro rest same
    exact write_ne_mark rest value texts same

end DesignTokens.Proofs.JsonRoundTrip
