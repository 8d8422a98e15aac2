import DesignTokens.Key

/-! Lowering a text once is enough, and it neither makes nor loses a character that divides the words of a
key. Both are read off the table of lower cases: no run of it covers a character that divides, and the lower
cases of a run are neither such characters nor covered by any run. -/

namespace DesignTokens.Proofs.LowerCase
open Key Text

/-- White space, separators, parentheses and hyphens: what a key has between its words. -/
def divides (c : Char) : Bool :=
  hyphenate c == '-' || isParenthesis c

/-- Lowering has nothing to do with this character. -/
structure Lowered (c : Char) : Prop where
  table : lowerChar c = c
  dotted : c ≠ 'İ'
  sigma : c ≠ 'Σ'

instance (c : Char) : Decidable (Lowered c) :=
  decidable_of_iff (lowerChar c = c ∧ c ≠ 'İ' ∧ c ≠ 'Σ')
    ⟨fun ⟨table, dotted, sigma⟩ => ⟨table, dotted, sigma⟩,
      fun lowered => ⟨lowered.table, lowered.dotted, lowered.sigma⟩⟩

def dividing : Ranges := [
  (0x09, 0x0D), (0x1C, 0x20), (0x28, 0x29), (0x2D, 0x2D), (0x2F, 0x2F), (0x3A, 0x3A), (0x85, 0x85),
  (0xA0, 0xA0), (0x1680, 0x1680), (0x2000, 0x200A), (0x2028, 0x2029), (0x202F, 0x202F), (0x205F, 0x205F),
  (0x3000, 0x3000)]

/-- The two characters that are lowered by other rules than the table, and the surrogates. -/
def special : Ranges := [(0x130, 0x130), (0x3A3, 0x3A3), (0xD800, 0xDFFF)]

/-- No range reaches between two codes. -/
def clear (ranges : Ranges) (first last : Nat) : Bool :=
  ranges.all fun range => last < range.1 || range.2 < first

/-- None of every `step`th code between two codes is covered by a run that is looked at: they lie beside it,
or on the places that it leaves out because it covers every second code. -/
def settles (first last step : Nat) : List CaseRun → Bool
  | [] => true
  | run :: rest =>
    last < run.first || ((run.last < first ||
      (run.step == 2 && (first + run.first) % 2 == 1 && (step == 2 || first == last))) &&
        settles first last step rest)

def lowerFirst (run : CaseRun) : Nat := (run.first + run.offset).toNat

def lowerLast (run : CaseRun) : Nat := (run.last + run.offset).toNat

/-- What lowering needs of a run of the table. -/
structure Usable (run : CaseRun) : Prop where
  start : 0 ≤ run.first + run.offset
  stop : lowerLast run < 0x110000
  codes : clear dividing run.first run.last = true
  lowers : clear (dividing ++ special) (lowerFirst run) (lowerLast run) = true
  settled : settles (lowerFirst run) (lowerLast run) run.step caseRuns = true

instance (run : CaseRun) : Decidable (Usable run) :=
  decidable_of_iff (0 ≤ run.first + run.offset ∧ lowerLast run < 0x110000 ∧
      clear dividing run.first run.last = true ∧
      clear (dividing ++ special) (lowerFirst run) (lowerLast run) = true ∧
      settles (lowerFirst run) (lowerLast run) run.step caseRuns = true)
    ⟨fun ⟨start, stop, codes, lowers, settled⟩ => ⟨start, stop, codes, lowers, settled⟩,
      fun sound => ⟨sound.start, sound.stop, sound.codes, sound.lowers, sound.settled⟩⟩

private theorem caseRuns_usable : ∀ run ∈ caseRuns, Usable run := by
  decide +kernel

private theorem outside_of_clear {ranges : Ranges} {first last code : Nat}
    (gap : clear ranges first last = true)
    (low : first ≤ code) (high : code ≤ last) :
    ∀ range ∈ ranges, ¬ (range.1 ≤ code ∧ code ≤ range.2) := by
  intro range member
  have apart : last < range.1 ∨ range.2 < first := by simpa using List.all_eq_true.mp gap range member
  omega

theorem covers_iff {run : CaseRun} {code : Nat} : run.covers code = true ↔
    (run.first ≤ code ∧ code ≤ run.last) ∧ (code - run.first) % run.step = 0 := by
  simp [CaseRun.covers]

private theorem lowerCode_of_settles {first last step code : Nat} (low : first ≤ code) (high : code ≤ last)
    (placed : (code - first) % step = 0) {runs : List CaseRun}
    (settled : settles first last step runs = true) : lowerCode code runs = code := by
  induction runs with
  | nil => rfl
  | cons run rest ih =>
    rw [settles] at settled
    simp only [Bool.or_eq_true, Bool.and_eq_true, decide_eq_true_eq, beq_iff_eq] at settled
    rw [lowerCode]
    split
    · rfl
    · next reached =>
      obtain ⟨apart, onward⟩ := settled.resolve_left (by omega)
      have uncovered : ¬ run.covers code = true := by
        rw [covers_iff]
        rintro ⟨inside, every⟩
        rcases apart with beside | ⟨⟨second, odd⟩, step_two | single⟩
        · omega
        · rw [second] at every
          rw [step_two] at placed
          omega
        · rw [second] at every
          omega
      rw [if_neg uncovered]
      exact ih onward

private theorem lowerCode_cases (code : Nat) (runs : List CaseRun) : lowerCode code runs = code ∨
    ∃ run ∈ runs, run.covers code = true ∧ lowerCode code runs = (code + run.offset).toNat := by
  induction runs with
  | nil => exact Or.inl rfl
  | cons run rest ih =>
    rw [lowerCode]
    split
    · exact Or.inl rfl
    split
    · next covered => exact Or.inr ⟨run, List.mem_cons_self, covered, rfl⟩
    · exact ih.imp_right fun ⟨other, member, found⟩ => ⟨other, List.mem_cons_of_mem _ member, found⟩

private theorem mem_dividing {c : Char} (divider : divides c = true) :
    ∃ range ∈ dividing, range.1 ≤ c.toNat ∧ c.toNat ≤ range.2 := by
  have cases_of : (c = '/' ∨ c = ':' ∨ isBlank c = true ∨ c = '-') ∨ c = '(' ∨ c = ')' := by
    grind [divides, hyphenate, isParenthesis]
  simp only [dividing, List.mem_cons, List.not_mem_nil, or_false, exists_eq_or_imp, exists_eq_left]
  rcases cases_of with (rfl | rfl | blank | rfl) | rfl | rfl
  · decide
  · decide
  · simp only [isBlank, Bool.or_eq_true, Bool.and_eq_true, decide_eq_true_eq, beq_iff_eq] at blank
    omega
  · decide
  · decide
  · decide

private theorem not_divides_of_outside {c : Char}
    (outside : ∀ range ∈ dividing, ¬ (range.1 ≤ c.toNat ∧ c.toNat ≤ range.2)) : divides c = false := by
  rw [← Bool.not_eq_true]
  intro divider
  obtain ⟨range, member, inside⟩ := mem_dividing divider
  exact outside range member inside

private theorem toNat_ofNat {code : Nat} (valid : code.isValidChar) : (Char.ofNat code).toNat = code := by
  rw [Char.ofNat, dif_pos valid]
  rfl

/-- A character is its own lower case, or neither it nor its lower case divides. -/
theorem lowerChar_cases (c : Char) : lowerChar c = c ∨
    (divides c = false ∧ divides (lowerChar c) = false ∧ Lowered (lowerChar c)) := by
  rcases lowerCode_cases c.toNat caseRuns with same | ⟨run, member, covered, lowered⟩
  · left
    rw [lowerChar, same, Char.ofNat_toNat]
  · right
    obtain ⟨start, stop, codes, lowers, settled⟩ := caseRuns_usable run member
    obtain ⟨⟨low, high⟩, every⟩ := covers_iff.mp covered
    have first : lowerFirst run ≤ (c.toNat + run.offset).toNat := by
      rw [lowerFirst]
      omega
    have last : (c.toNat + run.offset).toNat ≤ lowerLast run := by
      rw [lowerLast]
      omega
    have placed : ((c.toNat + run.offset).toNat - lowerFirst run) % run.step = 0 := by
      rw [lowerFirst, ← every]
      congr 1
      omega
    have outside := outside_of_clear lowers first last
    have settled := lowerCode_of_settles first last placed settled
    have spelled : lowerChar c = Char.ofNat (c.toNat + run.offset).toNat := by rw [lowerChar, lowered]
    rw [spelled]
    generalize (c.toNat + run.offset).toNat = code at first last outside settled ⊢
    have plain : ∀ range ∈ special, ¬ (range.1 ≤ code ∧ code ≤ range.2) := fun range member =>
      outside range (List.mem_append_right _ member)
    simp only [special, List.mem_cons, List.not_mem_nil, or_false, forall_eq_or_imp, forall_eq] at plain
    have same : (Char.ofNat code).toNat = code := by
      apply toNat_ofNat
      rw [Nat.isValidChar]
      omega
    refine ⟨not_divides_of_outside (outside_of_clear codes low high), ?_, ?_, ?_, ?_⟩
    · apply not_divides_of_outside
      rw [same]
      exact fun range member => outside range (List.mem_append_left _ member)
    · rw [lowerChar, same, settled]
    · intro dotted
      have code_eq : code = 0x130 := same.symm.trans (congrArg Char.toNat dotted)
      omega
    · intro sigma
      have code_eq : code = 0x3A3 := same.symm.trans (congrArg Char.toNat sigma)
      omega

private theorem lowered_lowerChar {c : Char} (dotted : c ≠ 'İ') (sigma : c ≠ 'Σ') : Lowered (lowerChar c) := by
  rcases lowerChar_cases c with same | ⟨_, _, lowered⟩
  · exact same.symm ▸ ⟨same, dotted, sigma⟩
  · exact lowered

variable {c : Char} {chars : List Char}

/-- The lower case of a text, a character of it after the other. -/
theorem mem_lowerFrom {afterCased : Bool} (member : c ∈ lowerFrom afterCased chars) :
    c ∈ ['i', '\u0307', 'ς', 'σ'] ∨ ∃ origin ∈ chars, origin ≠ 'İ' ∧ origin ≠ 'Σ' ∧ c = lowerChar origin := by
  induction chars generalizing afterCased with
  | nil => cases member
  | cons first rest ih =>
    rw [lowerFrom] at member
    rcases List.mem_append.mp member with here | later
    · split at here
      · exact Or.inl (List.mem_append_left ['ς', 'σ'] here)
      next dotted =>
      split at here
      · left
        rw [List.mem_singleton] at here
        subst here
        split <;> decide
      next sigma =>
      exact Or.inr ⟨first, List.mem_cons_self, by simpa using dotted, by simpa using sigma,
        List.mem_singleton.mp here⟩
    · exact (ih later).imp_right fun ⟨origin, inside, rule⟩ => ⟨origin, List.mem_cons_of_mem _ inside, rule⟩

/-- A character that divides is in the lower case of a text only if it is in the text. -/
theorem mem_of_divides {afterCased : Bool} (member : c ∈ lowerFrom afterCased chars)
    (divider : divides c = true) : c ∈ chars := by
  rcases mem_lowerFrom member with letter | ⟨origin, inside, _, _, rfl⟩
  · simp only [List.mem_cons, List.not_mem_nil, or_false] at letter
    rcases letter with rfl | rfl | rfl | rfl <;> exact absurd divider (by decide)
  · rcases lowerChar_cases origin with same | ⟨_, plain, _⟩
    · rwa [same]
    · rw [plain] at divider
      cases divider

private theorem lowered_of_mem {afterCased : Bool} (member : c ∈ lowerFrom afterCased chars) : Lowered c := by
  rcases mem_lowerFrom member with letter | ⟨origin, _, dotted, sigma, rfl⟩
  · simp only [List.mem_cons, List.not_mem_nil, or_false] at letter
    rcases letter with rfl | rfl | rfl | rfl <;> decide +kernel
  · exact lowered_lowerChar dotted sigma

private theorem lowerFrom_of_lowered {afterCased : Bool} (lowered : ∀ c ∈ chars, Lowered c) :
    lowerFrom afterCased chars = chars := by
  induction chars generalizing afterCased with
  | nil => rfl
  | cons first rest ih =>
    obtain ⟨here, later⟩ := List.forall_mem_cons.mp lowered
    rw [lowerFrom, if_neg (by simpa using here.dotted), if_neg (by simpa using here.sigma), here.table,
      ih later]
    rfl

/-- Lowering again changes nothing, whatever the text stands behind. -/
theorem lowerFrom_lowerFrom (afterCased again : Bool) (chars : List Char) :
    lowerFrom again (lowerFrom afterCased chars) = lowerFrom afterCased chars :=
  lowerFrom_of_lowered fun _ => lowered_of_mem

theorem lowerFrom_ne_nil {afterCased : Bool} (filled : chars ≠ []) : lowerFrom afterCased chars ≠ [] := by
  obtain ⟨first, rest, rfl⟩ := List.exists_cons_of_ne_nil filled
  rw [lowerFrom]
  apply List.append_ne_nil_of_left_ne_nil
  split
  · exact List.cons_ne_nil _ _
  · split <;> exact List.cons_ne_nil _ _

end DesignTokens.Proofs.LowerCase
