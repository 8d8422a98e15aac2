import DesignTokens.Json.Reader
import DesignTokens.Proofs.CollectedEntries
import DesignTokens.Proofs.DocumentWords

/-! The grammar of JSON documents, and the reader against it. For each state of the reader there are the
texts that may follow it; they are split at their first word, and the reader takes the same step. -/

namespace DesignTokens.Proofs.DocumentGrammar
open CollectedEntries DocumentWords Json

variable {α : Type}

def Blank (gap : List Char) : Prop := ∀ c ∈ gap, isSpace c = true

inductive Padded (Inner : List Char → α → Prop) : List Char → α → Prop where
  | padded {before text after value} (front : Blank before) (inner : Inner text value) (back : Blank after) :
      Padded Inner (before ++ text ++ after) value

/-- At least one item, with commas between them. -/
inductive Listed (Item : List Char → α → Prop) : List Char → List α → Prop where
  | one {text item} (spelled : Item text item) : Listed Item text [item]
  | more {text item later items} (spelled : Item text item) (others : Listed Item later items) :
      Listed Item (text ++ ',' :: later) (item :: items)

inductive Member (Value : List Char → Json → Prop) : List Char → String × Json → Prop where
  | member {left right name value} (named : Padded QuotedText left name) (valued : Padded Value right value) :
      Member Value (left ++ ':' :: right) (name, value)

/-- Items in brackets, or white space if there are none. -/
inductive Bracketed (opening closing : Char) (Item : List Char → α → Prop) : List Char → List α → Prop where
  | empty {gap} (blank : Blank gap) : Bracketed opening closing Item (opening :: gap ++ [closing]) []
  | full {inner items} (listed : Listed Item inner items) :
      Bracketed opening closing Item (opening :: inner ++ [closing]) items

/-- The texts of a value. Of members with the same name the first gives the place and the last the value. -/
inductive ValueText : List Char → Json → Prop where
  | scalar {spelling value} (spelled : ScalarText spelling value) : ValueText spelling value
  | text {quoted text} (quotes : QuotedText quoted text) : ValueText quoted (.string text)
  | array {text items} (bracketed : Bracketed '[' ']' (Padded ValueText) text items) :
      ValueText text (.array items)
  | object {text members} (bracketed : Bracketed '{' '}' (Member ValueText) text members) :
      ValueText text (.object (collected [] members))

/-- A document is one value, with white space around it. -/
def DocumentText (document : List Char) (value : Json) : Prop := Padded ValueText document value

/-- White space, and then what is due. -/
def Spaced (Next : List Char → Prop) (text : List Char) : Prop :=
  ∃ gap rest, text = gap ++ rest ∧ Blank gap ∧ Next rest

def Mark (mark : Char) (Next : List Char → Prop) (text : List Char) : Prop :=
  ∃ rest, text = mark :: rest ∧ Next rest

def First (Item : List Char → α → Prop) (Next : α → List Char → Prop) (text : List Char) : Prop :=
  ∃ spelled item rest, text = spelled ++ rest ∧ Item spelled item ∧ Next item rest

/-- Behind an item in brackets: the closing one, or a comma and more items before it. -/
def Continues (close : Char) (Item : List Char → α → Prop) (Next : List α → List Char → Prop)
    (text : List Char) : Prop :=
  Mark close (Next []) text ∨ Mark ',' (First (Listed Item) fun items => Mark close (Next items)) text

/-- What may follow a complete value, so that the frames around it are closed and make up the result. -/
def Closes (result : Json) : List Frame → Json → List Char → Prop
  | [], value, text => text = [] ∧ value = result
  | .array items :: around, value, text =>
    Continues ']' (Padded ValueText)
      (fun more => Spaced fun rest => Closes result around (.array (items.reverse ++ value :: more)) rest) text
  | .object members name :: around, value, text =>
    Continues '}' (Member ValueText)
      (fun more => Spaced fun rest =>
        Closes result around (.object (collected (members.put name value) more)) rest) text

def ValueDue (result : Json) (around : List Frame) : List Char → Prop :=
  First ValueText fun value => Spaced (Closes result around value)

def NameDue (result : Json) (members : Entries Json) (around : List Frame) : List Char → Prop :=
  First QuotedText fun name => Spaced (Mark ':' (Spaced (ValueDue result (.object members name :: around))))

/-- The texts that lead from a state to a result, without white space before them. -/
def Resumes (result : Json) : Reading → List Char → Prop
  | .atValue around, text => ValueDue result around text
  | .atFirstItem around, text =>
    Mark ']' (Spaced (Closes result around (.array []))) text ∨ ValueDue result (.array [] :: around) text
  | .atFirstName around, text =>
    Mark '}' (Spaced (Closes result around (.object []))) text ∨ NameDue result [] around text
  | .atName members around, text => NameDue result members around text
  | .atColon members name around, text =>
    Mark ':' (Spaced (ValueDue result (.object members name :: around))) text
  | .afterItem items around, text =>
    Continues ']' (Padded ValueText)
      (fun more => Spaced (Closes result around (.array (items.reverse ++ more)))) text
  | .afterMember members around, text =>
    Continues '}' (Member ValueText)
      (fun more => Spaced (Closes result around (.object (collected members more)))) text
  | .finished value, text => text = [] ∧ value = result

def Reads (result : Json) (reading : Reading) : List Char → Prop :=
  Spaced (Resumes result reading)

section Parts

variable {Inner Item : List Char → α → Prop} {Next : α → List Char → Prop} {Due : List Char → Prop}

theorem blank_nil : Blank [] := nofun

theorem blank_cons {c : Char} {gap : List Char} : Blank (c :: gap) ↔ isSpace c = true ∧ Blank gap :=
  List.forall_mem_cons

private theorem spaced_of_due {text : List Char} (due : Due text) : Spaced Due text :=
  ⟨[], text, rfl, blank_nil, due⟩

theorem first_padded (Next : α → List Char → Prop) :
    First (Padded Inner) Next = Spaced (First Inner fun value => Spaced (Next value)) := by
  funext text
  apply propext
  constructor
  · rintro ⟨_, value, rest, rfl, ⟨front, inner, back⟩, due⟩
    rename_i before text after
    refine ⟨before, text ++ (after ++ rest), by simp, front, text, value, _, rfl, inner, ?_⟩
    exact ⟨after, rest, rfl, back, due⟩
  · rintro ⟨before, _, rfl, front, text, value, _, rfl, inner, after, rest, rfl, back, due⟩
    exact ⟨before ++ text ++ after, value, rest, by simp, .padded front inner back, due⟩

private theorem first_listed (close : Char) (Next : List α → List Char → Prop) :
    First (Listed Item) (fun items => Mark close (Next items)) =
      First Item fun item => Continues close Item fun more => Next (item :: more) := by
  funext text
  apply propext
  constructor
  · rintro ⟨_, _, _, rfl, listed, rest, rfl, due⟩
    cases listed with
    | one spelled => exact ⟨_, _, _, rfl, spelled, Or.inl ⟨rest, rfl, due⟩⟩
    | more spelled others =>
      refine ⟨_, _, _, by rw [List.append_assoc]; rfl, spelled, Or.inr ⟨_, rfl, ?_⟩⟩
      exact ⟨_, _, _, rfl, others, rest, rfl, due⟩
  · rintro ⟨first, item, _, rfl, spelled, ⟨rest, rfl, due⟩ | ⟨_, rfl, later, items, _, rfl, others, rest, rfl, due⟩⟩
    · exact ⟨first, [item], _, rfl, .one spelled, rest, rfl, due⟩
    · exact ⟨first ++ ',' :: later, item :: items, _, by simp, .more spelled others, rest, rfl, due⟩

private theorem first_bracketed (opening closing : Char) (Next : List α → List Char → Prop) :
    First (Bracketed opening closing Item) Next = Mark opening fun text =>
      Spaced (Mark closing (Next [])) text ∨ First (Listed Item) (fun items => Mark closing (Next items)) text := by
  funext text
  apply propext
  constructor
  · rintro ⟨_, _, rest, rfl, ⟨blank⟩ | ⟨listed⟩, due⟩
    all_goals rw [List.cons_append, List.cons_append, List.append_assoc]
    · exact ⟨_, rfl, Or.inl ⟨_, _, rfl, blank, rest, rfl, due⟩⟩
    · exact ⟨_, rfl, Or.inr ⟨_, _, _, rfl, listed, rest, rfl, due⟩⟩
  · rintro ⟨_, rfl, ⟨gap, _, rfl, blank, rest, rfl, due⟩ | ⟨inner, items, _, rfl, listed, rest, rfl, due⟩⟩
    · exact ⟨_, _, rest, by simp, .empty blank, due⟩
    · exact ⟨_, _, rest, by simp, .full listed, due⟩

private theorem spaced_or {Other : List Char → Prop} {text : List Char} :
    Spaced (fun text => Due text ∨ Other text) text ↔ Spaced Due text ∨ Spaced Other text := by
  constructor
  · rintro ⟨gap, rest, same, blank, due | due⟩
    · exact Or.inl ⟨gap, rest, same, blank, due⟩
    · exact Or.inr ⟨gap, rest, same, blank, due⟩
  · rintro (⟨gap, rest, same, blank, due⟩ | ⟨gap, rest, same, blank, due⟩)
    · exact ⟨gap, rest, same, blank, Or.inl due⟩
    · exact ⟨gap, rest, same, blank, Or.inr due⟩

private theorem first_member {Value : List Char → Json → Prop} (Next : String × Json → List Char → Prop) :
    First (Member Value) Next =
      First (Padded QuotedText) fun name => Mark ':' (First (Padded Value) fun value => Next (name, value)) := by
  funext text
  apply propext
  constructor
  · rintro ⟨_, _, rest, rfl, ⟨named, valued⟩, due⟩
    exact ⟨_, _, _, by rw [List.append_assoc]; rfl, named, _, rfl, _, _, rest, rfl, valued, due⟩
  · rintro ⟨left, name, _, rfl, named, _, rfl, right, value, rest, rfl, valued, due⟩
    exact ⟨left ++ ':' :: right, (name, value), rest, by simp, .member named valued, due⟩

end Parts

variable {result : Json} {around : List Frame} {reading : Reading} {c : Char} {rest text : List Char}

/-- Where an item is due, the remaining items come, and then the closing bracket. -/
theorem spaced_valueDue (items : List Json) :
    Spaced (ValueDue result (.array items :: around)) =
      First (Listed (Padded ValueText)) fun more =>
        Mark ']' (Spaced (Closes result around (.array (items.reverse ++ more)))) := by
  rw [first_listed, first_padded]
  rfl

private theorem spaced_nameDue (members : Entries Json) :
    Spaced (NameDue result members around) =
      First (Listed (Member ValueText)) fun more =>
        Mark '}' (Spaced (Closes result around (.object (collected members more)))) := by
  rw [first_listed, first_member, first_padded]
  simp only [first_padded]
  rfl

private theorem resumes_supply (value : Json) :
    Resumes result (supply value around) = Closes result around value := by
  cases around with
  | nil => rfl
  | cons frame around =>
    cases frame with
    | array items =>
      funext text
      simp only [supply, Resumes, Closes, List.reverse_cons, List.append_assoc, List.singleton_append]
    | object members name => rfl

theorem mark_cons {mark : Char} {Due : List Char → Prop} : Mark mark Due (c :: rest) ↔ c = mark ∧ Due rest := by
  constructor
  · rintro ⟨_, ⟨⟩, due⟩
    exact ⟨rfl, due⟩
  · rintro ⟨rfl, due⟩
    exact ⟨rest, rfl, due⟩

/-- A value starts with a character that is no white space. -/
theorem valueText_head {value : Json} (spelled : ValueText text value) :
    ∃ c more, text = c :: more ∧ isSpace c = false := by
  cases spelled with
  | scalar spelled =>
    obtain ⟨c, more, same, _, _, solid⟩ := scalar_head spelled
    exact ⟨c, more, same, solid⟩
  | text quotes =>
    obtain ⟨spells⟩ := quotes
    exact ⟨'"', _, rfl, rfl⟩
  | array bracketed => cases bracketed <;> exact ⟨'[', _, rfl, rfl⟩
  | object bracketed => cases bracketed <;> exact ⟨'{', _, rfl, rfl⟩

private theorem solid_of_valueDue (due : ValueDue result around (c :: rest)) : isSpace c = false := by
  obtain ⟨spelled, value, later, same, text, _⟩ := due
  obtain ⟨first, more, rfl, solid⟩ := valueText_head text
  obtain ⟨rfl, _⟩ := List.cons.inj same
  exact solid

private theorem solid_of_nameDue {members : Entries Json} (due : NameDue result members around (c :: rest)) :
    isSpace c = false := by
  obtain ⟨spelled, value, later, same, ⟨spells⟩, _⟩ := due
  obtain ⟨rfl, _⟩ := List.cons.inj same
  rfl

theorem solid_of_mark {mark : Char} {Due : List Char → Prop} (due : Mark mark Due (c :: rest))
    (solid : isSpace mark = false) : isSpace c = false := by
  obtain ⟨rfl, _⟩ := mark_cons.mp due
  exact solid

private theorem solid_of_resumes (starts : Resumes result reading (c :: rest)) : isSpace c = false := by
  cases reading with
  | atValue around => exact solid_of_valueDue starts
  | atFirstItem around => exact starts.elim (solid_of_mark · rfl) solid_of_valueDue
  | atFirstName around => exact starts.elim (solid_of_mark · rfl) solid_of_nameDue
  | atName members around => exact solid_of_nameDue starts
  | atColon members name around => exact solid_of_mark starts rfl
  | afterItem items around => exact starts.elim (solid_of_mark · rfl) (solid_of_mark · rfl)
  | afterMember members around => exact starts.elim (solid_of_mark · rfl) (solid_of_mark · rfl)
  | finished value => cases starts.1

private theorem reads_skip (space : isSpace c = true) :
    Reads result reading (c :: rest) ↔ Reads result reading rest := by
  constructor
  · rintro ⟨gap, later, same, blank, starts⟩
    cases gap with
    | nil =>
      obtain rfl : c :: rest = later := same
      rw [solid_of_resumes starts] at space
      cases space
    | cons first gap =>
      obtain ⟨rfl, rfl⟩ := List.cons.inj same
      exact ⟨gap, later, rfl, (blank_cons.mp blank).2, starts⟩
  · rintro ⟨gap, later, rfl, blank, starts⟩
    exact ⟨c :: gap, later, rfl, blank_cons.mpr ⟨space, blank⟩, starts⟩

private theorem reads_solid (solid : isSpace c = false) :
    Reads result reading (c :: rest) ↔ Resumes result reading (c :: rest) := by
  refine ⟨?_, spaced_of_due⟩
  rintro ⟨gap, later, same, blank, starts⟩
  cases gap with
  | nil =>
    obtain rfl : c :: rest = later := same
    exact starts
  | cons first gap =>
    obtain ⟨rfl, rfl⟩ := List.cons.inj same
    rw [(blank_cons.mp blank).1] at solid
    cases solid

theorem not_mark_nil {mark : Char} {Due : List Char → Prop} : ¬ Mark mark Due [] := by
  rintro ⟨rest, ⟨⟩, due⟩

theorem not_valueDue_nil : ¬ ValueDue result around [] := by
  rintro ⟨spelled, value, rest, same, text, closes⟩
  obtain ⟨c, more, rfl, solid⟩ := valueText_head text
  cases same

theorem not_nameDue_nil {members : Entries Json} : ¬ NameDue result members around [] := by
  rintro ⟨spelled, name, rest, same, ⟨spells⟩, due⟩
  cases same

theorem finish_iff : reading.finish = .ok result ↔ Reads result reading [] := by
  have here : Reads result reading [] ↔ Resumes result reading [] := by
    refine ⟨?_, spaced_of_due⟩
    rintro ⟨gap, rest, same, blank, starts⟩
    obtain ⟨rfl, rfl⟩ := List.append_eq_nil_iff.mp same.symm
    exact starts
  rw [here]
  cases reading with
  | finished value => simp [Reading.finish, Resumes]
  | atValue around => exact iff_of_false nofun not_valueDue_nil
  | atFirstItem around => exact iff_of_false nofun fun starts => starts.elim not_mark_nil not_valueDue_nil
  | atFirstName around => exact iff_of_false nofun fun starts => starts.elim not_mark_nil not_nameDue_nil
  | atName members around => exact iff_of_false nofun not_nameDue_nil
  | atColon members name around => exact iff_of_false nofun not_mark_nil
  | afterItem items around => exact iff_of_false nofun fun starts => starts.elim not_mark_nil not_mark_nil
  | afterMember members around => exact iff_of_false nofun fun starts => starts.elim not_mark_nil not_mark_nil

/-- What stands behind a value does not go on with it. -/
theorem endsScalar_of_closes {value : Json} (due : Spaced (Closes result around value) text) : EndsScalar text := by
  obtain ⟨gap, rest, rfl, blank, closes⟩ := due
  cases gap with
  | cons c gap =>
    rintro _ ⟨⟩
    exact Or.inl (blank_cons.mp blank).1
  | nil =>
    rw [List.nil_append]
    cases around with
    | nil =>
      obtain ⟨rfl, _⟩ := closes
      nofun
    | cons frame around =>
      cases frame with
      | array items =>
        obtain ⟨_, rfl, _⟩ | ⟨_, rfl, _⟩ := closes
        · rintro _ ⟨⟩
          exact Or.inr (Or.inr (Or.inl rfl))
        · rintro _ ⟨⟩
          exact Or.inr (Or.inl rfl)
      | object members name =>
        obtain ⟨_, rfl, _⟩ | ⟨_, rfl, _⟩ := closes
        · rintro _ ⟨⟩
          exact Or.inr (Or.inr (Or.inr rfl))
        · rintro _ ⟨⟩
          exact Or.inr (Or.inl rfl)

private theorem list_firstItem :
    First (Bracketed '[' ']' (Padded ValueText)) (fun items => Spaced (Closes result around (.array items))) =
      Mark '[' (Reads result (.atFirstItem around)) := by
  rw [first_bracketed]
  congr
  funext text
  apply propext
  exact (spaced_or.trans (or_congr_right (Iff.of_eq (congrFun (spaced_valueDue []) text)))).symm

private theorem object_firstName :
    First (Bracketed '{' '}' (Member ValueText))
        (fun members => Spaced (Closes result around (.object (collected [] members)))) =
      Mark '{' (Reads result (.atFirstName around)) := by
  rw [first_bracketed]
  congr
  funext text
  apply propext
  exact (spaced_or.trans (or_congr_right (Iff.of_eq (congrFun (spaced_nameDue []) text)))).symm

/-- The text of a value is a word, or starts with the opening bracket of an array or an object. -/
theorem valueDue_iff : ValueDue result around text ↔
    First ScalarText (fun value => Spaced (Closes result around value)) text ∨
    First QuotedText (fun name => Spaced (Closes result around (.string name))) text ∨
    Mark '[' (Reads result (.atFirstItem around)) text ∨
    Mark '{' (Reads result (.atFirstName around)) text := by
  rw [← list_firstItem, ← object_firstName]
  constructor
  · rintro ⟨spelled, value, rest, same, spelling, closes⟩
    cases spelling with
    | scalar spells => exact Or.inl ⟨spelled, value, rest, same, spells, closes⟩
    | text quotes => exact Or.inr (Or.inl ⟨spelled, _, rest, same, quotes, closes⟩)
    | array brackets => exact Or.inr (Or.inr (Or.inl ⟨spelled, _, rest, same, brackets, closes⟩))
    | object brackets => exact Or.inr (Or.inr (Or.inr ⟨spelled, _, rest, same, brackets, closes⟩))
  · rintro (⟨spelled, value, rest, same, spells, closes⟩ | ⟨spelled, name, rest, same, quotes, closes⟩ |
      ⟨spelled, items, rest, same, brackets, closes⟩ | ⟨spelled, members, rest, same, brackets, closes⟩)
    · exact ⟨spelled, value, rest, same, .scalar spells, closes⟩
    · exact ⟨spelled, _, rest, same, .text quotes, closes⟩
    · exact ⟨spelled, _, rest, same, .array brackets, closes⟩
    · exact ⟨spelled, _, rest, same, .object brackets, closes⟩

theorem mark_iff {mark : Char} {token : Token} {Due : List Char → Prop} (marks : punctuation? mark = some token) :
    Mark mark Due (c :: rest) ↔ (readToken c rest).1 = token ∧ Due (readToken c rest).2 := by
  rw [mark_cons]
  constructor
  · rintro ⟨rfl, due⟩
    rw [readToken_mark marks]
    exact ⟨rfl, due⟩
  · rintro ⟨read, due⟩
    obtain rfl := mark_of_token marks read
    rw [readToken_mark marks] at due
    exact ⟨rfl, due⟩

theorem text_iff {Next : String → List Char → Prop} : First QuotedText Next (c :: rest) ↔
    ∃ name, (readToken c rest).1 = .string name ∧ Next name (readToken c rest).2 := by
  constructor
  · rintro ⟨_, _, later, same, ⟨spells⟩, due⟩
    rw [List.cons_append, List.cons_append, List.append_assoc] at same
    obtain ⟨rfl, rfl⟩ := List.cons.inj same
    rw [List.singleton_append, readToken_text spells]
    exact ⟨_, rfl, due⟩
  · rintro ⟨name, read, due⟩
    obtain ⟨quoted, same, quotes⟩ := text_of_token read
    exact ⟨quoted, name, _, same, quotes, due⟩

theorem scalar_iff {Next : Json → List Char → Prop} (stops : ∀ value text, Next value text → EndsScalar text) :
    First ScalarText Next (c :: rest) ↔
      ∃ value, (readToken c rest).1 = .scalar value ∧ Next value (readToken c rest).2 := by
  constructor
  · rintro ⟨_, value, later, same, spells, due⟩
    obtain ⟨_, more, rfl, _⟩ := scalar_head spells
    rw [List.cons_append] at same
    obtain ⟨rfl, rfl⟩ := List.cons.inj same
    rw [readToken_scalar spells (stops value later due)]
    exact ⟨value, rfl, due⟩
  · rintro ⟨value, read, due⟩
    obtain ⟨spelling, same, spells⟩ := scalar_of_token read
    exact ⟨spelling, value, _, same, spells, due⟩

-- What the reader does with a word, in each state.
section Steps

variable {token : Token} {place : List Char} {next : Reading}

theorem startValue_ok_iff : startValue around ⟨token, place⟩ = .ok next ↔
    (∃ value, token = .scalar value ∧ next = supply value around) ∨
    (∃ name, token = .string name ∧ next = supply (.string name) around) ∨
    token = .openList ∧ next = .atFirstItem around ∨ token = .openObject ∧ next = .atFirstName around := by
  cases token <;> simp [startValue, eq_comm]

theorem startMember_ok_iff {members : Entries Json} : startMember members around ⟨token, place⟩ = .ok next ↔
    ∃ name, token = .string name ∧ next = .atColon members name around := by
  cases token <;> simp [startMember, eq_comm]

private theorem step_firstItem : (Reading.atFirstItem around).step ⟨token, place⟩ = .ok next ↔
    token = .closeList ∧ next = supply (.array []) around ∨
      startValue (.array [] :: around) ⟨token, place⟩ = .ok next := by
  cases token <;> simp [Reading.step, startValue, eq_comm]

private theorem step_firstName : (Reading.atFirstName around).step ⟨token, place⟩ = .ok next ↔
    token = .closeObject ∧ next = supply (.object []) around ∨
      startMember [] around ⟨token, place⟩ = .ok next := by
  cases token <;> simp [Reading.step, startMember, eq_comm]

private theorem step_colon {members : Entries Json} {name : String} :
    (Reading.atColon members name around).step ⟨token, place⟩ = .ok next ↔
      token = .colon ∧ next = .atValue (.object members name :: around) := by
  cases token <;> simp [Reading.step, eq_comm]

private theorem step_afterItem {items : List Json} :
    (Reading.afterItem items around).step ⟨token, place⟩ = .ok next ↔
    token = .closeList ∧ next = supply (.array items.reverse) around ∨
      token = .comma ∧ next = .atValue (.array items :: around) := by
  cases token <;> simp [Reading.step, eq_comm]

private theorem step_afterMember {members : Entries Json} :
    (Reading.afterMember members around).step ⟨token, place⟩ = .ok next ↔
      token = .closeObject ∧ next = supply (.object members) around ∨
        token = .comma ∧ next = .atName members around := by
  cases token <;> simp [Reading.step, eq_comm]

end Steps

theorem reads_supply {value : Json} :
    Reads result (supply value around) text ↔ Spaced (Closes result around value) text := by
  rw [Reads, resumes_supply]

theorem startValue_iff : ValueDue result around (c :: rest) ↔ ∃ next,
    startValue around ⟨(readToken c rest).1, c :: rest⟩ = .ok next ∧
      Reads result next (readToken c rest).2 := by
  rw [valueDue_iff, scalar_iff fun _ _ => endsScalar_of_closes, text_iff, mark_iff rfl, mark_iff rfl]
  simp only [startValue_ok_iff]
  constructor
  · rintro (⟨value, read, closes⟩ | ⟨name, read, closes⟩ | ⟨read, reads⟩ | ⟨read, reads⟩)
    · exact ⟨_, Or.inl ⟨value, read, rfl⟩, reads_supply.mpr closes⟩
    · exact ⟨_, Or.inr (Or.inl ⟨name, read, rfl⟩), reads_supply.mpr closes⟩
    · exact ⟨_, Or.inr (Or.inr (Or.inl ⟨read, rfl⟩)), reads⟩
    · exact ⟨_, Or.inr (Or.inr (Or.inr ⟨read, rfl⟩)), reads⟩
  · rintro ⟨_, ⟨value, read, rfl⟩ | ⟨name, read, rfl⟩ | ⟨read, rfl⟩ | ⟨read, rfl⟩, reads⟩
    · exact Or.inl ⟨value, read, reads_supply.mp reads⟩
    · exact Or.inr (Or.inl ⟨name, read, reads_supply.mp reads⟩)
    · exact Or.inr (Or.inr (Or.inl ⟨read, reads⟩))
    · exact Or.inr (Or.inr (Or.inr ⟨read, reads⟩))

theorem startMember_iff {members : Entries Json} : NameDue result members around (c :: rest) ↔ ∃ next,
    startMember members around ⟨(readToken c rest).1, c :: rest⟩ = .ok next ∧
      Reads result next (readToken c rest).2 := by
  rw [NameDue, text_iff]
  simp only [startMember_ok_iff]
  constructor
  · rintro ⟨name, read, due⟩
    exact ⟨_, ⟨name, read, rfl⟩, due⟩
  · rintro ⟨_, ⟨name, read, rfl⟩, due⟩
    exact ⟨name, read, due⟩

/-- In every state, the texts that may follow are split at their first word as the reader takes it. -/
theorem step_iff : Resumes result reading (c :: rest) ↔ ∃ next,
    reading.step ⟨(readToken c rest).1, c :: rest⟩ = .ok next ∧ Reads result next (readToken c rest).2 := by
  cases reading with
  | atValue around => exact startValue_iff
  | atName members around => exact startMember_iff
  | atFirstItem around =>
    simp only [step_firstItem, or_and_right, exists_or, ← startValue_iff, and_assoc, exists_and_left,
      exists_eq_left, reads_supply]
    exact or_congr_left (mark_iff rfl)
  | atFirstName around =>
    simp only [step_firstName, or_and_right, exists_or, ← startMember_iff, and_assoc, exists_and_left,
      exists_eq_left, reads_supply]
    exact or_congr_left (mark_iff rfl)
  | atColon members name around =>
    simp only [step_colon, and_assoc, exists_and_left, exists_eq_left]
    exact mark_iff rfl
  | afterItem items around =>
    simp only [step_afterItem, or_and_right, exists_or, and_assoc, exists_and_left, exists_eq_left, reads_supply]
    refine or_congr ((mark_iff rfl).trans ?_) ((mark_iff rfl).trans ?_)
    · simp only [List.append_nil]
    · rw [← spaced_valueDue]
      rfl
  | afterMember members around =>
    simp only [step_afterMember, or_and_right, exists_or, and_assoc, exists_and_left, exists_eq_left, reads_supply]
    refine or_congr (mark_iff rfl) ((mark_iff rfl).trans ?_)
    rw [← spaced_nameDue]
    rfl
  | finished value =>
    refine iff_of_false (fun starts => nomatch starts.1) ?_
    rintro ⟨next, ⟨⟩, _⟩

/-- From every state, the reader has a result exactly for the texts that lead to this result. -/
theorem run_iff : reading.run (lex text) = .ok result ↔ Reads result reading text := by
  fun_induction lex text generalizing reading with
  | case1 => exact finish_iff
  | case2 c rest space ih => rw [ih, reads_skip space]
  | case3 c rest solid ih =>
    rw [reads_solid (Bool.eq_false_iff.mpr solid), step_iff, Reading.run]
    cases reading.step ⟨(readToken c rest).1, c :: rest⟩ with
    | ok next => simp [ih]
    | error error => simp

/-- From the beginning on, the result is that of the one value of the document. -/
theorem run_document_iff {document : List Char} {value : Json} :
    (Reading.atValue []).run (lex document) = .ok value ↔ DocumentText document value := by
  have whole : Reads value (.atValue []) document ↔
      First (Padded ValueText) (fun read text => text = [] ∧ read = value) document := by
    rw [first_padded]
    rfl
  rw [run_iff, whole]
  constructor
  · rintro ⟨spelled, _, _, rfl, padded, rfl, rfl⟩
    rw [List.append_nil]
    exact padded
  · intro padded
    exact ⟨document, value, [], (List.append_nil document).symm, padded, rfl, rfl⟩

private theorem readToken_byteOrderMark (rest : List Char) : readToken '\uFEFF' rest = (.stray, []) := by
  have unmarked : punctuation? '\uFEFF' = none := rfl
  have noScalar : readScalar? ('\uFEFF' :: rest) = none := by
    simp [readScalar?, fixedWords, readFixed?, readNumber?, readSign, readWhole?, Text.isDigit]
  simp [readToken, unmarked, noScalar]

private theorem not_document_byteOrderMark {rest : List Char} {value : Json} :
    ¬ DocumentText ('\uFEFF' :: rest) value := by
  rw [← run_document_iff, lex, if_neg (by decide), readToken_byteOrderMark]
  rintro ⟨⟩

/-- The reader has a result exactly for the documents of the grammar, and it is the value of the document. -/
theorem parse_iff {document : List Char} {value : Json} : parse document = .ok value ↔ DocumentText document value := by
  fun_cases parse document with
  | case1 rest => exact iff_of_false nofun not_document_byteOrderMark
  | case2 other => exact run_document_iff

/-- No document can be read in two ways. -/
theorem document_unique {document : List Char} {first second : Json} (one : DocumentText document first)
    (other : DocumentText document second) : first = second :=
  Except.ok.inj ((parse_iff.mpr one).symm.trans (parse_iff.mpr other))

end DesignTokens.Proofs.DocumentGrammar
