/-! What a run has to say besides its result. Notes are taken in the order in which things happen;
a report sums them up. -/

namespace DesignTokens

inductive Note where
  | warning (text : String)
  /-- The chain of an alias came back to a path. -/
  | cycle (path : String)
  /-- The path of an alias leads nowhere. -/
  | unresolved (path : String)
  /-- A bucket is filled from the group at a path of keys. -/
  | source (keys : List String)
  deriving DecidableEq, Repr

def cycleWarning (path : String) : String :=
  "Circular reference detected: " ++ path

structure Report where
  warnings : List String := []
  cycles : List String := []
  unresolved : List String := []
  deriving DecidableEq, Repr

/-- Adds an entry that is not there yet. -/
def addNew (entries : List String) (entry : String) : List String :=
  if entries.contains entry then entries else entries ++ [entry]

namespace Report

/-- Every cycle is warned of, and listed once. -/
def add (report : Report) : Note → Report
  | .warning text => { report with warnings := report.warnings ++ [text] }
  | .cycle path =>
    { report with
      warnings := report.warnings ++ [cycleWarning path]
      cycles := addNew report.cycles path }
  | .unresolved path => { report with unresolved := addNew report.unresolved path }
  | .source _ => report

def addAll (report : Report) (notes : List Note) : Report :=
  notes.foldl add report

def ofNotes (notes : List Note) : Report :=
  Report.addAll {} notes

def hasIssues (report : Report) : Bool :=
  !report.warnings.isEmpty || !report.unresolved.isEmpty

theorem addAll_append (report : Report) (notes more : List Note) :
    report.addAll (notes ++ more) = (report.addAll notes).addAll more :=
  List.foldl_append

theorem mem_addNew {entries : List String} {entry other : String} :
    other ∈ addNew entries entry ↔ other ∈ entries ∨ other = entry := by
  unfold addNew
  split <;> simp_all

theorem mem_unresolved_addAll (report : Report) (notes : List Note) (path : String) :
    path ∈ (report.addAll notes).unresolved ↔ path ∈ report.unresolved ∨ .unresolved path ∈ notes := by
  induction notes generalizing report with
  | nil => simp [addAll]
  | cons note rest ih =>
    have onward : report.addAll (note :: rest) = (report.add note).addAll rest := rfl
    rw [onward, ih]
    cases note <;> simp [add, mem_addNew, or_assoc]

theorem mem_cycles_addAll (report : Report) (notes : List Note) (path : String) :
    path ∈ (report.addAll notes).cycles ↔ path ∈ report.cycles ∨ .cycle path ∈ notes := by
  induction notes generalizing report with
  | nil => simp [addAll]
  | cons note rest ih =>
    have onward : report.addAll (note :: rest) = (report.add note).addAll rest := rfl
    rw [onward, ih]
    cases note <;> simp [add, mem_addNew, or_assoc]

theorem mem_warnings_addAll (report : Report) (notes : List Note) (text : String) :
    text ∈ (report.addAll notes).warnings ↔ text ∈ report.warnings ∨ .warning text ∈ notes ∨
      ∃ path, .cycle path ∈ notes ∧ text = cycleWarning path := by
  induction notes generalizing report with
  | nil => simp [addAll]
  | cons note rest ih =>
    have onward : report.addAll (note :: rest) = (report.add note).addAll rest := rfl
    rw [onward, ih]
    cases note <;> simp [add, or_assoc, or_left_comm, exists_or, or_and_right]

end Report

/-- A result with the notes taken on the way to it. -/
structure Noted (α : Type) where
  notes : List Note
  value : α

namespace Noted

def note (note : Note) : Noted Unit := ⟨[note], ()⟩

instance : Monad Noted where
  pure value := ⟨[], value⟩
  bind first next :=
    let second := next first.value
    ⟨first.notes ++ second.notes, second.value⟩

def report {α : Type} (noted : Noted α) : Report :=
  .ofNotes noted.notes

variable {α β : Type}

@[simp] theorem notes_pure (value : α) : (pure value : Noted α).notes = [] := rfl

@[simp] theorem value_pure (value : α) : (pure value : Noted α).value = value := rfl

@[simp] theorem notes_bind (first : Noted α) (next : α → Noted β) :
    (first >>= next).notes = first.notes ++ (next first.value).notes := rfl

@[simp] theorem value_bind (first : Noted α) (next : α → Noted β) :
    (first >>= next).value = (next first.value).value := rfl

@[simp] theorem notes_map (f : α → β) (first : Noted α) : (f <$> first).notes = first.notes :=
  List.append_nil first.notes

@[simp] theorem value_map (f : α → β) (first : Noted α) : (f <$> first).value = f first.value := rfl

@[ext] theorem ext {one two : Noted α} (notes : one.notes = two.notes) (value : one.value = two.value) :
    one = two := by
  cases one
  cases two
  cases notes
  cases value
  rfl

instance : LawfulMonad Noted := LawfulMonad.mk' Noted
  (fun first => Noted.ext (List.append_nil first.notes) rfl)
  (fun _ _ => rfl)
  (fun first _ _ => Noted.ext (List.append_assoc first.notes _ _) rfl)

end Noted

end DesignTokens
