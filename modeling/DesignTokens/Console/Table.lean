import DesignTokens.Console.Layout
import DesignTokens.Entries

/-! A table of names and numbers in a frame with a heavy head, and a title over it. -/

namespace DesignTokens.Console
open Text

/-- The corners and crossings of a rule across the table, and the line between them. -/
structure RuleMarks where
  left : String
  line : String
  crossing : String
  right : String

structure Table where
  title : List Char
  nameHead : String
  numberHead : String
  rows : Entries Nat

namespace Table

def nameWidth (table : Table) : Nat :=
  (table.rows.map fun row => row.1.length).foldl max table.nameHead.length

def numberWidth (table : Table) : Nat :=
  (table.rows.map fun row => (toString row.2).length).foldl max table.numberHead.length

/-- Each column has a blank on both sides, and there are three upright lines. -/
def fullWidth (table : Table) : Nat :=
  table.nameWidth + table.numberWidth + 7

def rule (table : Table) (marks : RuleMarks) : String :=
  let across (count : Nat) := String.join (List.replicate (count + 2) marks.line)
  marks.left ++ across table.nameWidth ++ marks.crossing ++ across table.numberWidth ++ marks.right

/-- A name to the left of its column and a number to the right of its own. -/
def row (table : Table) (upright name number : String) : String :=
  let name := name ++ String.ofList (blanks (table.nameWidth - name.length))
  let number := String.ofList (blanks (table.numberWidth - number.length)) ++ number
  upright ++ " " ++ name ++ " " ++ upright ++ " " ++ number ++ " " ++ upright

/-- The title breaks at line feeds and at the width of the table, and each line is centred. -/
def titleLines (table : Table) : List String :=
  ((layOut table.title).splitOn '\n').flatMap fun line =>
    (breakLine table.fullWidth line).map fun part => String.ofList (centre table.fullWidth part)

/-- The head in heavy lines, and the number heads on the right like the numbers. -/
def lines (table : Table) : List String :=
  table.titleLines ++ [
    table.rule ⟨"┏", "━", "┳", "┓"⟩,
    table.row "┃" table.nameHead table.numberHead,
    table.rule ⟨"┡", "━", "╇", "┩"⟩] ++
  table.rows.map (fun (name, number) => table.row "│" name (toString number)) ++
  [table.rule ⟨"└", "─", "┴", "┘"⟩]

end Table

end DesignTokens.Console
