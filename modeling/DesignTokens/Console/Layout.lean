import DesignTokens.Text.Blank
import DesignTokens.Text.Width

/-! Laying a text out on a console: control characters go, tabs become blanks, and long lines are
broken between words, or inside a word that is longer than a line. A cluster is never broken. -/

namespace DesignTokens.Console
open Text

/-- Bell, backspace, vertical tab, form feed and carriage return have no place in a text. -/
def isControl (c : Char) : Bool :=
  c == '\x07' || c == '\x08' || c == '\x0B' || c == '\x0C' || c == '\r'

def blanks (count : Nat) : List Char :=
  List.replicate count ' '

def tabSize : Nat := 8

/-- What stands before a tab, with blanks for the tab: at least one, and up to a multiple of the tab
size. -/
def padToStop (part : List Char) : List Char :=
  let part := part ++ [' ']
  let past := width part % tabSize
  part ++ if past == 0 then [] else blanks (tabSize - past)

/-- Tabs of one line. Every part but the last ends at a multiple of the tab size, so each part can be
measured by itself. -/
def expandTabs (line : List Char) : List Char :=
  let parts := line.splitOn '\t'
  parts.dropLast.flatMap padToStop ++ parts.getLastD []

/-- A text as it is laid out on a console that is wide enough. -/
def layOut (text : List Char) : List Char :=
  ['\n'].intercalate (((text.filter (!isControl ·)).splitOn '\n').map expandTabs)

/-- A word with the white space around it; white space before a word goes with it only at the start
of a line. -/
def takeWord (line : List Char) : List Char × List Char :=
  let before := line.takeWhile isBlank
  let rest := line.dropWhile isBlank
  let word := rest.takeWhile (!isBlank ·)
  let rest := rest.dropWhile (!isBlank ·)
  (before ++ word ++ rest.takeWhile isBlank, rest.dropWhile isBlank)

/-- The words of a line, with the white space that follows each. Only white space behind no word is
left out. -/
def wordsFrom : (bound : Nat) → List Char → List (List Char)
  | 0, _ => []
  | bound + 1, line =>
    if line.all isBlank then []
    else (takeWord line).1 :: wordsFrom bound (takeWord line).2

def words (line : List Char) : List (List Char) :=
  wordsFrom line.length line

/-- Cuts clusters into pieces of at most so many cells; `used` cells of the current piece are taken. -/
def chop (limit used : Nat) : List Cluster → List (List Char)
  | [] => [[]]
  | cluster :: rest =>
    let starts : Bool := limit < used + cluster.cells
    match chop limit (if starts then cluster.cells else used + cluster.cells) rest with
    | piece :: pieces =>
      let piece := cluster.text ++ piece
      if starts then [] :: piece :: pieces else piece :: pieces
    | [] => [cluster.text]

/-- Lines that are complete, and the one that is being filled. -/
structure Filling where
  complete : List (List Char) := []
  line : List Char := []
  /-- The cells that count as taken in the line. -/
  used : Nat := 0

def Filling.startLine (filling : Filling) (line : List Char) : Filling :=
  if filling.line.isEmpty then { filling with line, used := width line }
  else { complete := filling.complete ++ [filling.line], line, used := width line }

/-- Puts a word on the line if it fits without the white space behind it, and else on the next one.
A word that fits on no line starts a new line and is cut to fill lines. -/
def Filling.add (limit : Nat) (filling : Filling) (word : List Char) : Filling :=
  let needed := width (trimEndBy isBlank word)
  if filling.used + needed ≤ limit then
    { filling with line := filling.line ++ word, used := filling.used + width word }
  else if limit < needed then (chop limit 0 (clusters word)).foldl Filling.startLine filling
  else filling.startLine word

/-- The lines of at most so many cells that a line breaks into. -/
def breakLine (limit : Nat) (line : List Char) : List (List Char) :=
  let filling := (words line).foldl (Filling.add limit) {}
  filling.complete ++ [filling.line]

/-- As many clusters as fit, and blanks where the next one would begin but not end. -/
def crop (room : Nat) : List Cluster → List Char
  | [] => []
  | cluster :: rest =>
    if cluster.cells ≤ room then cluster.text ++ crop (room - cluster.cells) rest else blanks room

/-- A line in the middle of so many cells; an odd blank goes to the right. A line is broken by the
width of its words, and may still be too wide as a whole. -/
def centre (limit : Nat) (line : List Char) : List Char :=
  let line := trimEndBy isBlank line
  let line := if limit < width line then crop limit (clusters line) else line
  let line := blanks ((limit - width line) / 2) ++ line
  line ++ blanks (limit - width line)

end DesignTokens.Console
