import DesignTokens.Text.WidthTable

/-! The room a text takes on a console, in cells. What a console shows in one place is a cluster: a
character with the marks behind it, with the characters that a joiner draws into it, and perhaps
with a selector that makes it a wide picture. -/

namespace DesignTokens.Text

/-- The cells of a character by itself; a control takes none. -/
def cells (c : Char) : Nat :=
  let code := c.toNat
  if code < 0x20 || (0x7F ≤ code && code ≤ 0x9F) || zeroRanges.covers code then 0
  else if wideRanges.covers code then 2
  else 1

/-- Draws the next character into the cluster before it. -/
def joiner : Char := '\u200D'

/-- Asks for the picture form of the character before it. -/
def pictureSelector : Char := '\uFE0F'

structure Cluster where
  text : List Char := []
  cells : Nat := 0

def Cluster.extend (cluster : Cluster) (c : Char) (more : Nat) : Cluster :=
  ⟨cluster.text ++ [c], cluster.cells + more⟩

/-- The clusters of a text behind the start of one. `shown` is the last character that took cells and
was not made a picture yet, and `joined` says that a joiner stands right before the text. -/
def clustersFrom (cluster : Cluster) (shown : Option Char) (joined : Bool) :
    List Char → List Cluster
  | [] => [cluster]
  | c :: rest =>
    if joined then clustersFrom (cluster.extend c 0) shown false rest
    else if c == joiner then clustersFrom (cluster.extend c 0) shown true rest
    else if c == pictureSelector then
      let widened := shown.any (pictureRanges.covers ·.toNat)
      clustersFrom (cluster.extend c widened.toNat) none false rest
    else if cells c == 0 then clustersFrom (cluster.extend c 0) shown false rest
    else cluster :: clustersFrom ⟨[c], cells c⟩ (some c) false rest

/-- The clusters that a text is cut into. Its first character starts one, whatever it is. -/
def clusters : List Char → List Cluster
  | [] => []
  | c :: rest => clustersFrom ⟨[c], cells c⟩ (if cells c == 0 then none else some c) false rest

/-- The cells of a text, which may start within a cluster: a joiner at its start has the next
character to itself. -/
def width (text : List Char) : Nat :=
  ((clustersFrom {} none false text).map Cluster.cells).foldl (· + ·) 0

end DesignTokens.Text
