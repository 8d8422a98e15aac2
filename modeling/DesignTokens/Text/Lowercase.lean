import DesignTokens.Text.CaseTable

/-! Lowering a text. All characters are lowered one by one except two: a capital I with a dot keeps
its dot as a combining mark, and a capital sigma at the end of a word becomes a final sigma. -/

namespace DesignTokens.Text

def CaseRun.covers (run : CaseRun) (code : Nat) : Bool :=
  run.first ≤ code && code ≤ run.last && (code - run.first) % run.step == 0

/-- The runs ascend, so the search stops at the first run that starts beyond the code point. -/
def lowerCode (code : Nat) : List CaseRun → Nat
  | [] => code
  | run :: rest =>
    if code < run.first then code
    else if run.covers code then (code + run.offset).toNat
    else lowerCode code rest

def lowerChar (c : Char) : Char :=
  Char.ofNat (lowerCode c.toNat caseRuns)

def isCased (c : Char) : Bool := casedRanges.covers c.toNat

def isCaseIgnorable (c : Char) : Bool := caseIgnorableRanges.covers c.toNat

/-- Whether the first character that counts has a case. -/
def startsCased : List Char → Bool
  | [] => false
  | c :: rest => if isCaseIgnorable c then startsCased rest else isCased c

/-- `afterCased` says whether the last character before the text that counts has a case. -/
def lowerFrom (afterCased : Bool) : List Char → List Char
  | [] => []
  | c :: rest =>
    let lowered :=
      if c == 'İ' then ['i', '\u0307']
      else if c == 'Σ' then [if afterCased && !startsCased rest then 'ς' else 'σ']
      else [lowerChar c]
    lowered ++ lowerFrom (if isCaseIgnorable c then afterCased else isCased c) rest

def lower (text : String) : String :=
  String.ofList (lowerFrom false text.toList)

end DesignTokens.Text
