import DesignTokens.Sync

/-! The lines that a log has for the events of a run. -/

namespace DesignTokens

inductive Level where
  | debug
  | info
  | warning
  deriving DecidableEq, Repr

def Level.name : Level → String
  | .debug => "DEBUG"
  | .info => "INFO"
  | .warning => "WARNING"

structure LogLine where
  level : Level
  /-- The part of the program that speaks. -/
  speaker : String
  message : String
  deriving DecidableEq, Repr

/-- A warning that is not about an alias is in the report alone. -/
def Note.logLine? : Note → Option LogLine
  | .warning _ => none
  | .cycle path => some ⟨.warning, "resolver", cycleWarning path⟩
  | .unresolved path => some ⟨.debug, "resolver", "Unresolved reference: " ++ aliasText path⟩
  | .source keys =>
    some ⟨.debug, "assembler", "Using source " ++ ".".intercalate (keys.map Text.quote)⟩

def Event.logLine? : Event → Option LogLine
  | .loaded members path =>
    some ⟨.debug, "loader", s!"Loaded {members} top-level set(s) from {path}"⟩
  | .noted note => note.logLine?
  | .unresolved count => some ⟨.info, "assembler", s!"{count} unresolved reference(s)"⟩
  | .wrote path => some ⟨.info, "sync", s!"Wrote {path}"⟩

/-- The lines that show: warnings, and all others only if asked for. -/
def logLines (verbose : Bool) (events : List Event) : List LogLine :=
  (events.filterMap Event.logLine?).filter fun line => verbose || line.level == .warning

/-- A line of the log behind the time that it is stamped with. -/
def LogLine.text (line : LogLine) (time : String) : String :=
  time ++ " [" ++ line.level.name ++ "] tokensync.core." ++ line.speaker ++ ": " ++ line.message

end DesignTokens
