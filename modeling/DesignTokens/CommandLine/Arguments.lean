import DesignTokens.Path

/-! The arguments of the command line. An option that takes a value takes it from behind an equals
sign, from the rest of the argument after a short name, or else the next argument as it stands.
Behind two hyphens nothing is an option, but for what stands in the place of the command. -/

namespace DesignTokens.CommandLine

/-- The options of all commands. -/
inductive Flag where
  | config
  | input
  | outputDir
  | unit
  | timestamp
  | verbose
  | version
  deriving DecidableEq, Repr

inductive Command where
  | sync
  | inspect
  deriving DecidableEq, Repr

structure Spelling where
  flag : Flag
  long : String
  short : Option Char
  takesValue : Bool

def inputSpellings : List Spelling := [
  ⟨.config, "--config", some 'c', true⟩, ⟨.input, "--input", some 'i', true⟩,
  ⟨.unit, "--unit", none, true⟩, ⟨.verbose, "--verbose", none, false⟩]

def Command.spellings : Command → List Spelling
  | .sync =>
    inputSpellings ++ [
      ⟨.outputDir, "--output-dir", some 'o', true⟩, ⟨.timestamp, "--timestamp", none, true⟩]
  | .inspect => inputSpellings

def Command.ofName? : String → Option Command
  | "sync" => some .sync
  | "inspect" => some .inspect
  | _ => none

/-- The options before the command. -/
def topSpellings : List Spelling := [⟨.version, "--version", some 'V', false⟩]

/-- Options as they were given, and the arguments that are none. -/
structure Given where
  flags : List (Flag × String) := []
  others : List String := []

namespace Given

/-- The value of an option; the last one given counts. -/
def value? (given : Given) (flag : Flag) : Option String :=
  (given.flags.reverse.find? (·.1 == flag)).map Prod.snd

def isSet (given : Given) (flag : Flag) : Bool :=
  (given.value? flag).isSome

/-- No path holds a null character. Of several values for one option, only the one that counts has to
be a path. -/
def hasPaths (given : Given) : Bool :=
  [Flag.config, .input, .outputDir].all fun flag =>
    (given.value? flag).all fun value => !value.toList.contains '\x00'

end Given

/-- An argument as an option with the value behind its equals sign. -/
def splitEquals (argument : String) : String × Option String :=
  let name := argument.toList.takeWhile (· != '=')
  match argument.toList.drop name.length with
  | _ :: value => (String.ofList name, some (String.ofList value))
  | [] => (argument, none)

/-- What one argument says: options that are complete, and perhaps one whose value is the next
argument. -/
structure Reading where
  flags : List (Flag × String) := []
  awaiting : Option Flag := none

/-- The options in a cluster of short names. -/
def readShort? (spellings : List Spelling) : List Char → Option Reading
  | [] => some {}
  | c :: rest => do
    let spelling ← spellings.find? (·.short == some c)
    if spelling.takesValue then
      if rest.isEmpty then some { awaiting := some spelling.flag }
      else some { flags := [(spelling.flag, String.ofList rest)] }
    else
      let others ← readShort? spellings rest
      some { others with flags := (spelling.flag, "") :: others.flags }

def readOption? (spellings : List Spelling) (argument : String) : Option Reading :=
  let (name, value) := splitEquals argument
  match spellings.find? (·.long == name) with
  | some spelling =>
    match spelling.takesValue, value with
    | true, some value => some { flags := [(spelling.flag, value)] }
    | true, none => some { awaiting := some spelling.flag }
    | false, none => some { flags := [(spelling.flag, "")] }
    | false, some _ => none
  | none =>
    if "--".toList.isPrefixOf argument.toList then none
    else readShort? spellings (argument.toList.drop 1)

def isOption (argument : String) : Bool :=
  argument.toList.head? == some '-' && 1 < argument.length

/-- Reads the arguments of a command; the first one is the value of an option that awaits it. With
`mixed`, options may follow other arguments; without it, the first other argument ends the options. -/
def readArguments? (spellings : List Spelling) (mixed : Bool) (given : Given) :
    (awaiting : Option Flag) → List String → Option Given
  | some _, [] => none
  | some flag, value :: rest =>
    readArguments? spellings mixed { given with flags := given.flags ++ [(flag, value)] } none rest
  | none, [] => some given
  | none, argument :: rest =>
    if argument == "--" then some { given with others := given.others ++ rest }
    else if isOption argument then do
      let reading ← readOption? spellings argument
      readArguments? spellings mixed { given with flags := given.flags ++ reading.flags }
        reading.awaiting rest
    else if mixed then
      readArguments? spellings mixed { given with others := given.others ++ [argument] } none rest
    else some { given with others := given.others ++ argument :: rest }

/-- What a command is to work on. -/
structure Request where
  config : Option Path
  input : Option Path
  outputDir : Option Path
  unit : Option String
  timestamp : Option String
  verbose : Bool

inductive Call where
  | version
  | run (command : Command) (request : Request)
  /-- The arguments are not those of any call. -/
  | misuse
  deriving Inhabited

def Given.request (given : Given) : Request where
  config := (given.value? .config).map Path.parse
  input := (given.value? .input).map Path.parse
  outputDir := (given.value? .outputDir).map Path.parse
  unit := given.value? .unit
  timestamp := given.value? .timestamp
  verbose := given.isSet .verbose

/-- A command has options only, and no further arguments. -/
def readCommand (command : Command) (arguments : List String) : Call :=
  match readArguments? command.spellings true {} none arguments with
  | some given =>
    if given.others.isEmpty && given.hasPaths then .run command given.request else .misuse
  | none => .misuse

/-- The options before the command, and all arguments from there on. -/
def readTop? (arguments : List String) : Option Given :=
  readArguments? topSpellings false {} none arguments

/-- What stands in the place of a command and names none may still be an option, behind two hyphens. -/
def Call.ofArguments (arguments : List String) : Call :=
  match readTop? arguments with
  | none => .misuse
  | some given =>
    if given.isSet .version then .version
    else
      match given.others with
      | [] => .misuse
      | name :: rest =>
        match Command.ofName? name with
        | some command => readCommand command rest
        | none => if (readTop? given.others).any (·.isSet .version) then .version else .misuse

end DesignTokens.CommandLine
