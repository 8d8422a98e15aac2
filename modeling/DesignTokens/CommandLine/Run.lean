import DesignTokens.CommandLine.Arguments
import DesignTokens.Console.ControlSequence
import DesignTokens.Console.Markup
import DesignTokens.Console.Table
import DesignTokens.Log
import DesignTokens.Model.Literal

/-! The commands. What a command prints is kept apart for standard output and standard error; it does
not matter when it is printed. -/

namespace DesignTokens.CommandLine

def version : String := "0.3.0"

inductive ErrorLine where
  | log (line : LogLine)
  | text (text : String)

/-- The outcome of a call. -/
structure Outcome where
  exitCode : Nat := 0
  output : List String := []
  errors : List ErrorLine := []
  /-- A failure that no command answers for; it ends the program. -/
  escaped : Option Failure := none

/-- Markup as it shows, laid out. -/
def shown (markup : List Char) : String :=
  String.ofList (Console.layOut (Console.render markup))

/-- A text behind a label, shown as it is. -/
def labelled (label text : String) : String :=
  shown (label.toList ++ Console.escape text)

def warningLine (warning : String) : String :=
  shown ("[yellow]⚠ ".toList ++ Console.escape warning ++ "[/yellow]".toList)

def diagnostics (report : Report) : List String :=
  report.warnings.map warningLine ++
    if report.unresolved.isEmpty then []
    else
      let paths := ", ".intercalate (report.unresolved.map aliasText)
      ["", labelled "[yellow]⚠ Unresolved references:[/yellow] " paths]

def heading (settings : Settings) : List String := [
  "🎨 Tokens Studio → Tailwind sync",
  String.ofList (List.replicate 50 '='),
  labelled "📂 Output: " settings.outputPath.toString]

/-- The buckets that a summary shows. -/
def summaryBuckets : List String := ["text", "bg", "primitive", "spacing"]

def summary (result : SyncResult) : List String :=
  let counts := result.assembly.model.counts
  [labelled "📂 Input: " result.input.toString, "✅ Tokens transformed", "", "📊 Result:"] ++
  summaryBuckets.map (fun bucket => s!"   - {bucket}: {(counts.get? bucket).getD 0}") ++
  ["", labelled "✅ TypeScript: " result.ts.toString, labelled "✅ CSS: " result.css.toString] ++
  diagnostics result.assembly.report ++
  ["", "🎉 Sync complete!"]

def inspection (path : Path) (assembly : Assembly) : List String :=
  let table : Console.Table := {
    title := Console.render ("Tokens in ".toList ++ Console.escape path.toString)
    nameHead := "Bucket"
    numberHead := "Entries"
    rows := assembly.model.counts }
  table.lines ++ diagnostics assembly.report

/-- What to do when there are no tokens to read. -/
def inputHint : List String := [
  "", "💡 Export tokens.json from Tokens Studio into src/token/ and run tokensync sync"]

/-- A line about a failure. -/
def failureLine (text : String) : ErrorLine :=
  .text (String.ofList (Console.withoutSequences text.toList))

/-- Prints a failure that commands answer for, and lets any other escape. -/
def failed (hint : List String) (output : List String) (log : List LogLine) (failure : Failure) :
    Outcome :=
  let log := log.map ErrorLine.log
  if failure.isAnswered then
    let lines := ("❌ " ++ failure.message) :: match failure with
      | .input _ _ => hint
      | _ => []
    { exitCode := 1, output, errors := log ++ lines.map failureLine }
  else { exitCode := 1, output, errors := log, escaped := some failure }

variable {m : Type → Type} [Monad m] [Files m]

/-- The settings of the given file, or of the working folder, changed by the options. -/
def settingsFor (request : Request) : m (Except Failure Settings) := do
  let folder ← Files.workingFolder
  let loaded ← match request.config with
    | some path => loadSettings path
    | none => discoverSettings folder
  return loaded.map fun settings => { settings with
    outputDir := match request.outputDir with
      | some path => (Path.resolve folder path).toString
      | none => settings.outputDir
    unit := match request.unit with
      | some unit => Settings.unitOf unit
      | none => settings.unit }

def runSync (request : Request) : m Outcome := do
  match ← settingsFor request with
  | .error failure => return failed inputHint [] [] failure
  | .ok settings =>
    let (result, events) ← (sync settings request.input request.timestamp).run.run []
    let log := logLines request.verbose events
    match result with
    | .error failure => return failed inputHint (heading settings) log failure
    | .ok result =>
      return { output := heading settings ++ summary result, errors := log.map .log }

def runInspect (request : Request) : m Outcome := do
  match ← settingsFor request with
  | .error failure => return failed [] [] [] failure
  | .ok settings =>
    let (result, events) ← (build settings request.input).run.run []
    let log := logLines request.verbose events
    match result with
    | .error failure => return failed [] [] log failure
    | .ok (path, assembly) =>
      return { output := inspection path assembly, errors := log.map .log }

/-- Runs the call that some arguments make. -/
def run (arguments : List String) : m Outcome :=
  match Call.ofArguments arguments with
  | .version => return { output := ["tokensync " ++ version] }
  | .misuse => return { exitCode := 2 }
  | .run .sync request => runSync request
  | .run .inspect request => runInspect request

end DesignTokens.CommandLine
