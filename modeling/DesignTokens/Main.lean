import DesignTokens.CommandLine.Run
import Std.Time.DateTime.Timestamp

/-! The program: the commands on the files and the clock of the machine. -/

namespace DesignTokens

/-- A cause by its number, which comes with a minus sign for some operations. -/
def causeOfNumber (number : UInt32) (details : String) : FileCause :=
  match number.toInt32.toInt.natAbs with
  | 20 => .notFolder
  | 21 => .folder
  | 36 => .nameTooLong
  | number => .other number details

/-- The cause that the machine gives for a refusal, by its number where several share one form. -/
def causeOf : IO.Error → FileCause
  | .noFileOrDirectory _ _ _ => .missing
  | .alreadyExists _ _ _ => .present
  | .inappropriateType _ number details => causeOfNumber number details
  | .invalidArgument _ number details => causeOfNumber number details
  | .permissionDenied _ number details => causeOfNumber number details
  | .resourceExhausted _ number details => causeOfNumber number details
  | .otherError number details => causeOfNumber number details
  | error => .other 5 (toString error)

/-- Asks the machine, unless the path holds a character that no path can hold. -/
def ask {α : Type} (path : Path) (action : String → IO α) : IO (Except FileCause α) := do
  let name := path.toString
  if name.toList.contains '\x00' then return .error .nullCharacter
  else
    try
      return .ok (← action name)
    catch error =>
      return .error (causeOf error)

def readFile (path : Path) : IO (Except FileCause (List UInt8)) :=
  ask path fun name => return (← IO.FS.readBinFile name).toList

/-- A folder is what refuses to be read because it is one. -/
def isFolder (path : Path) : IO Bool := do
  match ← readFile path with
  | .error .folder => return true
  | _ => return false

/-- A file that may not be read is there all the same. -/
def isPresent (path : Path) : IO (Except FileCause Bool) := do
  match ← readFile path with
  | .error .missing => return .ok false
  | .error .notFolder => return .ok false
  | .error .nullCharacter => return .ok false
  | .error .nameTooLong => return .error .nameTooLong
  | _ => return .ok true

/-- The seconds from the start of the year 1 to the start of the year 1970. -/
def epoch : Nat := Calendar.Date.dayNumber ⟨1970, 1, 1⟩ * 86400

def presentMoment : IO Calendar.Moment := do
  let stamp ← Std.Time.Timestamp.now
  let milliseconds := stamp.toMillisecondsSinceUnixEpoch.val.toNat
  return .ofSeconds (epoch + milliseconds / 1000) (milliseconds % 1000 * 1000)

instance : Files IO where
  isPresent path := isPresent path
  isFolder path := isFolder path
  read path := readFile path
  makeFolder path := ask path fun name => IO.FS.createDir name
  write path bytes := ask path fun name => IO.FS.writeBinFile name ⟨bytes.toArray⟩
  workingFolder := return Path.parse (toString (← IO.currentDir))
  now := presentMoment
  isHalf := return Text.isStandIn

def printErrors (lines : List CommandLine.ErrorLine) : IO Unit := do
  let time := (← presentMoment).isoText
  for line in lines do
    match line with
    | .log line => IO.eprintln (line.text time)
    | .text text => IO.eprintln text

end DesignTokens

open DesignTokens in
/-- Prints what a call has to say, and ends with its exit code. -/
def main (arguments : List String) : IO UInt32 := do
  let outcome : CommandLine.Outcome ← CommandLine.run arguments
  outcome.output.forM IO.println
  printErrors outcome.errors
  match outcome.escaped with
  | some failure => IO.eprintln failure.message
  | none => pure ()
  return outcome.exitCode.toUInt32
