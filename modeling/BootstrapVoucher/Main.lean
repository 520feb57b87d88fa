import BootstrapVoucher.StandardProvider
import BootstrapVoucher.Tool.Run
import Std.Time.DateTime.Timestamp

/-!
# The tool as a program

Looks up the present time, reads from disk what a command needs, runs the command, and then writes
and prints what comes of it.
-/

namespace BootstrapVoucher.Tool

open Time

/-- The number of a system error, which can be given with either sign. -/
def errorNumber (code : UInt32) : Nat := min code.toNat (-code).toNat

def errorText (code : UInt32) (text : String) : String :=
  text ++ " (os error " ++ toString (errorNumber code) ++ ")"

def systemError : IO.Error → IoError
  | .noFileOrDirectory _ _ _ => .notFound
  | .inappropriateType _ code text =>
    match errorNumber code with
    | 20 => .notDirectory
    | 21 => .isDirectory
    | _ => .other (errorText code text)
  | .permissionDenied _ code text | .resourceExhausted _ code text | .invalidArgument _ code text
  | .alreadyExists _ code text | .noSuchThing _ code text => .other (errorText code text)
  | error => .other (toString error)

/-- What an action gives, or the error that it fails with. -/
def attempt {α : Type} (action : IO α) : IO (Except IoError α) := do
  return (← action.toBaseIO).mapError systemError

def readPath (path : String) : IO (Except IoError Bytes) :=
  attempt do return (← IO.FS.readBinFile path).toList

/-- The kind of a directory entry; what is not a file, a directory or a link has none. -/
def kindOf : IO.FS.FileType → Option EntryKind
  | .file => some .file
  | .dir => some .directory
  | .symlink => some .link
  | .other => none

def listPath (path : String) : IO (Except IoError (List (Except IoError DirectoryEntry))) := attempt do
  let here : IO.FS.DirEntry := ⟨path, ""⟩
  let entries ← here.root.readDir
  entries.toList.filterMapM fun entry => do
    match ← attempt entry.path.symlinkMetadata with
    | .ok data => return (kindOf data.type).map fun kind => .ok ⟨Bytes.ofText entry.fileName, kind⟩
    | .error e => return some (.error e)

def diskFor (command : Command) : IO Disk := do
  let folders ← command.folder?.toList.mapM fun folder => do return (folder, ← listPath folder)
  let vouchers := folders.flatMap fun (folder, entries) =>
    ((entries.toOption.getD []).filterMap Except.toOption).filterMap fun entry =>
      if (ArtifactFolder.voucherId? entry.name).isSome ∧ entry.kind = .file then
        (Bytes.toText? entry.name).map (Disk.join folder)
      else none
  let files ← (command.files ++ vouchers).mapM fun path => do return (path, ← readPath path)
  return Disk.ofAnswers files folders

def present : IO Instant := do
  let nanoseconds := (← Std.Time.Timestamp.now).toNanosecondsSinceUnixEpoch.val
  match Instant.of? (nanoseconds / 1000000000) (nanoseconds % 1000000000).toNat with
  | some now => return now
  | none => throw (IO.userError "the present time is out of range")

/-- Prints a log record unless it is about details that are not wanted. -/
def printRecord (verbose : Bool) (r : Record) : IO Unit := do
  if verbose ∨ r.level ≠ .debug then IO.eprintln ("[" ++ r.level.text ++ "] " ++ r.text)

def printFailure (message : String) : IO UInt32 := do
  IO.eprintln message
  return 1

/-- Runs a command. The result is the exit code. -/
def Invocation.perform (invocation : Invocation) : IO UInt32 := do
  let command := invocation.command
  let result := command.run standardProvider (← present) (← diskFor command)
  result.records.forM (printRecord invocation.verbose)
  match result.value with
  | .prints text => do
    IO.print text
    return 0
  | .writes path content text => do
    match ← attempt (IO.FS.writeBinFile path ⟨content.toArray⟩) with
    | .ok () =>
      IO.print text
      return 0
    | .error e => printFailure (command.failureMessage e.message)
  | .fails message => printFailure message

/-- Runs the tool. The result is the exit code. -/
def perform (arguments : List String) : IO UInt32 := do
  match Invocation.ofArguments arguments with
  | .ok invocation => invocation.perform
  | .error (.shows text) =>
    IO.print text
    return 0
  | .error (.misused page) =>
    IO.eprint ("error: the arguments are wrong\n\n" ++ page.usageLine)
    return 2

end BootstrapVoucher.Tool

def main (arguments : List String) : IO UInt32 := BootstrapVoucher.Tool.perform arguments
