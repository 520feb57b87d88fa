import BootstrapVoucher.ArtifactFolder
import BootstrapVoucher.Signing
import BootstrapVoucher.Tool.Arguments
import BootstrapVoucher.Verification

/-!
# Running commands

A command reads files and then prints something, writes a file, or fails with a message. What it does
is a value, so that it can be run on a real disk as well as on a file tree in memory. It is taken for
granted that what is to be printed can be printed. Where the output is closed or full, the tool breaks
off with the exit code 101, and it does so after it has written its file.
-/

namespace BootstrapVoucher.Tool

open Time

variable {Cert Key Envelope : Type}

/-- What a command comes to. -/
inductive Outcome
  | prints (text : String)
  /-- A file is to be written, and then something printed. -/
  | writes (path : String) (content : Bytes) (text : String)
  | fails (message : String)
deriving DecidableEq, Repr

/-- What a run of the tool leaves behind besides files. -/
structure Report where
  exitCode : Nat
  stdout : String
  /-- The message with which the tool ends, if it does. -/
  message : Option String
deriving DecidableEq, Repr

namespace Report

/-- The report of a command that did what it should. -/
def success (stdout : String) : Report := ⟨0, stdout, none⟩

def failure (message : String) : Report := ⟨1, "", some message⟩

/-- The report on arguments that make up no command. -/
def ofRefusal : Refusal → Report
  | .shows text => success text
  | .misused _ => ⟨2, "", none⟩

end Report

namespace Command

/-- What a command is about, in the message that it failed. -/
def activity : Command → String
  | sign _ => "signing"
  | verify _ => "verification"
  | check _ => "check"

/-- The files that a command reads, whatever it finds. -/
def files : Command → List String
  | sign c => [c.certificate, c.key, c.pdc]
  | verify c => [c.voucher, c.trust]
  | check c =>
    [ArtifactFolder.serverName, ArtifactFolder.domainName, ArtifactFolder.vendorName].flatMap
      fun name => [ArtifactFolder.certificateFile name, ArtifactFolder.keyFile name].map
        (Disk.join c.artifacts)

/-- The folder that a command lists, and whose vouchers it reads. -/
def folder? : Command → Option String
  | sign _ | verify _ => none
  | check c => some c.artifacts

def failureMessage (command : Command) (reason : String) : String :=
  command.activity ++ " failed: " ++ reason

end Command

/-- Work that writes log records and fails with a message. -/
abbrev Running := ExceptT String Logged

def readFile (disk : Disk) (path : String) : Running Bytes :=
  ExceptT.mk (pure ((disk.read path).mapError IoError.message))

def validityOf (days : Int) : Except String Span :=
  match Span.ofDays? days with
  | some span => .ok span
  | none => .error ("validity of " ++ toString days ++ " days out of range")

namespace SignCommand

def path (c : SignCommand) : String := c.out.getD ("ov_" ++ c.serial ++ ".der")

def signer (c : SignCommand) (vendor : KeyPair Cert Key) (validity : Span) : Signer Cert Key :=
  { vendor, assertion := c.assertion, revocationChecks := c.revocationChecks, validity }

def run (P : Provider Cert Key Envelope) (now : Instant) (disk : Disk) (c : SignCommand) :
    Running Outcome := do
  let certificate ← readFile disk c.certificate
  let key ← readFile disk c.key
  let vendor ← ExceptT.mk (pure ((KeyPair.ofPem P certificate key).mapError AssemblyError.message))
  let pdc ← ExceptT.mk (pure ((disk.readText c.pdc).mapError IoError.message))
  let validity ← ExceptT.mk (pure (validityOf c.validityDays))
  let signed ← ExceptT.lift ((c.signer vendor validity).sign P now c.serial pdc)
  let voucher ← ExceptT.mk (pure (signed.mapError SigningError.message))
  return .writes c.path voucher ("voucher written to " ++ c.path ++ "\n")

end SignCommand

def VerifyCommand.run [DecidableEq Cert] (P : Provider Cert Key Envelope) (now : Instant)
    (disk : Disk) (c : VerifyCommand) : Running Outcome := do
  let voucher ← readFile disk c.voucher
  let bundle ← readFile disk c.trust
  let pool ← ExceptT.mk (pure ((TrustPool.ofPem P bundle).mapError AssemblyError.message))
  let verified ← ExceptT.lift
    (if c.checkExpiry then verifyAt P pool voucher now else BootstrapVoucher.verify P pool voucher)
  let claims ← ExceptT.mk (pure (verified.mapError VerificationError.message))
  return .prints ((Bytes.toText? (Document.pretty claims)).getD "" ++ "\n")

def CheckCommand.run [DecidableEq Cert] (P : Provider Cert Key Envelope) (disk : Disk)
    (c : CheckCommand) : Running Outcome := do
  let loaded ← ExceptT.lift (ArtifactFolder.load P disk ⟨c.artifacts⟩).run
  let artifacts ← ExceptT.mk (pure (loaded.mapError LoadError.message))
  let lines := [
    "TLS identity: " ++ artifacts.tlsIdentity.debugText P,
    "trust pool: " ++ artifacts.trustPool.debugText P,
    "vendor CA: " ++ artifacts.vendorCa.debugText P] ++
    artifacts.voucherIds.map ("voucher: " ++ ·)
  return .prints (String.join (lines.map (· ++ "\n")))

/-- Runs a command as far as that needs no writing. -/
def Command.run [DecidableEq Cert] (P : Provider Cert Key Envelope) (now : Instant) (disk : Disk)
    (command : Command) : Logged Outcome :=
  let running : Running Outcome :=
    match command with
    | .sign c => c.run P now disk
    | .verify c => c.run P now disk
    | .check c => c.run P disk
  let result := running.run
  ⟨match result.value with
    | .ok outcome => outcome
    | .error reason => .fails (command.failureMessage reason), result.records⟩

/-- Runs the tool with arguments on a file tree, with an output that takes all that is printed. -/
def run [DecidableEq Cert] (P : Provider Cert Key Envelope) (now : Instant) (arguments : List String)
    (tree : FileTree) : Report × FileTree :=
  match Invocation.ofArguments arguments with
  | .error refusal => (Report.ofRefusal refusal, tree)
  | .ok invocation =>
    match (invocation.command.run P now tree.disk).value with
    | .prints text => (Report.success text, tree)
    | .fails message => (Report.failure message, tree)
    | .writes path content text =>
      match tree.write path content with
      | .ok tree => (Report.success text, tree)
      | .error e => (Report.failure (invocation.command.failureMessage e.message), tree)

end BootstrapVoucher.Tool
