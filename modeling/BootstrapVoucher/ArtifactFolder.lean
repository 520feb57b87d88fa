import BootstrapVoucher.Artifacts
import BootstrapVoucher.Disk

/-!
# Artifact folders

A directory can hold everything that a server needs: for each key pair a certificate and a key file
named after it, and for each voucher a file whose name starts with a fixed word, goes on with the
identifier, and may end in extensions. Only regular files with textual names count as vouchers.
-/

namespace BootstrapVoucher

variable {Cert Key Envelope : Type}

/-- Why a folder cannot be loaded. -/
inductive LoadError
  | ioError (detail : String)
  | noVouchers (folder : String)
  | duplicatedVoucher (detail : String)
  | assembly (error : AssemblyError)
deriving DecidableEq, Repr

namespace LoadError

/-- What went wrong, without the kind of the error. -/
def detail : LoadError → String
  | ioError detail | noVouchers detail | duplicatedVoucher detail => detail
  | assembly error => error.detail

def message : LoadError → String
  | ioError detail => "I/O error: " ++ detail
  | noVouchers folder => "No ownership vouchers found: " ++ folder
  | duplicatedVoucher detail => "Duplicated ownership voucher: " ++ detail
  | assembly error => error.message

end LoadError

/-- Work that writes log records and may fail; what was logged before a failure is kept. -/
abbrev Loading := ExceptT LoadError Logged

namespace Loading

def log (level : Level) (text : String) : Loading Unit :=
  ExceptT.lift (Logged.write level text)

def ofExcept {α : Type} (x : Except LoadError α) : Loading α := ExceptT.mk (pure x)

end Loading

/-- A directory of artifacts, by its path. -/
structure ArtifactFolder where
  root : String
deriving DecidableEq, Repr

namespace ArtifactFolder

/-- The name of the key pair that the server presents. -/
def serverName : String := "oc"

/-- The name of the key pair of the owner's domain. -/
def domainName : String := "pdc"

/-- The name of the vendor's key pair. -/
def vendorName : String := "vendorca"

def certificateFile (name : String) : String := name ++ "_pub.pem"

def keyFile (name : String) : String := name ++ "_priv.pem"

/-- What the name of a voucher file starts with. -/
def voucherStart : String := "ov_"

/-- The identifier of a voucher file: what stands between the start of the name and its first point,
unless that is nothing. -/
def voucherId? (name : Bytes) : Option String := do
  let text ← Bytes.toText? name
  let start := voucherStart.toList
  let rest ← if start.isPrefixOf text.toList then some (text.toList.drop start.length) else none
  let id := rest.takeWhile (· != '.')
  if id.isEmpty then none else some (String.ofList id)

def readFile (disk : Disk) (folder : ArtifactFolder) (name : String) : Except LoadError Bytes :=
  let path := Disk.join folder.root name
  (disk.read path).mapError fun e => .ioError ("reading " ++ path ++ ": " ++ e.message)

/-- Reads the certificate file and then the key file of a name. -/
def keyPair (P : Provider Cert Key Envelope) (disk : Disk) (folder : ArtifactFolder) (name : String) :
    Except LoadError (KeyPair Cert Key) := do
  let certificate ← folder.readFile disk (certificateFile name)
  let key ← folder.readFile disk (keyFile name)
  (KeyPair.ofPem P certificate key).mapError .assembly

def readKeyPair (P : Provider Cert Key Envelope) (disk : Disk) (folder : ArtifactFolder)
    (name : String) : Loading (KeyPair Cert Key) := do
  let pair ← Loading.ofExcept (folder.keyPair P disk name)
  Loading.log .debug ("loaded " ++ name ++ " key pair: " ++ pair.subject P)
  return pair

/-- Adds the voucher of a directory entry, if the entry is one. -/
def addVoucher (disk : Disk) (folder : ArtifactFolder) (store : VoucherStore)
    (entry : DirectoryEntry) : Loading VoucherStore :=
  match entry.kind, voucherId? entry.name, Bytes.toText? entry.name with
  | .file, some id, some name => do
    let voucher ← Loading.ofExcept (folder.readFile disk name)
    if store.contains id then
      Loading.ofExcept (.error (.duplicatedVoucher (id ++ " in " ++ folder.root)))
    else
      Loading.log .debug ("loaded voucher " ++ id ++ " from " ++ Disk.join folder.root name)
      return store.insert id voucher
  | _, _, _ => return store

/-- Goes on with what a listing gives next, which must be an entry. -/
def addListed (disk : Disk) (folder : ArtifactFolder) (store : VoucherStore)
    (listed : Except IoError DirectoryEntry) : Loading VoucherStore := do
  let entry ← Loading.ofExcept (listed.mapError fun e => .ioError e.message)
  addVoucher disk folder store entry

/-- Reads all vouchers of the folder, of which there must be one at least. -/
def readVouchers (disk : Disk) (folder : ArtifactFolder) : Loading VoucherStore := do
  let listing ← Loading.ofExcept ((disk.list folder.root).mapError fun e =>
    .ioError ("listing " ++ folder.root ++ ": " ++ e.message))
  let store ← listing.foldlM (addListed disk folder) VoucherStore.empty
  if store.entries.isEmpty then Loading.ofExcept (.error (.noVouchers folder.root))
  else return store

/-- Loads all artifacts of the folder and puts them together. -/
def load [DecidableEq Cert] (P : Provider Cert Key Envelope) (disk : Disk) (folder : ArtifactFolder) :
    Loading (Artifacts Cert Key) := do
  Loading.log .info
    ("loading security artifacts (OC, PDC, VendorCA, OVs) from " ++ folder.root)
  let server ← folder.readKeyPair P disk serverName
  let domain ← folder.readKeyPair P disk domainName
  let vendorCa ← folder.readKeyPair P disk vendorName
  let vouchers ← folder.readVouchers disk
  let assembled ← ExceptT.lift (Artifacts.assemble P server domain vendorCa vouchers)
  Loading.ofExcept (assembled.mapError .assembly)

end ArtifactFolder

end BootstrapVoucher
