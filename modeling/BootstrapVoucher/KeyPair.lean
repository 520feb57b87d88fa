import BootstrapVoucher.Provider
import BootstrapVoucher.Text.Quoted
import BootstrapVoucher.Text.Utf8

/-!
# Key pairs

A key pair is a certificate with a private key. Whether the two belong together is asked where it
matters: when a voucher is signed and when a TLS identity is made. Only the certificate appears in
texts.
-/

namespace BootstrapVoucher

variable {Cert Key Envelope : Type}

/-- Why security artifacts cannot be put together. -/
inductive AssemblyError
  | syntaxError (detail : String)
  | tlsIdentityInvalid (detail : String)
  | trustPoolEmpty (detail : String)
  | cryptoError (detail : String)
deriving DecidableEq, Repr

namespace AssemblyError

/-- What went wrong, without the kind of the error. -/
def detail : AssemblyError → String
  | syntaxError detail | tlsIdentityInvalid detail | trustPoolEmpty detail | cryptoError detail => detail

def message : AssemblyError → String
  | syntaxError detail => "Syntax error: " ++ detail
  | tlsIdentityInvalid detail => "Invalid TLS identity: " ++ detail
  | trustPoolEmpty detail => "Empty trust pool: " ++ detail
  | cryptoError detail => "Crypto error: " ++ detail

end AssemblyError

/-- A certificate together with a private key. -/
structure KeyPair (Cert Key : Type) where
  certificate : Cert
  key : Key
deriving DecidableEq

namespace KeyPair

/-- Reads a certificate and a private key from their PEM texts, the certificate first. -/
def ofPem (P : Provider Cert Key Envelope) (certificate key : Bytes) :
    Except AssemblyError (KeyPair Cert Key) := do
  let certificate ← (P.readCertificate certificate).mapError fun e =>
    .syntaxError ("parsing certificate: " ++ e)
  let key ← (P.readKey key).mapError fun e => .syntaxError ("parsing private key: " ++ e)
  return ⟨certificate, key⟩

/-- Whether the private key belongs to the certificate. -/
def isMatching (P : Provider Cert Key Envelope) (pair : KeyPair Cert Key) : Bool :=
  P.owns pair.certificate pair.key

def subject (P : Provider Cert Key Envelope) (pair : KeyPair Cert Key) : String :=
  P.subject pair.certificate

def fingerprint (P : Provider Cert Key Envelope) (pair : KeyPair Cert Key) : String :=
  P.fingerprint pair.certificate

/-- The PEM text of the certificate, which must be a text. -/
def certificatePem (P : Provider Cert Key Envelope) (pair : KeyPair Cert Key) :
    Except AssemblyError String := do
  let pem ← (P.pem pair.certificate).mapError .cryptoError
  match Bytes.toText? pem with
  | some text => return text
  | none => .error (.syntaxError (((Text.Utf8.fault? 0 pem).map Text.Utf8.Fault.message).getD ""))

/-- A certificate shown under the name of what it is used for. -/
def showCertificate (P : Provider Cert Key Envelope) (what : String) (certificate : Cert) : String :=
  what ++ " \x7b subject: " ++ Text.quoted (P.subject certificate) ++ ", fingerprint: " ++
    Text.quoted (P.fingerprint certificate) ++ ", .. \x7d"

def debugText (P : Provider Cert Key Envelope) (pair : KeyPair Cert Key) : String :=
  showCertificate P "KeyPair" pair.certificate

end KeyPair

end BootstrapVoucher
