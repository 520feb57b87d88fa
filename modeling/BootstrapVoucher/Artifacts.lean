import BootstrapVoucher.Log
import BootstrapVoucher.TrustPool
import BootstrapVoucher.VoucherStore

/-!
# Security artifacts

A bootstrap server shows a TLS identity, trusts the certificate of its owner's domain and hands out
vouchers. Putting these together checks the TLS identity and nothing else: vouchers are stored as
they are.
-/

namespace BootstrapVoucher

variable {Cert Key Envelope : Type}

/-- The certificate and the key that a server presents in TLS. -/
structure TlsIdentity (Cert Key : Type) where
  certificate : Cert
  key : Key
deriving DecidableEq

namespace TlsIdentity

/-- The identity of a key pair that TLS accepts. -/
def ofKeyPair (P : Provider Cert Key Envelope) (pair : KeyPair Cert Key) :
    Except AssemblyError (TlsIdentity Cert Key) :=
  match P.checkTls pair.certificate pair.key with
  | .error e => .error (.tlsIdentityInvalid (pair.subject P ++ ": " ++ e))
  | .ok () => .ok ⟨pair.certificate, pair.key⟩

def debugText (P : Provider Cert Key Envelope) (identity : TlsIdentity Cert Key) : String :=
  KeyPair.showCertificate P "TlsIdentity" identity.certificate

end TlsIdentity

/-- What a TLS server is set up with. -/
structure Acceptor (Cert Key : Type) where
  identity : TlsIdentity Cert Key
  anchors : TrustPool Cert

/-- Everything a server needs to establish trust. -/
structure Artifacts (Cert Key : Type) where
  server : KeyPair Cert Key
  domain : KeyPair Cert Key
  vendorCa : KeyPair Cert Key
  vouchers : VoucherStore
  tlsIdentity : TlsIdentity Cert Key
  trustPool : TrustPool Cert

namespace Artifacts

/-- The parts of a server's trust, put together: the TLS identity comes from the server's key pair and
the trust pool holds the certificate of the domain. -/
def compose [DecidableEq Cert] (P : Provider Cert Key Envelope)
    (server domain vendorCa : KeyPair Cert Key) (vouchers : VoucherStore) :
    Except AssemblyError (Artifacts Cert Key) := do
  let tlsIdentity ← TlsIdentity.ofKeyPair P server
  let pem ← domain.certificatePem P
  let trustPool ← TrustPool.ofPem P (Bytes.ofText pem)
  return { server, domain, vendorCa, vouchers, tlsIdentity, trustPool }

/-- Puts the artifacts together and logs what they are. -/
def assemble [DecidableEq Cert] (P : Provider Cert Key Envelope)
    (server domain vendorCa : KeyPair Cert Key) (vouchers : VoucherStore) :
    Logged (Except AssemblyError (Artifacts Cert Key)) :=
  match compose P server domain vendorCa vouchers with
  | .error e => ⟨.error e, []⟩
  | .ok artifacts =>
    ⟨.ok artifacts, [⟨.debug, "assembled security artifacts: tls=" ++ server.fingerprint P ++
      " domain=" ++ domain.fingerprint P ++ " vendor-ca=" ++ vendorCa.fingerprint P ++
      " vouchers=" ++ toString vouchers.entries.length⟩]⟩

/-- The voucher of an identifier, as it was given. -/
def voucher? (a : Artifacts Cert Key) (id : String) : Option Bytes := a.vouchers.find? id

/-- The identifiers of the vouchers, in increasing order. -/
def voucherIds (a : Artifacts Cert Key) : List String := a.vouchers.ids

/-- A TLS server that presents the identity and trusts the pool. -/
def acceptor (P : Provider Cert Key Envelope) (a : Artifacts Cert Key) :
    Except AssemblyError (Acceptor Cert Key) :=
  match P.checkTls a.tlsIdentity.certificate a.tlsIdentity.key with
  | .error e => .error (.tlsIdentityInvalid e)
  | .ok () => .ok ⟨a.tlsIdentity, a.trustPool⟩

def bytesText (b : Bytes) : String :=
  "[" ++ String.intercalate ", " (b.map fun x => toString x.toNat) ++ "]"

def debugText (P : Provider Cert Key Envelope) (a : Artifacts Cert Key) : String :=
  "SecurityArtifacts \x7b server: " ++ a.server.debugText P ++ ", domain: " ++ a.domain.debugText P ++
    ", vendor_ca: " ++ a.vendorCa.debugText P ++ ", vouchers: \x7b" ++
    String.intercalate ", " (a.vouchers.entries.map fun entry =>
      Text.quoted entry.1 ++ ": " ++ bytesText entry.2) ++
    "\x7d, tls: " ++ a.tlsIdentity.debugText P ++ ", trust_pool: " ++ a.trustPool.debugText P ++ " \x7d"

end Artifacts

end BootstrapVoucher
