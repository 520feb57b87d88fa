import BootstrapVoucher.X509.Certificate

/-!
# What TLS accepts

A server may present a certificate whose key and, unless the certificate is signed with its own key,
whose signature have 112 bits of security at least. Whether it has expired or is signed properly does
not matter here.
-/

namespace BootstrapVoucher.X509

namespace PublicKey

/-- Whether TLS has signatures by keys of the kind. -/
def isForTls : PublicKey → Bool
  | rsa _ | maskedRsa _ | ellipticCurve _ _ => true
  | octets kind _ => kind == .ed25519 || kind == .ed448

end PublicKey

/-- Whether a private key belongs to the public key of a certificate. -/
def Certificate.isOwnedBy (c : Certificate) (key : PrivateKey) : Bool :=
  c.publicKey? == some key.publicKey

def tlsStrength : Nat := 112

/-- Succeeds if a server may present a certificate with a key. -/
def checkTls (c : Certificate) (key : PrivateKey) : Except Failure Unit :=
  match c.publicKey? with
  | none => .error .shortKey
  | some publicKey =>
    if !publicKey.isStrong then .error .shortKey
    else if !c.isSelfSigned ∧ !(c.outerAlgorithm.strength?).any (tlsStrength ≤ ·) then
      .error .weakHash
    else if !publicKey.isForTls then .error .unknownKey
    else if !c.isOwnedBy key then .error .keyMismatch
    else .ok ()

end BootstrapVoucher.X509
