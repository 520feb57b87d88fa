import BootstrapVoucher.Bytes
import BootstrapVoucher.Time.Instant

/-!
# The cryptographic provider

Certificates, private keys and signed-data envelopes are used only through the operations of a
provider. The library is written for any provider, so its laws hold whatever the operations answer;
an operation that fails gives the text of its reason.
-/

namespace BootstrapVoucher

open Time

/-- The kind of a private key, as far as signing is concerned. -/
inductive KeyKind
  | rsa
  | ellipticCurve
  /-- A kind that cannot sign vouchers, with its registered number. -/
  | other (number : Nat)
deriving DecidableEq, Repr

/-- What comes of the search for a chain of certificates. -/
inductive ChainVerdict
  | accepted
  | rejected (reason : String)
  /-- The search had to be given up. -/
  | failed (reason : String)
deriving DecidableEq, Repr

/-- What the library needs to know of certificates, keys and envelopes. -/
structure Provider (Cert Key Envelope : Type) where
  /-- The first certificate of a PEM text. -/
  readCertificate : Bytes → Except String Cert
  /-- All certificates of a PEM text, which may have none. -/
  readCertificates : Bytes → Except String (List Cert)
  /-- The first private key of a PEM text. -/
  readKey : Bytes → Except String Key
  /-- The certificate with which a DER text starts. -/
  certificateOfDer : Bytes → Except String Cert
  /-- The DER text of a certificate. -/
  der : Cert → Bytes
  /-- The PEM text of a certificate, if it can be written. -/
  pem : Cert → Except String Bytes
  /-- The name of the holder of a certificate. -/
  subject : Cert → String
  /-- A short text that tells certificates apart. -/
  fingerprint : Cert → String
  /-- The kind of a key. -/
  keyKind : Key → KeyKind
  /-- Whether the private key belongs to the public key of the certificate. -/
  owns : Cert → Key → Bool
  /-- Whether a TLS server may present the certificate with the key. -/
  checkTls : Cert → Key → Except String Unit
  /-- An envelope made at an instant that holds the content and the certificate, signed by the
  key. -/
  sign : Instant → Cert → Key → Bytes → Except String Bytes
  /-- Reads an envelope; there is none if the text is one of another content type. -/
  openEnvelope : Bytes → Except String (Option Envelope)
  /-- The certificates that an envelope carries. -/
  certificates : Envelope → List Cert
  /-- The certificates of the signers of an envelope, found among the given ones. -/
  locateSigners : Envelope → List Cert → Except String (List Cert)
  /-- Whether a chain leads from the signer's certificate to one of the anchors, with the help of
  the untrusted certificates. -/
  checkChain : (anchors untrusted : List Cert) → (signer : Cert) → ChainVerdict
  /-- The content of an envelope, once all its signatures have been checked with the given
  certificates. -/
  authenticate : Envelope → List Cert → Except String Bytes

end BootstrapVoucher
