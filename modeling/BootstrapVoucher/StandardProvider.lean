import BootstrapVoucher.Provider
import BootstrapVoucher.SignedData.Check
import BootstrapVoucher.SignedData.Write
import BootstrapVoucher.X509.Chain
import BootstrapVoucher.X509.Tls

/-!
# The standard provider

Certificates, keys and envelopes as the common standards define them.
-/

namespace BootstrapVoucher

open X509 SignedData

def describe {α : Type} (x : Except Failure α) : Except String α := x.mapError Failure.message

def kindOf : PrivateKey → KeyKind
  | .rsa _ => .rsa
  | .ellipticCurve _ _ _ => .ellipticCurve
  | .maskedRsa _ => .other 912
  | .octets kind _ => .other kind.number

def verdictText : Verdict → ChainVerdict
  | .accepted => .accepted
  | .rejected reason => .rejected reason.message
  | .failed failure => .failed failure.message

/-- The provider for certificates, keys and signed-data envelopes of the common standards. -/
def standardProvider : Provider Certificate PrivateKey Envelope where
  readCertificate text := describe (Certificate.ofPem text)
  readCertificates text := describe (Certificate.allOfPem text)
  readKey text := describe (PrivateKey.ofPem text)
  certificateOfDer b := describe (Certificate.ofBytes b)
  der := Certificate.der
  pem c := .ok (Bytes.ofText (Pem.write "CERTIFICATE" c.der))
  subject c := c.subject.text
  fingerprint c := Bytes.toHex (Digest.Sha2.sha256 c.der)
  keyKind := kindOf
  owns := Certificate.isOwnedBy
  checkTls c key := describe (X509.checkTls c key)
  sign now c key content := describe (SignedData.sign now c key content)
  openEnvelope b := describe (Envelope.ofBytes b)
  certificates := Envelope.certificates
  locateSigners envelope certificates := describe (envelope.locateSigners certificates)
  checkChain anchors untrusted signer := verdictText (Chain.verify anchors untrusted signer)
  authenticate envelope certificates := describe (envelope.authenticate certificates)

end BootstrapVoucher
