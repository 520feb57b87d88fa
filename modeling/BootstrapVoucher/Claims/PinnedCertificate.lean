import BootstrapVoucher.Claims.Basic
import BootstrapVoucher.Provider

/-!
# The pinned certificate

The certificate that claims pin, as a certificate. Claims can be valid although what they pin is none.
-/

namespace BootstrapVoucher.Claims

variable {Cert Key Envelope : Type}

def pinnedCertificate (P : Provider Cert Key Envelope) (c : Claims) : Except FormatError Cert := do
  let der ← (Armor.decodeBody c.pinnedDomainCert).mapError fun fault => .pemError fault.message
  (P.certificateOfDer der).mapError .pemError

end BootstrapVoucher.Claims
