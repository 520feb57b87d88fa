import BootstrapVoucher.Signing
import BootstrapVoucher.Verification
import BootstrapVoucher.StandardProvider
import BootstrapVoucher.Tool.Run
import BootstrapVoucher.Claims.PinnedCertificate
import BootstrapVoucher.SignedData.Check
import BootstrapVoucher.SignedData.Write
import BootstrapVoucher.X509.Name
import BootstrapVoucher.X509.Signature
import BootstrapVoucher.Pem
import BootstrapVoucher.Asn1.Write
import BootstrapVoucher.Rsa
import BootstrapVoucher.Curve.Named
import BootstrapVoucher.Curve.Ecdsa
import BootstrapVoucher.Curve.Edwards
import BootstrapVoucher.Curve.Montgomery
import BootstrapVoucher.Digest.Algorithm
import BootstrapVoucher.ArtifactFolder
import BootstrapVoucher.Main
import BootstrapVoucher.Proofs.SignedVoucher
import BootstrapVoucher.Proofs.Armor
import BootstrapVoucher.Proofs.Validity
import BootstrapVoucher.Proofs.Base64
import BootstrapVoucher.Proofs.CanonicalText
import BootstrapVoucher.Proofs.ChainOfTrust
import BootstrapVoucher.Proofs.Pem
import BootstrapVoucher.Proofs.PemReader
import BootstrapVoucher.Proofs.PinnedTrust
import BootstrapVoucher.Proofs.PoolHistory
import BootstrapVoucher.Proofs.JsonNumber
import BootstrapVoucher.Proofs.JsonTokens
import BootstrapVoucher.Proofs.DocumentLanguage
import BootstrapVoucher.Proofs.DocumentEquivalence
import BootstrapVoucher.Proofs.Base256
import BootstrapVoucher.Proofs.Asn1
import BootstrapVoucher.Proofs.ElementBounds
import BootstrapVoucher.Proofs.WrittenCertificate
import BootstrapVoucher.Proofs.WrittenEnvelope
import BootstrapVoucher.Proofs.TamperedVoucher
import BootstrapVoucher.Proofs.VoucherBounds
import BootstrapVoucher.Proofs.VoucherFolder
import BootstrapVoucher.Proofs.AssembledIdentities
import BootstrapVoucher.Proofs.FileTree
import BootstrapVoucher.Proofs.SignedContent
import BootstrapVoucher.Proofs.SignedFolder
import BootstrapVoucher.Proofs.ArmoredText
import BootstrapVoucher.Proofs.BodyFault
import BootstrapVoucher.Proofs.WrappedBase64
import BootstrapVoucher.Proofs.KeySecrecy
import BootstrapVoucher.Proofs.LoadedFolder
import BootstrapVoucher.Proofs.WrittenFiles
import BootstrapVoucher.Proofs.TimeLine
import BootstrapVoucher.Proofs.Lifetime
import BootstrapVoucher.Proofs.VoucherLife
import BootstrapVoucher.Proofs.RejectionLog
import BootstrapVoucher.Proofs.SameInstants
import BootstrapVoucher.Proofs.WrittenText
import BootstrapVoucher.Proofs.PrintedDocument
