import BootstrapVoucher.KeyPair

/-!
# Trust pools

A trust pool is the set of certificates that are accepted as ends of a chain. It keeps the order in
which they were first added, and holds each of them once.
-/

namespace BootstrapVoucher

variable {Cert Key Envelope : Type}

/-- Certificates without repetition, in the order in which they were added. -/
structure TrustPool (Cert : Type) where
  certificates : List Cert
  nodup : certificates.Nodup

namespace TrustPool

def empty : TrustPool Cert := ⟨[], List.nodup_nil⟩

def size (pool : TrustPool Cert) : Nat := pool.certificates.length

def isEmpty (pool : TrustPool Cert) : Bool := pool.certificates.isEmpty

variable [DecidableEq Cert]

def contains (pool : TrustPool Cert) (certificate : Cert) : Bool :=
  decide (certificate ∈ pool.certificates)

/-- Adds a certificate that is not there yet, and tells whether it is new to the pool. -/
def offer (pool : TrustPool Cert) (certificate : Cert) : Bool × TrustPool Cert :=
  if h : certificate ∈ pool.certificates then (false, pool)
  else (true,
    { certificates := pool.certificates ++ [certificate]
      nodup := by
        rw [List.nodup_append]
        refine ⟨pool.nodup, by simp, ?_⟩
        intro a ha b hb
        rw [List.mem_singleton] at hb
        rintro rfl
        exact h (hb ▸ ha) })

/-- The pool with a certificate added. -/
def add (pool : TrustPool Cert) (certificate : Cert) : TrustPool Cert := (pool.offer certificate).2

/-- Adds certificates one after the other, and counts those that are new. -/
def offerAll (pool : TrustPool Cert) : List Cert → Nat × TrustPool Cert
  | [] => (0, pool)
  | certificate :: rest =>
    let (isNew, next) := pool.offer certificate
    let (count, last) := next.offerAll rest
    (count + isNew.toNat, last)

/-- Adds the certificates of a PEM bundle, and counts those that are new. -/
def offerPem (P : Provider Cert Key Envelope) (pool : TrustPool Cert) (bundle : Bytes) :
    Except AssemblyError (Nat × TrustPool Cert) := do
  let certificates ← (P.readCertificates bundle).mapError AssemblyError.syntaxError
  return pool.offerAll certificates

/-- The pool of the certificates of a PEM bundle, which must have one at least. -/
def ofPem (P : Provider Cert Key Envelope) (bundle : Bytes) :
    Except AssemblyError (TrustPool Cert) := do
  let (count, pool) ← empty.offerPem P bundle
  if count = 0 then .error (.trustPoolEmpty "no certificate found in PEM input")
  return pool

omit [DecidableEq Cert] in
def debugText (P : Provider Cert Key Envelope) (pool : TrustPool Cert) : String :=
  "[" ++ String.intercalate ", " (pool.certificates.map fun c => Text.quoted (P.fingerprint c)) ++ "]"

end TrustPool

end BootstrapVoucher
