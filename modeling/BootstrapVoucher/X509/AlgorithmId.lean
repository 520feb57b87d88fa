import BootstrapVoucher.Asn1.Write
import BootstrapVoucher.Rsa

/-!
# Algorithms

How an algorithm is named, together with its parameters: by an object identifier. The parameters of
masked RSA signatures name further algorithms.
-/

namespace BootstrapVoucher.X509

open Asn1
open Digest (Algorithm)

/-- An algorithm with its parameters. -/
structure AlgorithmId where
  id : ObjectId
  parameters : Option AnyValue
deriving DecidableEq, Repr

namespace AlgorithmId

def read? : Element → Option AlgorithmId :=
  Fields.sequence? do
    let id ← Fields.objectId
    let parameters ← Fields.rest? Element.any?
    return ⟨id, parameters⟩

def write (a : AlgorithmId) : Bytes :=
  Write.sequence (Write.objectId a.id :: (a.parameters.map Element.bytes).toList)

/-- Whether two algorithms are the same, with the same parameters. -/
def sameAs (a b : AlgorithmId) : Bool :=
  a.id == b.id && (a.parameters.map fun e => (e.tag, e.content)) ==
    (b.parameters.map fun e => (e.tag, e.content))

end AlgorithmId

def hashIds : List (ObjectId × Algorithm) := [
  ([1, 2, 840, 113549, 2, 5], .md5),
  ([1, 3, 14, 3, 2, 26], .sha1),
  ([2, 16, 840, 1, 101, 3, 4, 2, 4], .sha224),
  ([2, 16, 840, 1, 101, 3, 4, 2, 1], .sha256),
  ([2, 16, 840, 1, 101, 3, 4, 2, 2], .sha384),
  ([2, 16, 840, 1, 101, 3, 4, 2, 3], .sha512),
  ([2, 16, 840, 1, 101, 3, 4, 2, 5], .sha512Short224),
  ([2, 16, 840, 1, 101, 3, 4, 2, 6], .sha512Short256),
  ([2, 16, 840, 1, 101, 3, 4, 2, 7], .sha3x224),
  ([2, 16, 840, 1, 101, 3, 4, 2, 8], .sha3x256),
  ([2, 16, 840, 1, 101, 3, 4, 2, 9], .sha3x384),
  ([2, 16, 840, 1, 101, 3, 4, 2, 10], .sha3x512)]

/-- The object identifiers of hashes with which nothing here is signed. -/
def furtherHashIds : List ObjectId := [
  [1, 3, 36, 3, 2, 1], [1, 2, 156, 10197, 1, 401], [2, 16, 840, 1, 101, 3, 4, 2, 11],
  [2, 16, 840, 1, 101, 3, 4, 2, 12], [1, 3, 6, 1, 4, 1, 1722, 12, 2, 1, 16],
  [1, 3, 6, 1, 4, 1, 1722, 12, 2, 2, 8]]

/-- The object identifiers of hashes that are no longer supported. -/
def retiredHashIds : List ObjectId :=
  [[1, 2, 840, 113549, 2, 2], [1, 2, 840, 113549, 2, 4], [2, 5, 8, 3, 101], [1, 0, 10118, 3, 0, 55]]

def readHash? (e : Element) : Option Algorithm := do
  let algorithm ← AlgorithmId.read? e
  hashIds.lookup algorithm.id

/-- The conventions for masked signatures; each has a default. -/
def readMasking? : Element → Option Rsa.Masking :=
  Fields.sequence? do
    let hash ← Fields.optional [.context 0] fun e => e.wrapped? readHash?
    let maskHash ← Fields.optional [.context 1] fun e => e.wrapped? fun e => do
      let algorithm ← AlgorithmId.read? e
      guard (algorithm.id = [1, 2, 840, 113549, 1, 1, 8])
      readHash? (← algorithm.parameters)
    let salt ← Fields.optional [.context 2] fun e => e.wrapped? fun e => do
      guard (e.tag = .integer)
      e.integer?
    let trailer ← Fields.optional [.context 3] fun e => e.wrapped? fun e => do
      guard (e.tag = .integer)
      e.integer?
    let salt := salt.getD 20
    guard (0 ≤ salt ∧ trailer.getD 1 = 1)
    return ⟨hash.getD .sha1, maskHash.getD .sha1, some salt.toNat⟩

def AlgorithmId.masking? (algorithm : AlgorithmId) : Option Rsa.Masking :=
  algorithm.parameters.bind readMasking?

end BootstrapVoucher.X509
