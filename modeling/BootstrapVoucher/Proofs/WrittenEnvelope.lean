import BootstrapVoucher.Proofs.DateAndTime
import BootstrapVoucher.Proofs.Outcome
import BootstrapVoucher.Proofs.WrittenCertificate
import BootstrapVoucher.StandardProvider

/-!
# Written envelopes

A new envelope holds its content as it is, at a place of its own. With any other content of the same
length in that place it is an envelope still: it holds the other content, and its signer states the
digest of the content that was signed.
-/

namespace BootstrapVoucher.Proofs

open Asn1 X509 SignedData

/-! ### Places for contents -/

/-- What is written around contents of one size does not depend on them. -/
def HasPlace (size : Nat) (write : Bytes → Bytes) : Prop :=
  ∃ before after, ∀ content, content.length = size → write content = before ++ content ++ after

lemma HasPlace.element {size : Nat} {write : Bytes → Bytes} (h : HasPlace size write)
    (first : UInt8) (left right : List Bytes) :
    HasPlace size fun content => Write.element first (left ++ write content :: right).flatten := by
  obtain ⟨before, after, split⟩ := h
  let total := left.flatten.length + (before.length + size + after.length) + right.flatten.length
  refine ⟨first :: Write.length total ++ left.flatten ++ before, after ++ right.flatten, ?_⟩
  intro content hcontent
  have length : (left ++ write content :: right).flatten.length = total := by
    simp only [List.flatten_append, List.flatten_cons, List.length_append, split content hcontent,
      hcontent, total]
    omega
  beta_reduce
  rw [Write.element, length]
  simp only [List.flatten_append, List.flatten_cons, split content hcontent, List.append_assoc,
    List.cons_append]

lemma hasPlace_octets (size : Nat) : HasPlace size Write.octets := by
  refine ⟨4 :: Write.length size, [], fun content hcontent => ?_⟩
  rw [Write.octets, Write.element, hcontent, List.append_nil]

/-! ### Small parts -/

lemma isWritable_of_bounds {top second : Nat} {rest : List Nat}
    (h : top ≤ 2 ∧ (second < 40 ∨ top = 2)) : IsWritable (top :: second :: rest) := by
  have first : min ((40 * top + second) / 40) 2 = top := by omega
  have left : 40 * top + second - 40 * top = second := by omega
  rw [IsWritable, ObjectId.toBytes, ObjectId.ofBytes?, subidentifiers?_flatMap]
  simp only [first, left]

lemma field_integer (n : Int) : ∃ b, Write.integer n = Write.element 2 b ∧
    ∀ es, Fields.integer (written 2 b :: es) = some (n, es) := by
  obtain ⟨b, hb, hread⟩ := integer?_written n
  exact ⟨b, hb, fun es => field_eq_some.mpr ⟨_, rfl, rfl, hread⟩⟩

lemma set_singleton (part : Bytes) : Write.set [part] = Write.element 0x31 [part].flatten := by
  rw [Write.set, List.mergeSort_singleton]

/-- The parameters that say nothing. -/
def noParameters : AnyValue := written 5 []

lemma denotes_algorithm_null {id : ObjectId} (hid : IsWritable id)
    (short : Short (Write.sequence [Write.objectId id, Write.null])) :
    Denotes AlgorithmId.read? (Write.sequence [Write.objectId id, Write.null])
      ⟨id, some noParameters⟩ := by
  have parts : Short [Write.objectId id, Write.null].flatten := short_content short
  have first := isElement_part (show IsFirst 6 by decide) List.mem_cons_self parts
  have last := isElement_part (show IsFirst 5 by decide)
    (List.mem_cons_of_mem _ List.mem_cons_self) parts
  apply denotes_sequence parts (.cons first (.cons last .nil))
  refine bind_fields_eq_some.mpr ⟨id, _, field_objectId hid _, ?_⟩
  exact bind_fields_eq_some.mpr ⟨some noParameters, [], rfl, rfl⟩

lemma denotes_algorithm_bare {id : ObjectId} (hid : IsWritable id)
    (short : Short (Write.sequence [Write.objectId id])) :
    Denotes AlgorithmId.read? (Write.sequence [Write.objectId id]) ⟨id, none⟩ := by
  have parts : Short [Write.objectId id].flatten := short_content short
  have first := isElement_part (show IsFirst 6 by decide) List.mem_cons_self parts
  apply denotes_sequence parts (.cons first .nil)
  exact bind_fields_eq_some.mpr ⟨id, _, field_objectId hid _, rfl⟩

/-- Whatever the key, its signatures come with an algorithm that is read. -/
lemma denotes_signDigest {key : PrivateKey} {digest algorithm signature : Bytes}
    (h : signDigest key digest = .ok (algorithm, signature)) (short : Short algorithm) :
    ∃ a, Denotes AlgorithmId.read? algorithm a := by
  unfold signDigest at h
  split at h
  · split at h
    · cases h
      exact ⟨_, denotes_algorithm_null (isWritable_of_bounds (by decide)) short⟩
    · cases h
  · split at h
    · cases h
      exact ⟨_, denotes_algorithm_bare (isWritable_of_bounds (by decide)) short⟩
    · cases h
  · cases h
  · cases h

/-! ### Signed attributes -/

/-- An attribute with one value, of which the first byte and the content are given. -/
structure SingleAttribute where
  id : ObjectId
  first : UInt8
  content : Bytes

namespace SingleAttribute

def bytes (a : SingleAttribute) : Bytes := writeAttribute a.id (Write.element a.first a.content)

def value (a : SingleAttribute) : SignedAttribute := ⟨a.id, [written a.first a.content]⟩

/-- The attribute is read again from its bytes. -/
structure IsReadable (a : SingleAttribute) : Prop where
  writable : IsWritable a.id
  first : IsFirst a.first
  readable : ((written a.first a.content).value?).isSome = true

end SingleAttribute

lemma denotes_singleAttribute {a : SingleAttribute} (ha : a.IsReadable) (short : Short a.bytes) :
    Denotes SignedAttribute.read? a.bytes a.value := by
  unfold SingleAttribute.bytes writeAttribute at short ⊢
  rw [set_singleton] at short ⊢
  have parts := short_content short
  have first := isElement_part (show IsFirst 6 by decide) List.mem_cons_self parts
  have last := isElement_part (show IsFirst 0x31 by decide)
    (List.mem_cons_of_mem _ List.mem_cons_self) parts
  have values : Short [Write.element a.first a.content].flatten :=
    short_content (short_of_mem_flatten (List.mem_cons_of_mem _ List.mem_cons_self) parts)
  have value := isElement_part ha.first List.mem_cons_self values
  obtain ⟨b, hb⟩ := Option.isSome_iff_exists.mp ha.readable
  have kept : [written a.first a.content].mapM Element.any? = some [written a.first a.content] := by
    simp [List.mapM_cons, Element.any?, hb]
  apply denotes_sequence parts (.cons first (.cons last .nil))
  refine bind_fields_eq_some.mpr ⟨a.id, _, field_objectId ha.writable _, ?_⟩
  refine bind_fields_eq_some.mpr ⟨[written a.first a.content], [], ?_, rfl⟩
  exact field_eq_some.mpr ⟨_, rfl, rfl, members?_written (.cons value .nil) kept⟩

/-- A time is written with two digits of the year, or with four. -/
lemma writeTime_eq (t : Time.Instant) : ∃ first digits, writeTime t = Write.element first digits ∧
    (first = 0x17 ∧ digits.length = 13 ∨ first = 0x18 ∧ digits.length = 15) := by
  have mark : 'Z'.utf8Size = 1 := by decide
  unfold writeTime
  simp only [ofText_ofList, List.flatMap_append, utf8_fixedDigits]
  split
  · exact ⟨0x17, _, rfl, .inl ⟨rfl, by simp [length_digitBytes, mark]⟩⟩
  · exact ⟨0x18, _, rfl, .inr ⟨rfl, by simp [length_digitBytes, mark]⟩⟩

lemma length_sha256 (b : Bytes) : (Digest.Sha2.sha256 b).length = 32 := by
  unfold Digest.Sha2.sha256 Digest.BlockHash.digest
  simp [Digest.Sha2.Width.hash, Digest.Sha2.Registers.toList, Digest.Sha2.narrow, length_ofNat]

lemma value?_octets (b : Bytes) : (written 4 b).value? = some b := by
  simp [Element.value?, written, Header.classOf, Element.text?, pieceDepth, Element.gather?,
    Element.fits]

/-- A set has its items in some order. -/
lemma set_map {α : Type} (write : α → Bytes) (items : List α) :
    ∃ sorted : List α, sorted.Perm items ∧
      Write.set (items.map write) = Write.element 0x31 (sorted.map write).flatten := by
  refine ⟨items.mergeSort fun a b => decide (write a ≤ write b), List.mergeSort_perm _ _, ?_⟩
  rw [Write.set, List.map_mergeSort]
  intro a _ b _
  rfl

/-- What a signer states: the type of the content, the time of signing and the digest. -/
def statements (first : UInt8) (digits digest : Bytes) : List SingleAttribute := [
  ⟨contentTypeId, 6, dataId.toBytes⟩, ⟨signingTimeId, first, digits⟩, ⟨messageDigestId, 4, digest⟩]

lemma length_element {first : UInt8} {content : Bytes} (h : content.length < 128) :
    (Write.element first content).length = content.length + 2 := by
  rw [Write.element, Write.length, if_pos h]
  rfl

lemma length_statement {a : SingleAttribute} (hid : a.id.toBytes.length = 9)
    (h : a.content.length < 64) : a.bytes.length = a.content.length + 17 := by
  have value : (Write.element a.first a.content).length = a.content.length + 2 :=
    length_element (by omega)
  have set : (Write.element 0x31 (Write.element a.first a.content)).length =
      a.content.length + 4 := by
    rw [length_element (by omega), value]
  have id : (Write.objectId a.id).length = 11 := by
    rw [Write.objectId, length_element (by omega), hid]
  have parts : [Write.objectId a.id,
      Write.element 0x31 [Write.element a.first a.content].flatten].flatten.length =
        a.content.length + 15 := by
    simp only [List.flatten_cons, List.flatten_nil, List.append_nil, List.length_append, id, set]
    omega
  rw [SingleAttribute.bytes, writeAttribute, set_singleton, Write.sequence,
    length_element (by omega), parts]

section Statements

variable {first : UInt8} {digits digest : Bytes}
  (htime : first = 0x17 ∧ digits.length = 13 ∨ first = 0x18 ∧ digits.length = 15)

include htime

lemma statements_readable : ∀ a ∈ statements first digits digest, a.IsReadable := by
  have hdata : (ObjectId.ofBytes? dataId.toBytes).isSome = true :=
    Option.isSome_iff_exists.mpr ⟨dataId, isWritable_of_bounds (by decide)⟩
  -- The value of a plain string is its content, if this fits the tag.
  have valued : ∀ {number b}, Element.fits number b = true →
      (do guard (Element.fits number b = true); return b : Option Bytes).isSome = true := by
    intro number b fits
    exact Option.isSome_iff_exists.mpr ⟨b, guard_bind_eq_some.mpr ⟨fits, rfl⟩⟩
  have time : IsFirst first ∧ ((written first digits).value?).isSome = true := by
    rcases htime with ⟨rfl, h⟩ | ⟨rfl, h⟩
    · have fits : Element.fits 23 digits = true := decide_eq_true h.ge
      exact ⟨by decide, valued fits⟩
    · have fits : Element.fits 24 digits = true := decide_eq_true h.ge
      exact ⟨by decide, valued fits⟩
  intro a ha
  simp only [statements, List.mem_cons, List.not_mem_nil, or_false] at ha
  rcases ha with rfl | rfl | rfl
  · exact ⟨isWritable_of_bounds (by decide), show IsFirst 6 by decide, valued hdata⟩
  · exact ⟨isWritable_of_bounds (by decide), time.1, time.2⟩
  · exact ⟨isWritable_of_bounds (by decide), show IsFirst 4 by decide,
      Option.isSome_iff_exists.mpr ⟨digest, value?_octets digest⟩⟩

lemma length_statements {sorted : List SingleAttribute}
    (h : sorted.Perm (statements first digits digest)) (hdigest : digest.length = 32) :
    (sorted.map SingleAttribute.bytes).flatten.length < 128 := by
  have hids : contentTypeId.toBytes.length = 9 ∧ signingTimeId.toBytes.length = 9 ∧
      messageDigestId.toBytes.length = 9 ∧ dataId.toBytes.length = 9 := by decide +kernel
  obtain ⟨hcontentType, hsigningTime, hmessageDigest, hdata⟩ := hids
  rw [((h.map _).flatten).length_eq]
  simp only [statements, List.map_cons, List.map_nil, List.flatten_cons, List.flatten_nil,
    List.length_append, List.length_nil]
  have bound : digits.length ≤ 15 := by
    rcases htime with ⟨-, h⟩ | ⟨-, h⟩
    · omega
    · omega
  rw [length_statement hcontentType (by simp [hdata]),
    length_statement hsigningTime (show digits.length < 64 by omega),
    length_statement hmessageDigest (by simp [hdigest])]
  simp only [hdata, hdigest]
  omega

end Statements

/-! ### Signers -/

/-- The written hash algorithm of new envelopes. -/
def writtenHash : Bytes := Write.sequence [Write.objectId defaultHashId, Write.null]

lemma denotes_writtenHash (short : Short writtenHash) :
    Denotes AlgorithmId.read? writtenHash ⟨defaultHashId, some noParameters⟩ :=
  denotes_algorithm_null (isWritable_of_bounds (by decide)) short

/-- The statement of the holder of a certificate, with attributes that are written already. -/
def writeSigner (c : Certificate) (attributes algorithm signature : Bytes) : Bytes :=
  Write.sequence [
    Write.integer 1, Write.sequence [c.issuer.write, Write.integer c.serial], writtenHash,
    Write.element 0xa0 attributes, algorithm, Write.octets signature]

def signerInfo (c : Certificate) (stated : List SingleAttribute) (signature : Bytes) :
    SignerInfo where
  issuer := c.issuer
  serial := c.serial
  digestAlgorithm := ⟨defaultHashId, some noParameters⟩
  attributes := stated.map SingleAttribute.value
  signature := signature

lemma denotes_certificateId {c : Certificate} {e : Element} (hissuer : Name.read? e = some c.issuer)
    (short : Short (Write.sequence [c.issuer.write, Write.integer c.serial])) :
    Denotes readCertificateId? (Write.sequence [c.issuer.write, Write.integer c.serial])
      (c.issuer, c.serial) := by
  obtain ⟨b, hb, serial⟩ := field_integer c.serial
  rw [hb] at short ⊢
  have parts : Short [c.issuer.write, Write.element 2 b].flatten := short_content short
  have shortIssuer : Short c.issuer.write := short_of_mem_flatten List.mem_cons_self parts
  obtain ⟨name, hname, hread⟩ := denotes_name hissuer shortIssuer
  have last := isElement_part (show IsFirst 2 by decide)
    (List.mem_cons_of_mem _ List.mem_cons_self) parts
  apply denotes_sequence parts (.cons hname (.cons last .nil))
  refine bind_fields_eq_some.mpr ⟨c.issuer, _, next_eq_some.mpr ⟨_, rfl, hread⟩, ?_⟩
  exact bind_fields_eq_some.mpr ⟨c.serial, [], serial [], rfl⟩

lemma denotes_signer {c : Certificate} {e : Element} (hissuer : Name.read? e = some c.issuer)
    {stated : List SingleAttribute} (hstated : ∀ a ∈ stated, a.IsReadable)
    {algorithm signature : Bytes}
    (halgorithm : Short algorithm → ∃ a, Denotes AlgorithmId.read? algorithm a)
    (short : Short (writeSigner c (stated.map SingleAttribute.bytes).flatten algorithm signature)) :
    Denotes SignerInfo.read?
      (writeSigner c (stated.map SingleAttribute.bytes).flatten algorithm signature)
      (signerInfo c stated signature) := by
  obtain ⟨version, hversion, readVersion⟩ := field_integer 1
  unfold writeSigner at short ⊢
  rw [hversion] at short ⊢
  have parts := short_content short
  have first := isElement_part (show IsFirst 2 by decide) List.mem_cons_self parts
  have shortId : Short (Write.sequence [c.issuer.write, Write.integer c.serial]) :=
    short_of_mem_flatten (by simp) parts
  obtain ⟨id, hid, readId⟩ := denotes_certificateId hissuer shortId
  have shortHash : Short writtenHash := short_of_mem_flatten (by simp) parts
  obtain ⟨hash, hhash, readHash⟩ := denotes_writtenHash shortHash
  have shortAttributes : Short (Write.element 0xa0 (stated.map SingleAttribute.bytes).flatten) :=
    short_of_mem_flatten (by simp) parts
  have shortItems := short_content shortAttributes
  have items : ∀ a ∈ stated, Denotes SignedAttribute.read? a.bytes a.value := by
    intro a ha
    exact denotes_singleAttribute (hstated a ha)
      (short_of_mem_flatten (List.mem_map_of_mem ha) shortItems)
  obtain ⟨es, hes, readItems⟩ := elements_of_denotes items
  have attributes := isElement_write (show IsFirst 0xa0 by decide) shortItems
  have shortAlgorithm : Short algorithm := short_of_mem_flatten (by simp) parts
  obtain ⟨a, algorithmElement, halgorithm, readAlgorithm⟩ := halgorithm shortAlgorithm
  have last : IsElement (Write.octets signature) (written 4 signature) :=
    isElement_part (by decide) (by simp [Write.octets]) parts
  apply denotes_sequence parts
    (.cons first (.cons hid (.cons hhash (.cons attributes (.cons halgorithm (.cons last .nil))))))
  refine bind_fields_eq_some.mpr ⟨1, _, readVersion _, ?_⟩
  refine bind_fields_eq_some.mpr ⟨(c.issuer, c.serial), _, next_eq_some.mpr ⟨_, rfl, readId⟩, ?_⟩
  refine bind_fields_eq_some.mpr ⟨_, _, next_eq_some.mpr ⟨_, rfl, readHash⟩, ?_⟩
  refine bind_fields_eq_some.mpr ⟨some (stated.map SingleAttribute.value), _,
    optional_present (List.mem_singleton.mpr rfl) (members?_written hes readItems), ?_⟩
  refine bind_fields_eq_some.mpr ⟨a, _, next_eq_some.mpr ⟨_, rfl, readAlgorithm⟩, ?_⟩
  refine bind_fields_eq_some.mpr ⟨signature, [], field_eq_some.mpr ⟨_, rfl, rfl, rfl⟩, ?_⟩
  exact bind_fields_eq_some.mpr ⟨none, [], rfl, rfl⟩

/-! ### Envelopes -/

/-- Signed data with one certificate and one signer, who need not have signed the content. -/
def writeSignedData (der signer content : Bytes) : Bytes :=
  Write.sequence [
    Write.integer 1, Write.set [writtenHash],
    Write.sequence [Write.objectId dataId, Write.wrapped 0 [Write.octets content]],
    Write.wrapped 0 [der], Write.set [signer]]

def writeEnvelope (der signer content : Bytes) : Bytes :=
  Write.sequence [Write.objectId signedId, Write.wrapped 0 [writeSignedData der signer content]]

lemma hasPlace_envelope (der signer : Bytes) (size : Nat) :
    HasPlace size (writeEnvelope der signer) := by
  have octets := (hasPlace_octets size).element 0xa0 [] []
  have content := octets.element 0x30 [Write.objectId dataId] []
  have signed := content.element 0x30 [Write.integer 1, Write.set [writtenHash]]
    [Write.wrapped 0 [der], Write.set [signer]]
  exact (signed.element 0xa0 [] []).element 0x30 [Write.objectId signedId] []

lemma readContent?_succ (depth : Nat) : readContent? (depth + 1) = Fields.sequence? do
    let id ← Fields.objectId
    let content ← Fields.optional [.context 0] (·.wrapped? (readContent?.readTyped? depth id))
    return (id, content) := by
  funext e
  rw [readContent?]

lemma readTyped?_signed (depth : Nat) :
    readContent?.readTyped? depth signedId = Fields.sequence? do
      let _ ← Fields.integer
      let digestAlgorithms ← Fields.field .set (·.members? AlgorithmId.read?)
      let (_, content) ← Fields.next (readContent? depth)
      let certificates ← Fields.optional [.context 0] (·.members? Certificate.read?)
      let _ ← Fields.optional [.context 1] (·.members? readRevocations?)
      let signers ← Fields.field .set (·.members? SignerInfo.read?)
      return .signed {
        digestAlgorithms, content := content.map (·.signedBytes),
        certificates := certificates.getD [], signers } := by
  funext e
  rw [readContent?.readTyped?, if_neg (by decide), if_pos rfl]

lemma denotes_wrapped {α : Type} {read : Element → Option α} {b : Bytes} {a : α}
    (h : Short b → Denotes read b a) (short : Short (Write.wrapped 0 [b])) :
    ∃ e, IsElement (Write.wrapped 0 [b]) e ∧ e.tag = .context 0 ∧ e.wrapped? read = some a ∧
      e.members? read = some [a] := by
  have content := short_content short
  obtain ⟨inner, hinner, hread⟩ := h (short_of_mem_flatten List.mem_cons_self content)
  refine ⟨written 0xa0 [b].flatten, isElement_write (by decide) content, rfl, ?_, ?_⟩
  · exact (wrapped?_written rfl hinner).trans hread
  · exact members?_written (.cons hinner .nil) (by simp [List.mapM_cons, hread])

lemma denotes_set {α : Type} {read : Element → Option α} {b : Bytes} {a : α}
    (h : Short b → Denotes read b a) (short : Short (Write.set [b])) :
    ∃ e, IsElement (Write.set [b]) e ∧ e.tag = .set ∧ e.members? read = some [a] := by
  rw [set_singleton] at short ⊢
  have content := short_content short
  obtain ⟨inner, hinner, hread⟩ := h (short_of_mem_flatten List.mem_cons_self content)
  refine ⟨_, isElement_write (by decide) content, rfl, ?_⟩
  exact members?_written (.cons hinner .nil) (by simp [List.mapM_cons, hread])

lemma denotes_content {depth : Nat} {id : ObjectId} (hid : IsWritable id) {inner : Bytes}
    {content : Content}
    (h : Short inner → Denotes (readContent?.readTyped? depth id) inner content)
    (short : Short (Write.sequence [Write.objectId id, Write.wrapped 0 [inner]])) :
    Denotes (readContent? (depth + 1)) (Write.sequence [Write.objectId id, Write.wrapped 0 [inner]])
      (id, some content) := by
  have parts : Short [Write.objectId id, Write.wrapped 0 [inner]].flatten := short_content short
  obtain ⟨e, he, tag, opened, -⟩ := denotes_wrapped h (short_of_mem_flatten (by simp) parts)
  have first := isElement_part (show IsFirst 6 by decide) List.mem_cons_self parts
  rw [readContent?_succ]
  apply denotes_sequence parts (.cons first (.cons he .nil))
  refine bind_fields_eq_some.mpr ⟨id, _, field_objectId hid _, ?_⟩
  exact bind_fields_eq_some.mpr ⟨some content, [],
    optional_present (List.mem_singleton.mpr tag) opened, rfl⟩

lemma denotes_data (depth : Nat) {b : Bytes} (short : Short (Write.octets b)) :
    Denotes (readContent?.readTyped? depth dataId) (Write.octets b) (.data b) := by
  refine ⟨written 4 b, isElement_write (by decide) (short_content short), ?_⟩
  rw [readContent?.readTyped?, if_pos rfl]
  rfl

/-- The envelope that is read from what is written. -/
def envelopeWith (c : Certificate) (info : SignerInfo) (content : Bytes) : Envelope where
  digestAlgorithms := [⟨defaultHashId, some noParameters⟩]
  content := some content
  certificates := [c]
  signers := [info]

lemma denotes_signedData (depth : Nat) {c : Certificate} {e : Element}
    (hc : Certificate.read? e = some c) {signer : Bytes} {info : SignerInfo}
    (hsigner : Short signer → Denotes SignerInfo.read? signer info) {content : Bytes}
    (short : Short (writeSignedData c.der signer content)) :
    Denotes (readContent?.readTyped? (depth + 1) signedId) (writeSignedData c.der signer content)
      (.signed (envelopeWith c info content)) := by
  obtain ⟨version, hversion, readVersion⟩ := field_integer 1
  unfold writeSignedData at short ⊢
  rw [hversion] at short ⊢
  have parts := short_content short
  have first := isElement_part (show IsFirst 2 by decide) List.mem_cons_self parts
  obtain ⟨hashes, hhashes, tagHashes, readHashes⟩ :=
    denotes_set denotes_writtenHash (short_of_mem_flatten (by simp) parts)
  have shortData : Short (Write.sequence [Write.objectId dataId,
      Write.wrapped 0 [Write.octets content]]) := short_of_mem_flatten (by simp) parts
  obtain ⟨data, hdata, readData⟩ :=
    denotes_content (isWritable_of_bounds (by decide)) (denotes_data depth) shortData
  obtain ⟨certificates, hcertificates, tagCertificates, -, readCertificates⟩ :=
    denotes_wrapped (denotes_certificate hc) (short_of_mem_flatten (by simp) parts)
  obtain ⟨signers, hsigners, tagSigners, readSigners⟩ :=
    denotes_set hsigner (short_of_mem_flatten (by simp) parts)
  have revoked : signers.tag ∉ [Tag.context 1] := by
    rw [tagSigners]
    decide
  rw [readTyped?_signed]
  apply denotes_sequence parts
    (.cons first (.cons hhashes (.cons hdata (.cons hcertificates (.cons hsigners .nil)))))
  refine bind_fields_eq_some.mpr ⟨1, _, readVersion _, ?_⟩
  refine bind_fields_eq_some.mpr ⟨_, _, field_eq_some.mpr ⟨_, rfl, tagHashes, readHashes⟩, ?_⟩
  refine bind_fields_eq_some.mpr ⟨_, _, next_eq_some.mpr ⟨_, rfl, readData⟩, ?_⟩
  refine bind_fields_eq_some.mpr ⟨some [c], _,
    optional_present (List.mem_singleton.mpr tagCertificates) readCertificates, ?_⟩
  refine bind_fields_eq_some.mpr ⟨_, _, optional_absent revoked, ?_⟩
  exact bind_fields_eq_some.mpr
    ⟨[info], [], field_eq_some.mpr ⟨_, rfl, tagSigners, readSigners⟩, rfl⟩

lemma ofBytes_writeEnvelope {c : Certificate} {e : Element} (hc : Certificate.read? e = some c)
    {signer : Bytes} {info : SignerInfo}
    (hsigner : Short signer → Denotes SignerInfo.read? signer info)
    {content : Bytes} (short : Short (writeEnvelope c.der signer content)) :
    Envelope.ofBytes (writeEnvelope c.der signer content) =
      .ok (some (envelopeWith c info content)) := by
  have denotes : Denotes (readContent? nestingLimit) (writeEnvelope c.der signer content)
      (signedId, some (.signed (envelopeWith c info content))) :=
    denotes_content (isWritable_of_bounds (by decide)) (denotes_signedData 28 hc hsigner) short
  obtain ⟨whole, hwhole, hread⟩ := denotes
  have read : readWith? (readContent? nestingLimit) (writeEnvelope c.der signer content) =
      some (signedId, some (.signed (envelopeWith c info content))) := by
    have alone := hwhole.read []
    rw [List.append_nil] at alone
    simp [readWith?, alone, hread]
  rw [Envelope.ofBytes, read]

/-! ### What is signed -/

/-- Signing is the signing of some digest: the statements about the content are put in some order,
and the rest is written around it. -/
lemma sign_eq (now : Time.Instant) (c : Certificate) (key : PrivateKey) (content : Bytes) :
    ∃ (first : UInt8) (digits : Bytes) (stated : List SingleAttribute) (digest : Bytes),
      stated.Perm (statements first digits (defaultHash.digest content)) ∧
      (∀ a ∈ stated, a.IsReadable) ∧ (stated.map SingleAttribute.bytes).flatten.length < 128 ∧
      SignedData.sign now c key content =
        (signDigest key (defaultHash.digest digest)).map fun signed => writeEnvelope c.der
          (writeSigner c (stated.map SingleAttribute.bytes).flatten signed.1 signed.2) content := by
  obtain ⟨first, digits, htime, digitsFit⟩ := writeTime_eq now
  obtain ⟨stated, sorted, hset⟩ :=
    set_map SingleAttribute.bytes (statements first digits (defaultHash.digest content))
  have small := length_statements digitsFit sorted (length_sha256 content)
  have written : Write.set [writeAttribute contentTypeId (Write.objectId dataId),
      writeAttribute signingTimeId (writeTime now),
      writeAttribute messageDigestId (Write.octets (defaultHash.digest content))] =
        Write.element 0x31 (stated.map SingleAttribute.bytes).flatten := by
    rw [htime]
    exact hset
  -- A length below 128 takes a single byte, so what is behind two bytes is the content.
  have bare : ((Write.element 0x31 (stated.map SingleAttribute.bytes).flatten).drop 1).drop
      (Write.length 0).length = (stated.map SingleAttribute.bytes).flatten := by
    have oneByte : Write.length (stated.map SingleAttribute.bytes).flatten.length =
        [UInt8.ofNat (stated.map SingleAttribute.bytes).flatten.length] := if_pos small
    rw [Write.element, oneByte]
    rfl
  refine ⟨first, digits, stated, Write.element 0x31 (stated.map SingleAttribute.bytes).flatten,
    sorted, ?_, small, ?_⟩
  · intro a ha
    exact statements_readable digitsFit a (sorted.mem_iff.mp ha)
  · unfold SignedData.sign
    simp only [written, bare]
    cases signDigest key
        (defaultHash.digest (Write.element 0x31 (stated.map SingleAttribute.bytes).flatten)) with
    | error failure => rfl
    | ok signed => rfl

lemma statedDigest?_signerInfo {c : Certificate} {first : UInt8} {digits digest signature : Bytes}
    {stated : List SingleAttribute} (h : stated.Perm (statements first digits digest)) :
    (signerInfo c stated signature).statedDigest? = some digest := by
  let item : SingleAttribute := ⟨messageDigestId, 4, digest⟩
  have listed : item ∈ stated := h.mem_iff.mpr (by simp [statements, item])
  have only : ∀ a ∈ stated, a.id = messageDigestId → a = item := by
    intro a ha hid
    have := h.mem_iff.mp ha
    simp only [statements, List.mem_cons, List.not_mem_nil, or_false] at this
    rcases this with rfl | rfl | rfl
    · exact absurd hid (show ¬contentTypeId = messageDigestId by decide)
    · exact absurd hid (show ¬signingTimeId = messageDigestId by decide)
    · rfl
  have found : (stated.map SingleAttribute.value).find? (·.id == messageDigestId) =
      some item.value := by
    cases hfind : (stated.map SingleAttribute.value).find? (·.id == messageDigestId) with
    | none =>
      have missed := List.find?_eq_none.mp hfind item.value (List.mem_map_of_mem listed)
      exact absurd (beq_self_eq_true messageDigestId) missed
    | some a =>
      obtain ⟨single, hsingle, rfl⟩ := List.mem_map.mp (List.mem_of_find?_eq_some hfind)
      have hid := List.find?_some hfind
      rw [only single hsingle (beq_iff_eq.mp hid)]
  have value : item.value.values.head? = some (written 4 digest) := rfl
  have tagged : (written 4 digest).tag = .octetString := rfl
  unfold SignerInfo.statedDigest? signerInfo
  simp only [found, Option.bind_eq_bind, Option.bind_some, value, tagged]
  exact guard_bind_eq_some.mpr ⟨trivial, value?_octets digest⟩

end BootstrapVoucher.Proofs
