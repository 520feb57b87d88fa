import BootstrapVoucher.Proofs.ElementBounds
import BootstrapVoucher.X509.Certificate

/-!
# Written certificates

The distinguished form of a certificate that has been read is the certificate again, and so are the
names and the algorithms in it. Parts that were kept as they stood, such as the signed part, are
found by their own ends.
-/

namespace BootstrapVoucher.Proofs

open Asn1 X509

/-! ### The elements of a content -/

lemma read?_of_mem {fuel : Nat} {b : Bytes} {es : List Element}
    (h : Element.readAll? fuel b = some es) {e : Element} (he : e ∈ es) :
    ∃ front rest, Element.read? front = some (e, rest) := by
  induction fuel generalizing b es with
  | zero =>
    cases b with
    | nil =>
      cases h
      cases he
    | cons x b => cases h
  | succ fuel ih =>
    cases b with
    | nil =>
      cases h
      cases he
    | cons x b =>
      simp only [Element.readAll?, Option.bind_eq_bind, Option.bind_eq_some_iff, Prod.exists,
        Option.pure_def, Option.some.injEq] at h
      obtain ⟨first, rest, hfirst, others, hothers, rfl⟩ := h
      rcases List.mem_cons.mp he with rfl | he
      · exact ⟨_, rest, hfirst⟩
      · exact ih hothers he

/-- Nothing follows the last element. -/
lemma read?_of_last {fuel : Nat} {b : Bytes} {es : List Element} {last : Element}
    (h : Element.readAll? fuel b = some (es ++ [last])) :
    ∃ front, Element.read? front = some (last, []) := by
  induction fuel generalizing b es with
  | zero =>
    cases b with
    | nil => simp [Element.readAll?] at h
    | cons x b => cases h
  | succ fuel ih =>
    cases b with
    | nil => simp [Element.readAll?] at h
    | cons x b =>
      simp only [Element.readAll?, Option.bind_eq_bind, Option.bind_eq_some_iff, Prod.exists,
        Option.pure_def, Option.some.injEq] at h
      obtain ⟨first, rest, hfirst, others, hothers, h⟩ := h
      cases es with
      | nil =>
        obtain ⟨rfl, rfl⟩ := List.cons.inj h
        cases rest with
        | nil => exact ⟨_, hfirst⟩
        | cons y rest =>
          cases fuel with
          | zero => cases hothers
          | succ fuel =>
            simp [Element.readAll?, Option.bind_eq_some_iff] at hothers
      | cons e es =>
        obtain ⟨rfl, rfl⟩ := List.cons.inj h
        exact ih hothers

lemma readAll?_of_children? {e : Element} {es : List Element} (h : e.children? = some es) :
    ∃ fuel, Element.readAll? fuel e.content = some es := by
  unfold Element.children? at h
  split at h
  · exact ⟨_, h⟩
  · cases h

lemma content_ne_nil {e child : Element} {es : List Element}
    (h : e.children? = some (child :: es)) : e.content ≠ [] := by
  obtain ⟨fuel, read⟩ := readAll?_of_children? h
  intro empty
  rw [empty] at read
  cases fuel <;> cases read

lemma isElement_of_child {e child : Element} {es : List Element} (h : e.children? = some es)
    (hchild : child ∈ es) (filled : child.content ≠ []) : IsElement child.bytes child := by
  obtain ⟨fuel, read⟩ := readAll?_of_children? h
  obtain ⟨front, rest, hread⟩ := read?_of_mem read hchild
  exact (isElement_of_read? hread).2 (.inr filled)

lemma isElement_of_lastChild {e child : Element} {es : List Element}
    (h : e.children? = some (es ++ [child])) : IsElement child.bytes child := by
  obtain ⟨fuel, read⟩ := readAll?_of_children? h
  obtain ⟨front, hread⟩ := read?_of_last read
  exact (isElement_of_read? hread).2 (.inl rfl)

/-! ### Algorithms -/

/-- An object identifier that is read from its written form. -/
def IsWritable (id : ObjectId) : Prop := ObjectId.ofBytes? id.toBytes = some id

lemma isWritable_of_objectId? {e : Element} {id : ObjectId} (h : e.objectId? = some id) :
    IsWritable id := by
  obtain ⟨content, -, hid⟩ := Option.bind_eq_some_iff.mp h
  exact ofBytes?_toBytes hid

lemma field_objectId {id : ObjectId} (h : IsWritable id) (es : List Element) :
    Fields.objectId (written 6 id.toBytes :: es) = some (id, es) :=
  field_eq_some.mpr ⟨_, rfl, rfl, h⟩

lemma any?_eq_some {e value : Element} (h : e.any? = some value) :
    value = e ∧ e.any? = some e := by
  obtain ⟨b, hvalue, rfl⟩ := Option.map_eq_some_iff.mp h
  exact ⟨rfl, h⟩

/-- The elements of an algorithm are its object identifier and its parameters. -/
lemma algorithm_elements {e : Element} {a : AlgorithmId} (h : AlgorithmId.read? e = some a) :
    IsWritable a.id ∧ ∃ first, e.children? = some (first :: a.parameters.toList) ∧
      ∀ p ∈ a.parameters, p.any? = some p := by
  obtain ⟨-, es, hes, h⟩ := sequence?_eq_some.mp h
  obtain ⟨id, between, hid, h⟩ := bind_fields_eq_some.mp h
  obtain ⟨parameters, after, hparameters, h⟩ := bind_fields_eq_some.mp h
  obtain ⟨rfl, rfl⟩ := pure_fields_eq_some.mp h
  obtain ⟨first, rfl, -, hfirst⟩ := field_eq_some.mp hid
  refine ⟨isWritable_of_objectId? hfirst, first, ?_⟩
  cases between with
  | nil =>
    cases hparameters
    exact ⟨hes, by simp⟩
  | cons p between =>
    obtain ⟨value, hvalue, same⟩ := Option.map_eq_some_iff.mp hparameters
    cases same
    obtain ⟨rfl, again⟩ := any?_eq_some hvalue
    exact ⟨hes, by simpa using again⟩

lemma denotes_algorithm {e : Element} {a : AlgorithmId} (h : AlgorithmId.read? e = some a)
    (short : Short a.write) : Denotes AlgorithmId.read? a.write a := by
  obtain ⟨hid, first, hchildren, hparameters⟩ := algorithm_elements h
  have parts : Short (Write.objectId a.id :: (a.parameters.map Element.bytes).toList).flatten :=
    short_content short
  have id := isElement_part (show IsFirst 6 by decide) List.mem_cons_self parts
  obtain ⟨id', parameters⟩ := a
  cases parameters with
  | none =>
    apply denotes_sequence parts (.cons id .nil)
    exact bind_fields_eq_some.mpr ⟨_, _, field_objectId hid _, rfl⟩
  | some p =>
    have two : e.children? = some ([first] ++ [p]) := hchildren
    have last : IsElement p.bytes p := isElement_of_lastChild two
    have hp : p.any? = some p := hparameters p rfl
    apply denotes_sequence parts (.cons id (.cons last .nil))
    refine bind_fields_eq_some.mpr ⟨_, _, field_objectId hid _, ?_⟩
    refine bind_fields_eq_some.mpr ⟨some p, [], ?_, rfl⟩
    exact congrArg (Option.map fun value => (some value, [])) hp

/-! ### Names -/

lemma lift_fields_eq_some {α : Type} {x : Option α} {es rest : List Element} {a : α} :
    (liftM x : Fields α) es = some (a, rest) ↔ x = some a ∧ es = rest := by
  cases x with
  | none => simp [liftM, monadLift, MonadLift.monadLift, StateT.lift]
  | some b => simp [liftM, monadLift, MonadLift.monadLift, StateT.lift]

lemma isValueTag_bounds {number : Nat} (h : Attribute.isValueTag number = true) :
    0 < number ∧ number < 31 ∧ number ≠ 17 ∧ [1, 2, 5, 6, 10].contains number = false := by
  have listed : ∀ n ∈ [3, 7, 8, 9, 11, 12, 13, 14, 15, 16, 18, 19, 20, 22, 28, 29, 30],
      0 < n ∧ n < 31 ∧ n ≠ 17 ∧ [1, 2, 5, 6, 10].contains n = false := by decide
  exact listed number (List.contains_iff_mem.mp h)

/-- The first byte of a value in a name; sequences alone are constructed. -/
def valueFirst (number : Nat) : UInt8 := UInt8.ofNat (number + if number = 16 then 32 else 0)

lemma toNat_valueFirst {number : Nat} (h : number < 31) :
    (valueFirst number).toNat = number + if number = 16 then 32 else 0 := by
  apply toNat_digit
  split <;> omega

lemma tag_valueFirst {number : Nat} (hpos : 0 < number) (h : number < 31) (b : Bytes) :
    IsFirst (valueFirst number) ∧ (written (valueFirst number) b).tag = .universal number ∧
      (written (valueFirst number) b).constructed = decide (number = 16) := by
  have value := toNat_valueFirst h
  have low : (valueFirst number).toNat % 32 = number := by
    rw [value]
    split <;> omega
  have top : (valueFirst number).toNat / 64 = 0 := by
    rw [value]
    split <;> omega
  refine ⟨⟨?_, ?_⟩, ?_, ?_⟩
  · intro zero
    rw [zero] at low
    change 0 % 32 = number at low
    omega
  · omega
  · unfold written Header.classOf
    rw [top, low]
    rfl
  · unfold written
    rw [value]
    by_cases sixteen : number = 16
    · simp [sixteen]
    · simp only [sixteen, if_false, Nat.add_zero, decide_false, beq_eq_false_iff_ne]
      omega

/-- The value of an attribute is read again from its written form. -/
lemma value?_written {e : Element} {b : Bytes} (universal : e.tag.tagClass = .universal)
    (listed : Attribute.isValueTag e.tag.number = true) (h : e.value? = some b) :
    (written (valueFirst e.tag.number) b).value? = some b := by
  obtain ⟨hpos, hlt, hset, composed⟩ := isValueTag_bounds listed
  obtain ⟨-, htag, hconstructed⟩ := tag_valueFirst hpos hlt b
  unfold Element.value? at h ⊢
  rw [htag, hconstructed]
  by_cases sixteen : e.tag.number = 16
  · simp [sixteen, Tag.universal, written]
  · simp only [universal, sixteen, hset, composed, ne_eq, not_true_eq_false, or_self, if_false,
      Bool.false_eq_true, Option.bind_eq_bind] at h
    obtain ⟨text, -, h⟩ := Option.bind_eq_some_iff.mp h
    obtain ⟨fits, h⟩ := guard_bind_eq_some.mp h
    cases h
    have whole : (written (valueFirst e.tag.number) b).text? = some b := by
      unfold Element.text? pieceDepth Element.gather?
      rw [hconstructed, decide_eq_false sixteen]
      rfl
    simp only [Tag.universal, sixteen, hset, composed, ne_eq, not_true_eq_false, or_self, if_false,
      Bool.false_eq_true, Option.bind_eq_bind, whole, Option.bind_some]
    exact guard_bind_eq_some.mpr ⟨fits, rfl⟩

lemma denotes_attribute {e : Element} {a : Attribute} (h : Attribute.read? e = some a)
    (short : Short a.write) : Denotes Attribute.read? a.write a := by
  obtain ⟨-, es, hes, h⟩ := sequence?_eq_some.mp h
  obtain ⟨type, between, htype, h⟩ := bind_fields_eq_some.mp h
  obtain ⟨value, after, hvalue, h⟩ := bind_fields_eq_some.mp h
  obtain ⟨canonical, rest, hcanonical, h⟩ := bind_fields_eq_some.mp h
  obtain ⟨rfl, rfl⟩ := pure_fields_eq_some.mp h
  obtain ⟨written?, rfl⟩ := lift_fields_eq_some.mp hcanonical
  obtain ⟨typeElement, rfl, -, hid⟩ := field_eq_some.mp htype
  obtain ⟨element, rfl, hread⟩ := next_eq_some.mp hvalue
  obtain ⟨⟨universal, listed⟩, hread⟩ := guard_bind_eq_some.mp hread
  obtain ⟨b, hb, hread⟩ := Option.bind_eq_some_iff.mp hread
  cases hread
  have reread := value?_written universal listed hb
  obtain ⟨hpos, hlt, -, -⟩ := isValueTag_bounds listed
  obtain ⟨hfirst, htag, -⟩ := tag_valueFirst hpos hlt b
  have parts : Short
      [Write.objectId type, Write.element (valueFirst element.tag.number) b].flatten :=
    short_content short
  have first := isElement_part (show IsFirst 6 by decide) List.mem_cons_self parts
  have second := isElement_part hfirst (List.mem_cons_of_mem _ List.mem_cons_self) parts
  apply denotes_sequence parts (.cons first (.cons second .nil))
  refine bind_fields_eq_some.mpr ⟨_, _, field_objectId (isWritable_of_objectId? hid) _, ?_⟩
  refine bind_fields_eq_some.mpr ⟨(element.tag.number, b), [], next_eq_some.mpr ⟨_, rfl, ?_⟩, ?_⟩
  · rw [guard_bind_eq_some, htag, reread]
    exact ⟨⟨rfl, listed⟩, rfl⟩
  · exact bind_fields_eq_some.mpr ⟨canonical, [], lift_fields_eq_some.mpr ⟨written?, rfl⟩, rfl⟩

section Lists

variable {α : Type} {read : Element → Option α}

lemma read_of_mem {es : List Element} {values : List α} (h : es.mapM read = some values) {value : α}
    (hvalue : value ∈ values) : ∃ e, read e = some value := by
  induction es generalizing values with
  | nil =>
    cases h
    cases hvalue
  | cons e es ih =>
    simp only [List.mapM_cons, Option.bind_eq_bind, Option.bind_eq_some_iff, Option.pure_def,
      Option.some.injEq] at h
    obtain ⟨first, hfirst, others, hothers, rfl⟩ := h
    rcases List.mem_cons.mp hvalue with rfl | hvalue
    · exact ⟨e, hfirst⟩
    · exact ih hothers hvalue

lemma read_of_mem_listOf? {tag : Tag} {e : Element} {values : List α}
    (h : e.listOf? tag read = some values) {value : α} (hvalue : value ∈ values) :
    ∃ e, read e = some value := by
  obtain ⟨-, h⟩ := guard_bind_eq_some.mp h
  obtain ⟨es, -, hread⟩ := Option.bind_eq_some_iff.mp h
  exact read_of_mem hread hvalue

lemma denotes_list {first : UInt8} {write : α → Bytes} {items : List α} (hfirst : IsFirst first)
    (short : Short (items.map write).flatten) (h : ∀ item ∈ items, Denotes read (write item) item) :
    Denotes (·.listOf? ⟨Header.classOf first, first.toNat % 32⟩ read)
      (Write.element first (items.map write).flatten) items := by
  obtain ⟨es, hes, hread⟩ := elements_of_denotes h
  rw [List.map_id'] at hread
  refine ⟨_, isElement_write hfirst short, ?_⟩
  exact guard_bind_eq_some.mpr ⟨rfl, members?_written hes hread⟩

end Lists

lemma denotes_name {e : Element} {name : Name} (h : Name.read? e = some name)
    (short : Short name.write) : Denotes Name.read? name.write name := by
  obtain ⟨sets, hsets, rfl⟩ := Option.map_eq_some_iff.mp h
  let writeSet (set : List Attribute) : Bytes :=
    Write.element 0x31 (set.map Attribute.write).flatten
  have hwrite : Name.write ⟨sets⟩ = Write.element 0x30 (sets.map writeSet).flatten := by
    simp only [Name.write, Write.sequence, List.flatMap_def, writeSet]
  rw [hwrite] at short ⊢
  have parts := short_content short
  have inner : ∀ set ∈ sets, Denotes (·.listOf? .set Attribute.read?) (writeSet set) set := by
    intro set hset
    obtain ⟨setElement, hread⟩ := read_of_mem_listOf? hsets hset
    have shortSet : Short (writeSet set) := short_of_mem_flatten (List.mem_map_of_mem hset) parts
    have shortItems := short_content shortSet
    apply denotes_list (by decide) shortItems
    intro a ha
    obtain ⟨item, hitem⟩ := read_of_mem_listOf? hread ha
    exact denotes_attribute hitem (short_of_mem_flatten (List.mem_map_of_mem ha) shortItems)
  obtain ⟨again, hagain, hread⟩ := denotes_list (show IsFirst 0x30 by decide) parts inner
  exact ⟨again, hagain, congrArg (Option.map Name.mk) hread⟩

/-! ### Certificates -/

lemma ofBytes_again (unused : Nat) (b : Bytes) :
    BitString.ofBytes unused (BitString.ofBytes unused b).bytes = BitString.ofBytes unused b := by
  unfold BitString.ofBytes
  cases hlast : b.getLast? with
  | none => rfl
  | some last =>
    have value : (UInt8.ofNat (last.toNat >>> unused <<< unused)).toNat =
        last.toNat >>> unused <<< unused := by
      apply toNat_digit
      rw [Nat.shiftLeft_eq, Nat.shiftRight_eq_div_pow]
      exact lt_of_le_of_lt (Nat.div_mul_le_self _ _) last.toNat_lt
    simp only [List.getLast?_append, List.getLast?_singleton, Option.some_or, List.dropLast_concat,
      value, Nat.shiftLeft_shiftRight]

/-- A string of bits is read again from its written form. -/
lemma field_bits {e : Element} {s : BitString} (h : e.bitString? = some s) (es : List Element) :
    Fields.field .bitString Element.bitString?
      (written 3 (UInt8.ofNat s.unused :: s.bytes) :: es) = some (s, es) := by
  refine field_eq_some.mpr ⟨_, rfl, rfl, ?_⟩
  unfold Element.bitString? at h
  split at h
  · rename_i unused bytes _
    split at h
    · rename_i few
      cases h
      have keeps : (BitString.ofBytes unused.toNat bytes).unused = unused.toNat := by
        unfold BitString.ofBytes
        split <;> rfl
      have back : UInt8.ofNat unused.toNat = unused := UInt8.ofNat_toNat
      have whole : (written 3 (unused :: (BitString.ofBytes unused.toNat bytes).bytes)).text? =
          some (unused :: (BitString.ofBytes unused.toNat bytes).bytes) := rfl
      rw [keeps, back, Element.bitString?, whole]
      simp only [if_pos few, ofBytes_again]
    · cases h
  · cases h

lemma signedPart_filled {e : Element} {c : Certificate}
    (h : Certificate.readSignedPart? e = some c) : e.content ≠ [] := by
  obtain ⟨-, es, hes, h⟩ := sequence?_eq_some.mp h
  cases es with
  | nil => cases h
  | cons child es => exact content_ne_nil hes

/-- The three parts of a certificate, and what is kept of each. -/
lemma certificate_parts {e : Element} {c : Certificate} (h : Certificate.read? e = some c) :
    ∃ part algorithm bits certificate, e.children? = some [part, algorithm, bits] ∧
      Certificate.readSignedPart? part = some certificate ∧
      AlgorithmId.read? algorithm = some c.outerAlgorithm ∧ bits.bitString? = some c.signature ∧
      c = { certificate with
        der := Write.sequence [part.bytes, c.outerAlgorithm.write, Write.bits c.signature]
        signedPart := part.bytes
        outerAlgorithm := c.outerAlgorithm
        signature := c.signature } := by
  obtain ⟨-, es, hes, h⟩ := sequence?_eq_some.mp h
  obtain ⟨⟨certificate, signedPart⟩, between, hpart, h⟩ := bind_fields_eq_some.mp h
  obtain ⟨algorithm, after, halgorithm, h⟩ := bind_fields_eq_some.mp h
  obtain ⟨signature, rest, hsignature, h⟩ := bind_fields_eq_some.mp h
  obtain ⟨rfl, rfl⟩ := pure_fields_eq_some.mp h
  obtain ⟨part, rfl, hread⟩ := next_eq_some.mp hpart
  obtain ⟨signed, hsigned, same⟩ := Option.bind_eq_some_iff.mp hread
  cases same
  obtain ⟨element, rfl, hid⟩ := next_eq_some.mp halgorithm
  obtain ⟨bits, rfl, -, hbits⟩ := field_eq_some.mp hsignature
  exact ⟨part, element, bits, certificate, hes, hsigned, hid, hbits, rfl⟩

/-- A certificate that has been read is read again from its distinguished form. -/
lemma denotes_certificate {e : Element} {c : Certificate} (h : Certificate.read? e = some c)
    (short : Short c.der) : Denotes Certificate.read? c.der c := by
  obtain ⟨part, element, bits, certificate, hes, hsigned, halgorithm, hbits, hc⟩ :=
    certificate_parts h
  have der : c.der = Write.sequence [part.bytes, c.outerAlgorithm.write, Write.bits c.signature] :=
    congrArg Certificate.der hc
  rw [der] at short ⊢
  have parts : Short [part.bytes, c.outerAlgorithm.write, Write.bits c.signature].flatten :=
    short_content short
  obtain ⟨again, helement, hagain⟩ :=
    denotes_algorithm halgorithm (short_of_mem_flatten (by simp) parts)
  have first : IsElement part.bytes part :=
    isElement_of_child hes List.mem_cons_self (signedPart_filled hsigned)
  have last := isElement_part (show IsFirst 3 by decide)
    (List.mem_cons_of_mem _ (List.mem_cons_of_mem _ List.mem_cons_self)) parts
  have read : (do return (← Certificate.readSignedPart? part, part.bytes) : Option _) =
      some (certificate, part.bytes) := by
    rw [hsigned]
    rfl
  apply denotes_sequence parts (.cons first (.cons helement (.cons last .nil)))
  refine bind_fields_eq_some.mpr
    ⟨(certificate, part.bytes), _, next_eq_some.mpr ⟨_, rfl, read⟩, ?_⟩
  refine bind_fields_eq_some.mpr ⟨c.outerAlgorithm, _, next_eq_some.mpr ⟨_, rfl, hagain⟩, ?_⟩
  refine bind_fields_eq_some.mpr ⟨c.signature, _, field_bits hbits [], ?_⟩
  exact pure_fields_eq_some.mpr ⟨hc.symm, rfl⟩

lemma issuer_of_signedPart {e : Element} {c : Certificate}
    (h : Certificate.readSignedPart? e = some c) : ∃ name, Name.read? name = some c.issuer := by
  obtain ⟨-, es, -, h⟩ := sequence?_eq_some.mp h
  obtain ⟨version, s₁, -, h⟩ := bind_fields_eq_some.mp h
  obtain ⟨serial, s₂, -, h⟩ := bind_fields_eq_some.mp h
  obtain ⟨inner, s₃, -, h⟩ := bind_fields_eq_some.mp h
  obtain ⟨issuer, s₄, hissuer, h⟩ := bind_fields_eq_some.mp h
  obtain ⟨name, -, hname⟩ := next_eq_some.mp hissuer
  obtain ⟨_, s₅, -, h⟩ := bind_fields_eq_some.mp h
  obtain ⟨subject, s₆, -, h⟩ := bind_fields_eq_some.mp h
  obtain ⟨⟨keyAlgorithm, keyBits⟩, s₇, -, h⟩ := bind_fields_eq_some.mp h
  obtain ⟨_, s₈, -, h⟩ := bind_fields_eq_some.mp h
  obtain ⟨_, s₉, -, h⟩ := bind_fields_eq_some.mp h
  obtain ⟨extensions, s₁₀, -, h⟩ := bind_fields_eq_some.mp h
  obtain ⟨rfl, -⟩ := pure_fields_eq_some.mp h
  exact ⟨name, hname⟩

/-- The issuer of a certificate is a name that has been read. -/
lemma issuer_read {e : Element} {c : Certificate} (h : Certificate.read? e = some c) :
    ∃ name, Name.read? name = some c.issuer := by
  obtain ⟨part, _, _, certificate, -, hsigned, -, -, hc⟩ := certificate_parts h
  obtain ⟨name, hname⟩ := issuer_of_signedPart hsigned
  exact ⟨name, hname.trans (congrArg (some ∘ Certificate.issuer) hc).symm⟩

lemma read_of_ofBytes {b : Bytes} {c : Certificate} (h : Certificate.ofBytes b = .ok c) :
    ∃ e, Certificate.read? e = some c := by
  unfold Certificate.ofBytes at h
  cases hread : readWith? Certificate.read? b with
  | none =>
    rw [hread] at h
    cases h
  | some read =>
    rw [hread] at h
    cases h
    obtain ⟨⟨e, rest⟩, -, he⟩ := Option.bind_eq_some_iff.mp hread
    exact ⟨e, he⟩

end BootstrapVoucher.Proofs
