import BootstrapVoucher.Proofs.Base256

/-!
# Written elements read back

An element that is written is read back wherever it stands: what follows it makes no difference. So
the content of a sequence is read as its parts, and a value that is written part by part is read
field by field. Contents must be shorter than `2 ^ 63` bytes, which is what a header can announce.
-/

namespace BootstrapVoucher.Proofs

open Asn1

/-! ### Headers -/

/-- A string of bytes whose length a header can announce. -/
def Short (b : Bytes) : Prop := b.length < 2 ^ 63

lemma short_of_length_le {a b : Bytes} (h : a.length ≤ b.length) (hb : Short b) : Short a :=
  lt_of_le_of_lt h hb

lemma length?_write {n : Nat} (hn : n < 2 ^ 63) {rest : Bytes} (hrest : n ≤ rest.length) :
    Header.length? (Write.length n ++ rest) = some (some n, rest) := by
  unfold Write.length
  by_cases small : n < 128
  · rw [if_pos small, List.singleton_append, Header.length?]
    have value : (UInt8.ofNat n).toNat = n := by
      rw [UInt8.toNat_ofNat']
      omega
    have hne : UInt8.ofNat n ≠ 128 := by
      rw [ne_eq, ← UInt8.toNat_inj, value]
      exact Nat.ne_of_lt small
    have hlt : UInt8.ofNat n < 128 := by
      rw [UInt8.lt_iff_toNat_lt, value]
      exact small
    rw [if_neg hne, if_pos hlt, value]
  · have hwidth : Bytes.width n ≤ 8 := width_le (by omega)
    have value : (UInt8.ofNat (128 + Bytes.width n)).toNat = 128 + Bytes.width n := by
      rw [UInt8.toNat_ofNat']
      omega
    have hpos : Bytes.width n ≠ 0 := by
      unfold Bytes.width
      rw [if_neg (by omega)]
      exact Nat.succ_ne_zero _
    have hne : UInt8.ofNat (128 + Bytes.width n) ≠ 128 := by
      rw [ne_eq, ← UInt8.toNat_inj, value]
      change 128 + Bytes.width n ≠ 128
      omega
    have hge : ¬UInt8.ofNat (128 + Bytes.width n) < 128 := by
      rw [UInt8.lt_iff_toNat_lt, value]
      change ¬128 + Bytes.width n < 128
      omega
    have count : (UInt8.ofNat (128 + Bytes.width n)).toNat - 128 = Bytes.width n := by omega
    have hlength := length_ofNat (Bytes.width n) n
    have taken : (Bytes.ofNat (Bytes.width n) n ++ rest).take (Bytes.width n) =
        Bytes.ofNat (Bytes.width n) n := List.take_left' hlength
    have dropped : (Bytes.ofNat (Bytes.width n) n ++ rest).drop (Bytes.width n) = rest :=
      List.drop_left' hlength
    have number : Bytes.toNat ((Bytes.ofNat (Bytes.width n) n).dropWhile (· == 0)) = n := by
      rw [toNat_dropWhile, toNat_ofNat, Nat.mod_eq_of_lt (lt_pow_width n)]
    have digits : ((Bytes.ofNat (Bytes.width n) n).dropWhile (· == 0)).length ≤ 8 := by
      have := (List.dropWhile_suffix (· == 0) (l := Bytes.ofNat (Bytes.width n) n)).length_le
      omega
    rw [if_neg small, List.cons_append, Header.length?, if_neg hne, if_neg hge]
    simp only [count, taken, dropped, number]
    rw [if_neg]
    simp only [Bool.or_eq_true, decide_eq_true_eq, List.length_append, hlength, Nat.one_shiftLeft]
    omega

/-- The first byte of a written element: the tag number fits this byte, and it is no zero. -/
def IsFirst (first : UInt8) : Prop := first ≠ 0 ∧ first.toNat % 32 ≠ 31

instance (first : UInt8) : Decidable (IsFirst first) := inferInstanceAs (Decidable (_ ∧ _))

/-- The element that is written with this first byte and this content. -/
def written (first : UInt8) (content : Bytes) : Element where
  tag := ⟨Header.classOf first, first.toNat % 32⟩
  constructed := first.toNat / 32 % 2 == 1
  content := content
  bytes := Write.element first content

lemma header_write {first : UInt8} (hfirst : IsFirst first) {content : Bytes}
    (short : Short content) (tail : Bytes) : Header.read? (Write.element first content ++ tail) =
      some ⟨(written first content).tag, (written first content).constructed, some content.length,
        1 + (Write.length content.length).length⟩ := by
  have hlength : Header.length? (Write.length content.length ++ (content ++ tail)) =
      some (some content.length, content ++ tail) := length?_write short (by simp)
  have size : (Write.element first content ++ tail).length - (content ++ tail).length =
      1 + (Write.length content.length).length := by
    simp only [Write.element, List.cons_append, List.length_cons, List.length_append]
    omega
  have hread : Write.element first content ++ tail =
      first :: (Write.length content.length ++ (content ++ tail)) := by
    simp [Write.element]
  rw [← size, hread, Header.read?]
  simp only [hfirst.2, if_false, Option.pure_def, Option.bind_eq_bind, Option.bind_some, hlength]
  simp [written]

/-- These bytes are read as this element, whatever follows them. -/
structure IsElement (b : Bytes) (e : Element) : Prop where
  nonempty : b ≠ []
  read : ∀ tail, Element.read? (b ++ tail) = some (e, tail)

lemma isElement_write {first : UInt8} (hfirst : IsFirst first) {content : Bytes}
    (short : Short content) : IsElement (Write.element first content) (written first content) := by
  refine ⟨List.cons_ne_nil _ _, fun tail => ?_⟩
  have unmarked : startsWithEndMark (Write.element first content ++ tail) = false := by
    have hne : ((0 : UInt8) == first) = false := beq_eq_false_iff_ne.mpr hfirst.1.symm
    rw [startsWithEndMark, Write.element, List.cons_append, List.cons_append,
      List.isPrefixOf_cons_cons, hne, Bool.false_and]
  have head : (Write.element first content ++ tail).drop
      (1 + (Write.length content.length).length) = content ++ tail := by
    rw [Write.element, List.append_assoc, Nat.add_comm]
    exact List.drop_left' rfl
  have all : 1 + (Write.length content.length).length + content.length =
      (Write.element first content).length := by
    simp only [Write.element, List.cons_append, List.length_cons, List.length_append]
    omega
  unfold Element.read?
  simp [unmarked, header_write hfirst short, head, all, written]

lemma guard_bind_eq_some {α : Type} {p : Prop} [Decidable p] {x : Option α} {a : α} :
    (do guard p; x) = some a ↔ p ∧ x = some a := by
  by_cases h : p <;> simp [guard, h]

/-! ### Contents -/

lemma readAll?_flatten {parts : List Bytes} {es : List Element}
    (h : List.Forall₂ IsElement parts es) {fuel : Nat} (enough : parts.flatten.length ≤ fuel) :
    Element.readAll? fuel parts.flatten = some es := by
  induction h generalizing fuel with
  | nil => cases fuel <;> rfl
  | @cons b e parts es hb _ ih =>
    obtain ⟨x, b, rfl⟩ := List.exists_cons_of_ne_nil hb.nonempty
    rw [List.flatten_cons] at enough ⊢
    cases fuel with
    | zero => simp at enough
    | succ fuel =>
      have rest : Element.readAll? fuel parts.flatten = some es := by
        apply ih
        simp only [List.length_append, List.length_cons] at enough
        omega
      rw [List.cons_append, Element.readAll?, ← List.cons_append, hb.read]
      · simp [rest]
      · exact List.cons_ne_nil _ _

variable {first : UInt8} {parts : List Bytes} {es : List Element}

lemma children?_written (constructed : first.toNat / 32 % 2 = 1)
    (h : List.Forall₂ IsElement parts es) :
    (written first parts.flatten).children? = some es := by
  unfold Element.children? written
  simp only [constructed, beq_self_eq_true, if_true]
  exact readAll?_flatten h le_rfl

lemma members?_written {α : Type} {read : Element → Option α} {values : List α}
    (h : List.Forall₂ IsElement parts es) (hread : es.mapM read = some values) :
    (written first parts.flatten).members? read = some values := by
  unfold Element.members?
  rw [show (written first parts.flatten).content = parts.flatten from rfl,
    readAll?_flatten h le_rfl]
  exact hread

lemma wrapped?_written {α : Type} {read : Element → Option α} {b : Bytes} {e : Element}
    (constructed : first.toNat / 32 % 2 = 1) (h : IsElement b e) :
    (written first [b].flatten).wrapped? read = read e := by
  unfold Element.wrapped?
  rw [children?_written constructed (.cons h .nil)]

/-! ### Fields -/

section Fields

variable {α β : Type}

lemma bind_fields_eq_some {x : Fields α} {f : α → Fields β} {es rest : List Element} {b : β} :
    (x >>= f) es = some (b, rest) ↔
      ∃ a between, x es = some (a, between) ∧ f a between = some (b, rest) := by
  change ((x es).bind fun r => f r.1 r.2) = some (b, rest) ↔ _
  rw [Option.bind_eq_some_iff, Prod.exists]

lemma pure_fields_eq_some {es rest : List Element} {a b : α} :
    (pure a : Fields α) es = some (b, rest) ↔ a = b ∧ es = rest := by
  change some (a, es) = some (b, rest) ↔ _
  rw [Option.some.injEq, Prod.mk.injEq]

lemma sequence?_eq_some {fields : Fields α} {e : Element} {value : α} :
    Fields.sequence? fields e = some value ↔
      e.tag = .sequence ∧ ∃ es, e.children? = some es ∧ fields es = some (value, []) := by
  unfold Fields.sequence? Fields.all?
  by_cases htag : e.tag = .sequence
  · simp only [htag, guard, if_true, true_and, Option.bind_eq_bind, Option.pure_def,
      Option.bind_some, Option.bind_eq_some_iff]
    apply exists_congr
    intro es
    apply and_congr_right
    intro _
    constructor
    · rintro ⟨⟨a, rest⟩, hrun, ⟨⟩, ended, h⟩
      cases rest with
      | nil =>
        cases h
        exact hrun
      | cons e rest => cases ended
    · intro hrun
      exact ⟨(value, []), hrun, (), rfl, rfl⟩
  · simp [htag, guard]

lemma next_eq_some {read : Element → Option α} {es rest : List Element} {a : α} :
    Fields.next read es = some (a, rest) ↔ ∃ e, es = e :: rest ∧ read e = some a := by
  cases es with
  | nil => simp [Fields.next]
  | cons e es =>
    simp only [Fields.next, Option.map_eq_some_iff, Prod.mk.injEq, List.cons.injEq]
    constructor
    · rintro ⟨a, hread, rfl, rfl⟩
      exact ⟨e, ⟨rfl, rfl⟩, hread⟩
    · rintro ⟨e, ⟨rfl, rfl⟩, hread⟩
      exact ⟨a, hread, rfl, rfl⟩

lemma field_eq_some {tag : Tag} {read : Element → Option α} {es rest : List Element} {a : α} :
    Fields.field tag read es = some (a, rest) ↔
      ∃ e, es = e :: rest ∧ e.tag = tag ∧ read e = some a := by
  cases es with
  | nil => simp [Fields.field]
  | cons e es =>
    by_cases htag : e.tag = tag
    · simp only [Fields.field, if_pos htag, Option.map_eq_some_iff, Prod.mk.injEq, List.cons.injEq]
      constructor
      · rintro ⟨a, hread, rfl, rfl⟩
        exact ⟨e, ⟨rfl, rfl⟩, htag, hread⟩
      · rintro ⟨e, ⟨rfl, rfl⟩, -, hread⟩
        exact ⟨a, hread, rfl, rfl⟩
    · simp only [Fields.field, if_neg htag, List.cons.injEq]
      constructor
      · intro h
        cases h
      · rintro ⟨e, ⟨rfl, rfl⟩, same, -⟩
        exact absurd same htag

lemma optional_present {tags : List Tag} {read : Element → Option α} {e : Element}
    {es : List Element} {a : α} (htag : e.tag ∈ tags) (hread : read e = some a) :
    Fields.optional tags read (e :: es) = some (some a, es) := by
  simp [Fields.optional, htag, hread]

lemma optional_absent {tags : List Tag} {read : Element → Option α} {e : Element}
    {es : List Element} (htag : e.tag ∉ tags) :
    Fields.optional tags read (e :: es) = some (none, e :: es) := by
  simp [Fields.optional, htag]

end Fields

/-! ### Object identifiers -/

section ObjectIds

open ObjectId

lemma toNat_digit {d : Nat} (hd : d < 256) : (UInt8.ofNat d).toNat = d := by
  rw [UInt8.toNat_ofNat']
  exact Nat.mod_eq_of_lt hd

lemma subidentifiers?_last (started : Option Nat) {d : Nat} (hd : d < 128) (t : Bytes) :
    subidentifiers? started (UInt8.ofNat d :: t) =
      ((started.getD 0 * 128 + d) :: ·) <$> subidentifiers? none t := by
  have value := toNat_digit (show d < 256 by omega)
  have hne : (UInt8.ofNat d == 128) = false := by
    rw [beq_eq_false_iff_ne, ne_eq, ← UInt8.toNat_inj, value]
    exact Nat.ne_of_lt hd
  have hlt : UInt8.ofNat d < 128 := by
    rw [UInt8.lt_iff_toNat_lt, value]
    exact hd
  rw [subidentifiers?, hne, Bool.and_false, if_neg Bool.false_ne_true]
  simp only [if_pos hlt, value, Nat.mod_eq_of_lt hd]

lemma subidentifiers?_more {started : Option Nat} {d : Nat} (hd : d < 128)
    (h : started.isSome = true ∨ d ≠ 0) (t : Bytes) :
    subidentifiers? started (UInt8.ofNat (d + 128) :: t) =
      subidentifiers? (some (started.getD 0 * 128 + d)) t := by
  have value := toNat_digit (show d + 128 < 256 by omega)
  have allowed : (started.isNone && UInt8.ofNat (d + 128) == 128) = false := by
    rcases h with h | h
    · obtain ⟨k, rfl⟩ := Option.isSome_iff_exists.mp h
      rfl
    · have hne : (UInt8.ofNat (d + 128) == 128) = false := by
        rw [beq_eq_false_iff_ne, ne_eq, ← UInt8.toNat_inj, value]
        change ¬d + 128 = 128
        omega
      rw [hne, Bool.and_false]
  have hge : ¬UInt8.ofNat (d + 128) < 128 := by
    rw [UInt8.lt_iff_toNat_lt, value]
    change ¬d + 128 < 128
    omega
  have low : (d + 128) % 128 = d := by omega
  rw [subidentifiers?, allowed, if_neg Bool.false_ne_true]
  simp only [if_neg hge, value, low]

/-- The digits before the last one leave the number that they write. -/
lemma subidentifiers?_digits {k : Nat} (hk : k ≠ 0) (t : Bytes) :
    subidentifiers? none (digits k false ++ t) = subidentifiers? (some k) t := by
  induction k using Nat.strongRecOn generalizing t with
  | ind k ih =>
    rw [digits]
    by_cases small : k < 128
    · rw [if_pos small, List.singleton_append, if_neg Bool.false_ne_true, Nat.mod_eq_of_lt small,
        subidentifiers?_more small (.inr hk)]
      simp
    · have split : k / 128 * 128 + k % 128 = k := by omega
      rw [if_neg small, List.append_assoc, ih (k / 128) (by omega) (by omega), List.singleton_append,
        if_neg Bool.false_ne_true, subidentifiers?_more (Nat.mod_lt _ (by decide)) (.inl rfl),
        Option.getD_some, split]

lemma subidentifiers?_number (n : Nat) (t : Bytes) :
    subidentifiers? none (digits n true ++ t) = (n :: ·) <$> subidentifiers? none t := by
  rw [digits]
  by_cases small : n < 128
  · rw [if_pos small, List.singleton_append, if_pos rfl, Nat.add_zero, Nat.mod_eq_of_lt small,
      subidentifiers?_last none small]
    simp
  · have split : n / 128 * 128 + n % 128 = n := by omega
    rw [if_neg small, List.append_assoc, subidentifiers?_digits (by omega), List.singleton_append,
      if_pos rfl, Nat.add_zero, subidentifiers?_last _ (Nat.mod_lt _ (by decide)), Option.getD_some,
      split]

lemma subidentifiers?_flatMap (numbers : List Nat) :
    subidentifiers? none (numbers.flatMap (digits · true)) = some numbers := by
  induction numbers with
  | nil => rfl
  | cons n numbers ih =>
    rw [List.flatMap_cons, subidentifiers?_number, ih, Option.map_eq_map, Option.map_some]

/-- An object identifier that has been read is read again from its written form. -/
lemma ofBytes?_toBytes {b : Bytes} {id : ObjectId} (h : ofBytes? b = some id) :
    ofBytes? id.toBytes = some id := by
  unfold ofBytes? at h
  split at h
  · rename_i first rest _
    cases h
    have joined : 40 * min (first / 40) 2 + (first - 40 * min (first / 40) 2) = first := by omega
    rw [toBytes, joined, ofBytes?, subidentifiers?_flatMap]
  · cases h

end ObjectIds

/-! ### Values -/

section Values

variable {α : Type}

/-- The bytes are one element wherever they stand, and this value is read from it. -/
def Denotes (read : Element → Option α) (b : Bytes) (a : α) : Prop :=
  ∃ e, IsElement b e ∧ read e = some a

lemma short_content {first : UInt8} {content : Bytes} (h : Short (Write.element first content)) :
    Short content := by
  apply short_of_length_le _ h
  simp only [Write.element, List.cons_append, List.length_cons, List.length_append]
  omega

lemma short_of_mem_flatten {part : Bytes} {parts : List Bytes} (hpart : part ∈ parts)
    (h : Short parts.flatten) : Short part :=
  short_of_length_le (List.sublist_flatten_of_mem hpart).length_le h

lemma isElement_part {first : UInt8} {content : Bytes} {parts : List Bytes} (hfirst : IsFirst first)
    (hpart : Write.element first content ∈ parts) (short : Short parts.flatten) :
    IsElement (Write.element first content) (written first content) :=
  isElement_write hfirst (short_content (short_of_mem_flatten hpart short))

lemma denotes_sequence {fields : Fields α} {parts : List Bytes} {es : List Element} {a : α}
    (short : Short parts.flatten) (h : List.Forall₂ IsElement parts es)
    (hfields : fields es = some (a, [])) :
    Denotes (Fields.sequence? fields) (Write.sequence parts) a :=
  ⟨written 0x30 parts.flatten, isElement_write (by decide) short,
    sequence?_eq_some.mpr ⟨rfl, es, children?_written rfl h, hfields⟩⟩

/-- The elements of a list that is written item by item. -/
lemma elements_of_denotes {β : Type} {read : Element → Option α} {write : β → Bytes} {value : β → α}
    {items : List β} (h : ∀ item ∈ items, Denotes read (write item) (value item)) :
    ∃ es, List.Forall₂ IsElement (items.map write) es ∧ es.mapM read = some (items.map value) := by
  induction items with
  | nil => exact ⟨[], .nil, rfl⟩
  | cons item items ih =>
    obtain ⟨e, he, hread⟩ := h item List.mem_cons_self
    obtain ⟨es, hes, hreads⟩ := ih fun item hitem => h item (List.mem_cons_of_mem _ hitem)
    refine ⟨e :: es, .cons he hes, ?_⟩
    simp [List.mapM_cons, hread, hreads]

end Values

end BootstrapVoucher.Proofs
