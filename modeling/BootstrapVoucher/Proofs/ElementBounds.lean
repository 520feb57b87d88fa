import BootstrapVoucher.Proofs.Asn1

/-!
# Elements carry their own end

An element that has been read from some bytes is read from its own bytes again, whatever follows
them. This holds for the elements without a length too, whose end has to be searched for: the search
goes from element to element and never looks behind the mark that it finds.
-/

namespace BootstrapVoucher.Proofs

open Asn1

lemma longNumber?_stable {number m : Nat} {b rest : Bytes}
    (h : Header.longNumber? number b = some (m, rest)) :
    ∃ front, b = front ++ rest ∧ ∀ t, Header.longNumber? number (front ++ t) = some (m, t) := by
  induction b generalizing number with
  | nil => cases h
  | cons x b ih =>
    rw [Header.longNumber?] at h
    split at h
    · rename_i last
      cases h
      refine ⟨[x], rfl, fun t => ?_⟩
      rw [List.singleton_append, Header.longNumber?]
      simp only [if_pos last]
    · rename_i more
      split at h
      · cases h
      · rename_i fits
        obtain ⟨front, rfl, stable⟩ := ih h
        refine ⟨x :: front, rfl, fun t => ?_⟩
        rw [List.cons_append, Header.longNumber?]
        simp only [if_neg more, if_neg fits, stable]

/-- A length that takes several bytes must be followed by something. -/
lemma length?_stable {length : Option Nat} {b rest : Bytes}
    (h : Header.length? b = some (length, rest)) :
    ∃ front, front ≠ [] ∧ b = front ++ rest ∧
      ∀ t, (rest ≠ [] → t ≠ []) → Header.length? (front ++ t) = some (length, t) := by
  cases b with
  | nil => cases h
  | cons x b =>
    rw [Header.length?] at h
    split at h
    · rename_i open_
      cases h
      refine ⟨[x], List.cons_ne_nil _ _, rfl, fun t _ => ?_⟩
      rw [List.singleton_append, Header.length?, if_pos open_]
    rename_i closed
    split at h
    · rename_i short
      cases h
      refine ⟨[x], List.cons_ne_nil _ _, rfl, fun t _ => ?_⟩
      rw [List.singleton_append, Header.length?, if_neg closed, if_pos short]
    rename_i long
    simp only at h
    split at h
    · cases h
    rename_i readable
    cases h
    simp only [Bool.or_eq_true, decide_eq_true_eq, not_or, Nat.not_le] at readable
    obtain ⟨⟨more, digits⟩, fits⟩ := readable
    have taken : (b.take (x.toNat - 128)).length = x.toNat - 128 := by
      rw [List.length_take]
      omega
    refine ⟨x :: b.take (x.toNat - 128), List.cons_ne_nil _ _, ?_, fun t ht => ?_⟩
    · rw [List.cons_append, List.take_append_drop]
    · have nonempty : t ≠ [] := by
        apply ht
        rw [← List.length_pos_iff, List.length_drop]
        omega
      have hpos := List.length_pos_iff.mpr nonempty
      rw [List.cons_append, Header.length?, if_neg closed, if_neg long]
      simp only [List.take_left' taken, List.drop_left' taken]
      rw [if_neg]
      simp only [Bool.or_eq_true, decide_eq_true_eq, not_or, Nat.not_le, List.length_append, taken]
      exact ⟨⟨by omega, digits⟩, fits⟩

/-- The number of a tag whose first byte has these low bits, and what follows it. -/
def tagNumber? (low : Nat) (b : Bytes) : Option (Nat × Bytes) :=
  if low = 31 then Header.longNumber? 0 b else some (low, b)

lemma tagNumber?_stable {low m : Nat} {b rest : Bytes} (h : tagNumber? low b = some (m, rest)) :
    ∃ front, b = front ++ rest ∧ ∀ t, tagNumber? low (front ++ t) = some (m, t) := by
  unfold tagNumber? at h ⊢
  by_cases long : low = 31
  · simp only [if_pos long] at h ⊢
    exact longNumber?_stable h
  · simp only [if_neg long] at h ⊢
    cases h
    exact ⟨[], rfl, fun t => rfl⟩

lemma header_read_eq_some {first : UInt8} {b : Bytes} {header : Header} :
    Header.read? (first :: b) = some header ↔
      ∃ number b₁ length b₂, tagNumber? (first.toNat % 32) b = some (number, b₁) ∧
        Header.length? b₁ = some (length, b₂) ∧
        ((first.toNat / 32 % 2 == 1) = true ∨ length.isSome = true) ∧
        length.getD 0 ≤ b₂.length ∧
        ⟨⟨Header.classOf first, number⟩, first.toNat / 32 % 2 == 1, length,
          (first :: b).length - b₂.length⟩ = header := by
  have flat : Header.read? (first :: b) =
      (tagNumber? (first.toNat % 32) b).bind fun number =>
        (Header.length? number.2).bind fun length => do
          guard ((first.toNat / 32 % 2 == 1) = true ∨ length.1.isSome = true)
          guard (length.1.getD 0 ≤ length.2.length)
          return ⟨⟨Header.classOf first, number.1⟩, first.toNat / 32 % 2 == 1, length.1,
            (first :: b).length - length.2.length⟩ := by
    rw [Header.read?, tagNumber?]
    split <;> rfl
  simp only [flat, Option.bind_eq_some_iff, Prod.exists, guard_bind_eq_some, Option.pure_def,
    Option.some.injEq]
  constructor
  · rintro ⟨number, b₁, hnumber, length, b₂, hlength, h⟩
    exact ⟨number, b₁, length, b₂, hnumber, hlength, h⟩
  · rintro ⟨number, b₁, length, b₂, hnumber, hlength, h⟩
    exact ⟨number, b₁, hnumber, length, b₂, hlength, h⟩

/-- A header is read from its own bytes, if its content follows. -/
lemma header_stable {b : Bytes} {header : Header} (h : Header.read? b = some header) :
    ∃ front rest, b = front ++ rest ∧ front.length = header.size ∧ 2 ≤ header.size ∧
      header.length.getD 0 ≤ rest.length ∧
      ∀ t, header.length.getD 0 ≤ t.length → (rest ≠ [] → t ≠ []) →
        Header.read? (front ++ t) = some header := by
  cases b with
  | nil => cases h
  | cons first b =>
    obtain ⟨number, b₁, length, rest, hnumber, hlength, hform, hfits, rfl⟩ :=
      header_read_eq_some.mp h
    obtain ⟨numberFront, rfl, numberStable⟩ := tagNumber?_stable hnumber
    obtain ⟨lengthFront, hne, rfl, lengthStable⟩ := length?_stable hlength
    have hpos := List.length_pos_iff.mpr hne
    refine ⟨first :: (numberFront ++ lengthFront), rest, by simp, ?_, ?_, hfits, ?_⟩
    · simp only [List.length_cons, List.length_append]
      omega
    · simp only [List.length_cons, List.length_append]
      omega
    · intro t enough ht
      rw [List.cons_append, List.append_assoc, header_read_eq_some]
      refine ⟨number, lengthFront ++ t, length, t, numberStable _, lengthStable t ht, hform, enough,
        ?_⟩
      congr 1
      simp only [List.length_cons, List.length_append]
      omega

/-! ### Contents without length -/

lemma startsWithEndMark_append {front : Bytes} (h : 2 ≤ front.length) (t : Bytes) :
    startsWithEndMark (front ++ t) = startsWithEndMark front := by
  obtain ⟨x, front, rfl⟩ := List.exists_cons_of_length_pos (show 0 < front.length by omega)
  rw [List.length_cons] at h
  obtain ⟨y, front, rfl⟩ := List.exists_cons_of_length_pos (show 0 < front.length by omega)
  simp [startsWithEndMark, List.isPrefixOf_cons_cons]

lemma startsWithEndMark_eq_true {b : Bytes} (h : startsWithEndMark b = true) :
    ∃ rest, b = [0, 0] ++ rest := by
  obtain ⟨rest, hrest⟩ := List.isPrefixOf_iff_prefix.mp h
  exact ⟨rest, hrest.symm⟩

/-- The bytes of a header and its content, as far as the length is known. -/
def extent (header : Header) : Nat := header.size + header.length.getD 0

lemma contentSize?_header {fuel depth : Nat} {b : Bytes} {header : Header}
    (unmarked : startsWithEndMark b = false) (h : Header.read? b = some header) :
    contentSize? (fuel + 1) depth b =
      (contentSize? fuel (if header.length.isSome then depth else depth + 1)
        (b.drop (extent header))).map (· + extent header) := by
  rw [contentSize?, unmarked, if_neg Bool.false_ne_true, h, extent]
  cases hlength : header.length with
  | some length => simp [hlength]
  | none => simp [hlength]

/-- A header with its content is read again in front of anything else. -/
lemma extent_stable {b : Bytes} {header : Header} (h : Header.read? b = some header) :
    ∃ front rest, b = front ++ rest ∧ front.length = extent header ∧ 2 ≤ extent header ∧
      ∀ t, t ≠ [] → Header.read? (front ++ t) = some header ∧
        startsWithEndMark (front ++ t) = startsWithEndMark b := by
  obtain ⟨front, rest, rfl, size, hsize, enough, stable⟩ := header_stable h
  have taken : (rest.take (header.length.getD 0)).length = header.length.getD 0 :=
    List.length_take_of_le enough
  refine ⟨front ++ rest.take (header.length.getD 0), rest.drop (header.length.getD 0), ?_, ?_, ?_,
    fun t ht => ⟨?_, ?_⟩⟩
  · rw [List.append_assoc, List.take_append_drop]
  · rw [List.length_append, taken, size, extent]
  · unfold extent
    omega
  · rw [List.append_assoc]
    apply stable
    · rw [List.length_append]
      omega
    · intro _
      exact List.append_ne_nil_of_right_ne_nil _ ht
  · rw [List.append_assoc, startsWithEndMark_append (by omega), startsWithEndMark_append (by omega)]

/-- The front of some bytes in which the end mark is found after `n` bytes, whatever follows it. Each
step of the search takes two bytes at least, so the size that is found is fuel enough. -/
def IsClosedFront (depth n : Nat) (front : Bytes) : Prop :=
  front.length = n + 2 ∧ ∀ t fuel, n < fuel → contentSize? fuel depth (front ++ t) = some n

lemma isClosedFront_last {depth : Nat} (last : depth ≤ 1) : IsClosedFront depth 0 [0, 0] := by
  refine ⟨rfl, fun t fuel enough => ?_⟩
  obtain ⟨fuel, rfl⟩ := Nat.exists_eq_succ_of_ne_zero enough.ne'
  have marked : startsWithEndMark ([0, 0] ++ t) = true := rfl
  rw [contentSize?, if_pos marked, if_pos last]

lemma isClosedFront_mark {depth n : Nat} {front : Bytes} (inner : ¬depth ≤ 1)
    (h : IsClosedFront (depth - 1) n front) : IsClosedFront depth (n + 2) ([0, 0] ++ front) := by
  obtain ⟨length, stable⟩ := h
  constructor
  · rw [List.length_append, length, Nat.add_comm]
    rfl
  · intro t fuel enough
    obtain ⟨fuel, rfl⟩ := Nat.exists_eq_succ_of_ne_zero (show fuel ≠ 0 by omega)
    have marked : startsWithEndMark ([0, 0] ++ (front ++ t)) = true := rfl
    have tail := stable t fuel (by omega)
    rw [List.append_assoc, contentSize?, if_pos marked, if_neg inner]
    change (contentSize? fuel (depth - 1) (front ++ t)).map (· + 2) = some (n + 2)
    rw [tail, Option.map_some]

lemma isClosedFront_header {depth n : Nat} {whole front : Bytes} {header : Header}
    (size : whole.length = extent header) (large : 2 ≤ extent header)
    (again : ∀ t, t ≠ [] → Header.read? (whole ++ t) = some header ∧
      startsWithEndMark (whole ++ t) = false)
    (h : IsClosedFront (if header.length.isSome then depth else depth + 1) n front) :
    IsClosedFront depth (n + extent header) (whole ++ front) := by
  obtain ⟨length, stable⟩ := h
  constructor
  · rw [List.length_append, size, length]
    omega
  · intro t fuel enough
    obtain ⟨fuel, rfl⟩ := Nat.exists_eq_succ_of_ne_zero (show fuel ≠ 0 by omega)
    have nonempty : front ++ t ≠ [] := by
      rw [← List.length_pos_iff, List.length_append]
      omega
    obtain ⟨reread, unmarked⟩ := again (front ++ t) nonempty
    rw [List.append_assoc, contentSize?_header unmarked reread, List.drop_left' size,
      stable t fuel (by omega), Option.map_some]

/-- The search for the end mark stops right behind it. -/
lemma contentSize?_stable {fuel depth n : Nat} {b : Bytes}
    (h : contentSize? fuel depth b = some n) :
    ∃ front rest, b = front ++ rest ∧ IsClosedFront depth n front := by
  induction fuel generalizing depth b n with
  | zero => cases h
  | succ fuel ih =>
    by_cases marked : startsWithEndMark b
    · obtain ⟨rest, rfl⟩ := startsWithEndMark_eq_true marked
      rw [contentSize?, if_pos marked] at h
      by_cases last : depth ≤ 1
      · rw [if_pos last] at h
        cases h
        exact ⟨[0, 0], rest, rfl, isClosedFront_last last⟩
      · rw [if_neg last] at h
        obtain ⟨m, inner, rfl⟩ := Option.map_eq_some_iff.mp h
        obtain ⟨front, after, hrest, closed⟩ := ih inner
        change rest = front ++ after at hrest
        exact ⟨[0, 0] ++ front, after, by rw [hrest, List.append_assoc],
          isClosedFront_mark last closed⟩
    · have unmarked : startsWithEndMark b = false := Bool.eq_false_iff.mpr marked
      cases read : Header.read? b with
      | none =>
        rw [contentSize?, if_neg marked, read] at h
        cases h
      | some header =>
        rw [contentSize?_header unmarked read] at h
        obtain ⟨m, inner, rfl⟩ := Option.map_eq_some_iff.mp h
        obtain ⟨whole, after, rfl, size, large, again⟩ := extent_stable read
        rw [unmarked] at again
        rw [List.drop_left' size] at inner
        obtain ⟨front, rest, rfl, closed⟩ := ih inner
        exact ⟨whole ++ front, rest, by rw [List.append_assoc],
          isClosedFront_header size large again closed⟩

/-! ### Elements -/

lemma read?_known {b : Bytes} {header : Header} {length : Nat}
    (unmarked : startsWithEndMark b = false) (h : Header.read? b = some header)
    (known : header.length = some length) :
    Element.read? b = some (⟨header.tag, header.constructed, (b.drop header.size).take length,
      b.take (header.size + length)⟩, b.drop (header.size + length)) := by
  simp [Element.read?, unmarked, h, known]

lemma read?_open {b : Bytes} {header : Header} (unmarked : startsWithEndMark b = false)
    (h : Header.read? b = some header) (unknown : header.length = none) :
    Element.read? b = (contentSize? (b.drop header.size).length 1 (b.drop header.size)).map
      fun length => (⟨header.tag, header.constructed, (b.drop header.size).take length,
        b.take (header.size + length + 2)⟩, b.drop (header.size + length + 2)) := by
  simp [Element.read?, unmarked, h, unknown, Option.map_eq_bind]

lemma header_of_read? {b rest : Bytes} {e : Element} (h : Element.read? b = some (e, rest)) :
    startsWithEndMark b = false ∧ ∃ header, Header.read? b = some header := by
  unfold Element.read? at h
  obtain ⟨unmarked, h⟩ := guard_bind_eq_some.mp h
  obtain ⟨header, read, -⟩ := Option.bind_eq_some_iff.mp h
  exact ⟨by simpa using unmarked, header, read⟩

section Again

variable {b rest : Bytes} {e : Element} {header : Header} (h : Element.read? b = some (e, rest))
  (unmarked : startsWithEndMark b = false) (read : Header.read? b = some header)

include h unmarked read

lemma read?_again_known {length : Nat} (known : header.length = some length) :
    b = e.bytes ++ rest ∧ e.bytes ≠ [] ∧
      ∀ tail, (rest ≠ [] → e.content ++ tail ≠ []) →
        Element.read? (e.bytes ++ tail) = some (e, tail) := by
  obtain ⟨front, inner, rfl, size, hsize, enough, stable⟩ := header_stable read
  rw [known, Option.getD_some] at enough stable
  have taken : (inner.take length).length = length := List.length_take_of_le enough
  have whole : (front ++ inner.take length).length = header.size + length := by
    rw [List.length_append, taken, size]
  have split : front ++ inner = front ++ inner.take length ++ inner.drop length := by
    rw [List.append_assoc, List.take_append_drop]
  rw [read?_known unmarked read known, List.drop_left' size, split, List.take_left' whole,
    List.drop_left' whole] at h
  cases h
  refine ⟨split, List.append_ne_nil_of_left_ne_nil ?_ _, fun tail filled => ?_⟩
  · rw [← List.length_pos_iff]
    omega
  have follows : inner ≠ [] → inner.take length ++ tail ≠ [] := by
    intro hinner
    by_cases last : inner.drop length = []
    · rw [← List.take_append_drop length inner, last, List.append_nil] at hinner
      exact List.append_ne_nil_of_left_ne_nil hinner _
    · exact filled last
  have reread : Header.read? (front ++ inner.take length ++ tail) = some header := by
    rw [List.append_assoc]
    apply stable _ _ follows
    rw [List.length_append]
    omega
  have tailMark : startsWithEndMark (front ++ inner.take length ++ tail) = false := by
    rw [List.append_assoc, startsWithEndMark_append (by omega),
      ← startsWithEndMark_append (by omega) inner]
    exact unmarked
  rw [read?_known tailMark reread known, List.take_left' whole, List.drop_left' whole,
    List.append_assoc, List.drop_left' size, List.take_left' taken]

lemma isElement_of_open (unknown : header.length = none) :
    b = e.bytes ++ rest ∧ IsElement e.bytes e := by
  obtain ⟨front, inner, rfl, size, hsize, -, stable⟩ := header_stable read
  rw [unknown] at stable
  rw [read?_open unmarked read unknown, List.drop_left' size] at h
  obtain ⟨length, found, h⟩ := Option.map_eq_some_iff.mp h
  obtain ⟨content, after, rfl, contentSize, again⟩ := contentSize?_stable found
  have whole : (front ++ content).length = header.size + length + 2 := by
    rw [List.length_append, size, contentSize, Nat.add_assoc]
  rw [← List.append_assoc, List.take_left' whole, List.drop_left' whole] at h
  cases h
  refine ⟨(List.append_assoc _ _ _).symm, List.append_ne_nil_of_left_ne_nil ?_ _, fun tail => ?_⟩
  · rw [← List.length_pos_iff]
    omega
  have reread : Header.read? (front ++ content ++ tail) = some header := by
    rw [List.append_assoc]
    apply stable _ (Nat.zero_le _)
    intro _
    rw [ne_eq, ← List.length_eq_zero_iff, List.length_append]
    omega
  have tailMark : startsWithEndMark (front ++ content ++ tail) = false := by
    rw [List.append_assoc, startsWithEndMark_append (by omega),
      ← startsWithEndMark_append (by omega) (content ++ rest)]
    exact unmarked
  have refound : contentSize? (content ++ tail).length 1 (content ++ tail) = some length := by
    apply again
    rw [List.length_append]
    omega
  have inside (t : Bytes) : (content ++ t).take length = content.take length := by
    apply List.take_append_of_le_length
    omega
  have dropped : (front ++ content ++ tail).drop header.size = content ++ tail := by
    rw [List.append_assoc, List.drop_left' size]
  rw [read?_open tailMark reread unknown, dropped, refound, Option.map_some, List.take_left' whole,
    List.drop_left' whole, inside, inside]

end Again

/-- An element that has been read stands at the front, and is read from its own bytes wherever they
stand; if its header has a long length and other bytes followed it, some must follow it again. -/
lemma read?_again {b rest : Bytes} {e : Element} (h : Element.read? b = some (e, rest)) :
    b = e.bytes ++ rest ∧ e.bytes ≠ [] ∧
      ∀ tail, (rest ≠ [] → e.content ++ tail ≠ []) →
        Element.read? (e.bytes ++ tail) = some (e, tail) := by
  obtain ⟨unmarked, header, read⟩ := header_of_read? h
  cases hlength : header.length with
  | some length => exact read?_again_known h unmarked read hlength
  | none =>
    obtain ⟨split, nonempty, again⟩ := isElement_of_open h unmarked read hlength
    exact ⟨split, nonempty, fun tail _ => again tail⟩

lemma isElement_of_read? {b rest : Bytes} {e : Element} (h : Element.read? b = some (e, rest)) :
    b = e.bytes ++ rest ∧ (rest = [] ∨ e.content ≠ [] → IsElement e.bytes e) := by
  obtain ⟨split, nonempty, again⟩ := read?_again h
  refine ⟨split, fun last => ⟨nonempty, fun tail => again tail fun more => ?_⟩⟩
  exact List.append_ne_nil_of_left_ne_nil (last.resolve_left more) _

/-- What follows an element does not change it. -/
lemma read?_append {b rest : Bytes} {e : Element} (h : Element.read? b = some (e, rest))
    (tail : Bytes) : Element.read? (b ++ tail) = some (e, rest ++ tail) := by
  obtain ⟨split, -, again⟩ := read?_again h
  rw [split, List.append_assoc]
  apply again
  intro more
  exact List.append_ne_nil_of_right_ne_nil _ (List.append_ne_nil_of_left_ne_nil more _)

/-- Bytes that end inside an element are not read. -/
lemma read?_prefix {b front after : Bytes} {e : Element} (h : Element.read? b = some (e, []))
    (split : b = front ++ after) (cut : after ≠ []) : Element.read? front = none := by
  cases read : Element.read? front with
  | none => rfl
  | some found =>
    have whole := read?_append read after
    rw [← split, h, Option.some.injEq, Prod.mk.injEq] at whole
    exact absurd (List.append_eq_nil_iff.mp whole.2.symm).2 cut

end BootstrapVoucher.Proofs
