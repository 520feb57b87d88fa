import BootstrapVoucher.VoucherStore
import Mathlib

/-!
# Vouchers by identifier

A store is known by its entries: there is one for each identifier, so looking up is membership, and
stores with the same entries are the same. Putting a voucher in takes the place of the entry with the
same identifier and leaves the others alone.
-/

namespace BootstrapVoucher.Proofs

lemma ids_increasing (store : VoucherStore) : store.ids.Pairwise (· < ·) :=
  List.pairwise_map.mpr store.increasing

lemma ids_nodup (store : VoucherStore) : store.ids.Nodup := (ids_increasing store).nodup

lemma contains_iff {store : VoucherStore} {id : String} :
    store.contains id = true ↔ id ∈ store.ids := by
  simp [VoucherStore.contains, VoucherStore.ids]

/-- An identifier has one voucher only. -/
lemma voucher_unique {store : VoucherStore} {id : String} {voucher other : Bytes}
    (h : (id, voucher) ∈ store.entries) (h' : (id, other) ∈ store.entries) : voucher = other :=
  congrArg Prod.snd (List.inj_on_of_nodup_map (ids_nodup store) h h' rfl)

lemma find?_eq_some_iff {store : VoucherStore} {id : String} {voucher : Bytes} :
    store.find? id = some voucher ↔ (id, voucher) ∈ store.entries := by
  unfold VoucherStore.find?
  rw [Option.map_eq_some_iff]
  constructor
  · rintro ⟨⟨key, content⟩, found, rfl⟩
    have same : key = id := by simpa using List.find?_some found
    exact same ▸ List.mem_of_find?_eq_some found
  · intro h
    cases found : store.entries.find? (·.1 == id) with
    | none =>
      have missed := List.find?_eq_none.mp found _ h
      exact absurd (beq_self_eq_true id) missed
    | some entry =>
      have same : entry.1 = id := by simpa using List.find?_some found
      have listed : (id, entry.2) ∈ store.entries := same ▸ List.mem_of_find?_eq_some found
      exact ⟨entry, rfl, voucher_unique listed h⟩

lemma mem_ids_iff {store : VoucherStore} {id : String} :
    id ∈ store.ids ↔ ∃ voucher, store.find? id = some voucher := by
  simp only [find?_eq_some_iff]
  constructor
  · intro h
    obtain ⟨⟨_, voucher⟩, listed, rfl⟩ := List.mem_map.mp h
    exact ⟨voucher, listed⟩
  · rintro ⟨voucher, listed⟩
    exact List.mem_map_of_mem listed

lemma store_ext {store other : VoucherStore}
    (h : ∀ entry, entry ∈ store.entries ↔ entry ∈ other.entries) : store = other := by
  have irreflexive : Std.Irrefl fun a b : String × Bytes => a.1 < b.1 :=
    ⟨fun a => String.lt_irrefl a.1⟩
  have antisymmetric : Std.Antisymm fun a b : String × Bytes => a.1 < b.1 :=
    ⟨fun a b before after => absurd (String.lt_trans before after) (String.lt_irrefl a.1)⟩
  have same := List.Pairwise.eq_of_mem_iff store.increasing other.increasing h
  cases store
  cases other
  cases same
  rfl

/-! ### Putting a voucher in -/

lemma find?_put (id : String) (voucher : Bytes) (entries : List (String × Bytes)) :
    (VoucherStore.put id voucher entries).find? (·.1 == id) = some (id, voucher) := by
  induction entries with
  | nil => simp [VoucherStore.put]
  | cons entry rest ih =>
    rw [VoucherStore.put]
    split
    · simp
    · split
      · simp
      · rename_i differs
        have hentry : (entry.1 == id) = false :=
          beq_eq_false_iff_ne.mpr fun same => differs same.symm
        rw [List.find?_cons, hentry, ih]

lemma find?_insert (store : VoucherStore) (id : String) (voucher : Bytes) :
    (store.insert id voucher).find? id = some voucher := by
  unfold VoucherStore.find? VoucherStore.insert
  rw [find?_put]
  rfl

lemma mem_put_of_mem {id : String} {voucher : Bytes} {entries : List (String × Bytes)}
    {entry : String × Bytes} (h : entry ∈ entries) (differs : entry.1 ≠ id) :
    entry ∈ VoucherStore.put id voucher entries := by
  induction entries with
  | nil => cases h
  | cons head rest ih =>
    rw [VoucherStore.put]
    split
    · exact List.mem_cons_of_mem _ h
    · rcases List.mem_cons.mp h with rfl | h
      · rw [if_neg fun same => differs same.symm]
        exact List.mem_cons_self
      · split
        · exact List.mem_cons_of_mem _ h
        · exact List.mem_cons_of_mem _ (ih h)

lemma mem_insert_iff {store : VoucherStore} {id : String} {voucher : Bytes} {entry : String × Bytes} :
    entry ∈ (store.insert id voucher).entries ↔
      entry = (id, voucher) ∨ entry ∈ store.entries ∧ entry.1 ≠ id := by
  have placed : (id, voucher) ∈ (store.insert id voucher).entries :=
    find?_eq_some_iff.mp (find?_insert store id voucher)
  constructor
  · intro h
    rcases VoucherStore.mem_put h with rfl | kept
    · exact .inl rfl
    · by_cases same : entry.1 = id
      · subst same
        exact .inl (Prod.ext rfl (voucher_unique h placed))
      · exact .inr ⟨kept, same⟩
  · rintro (rfl | ⟨kept, differs⟩)
    · exact placed
    · exact mem_put_of_mem kept differs

lemma mem_ids_insert {store : VoucherStore} {id other : String} {voucher : Bytes} :
    other ∈ (store.insert id voucher).ids ↔ other = id ∨ other ∈ store.ids := by
  simp only [VoucherStore.ids, List.mem_map, mem_insert_iff]
  constructor
  · rintro ⟨entry, rfl | ⟨kept, -⟩, rfl⟩
    · exact .inl rfl
    · exact .inr ⟨entry, kept, rfl⟩
  · rintro (rfl | ⟨entry, kept, rfl⟩)
    · exact ⟨_, .inl rfl, rfl⟩
    · by_cases same : entry.1 = id
      · exact ⟨_, .inl rfl, same.symm⟩
      · exact ⟨entry, .inr ⟨kept, same⟩, rfl⟩

lemma find?_insert_other {store : VoucherStore} {id other : String} {voucher : Bytes}
    (differs : other ≠ id) : (store.insert id voucher).find? other = store.find? other := by
  ext content
  rw [find?_eq_some_iff, find?_eq_some_iff, mem_insert_iff]
  simp [differs]

/-! ### Stores of given vouchers -/

/-- The store of vouchers that are given one after the other; of those under one identifier the last
one counts. -/
def storeOf (given : List (String × Bytes)) : VoucherStore :=
  given.foldl (fun store entry => store.insert entry.1 entry.2) VoucherStore.empty

lemma find?_storeOf (given : List (String × Bytes)) (id : String) :
    (storeOf given).find? id = given.reverse.lookup id := by
  induction given using List.reverseRecOn with
  | nil => rfl
  | append_singleton given entry ih =>
    have step : storeOf (given ++ [entry]) = (storeOf given).insert entry.1 entry.2 := by
      simp [storeOf]
    rw [step, List.reverse_append, List.reverse_singleton, List.singleton_append, List.lookup_cons]
    by_cases same : id = entry.1
    · rw [same, find?_insert, beq_self_eq_true]
    · rw [find?_insert_other same, ih, beq_false_of_ne same]

lemma mem_ids_storeOf {given : List (String × Bytes)} {id : String} :
    id ∈ (storeOf given).ids ↔ id ∈ given.map Prod.fst := by
  rw [mem_ids_iff, ← Option.isSome_iff_exists, find?_storeOf, List.lookup_isSome_iff]
  simp

/-- Every store comes of giving its entries. -/
lemma storeOf_entries (store : VoucherStore) : storeOf store.entries = store := by
  refine store_ext fun ⟨id, voucher⟩ => ?_
  have listed : ∀ content, (id, content) ∈ (storeOf store.entries).entries →
      (id, content) ∈ store.entries := by
    intro content h
    rw [← find?_eq_some_iff, find?_storeOf] at h
    obtain ⟨before, after, split, -⟩ := List.lookup_eq_some_iff.mp h
    have reversed : (id, content) ∈ store.entries.reverse :=
      split ▸ List.mem_append_right before List.mem_cons_self
    exact List.mem_reverse.mp reversed
  refine ⟨listed voucher, fun h => ?_⟩
  obtain ⟨content, found⟩ := mem_ids_iff.mp (mem_ids_storeOf.mpr (List.mem_map_of_mem h))
  have kept := find?_eq_some_iff.mp found
  rwa [voucher_unique h (listed content kept)]

end BootstrapVoucher.Proofs
