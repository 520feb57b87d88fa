import BootstrapVoucher.Bytes

/-!
# Voucher stores

Signed vouchers are kept under identifiers, each identifier once, in increasing order of the
identifiers.
-/

namespace BootstrapVoucher

/-- Vouchers by identifier, in strictly increasing order of the identifiers. -/
structure VoucherStore where
  entries : List (String × Bytes)
  increasing : entries.Pairwise fun a b => a.1 < b.1

namespace VoucherStore

def empty : VoucherStore := ⟨[], List.Pairwise.nil⟩

/-- The identifiers, in increasing order. -/
def ids (store : VoucherStore) : List String := store.entries.map (·.1)

def find? (store : VoucherStore) (id : String) : Option Bytes :=
  (store.entries.find? (·.1 == id)).map (·.2)

def contains (store : VoucherStore) (id : String) : Bool := store.entries.any (·.1 == id)

/-- Puts a voucher into increasing entries, in the place of one with the same identifier. -/
def put (id : String) (voucher : Bytes) : List (String × Bytes) → List (String × Bytes)
  | [] => [(id, voucher)]
  | entry :: rest =>
    if id < entry.1 then (id, voucher) :: entry :: rest
    else if id = entry.1 then (id, voucher) :: rest
    else entry :: put id voucher rest

theorem mem_put {id : String} {voucher : Bytes} {entries : List (String × Bytes)}
    {entry : String × Bytes} (h : entry ∈ put id voucher entries) :
    entry = (id, voucher) ∨ entry ∈ entries := by
  induction entries with
  | nil => simpa [put] using h
  | cons head rest ih =>
    unfold put at h
    split at h
    · simpa using h
    · split at h
      · rcases List.mem_cons.1 h with h | h
        · exact .inl h
        · exact .inr (List.mem_cons_of_mem _ h)
      · rcases List.mem_cons.1 h with h | h
        · exact .inr (h ▸ List.mem_cons_self)
        · exact (ih h).imp (fun same => same) (List.mem_cons_of_mem _)

theorem increasing_put {id : String} {voucher : Bytes} {entries : List (String × Bytes)}
    (h : entries.Pairwise fun a b => a.1 < b.1) :
    (put id voucher entries).Pairwise fun a b => a.1 < b.1 := by
  induction entries with
  | nil => simp [put]
  | cons head rest ih =>
    obtain ⟨first, others⟩ := List.pairwise_cons.1 h
    unfold put
    split
    · rename_i before
      refine List.pairwise_cons.2 ⟨?_, h⟩
      intro entry mem
      rcases List.mem_cons.1 mem with rfl | mem
      · exact before
      · exact String.lt_trans before (first entry mem)
    · split
      · rename_i same
        refine List.pairwise_cons.2 ⟨?_, others⟩
        intro entry mem
        exact same ▸ first entry mem
      · rename_i notBefore differs
        refine List.pairwise_cons.2 ⟨?_, ih others⟩
        intro entry mem
        rcases mem_put mem with rfl | mem
        · by_cases after : head.1 < id
          · exact after
          · exact absurd (String.le_antisymm (String.not_lt.1 after) (String.not_lt.1 notBefore)) differs
        · exact first entry mem

/-- Puts a voucher into the store, in the place of one with the same identifier. -/
def insert (store : VoucherStore) (id : String) (voucher : Bytes) : VoucherStore :=
  ⟨put id voucher store.entries, increasing_put store.increasing⟩

end VoucherStore

end BootstrapVoucher
