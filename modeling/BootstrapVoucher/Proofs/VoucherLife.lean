import BootstrapVoucher.Proofs.Lifetime

/-!
# The life of a voucher

What is asked about a voucher at one time after another has a simple course. A voucher that is not
verified is refused for the same reason at all times. A voucher that is verified is refused as too
early for a while, then accepted for a while, then refused as expired for good. Times may repeat but
not go back; they are compared with leap seconds kept, and in one order at both ends of the window.
-/

namespace BootstrapVoucher.Proofs

open Time

variable {Cert Key Envelope : Type}

/-! ### Times in order -/

/-- Of times in order, those before a bound come first. -/
lemma exists_split {times : List Instant} (ordered : times.Pairwise (· ≤ ·)) (bound : Instant) :
    ∃ before after, times = before ++ after ∧ (∀ t ∈ before, t < bound) ∧ ∀ t ∈ after, bound ≤ t := by
  induction times with
  | nil => exact ⟨[], [], rfl, by simp, by simp⟩
  | cons first times ih =>
    obtain ⟨least, ordered⟩ := List.pairwise_cons.mp ordered
    by_cases h : first < bound
    · obtain ⟨before, after, rfl, early, late⟩ := ih ordered
      exact ⟨first :: before, after, rfl, List.forall_mem_cons.mpr ⟨h, early⟩, late⟩
    · have reached : bound ≤ first := not_lt.mp h
      exact ⟨[], first :: times, rfl, by simp,
        List.forall_mem_cons.mpr ⟨reached, fun t ht => reached.trans (least t ht)⟩⟩

/-- Times that never go back are before a bound up to some position, or for ever. -/
lemma exists_position {times : ℕ → Instant} (ordered : Monotone times) (bound : Instant) :
    ∃ position : ℕ∞, ∀ i : ℕ, i < position ↔ times i < bound := by
  by_cases reached : ∃ i, bound ≤ times i
  · refine ⟨Nat.find reached, fun i => ?_⟩
    rw [Nat.cast_lt, Nat.lt_find_iff]
    constructor
    · intro h
      exact not_le.mp (h i le_rfl)
    · intro h j hj
      exact not_le.mpr ((ordered hj).trans_lt h)
  · refine ⟨⊤, fun i => ?_⟩
    have before : times i < bound := not_le.mp fun h => reached ⟨i, h⟩
    simp [before]

/-- A later bound is reached at a later position. -/
lemma position_le {times : ℕ → Instant} {first last : Instant} (h : first ≤ last) {m n : ℕ∞}
    (hm : ∀ i : ℕ, i < m ↔ times i < first) (hn : ∀ i : ℕ, i < n ↔ times i < last) : m ≤ n := by
  by_contra hlt
  obtain ⟨i, rfl⟩ := ENat.ne_top_iff_exists.mp (ne_top_of_lt (not_le.mp hlt))
  have before : times i < first := (hm i).mp (not_le.mp hlt)
  exact lt_irrefl _ ((hn i).mpr (before.trans_le h))

/-! ### Answers at one time -/

section Answers

variable {P : Provider Cert Key Envelope} {pool : TrustPool Cert} {voucher : Bytes} {at_ : Instant}

lemma verifyAt_of_error {e : VerificationError} (h : (verify P pool voucher).value = .error e)
    (at_ : Instant) : (verifyAt P pool voucher at_).value = .error e := by
  unfold verifyAt
  simp only [h, error_bind]

variable {c : Claims} (verified : (verify P pool voucher).value = .ok c)

include verified

lemma verifyAt_value : (verifyAt P pool voucher at_).value = c.checkAt at_ >>= fun _ => .ok c := by
  unfold verifyAt
  simp only [verified, ok_bind]
  rfl

lemma verifyAt_early (early : at_ < c.createdOn) :
    ∃ detail, (verifyAt P pool voucher at_).value = .error (.notYetValid detail) := by
  rw [verifyAt_value verified, Claims.checkAt, if_pos early]
  exact ⟨_, rfl⟩

lemma verifyAt_within (open_ : c.createdOn ≤ at_) (last : at_ < c.expiresOn) :
    (verifyAt P pool voucher at_).value = .ok c :=
  verifyAt_eq_ok.mpr ⟨verified, checkAt_eq_ok.mpr ⟨open_, last⟩⟩

/-- The window does not end before it starts, so what is too late is not too early. -/
lemma verifyAt_late (late : c.expiresOn ≤ at_) :
    ∃ detail, (verifyAt P pool voucher at_).value = .error (.expired detail) := by
  have started : ¬at_ < c.createdOn := not_lt.mpr ((valid_of_verify verified).window.trans late)
  rw [verifyAt_value verified, Claims.checkAt, if_neg started, if_pos late]
  exact ⟨_, rfl⟩

lemma verifyAt_accepts {d : Claims} : (verifyAt P pool voucher at_).value = .ok d ↔
    d = c ∧ c.createdOn ≤ at_ ∧ at_ < c.expiresOn := by
  rw [verifyAt_eq_ok, verified, checkAt_eq_ok, Except.ok.injEq, eq_comm]
  constructor
  · rintro ⟨rfl, within⟩
    exact ⟨rfl, within⟩
  · rintro ⟨rfl, within⟩
    exact ⟨rfl, within⟩

end Answers

/-- A voucher that is not verified is refused alike at all times. The answers about a verified one are,
along times in order, a run of refusals as too early, a run of its claims and a run of refusals as
expired, any of which may be missing or the last; it is accepted exactly from the start of its window
on and before its end, so there is a time to accept it just if the window is not empty. -/
theorem answers_run_through_window (P : Provider Cert Key Envelope) (pool : TrustPool Cert)
    (voucher : Bytes) :
    (∀ e, (verify P pool voucher).value = .error e →
      ∀ at_, (verifyAt P pool voucher at_).value = .error e) ∧
    ∀ c, (verify P pool voucher).value = .ok c →
      (∀ at_ d, (verifyAt P pool voucher at_).value = .ok d ↔
        d = c ∧ c.createdOn ≤ at_ ∧ at_ < c.expiresOn) ∧
      (∀ times : List Instant, times.Pairwise (· ≤ ·) → ∃ early within late,
        times = early ++ within ++ late ∧
        (∀ at_ ∈ early, ∃ detail, (verifyAt P pool voucher at_).value = .error (.notYetValid detail)) ∧
        (∀ at_ ∈ within, (verifyAt P pool voucher at_).value = .ok c) ∧
        ∀ at_ ∈ late, ∃ detail, (verifyAt P pool voucher at_).value = .error (.expired detail)) ∧
      (∀ times : ℕ → Instant, Monotone times → ∃ opens closes : ℕ∞, opens ≤ closes ∧ ∀ i : ℕ,
        (i < opens →
          ∃ detail, (verifyAt P pool voucher (times i)).value = .error (.notYetValid detail)) ∧
        (opens ≤ i → i < closes → (verifyAt P pool voucher (times i)).value = .ok c) ∧
        (closes ≤ i →
          ∃ detail, (verifyAt P pool voucher (times i)).value = .error (.expired detail))) ∧
      ((∃ at_ d, (verifyAt P pool voucher at_).value = .ok d) ↔ c.createdOn < c.expiresOn) := by
  refine ⟨fun e => verifyAt_of_error, fun c verified => ⟨fun at_ d => verifyAt_accepts verified, ?_, ?_, ?_⟩⟩
  · intro times ordered
    obtain ⟨early, started, rfl, before, opened⟩ := exists_split ordered c.createdOn
    obtain ⟨within, late, rfl, last, closed⟩ :=
      exists_split (List.pairwise_append.mp ordered).2.1 c.expiresOn
    refine ⟨early, within, late, (List.append_assoc ..).symm, fun at_ h => ?_, fun at_ h => ?_,
      fun at_ h => ?_⟩
    · exact verifyAt_early verified (before at_ h)
    · exact verifyAt_within verified (opened at_ (List.mem_append_left _ h)) (last at_ h)
    · exact verifyAt_late verified (closed at_ h)
  · intro times ordered
    obtain ⟨opens, before⟩ := exists_position ordered c.createdOn
    obtain ⟨closes, last⟩ := exists_position ordered c.expiresOn
    have window := (valid_of_verify verified).window
    refine ⟨opens, closes, position_le window before last, fun i =>
      ⟨fun h => ?_, fun h h' => ?_, fun h => ?_⟩⟩
    · exact verifyAt_early verified ((before i).mp h)
    · exact verifyAt_within verified (not_lt.mp (mt (before i).mpr (not_lt.mpr h))) ((last i).mp h')
    · exact verifyAt_late verified (not_lt.mp (mt (last i).mpr (not_lt.mpr h)))
  · constructor
    · rintro ⟨at_, d, accepted⟩
      obtain ⟨-, opened, last⟩ := (verifyAt_accepts verified).mp accepted
      exact opened.trans_lt last
    · intro nonempty
      exact ⟨c.createdOn, c, verifyAt_within verified le_rfl nonempty⟩

/-- A signed voucher whose window is the year 2017 with the leap second before it. -/
def voucher2017 : Bytes := 1 :: 0 :: (Document.value issuedClaims).compact

lemma verify_voucher2017 :
    (verify plainProvider (TrustPool.empty.add 1) voucher2017).value = .ok issuedClaims := by
  have faithful : IsFaithful plainProvider plainSigner.vendor := isFaithful_plainProvider (by decide)
  have hpool : (TrustPool.empty.add 1).certificates = [plainSigner.vendor.certificate] := rfl
  exact verify_envelopeOf_shown faithful hpool (envelopeOf_plain issuedClaims leapSecond2016 rfl)
    (by decide) (by decide)

/-- The voucher of 2017 is asked about at times around its window, and later for ever; the empty one is
never a voucher. -/
theorem answers_run_through_2017 :
    ((verify plainProvider (TrustPool.empty.add 1) voucher2017).value = .ok issuedClaims ∧
      (verifyAt plainProvider (TrustPool.empty.add 1) voucher2017 leapSecond2016).value =
        .ok issuedClaims ∧
      (∀ d, (verifyAt plainProvider (TrustPool.empty.add 1) voucher2017 december2017).value ≠ .ok d)) ∧
    ([beforeYear0, leapSecond2016, leapSecond2016, newYear2017, december2017].Pairwise (· ≤ ·) ∧
      ∃ early within late,
        [beforeYear0, leapSecond2016, leapSecond2016, newYear2017, december2017] =
          early ++ within ++ late ∧
        ∀ at_ ∈ within, (verifyAt plainProvider (TrustPool.empty.add 1) voucher2017 at_).value =
          .ok issuedClaims) ∧
    (Monotone (fun i => if i < 3 then newYear2017 else december2017) ∧
      ∃ opens closes : ℕ∞, opens ≤ closes ∧ ∀ i : ℕ, closes ≤ i → ∃ detail,
        (verifyAt plainProvider (TrustPool.empty.add 1) voucher2017
          (if i < 3 then newYear2017 else december2017)).value = .error (.expired detail)) ∧
    (verify plainProvider (TrustPool.empty.add 1) []).value = .error .empty ∧
      (verifyAt plainProvider (TrustPool.empty.add 1) [] leapSecond2016).value = .error .empty := by
  obtain ⟨-, course⟩ :=
    answers_run_through_window plainProvider (TrustPool.empty.add 1) voucher2017
  obtain ⟨refused, -⟩ := answers_run_through_window plainProvider (TrustPool.empty.add 1) []
  obtain ⟨accepted, along, forever, -⟩ := course issuedClaims verify_voucher2017
  have ordered : [beforeYear0, leapSecond2016, leapSecond2016, newYear2017, december2017].Pairwise
      (· ≤ ·) := by
    decide
  have later : Monotone (fun i => if i < 3 then newYear2017 else december2017) := by
    intro i j h
    dsimp only
    split_ifs
    · exact le_rfl
    · decide
    · omega
    · exact le_rfl
  obtain ⟨early, within, late, split, -, open_, -⟩ := along _ ordered
  obtain ⟨opens, closes, window, answers⟩ := forever _ later
  refine ⟨⟨verify_voucher2017, (accepted _ _).mpr ⟨rfl, by decide, by decide⟩, fun d h => ?_⟩,
    ⟨ordered, early, within, late, split, open_⟩,
    ⟨later, opens, closes, window, fun i => (answers i).2.2⟩, rfl, refused _ rfl _⟩
  exact lt_irrefl december2017 ((accepted _ _).mp h).2.2

end BootstrapVoucher.Proofs
