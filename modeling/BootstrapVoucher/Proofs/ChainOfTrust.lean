import BootstrapVoucher.Proofs.SignedVoucher
import BootstrapVoucher.StandardProvider

/-!
# Trust comes from the pool

A voucher is verified only if every signer of its envelope has a chain of certificates to a member
of the pool, in which each certificate is issued and signed by the holder of the next. What the
envelope itself carries can stand inside of such a chain, but cannot end one; with an empty pool
nothing is verified. The search for chains extends a path one issuer at a time and keeps it linked,
and a path is accepted only after its signatures have been checked.
-/

namespace BootstrapVoucher.Proofs

open X509

variable {Cert Key Envelope : Type}

/-- A chain of certificates, each issued by the next one, from a signer to an anchor. -/
structure LeadsTo (Issued : Cert → Cert → Prop) (anchors : List Cert) (signer : Cert)
    (chain : List Cert) : Prop where
  starts : chain.head? = some signer
  linked : chain.IsChain Issued
  ends : ∃ anchor ∈ anchors, chain.getLast? = some anchor

/-- What is relied on when chains are checked: only a signer with a chain to an anchor is
accepted. -/
structure ChecksChains (P : Provider Cert Key Envelope) (Issued : Cert → Cert → Prop) : Prop where
  sound : ∀ {anchors untrusted signer}, P.checkChain anchors untrusted signer = .accepted →
    ∃ chain, LeadsTo Issued anchors signer chain

/-! ### The search for a chain -/

/-- A certificate names the holder of another one as its issuer and carries a signature by that
holder's key. -/
def IsIssuedBy (c issuer : Certificate) : Prop :=
  issuer.isLikelyIssuer c = true ∧ ∃ key, issuer.publicKey? = some key ∧ c.isSignedBy key = true

/-- A path from a signer, the last certificate that was found in front. -/
structure IsPath (signer : Certificate) (path : List Certificate) : Prop where
  linked : path.IsChain fun issuer c => issuer.isLikelyIssuer c = true
  starts : path.getLast? = some signer

lemma IsPath.cons {signer last issuer : Certificate} {before : List Certificate}
    (h : IsPath signer (last :: before)) (hissuer : issuer.isLikelyIssuer last = true) :
    IsPath signer (issuer :: last :: before) :=
  ⟨List.isChain_cons_cons.mpr ⟨hissuer, h.linked⟩, by rw [List.getLast?_cons_cons, h.starts]⟩

/-- The search goes on, from three of its branches, with an untrusted issuer. -/
lemma trusted_of_extended {anchors untrusted before chain : List Certificate} {last : Certificate}
    {fuel : Nat}
    (extended : (if Chain.selfSigned? last = some true ∨ Chain.lengthLimit < (last :: before).length
      then Chain.Built.untrusted (last :: before).reverse
      else match Chain.untrustedIssuer? untrusted (last :: before) last with
        | some issuer => Chain.build anchors fuel (untrusted.erase issuer) issuer (last :: before)
        | none => .untrusted (last :: before).reverse) = .trusted chain) :
    ∃ issuer, issuer.isLikelyIssuer last = true ∧
      Chain.build anchors fuel (untrusted.erase issuer) issuer (last :: before) = .trusted chain := by
  split at extended
  · cases extended
  · split at extended
    · rename_i issuer found
      have hissuer := List.find?_some found
      simp only [Bool.and_eq_true] at hissuer
      exact ⟨issuer, hissuer.2, extended⟩
    · cases extended

/-- A step of the search takes an untrusted issuer, or ends the chain with an anchor that has issued
the last certificate or is the last certificate. -/
lemma build_step {anchors untrusted before chain : List Certificate} {last : Certificate} {fuel : Nat}
    (built : Chain.build anchors (fuel + 1) untrusted last before = .trusted chain) :
    (∃ issuer, issuer.isLikelyIssuer last = true ∧
      Chain.build anchors fuel (untrusted.erase issuer) issuer (last :: before) = .trusted chain) ∨
    (∃ anchor ∈ anchors, anchor.isLikelyIssuer last = true ∧
      chain = (last :: before).reverse ++ [anchor]) ∨
    (last ∈ anchors ∧ chain = (last :: before).reverse) := by
  rw [Chain.build] at built
  split at built
  · exact .inl (trusted_of_extended built)
  · split at built
    · cases built
    · rename_i anchor found _
      cases built
      have hanchor := List.find?_some found
      exact .inr (.inl ⟨anchor, List.mem_of_find?_eq_some found, hanchor, rfl⟩)
    · rename_i anchor found _
      split at built
      · rename_i same
        cases built
        subst same
        exact .inr (.inr ⟨List.mem_of_find?_eq_some found, rfl⟩)
      · exact .inl (trusted_of_extended built)
    · exact .inl (trusted_of_extended built)

/-- A chain that has been completed is a path to an anchor. -/
lemma build_trusted {anchors untrusted before chain : List Certificate} {signer last : Certificate}
    {fuel : Nat} (h : IsPath signer (last :: before))
    (built : Chain.build anchors fuel untrusted last before = .trusted chain) :
    IsPath signer chain.reverse ∧ ∃ anchor ∈ anchors, chain.getLast? = some anchor := by
  induction fuel generalizing untrusted last before with
  | zero => cases built
  | succ fuel ih =>
    rcases build_step built with ⟨issuer, hissuer, extended⟩ | ⟨anchor, hmem, hanchor, rfl⟩ |
      ⟨hmem, rfl⟩
    · exact ih (h.cons hissuer) extended
    · refine ⟨?_, anchor, hmem, by simp⟩
      rw [List.reverse_append, List.reverse_reverse]
      exact h.cons hanchor
    · exact ⟨by rwa [List.reverse_reverse], last, hmem, by simp⟩

/-- Along a checked chain every certificate is signed by the key of the next. -/
lemma isChain_of_checkSignatures {chain : List Certificate}
    (linked : chain.IsChain fun c issuer => issuer.isLikelyIssuer c = true)
    (checked : Chain.checkSignatures chain = .ok ()) : chain.IsChain IsIssuedBy := by
  induction chain with
  | nil => exact .nil
  | cons c chain ih =>
    cases chain with
    | nil => exact .singleton c
    | cons issuer rest =>
      obtain ⟨hissuer, linked⟩ := List.isChain_cons_cons.mp linked
      rw [Chain.checkSignatures] at checked
      obtain ⟨⟨⟩, above, signed⟩ := bind_eq_ok.mp checked
      refine List.isChain_cons_cons.mpr ⟨⟨hissuer, ?_⟩, ih linked above⟩
      cases hkey : issuer.publicKey? with
      | none =>
        rw [hkey] at signed
        cases signed
      | some key =>
        refine ⟨key, rfl, ?_⟩
        by_contra unsigned
        rw [hkey, Option.any_some, if_pos (by simpa using unsigned)] at signed
        cases signed

lemma checkSignatures_of_check {chain : List Certificate} (h : Chain.check chain = .accepted) :
    Chain.checkSignatures chain = .ok () := by
  unfold Chain.check at h
  split at h
  · cases h
  · split at h
    · cases h
    · split at h
      · cases h
      · cases h
      · rename_i signatures _
        exact signatures

/-- A signer is accepted at the end of a completed chain, or as an anchor of its own. -/
lemma leadsTo_of_verify {anchors untrusted : List Certificate} {signer : Certificate}
    (h : Chain.verify anchors untrusted signer = .accepted) :
    ∃ chain, LeadsTo IsIssuedBy anchors signer chain := by
  unfold Chain.verify at h
  split at h
  · cases h
  · rename_i chain built
    have start : IsPath signer [signer] := ⟨.singleton signer, rfl⟩
    obtain ⟨path, ends⟩ := build_trusted start built
    have linked := List.isChain_reverse.mp path.linked
    have starts := path.starts
    rw [List.getLast?_reverse] at starts
    exact ⟨chain, starts, isChain_of_checkSignatures linked (checkSignatures_of_check h), ends⟩
  · split at h
    · rename_i anchored
      have member : signer ∈ anchors := List.contains_iff_mem.mp anchored.1
      exact ⟨[signer], rfl, .singleton signer, signer, member, rfl⟩
    · cases h

lemma checksChains_standardProvider : ChecksChains standardProvider IsIssuedBy := by
  constructor
  intro anchors untrusted signer accepted
  change verdictText (Chain.verify anchors untrusted signer) = .accepted at accepted
  cases verdict : Chain.verify anchors untrusted signer with
  | accepted => exact leadsTo_of_verify verdict
  | rejected reason =>
    rw [verdict] at accepted
    cases accepted
  | failed failure =>
    rw [verdict] at accepted
    cases accepted

/-! ### Verification -/

/-- Whoever has signed a verified voucher has a chain to the pool. -/
lemma leadsTo_of_verified {P : Provider Cert Key Envelope} {Issued : Cert → Cert → Prop}
    (checks : ChecksChains P Issued) {pool : TrustPool Cert} {voucher : Bytes} {claims : Claims}
    (h : (verify P pool voucher).value = .ok claims) :
    ∃ envelope signers, Opens P voucher envelope ∧
      P.locateSigners envelope (P.certificates envelope) = .ok signers ∧ signers ≠ [] ∧
      ∀ signer ∈ signers, ∃ chain, LeadsTo Issued pool.certificates signer chain := by
  rw [verify_value] at h
  obtain ⟨⟨_, content⟩, inspected, -⟩ := bind_eq_ok.mp h
  obtain ⟨envelope, signers, opens, vouches⟩ :=
    (authenticated_iff_inspect P pool voucher content).mpr ⟨_, inspected⟩
  refine ⟨envelope, signers, opens, vouches.located, vouches.signed, ?_⟩
  intro signer hsigner
  exact checks.sound (vouches.chained signer hsigner)

lemma verify_empty_pool {P : Provider Cert Key Envelope} {Issued : Cert → Cert → Prop}
    (checks : ChecksChains P Issued) {pool : TrustPool Cert} (hempty : pool.isEmpty = true)
    (voucher : Bytes) (claims : Claims) : (verify P pool voucher).value ≠ .ok claims := by
  intro verified
  obtain ⟨-, signers, -, -, hne, leads⟩ := leadsTo_of_verified checks verified
  obtain ⟨signer, hsigner⟩ := List.exists_mem_of_ne_nil signers hne
  obtain ⟨chain, -, -, anchor, hanchor, -⟩ := leads signer hsigner
  rw [List.isEmpty_iff.mp hempty] at hanchor
  cases hanchor

/-- The search for chains over certificates of the common standards accepts only chains to an anchor
in which every signature checks. Wherever that holds, every signer of a verified voucher has such a
chain to the pool, and with an empty pool nothing is verified. -/
theorem verified_signers_lead_to_pool :
    ChecksChains standardProvider IsIssuedBy ∧
    ∀ {Cert Key Envelope : Type} (P : Provider Cert Key Envelope) (Issued : Cert → Cert → Prop),
      ChecksChains P Issued → ∀ (pool : TrustPool Cert) (voucher : Bytes),
        (∀ claims, (verify P pool voucher).value = .ok claims →
          ∃ envelope signers, Opens P voucher envelope ∧
            P.locateSigners envelope (P.certificates envelope) = .ok signers ∧ signers ≠ [] ∧
            ∀ signer ∈ signers, ∃ chain, LeadsTo Issued pool.certificates signer chain) ∧
        (pool.isEmpty = true → ∀ claims, (verify P pool voucher).value ≠ .ok claims) := by
  refine ⟨checksChains_standardProvider, ?_⟩
  intro Cert Key Envelope P Issued checks pool voucher
  exact ⟨fun claims verified => leadsTo_of_verified checks verified,
    fun hempty => verify_empty_pool checks hempty voucher⟩

/-- Whether a way leads up to an anchor when every number is issued by the next one. -/
def climbs (anchors untrusted : List UInt8) : (fuel : Nat) → UInt8 → Bool
  | 0, n => anchors.contains n
  | fuel + 1, n =>
    anchors.contains n ||
      (anchors ++ untrusted).contains (n + 1) && climbs anchors untrusted fuel (n + 1)

/-- The provider without cryptography, but with certificates in a row: the certificates of an
envelope lead up to those of the pool. -/
def rowProvider : Provider UInt8 UInt8 (List UInt8 × Bytes) :=
  { plainProvider with
    checkChain := fun anchors untrusted signer =>
      if climbs anchors untrusted untrusted.length signer then .accepted
      else .rejected "unable to get local issuer certificate" }

lemma leadsTo_of_climbs {anchors untrusted : List UInt8} {fuel : Nat} {n : UInt8}
    (h : climbs anchors untrusted fuel n = true) :
    ∃ chain, LeadsTo (fun c issuer => issuer = c + 1) anchors n chain := by
  induction fuel generalizing n with
  | zero => exact ⟨[n], rfl, .singleton n, n, List.contains_iff_mem.mp h, rfl⟩
  | succ fuel ih =>
    rw [climbs, Bool.or_eq_true, Bool.and_eq_true] at h
    rcases h with h | ⟨-, h⟩
    · exact ⟨[n], rfl, .singleton n, n, List.contains_iff_mem.mp h, rfl⟩
    · obtain ⟨chain, starts, linked, anchor, hanchor, ends⟩ := ih h
      obtain ⟨rest, rfl⟩ := List.head?_eq_some_iff.mp starts
      exact ⟨n :: (n + 1) :: rest, rfl, List.isChain_cons_cons.mpr ⟨rfl, linked⟩, anchor, hanchor,
        by rw [List.getLast?_cons_cons, ends]⟩

lemma checksChains_rowProvider : ChecksChains rowProvider fun c issuer => issuer = c + 1 := by
  constructor
  intro anchors untrusted signer accepted
  change (if climbs anchors untrusted untrusted.length signer then ChainVerdict.accepted else _) =
    .accepted at accepted
  split at accepted
  · rename_i climbed
    exact leadsTo_of_climbs climbed
  · cases accepted

lemma opens_row (content : Bytes) :
    Opens rowProvider (1 :: 2 :: 0 :: content) ([1, 2], content) :=
  ⟨by simp, by simp [rowProvider, plainProvider]⟩

lemma authenticated_row (content : Bytes) :
    Authenticated rowProvider (TrustPool.empty.add 3) (1 :: 2 :: 0 :: content) content := by
  refine ⟨([1, 2], content), [1, 2], opens_row content, rfl, by simp, ?_, rfl⟩
  have climbed : ∀ signer ∈ [1, 2], climbs [3] [1, 2] 2 signer = true := by decide +kernel
  intro signer hsigner
  exact if_pos (climbed signer hsigner)

/-- Two signers of whom one has issued the certificate of the other, under a pool that has issued
only the higher one; and no voucher at all under the empty pool. -/
theorem row_signers_lead_to_pool :
    (∃ voucher, (verify rowProvider (TrustPool.empty.add 3) voucher).value = .ok leapSecondClaims ∧
      ∃ envelope, Opens rowProvider voucher envelope ∧
        rowProvider.locateSigners envelope (rowProvider.certificates envelope) = .ok [1, 2] ∧
        ∀ signer ∈ ([1, 2] : List UInt8),
          ∃ chain, LeadsTo (fun c issuer => issuer = c + 1) [3] signer chain) ∧
    ∀ voucher claims, (verify standardProvider TrustPool.empty voucher).value ≠ .ok claims := by
  obtain ⟨standard, trusted⟩ := verified_signers_lead_to_pool
  constructor
  · have opened := opens_row (Document.value leapSecondClaims).compact
    have verified := verify_of_authenticated
      (authenticated_row (Document.value leapSecondClaims).compact)
    rw [Verification.decodeContent, decode_compact_shown rfl (by decide) (by decide), Except.mapError] at verified
    obtain ⟨envelope, signers, opens, located, -, leads⟩ :=
      (trusted rowProvider _ checksChains_rowProvider _ _).1 _ verified
    have same := opens.opened.symm.trans opened.opened
    cases same
    cases located
    exact ⟨_, verified, _, opened, rfl, leads⟩
  · intro voucher
    exact (trusted standardProvider IsIssuedBy standard TrustPool.empty voucher).2 rfl

end BootstrapVoucher.Proofs
