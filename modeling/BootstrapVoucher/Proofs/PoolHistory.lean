import BootstrapVoucher.Proofs.Assembly
import BootstrapVoucher.Proofs.Verification

/-!
# Trust pools over whole sessions

Pools are kept under names, filled one certificate or one bundle at a time, and copied. Beside them
runs a history: for each name the certificates that were offered by the actions that succeeded. After
any session a pool is its history without the repetitions. What an action answers tells how much the
pool has grown, and an action that fails changes nothing.
-/

namespace BootstrapVoucher.Proofs

variable {Cert Key Envelope : Type} [DecidableEq Cert]

/-- What can be done with pools that are kept under names. -/
inductive PoolAction (Cert : Type)
  | new (name : String)
  | ofPem (name : String) (bundle : Bytes)
  | add (name : String) (certificate : Cert)
  | addPem (name : String) (bundle : Bytes)
  | clone (name source : String)

inductive PoolAnswer
  | done
  | isNew (b : Bool)
  | count (n : Nat)
  | failed (error : AssemblyError)
  /-- There is no pool of that name. -/
  | unknown
deriving DecidableEq

def PoolAnswer.isSuccess : PoolAnswer → Bool
  | done | isNew _ | count _ => true
  | failed _ | unknown => false

abbrev Pools (Cert : Type) := String → Option (TrustPool Cert)

def perform (P : Provider Cert Key Envelope) (pools : Pools Cert) :
    PoolAction Cert → PoolAnswer × Pools Cert
  | .new name => (.done, Function.update pools name (some TrustPool.empty))
  | .ofPem name bundle =>
    match TrustPool.ofPem P bundle with
    | .ok pool => (.done, Function.update pools name (some pool))
    | .error e => (.failed e, pools)
  | .add name certificate =>
    match pools name with
    | some pool =>
      let (isNew, next) := pool.offer certificate
      (.isNew isNew, Function.update pools name (some next))
    | none => (.unknown, pools)
  | .addPem name bundle =>
    match pools name with
    | some pool =>
      match pool.offerPem P bundle with
      | .ok (count, next) => (.count count, Function.update pools name (some next))
      | .error e => (.failed e, pools)
    | none => (.unknown, pools)
  | .clone name source =>
    match pools source with
    | some pool => (.done, Function.update pools name (some pool))
    | none => (.unknown, pools)

/-- For each name, what has been offered to its pool since the pool was made, in order. -/
abbrev History (Cert : Type) := String → Option (List Cert)

/-- The certificates in a bundle that can be read. -/
def bundled (P : Provider Cert Key Envelope) (bundle : Bytes) : List Cert :=
  (P.readCertificates bundle).toOption.getD []

/-- Notes down an action that succeeded. A copy takes the history of its source over. -/
def note (P : Provider Cert Key Envelope) (history : History Cert) : PoolAction Cert → History Cert
  | .new name => Function.update history name (some [])
  | .ofPem name bundle => Function.update history name (some (bundled P bundle))
  | .add name certificate => Function.update history name ((history name).map (· ++ [certificate]))
  | .addPem name bundle => Function.update history name ((history name).map (· ++ bundled P bundle))
  | .clone name source => Function.update history name (history source)

structure PoolSession (Cert : Type) where
  pools : Pools Cert
  history : History Cert

namespace PoolSession

def start : PoolSession Cert := ⟨fun _ => none, fun _ => none⟩

/-- Performs an action, and notes it down if it succeeds. -/
def next (P : Provider Cert Key Envelope) (s : PoolSession Cert) (action : PoolAction Cert) :
    PoolSession Cert :=
  let (answer, pools) := perform P s.pools action
  ⟨pools, if answer.isSuccess then note P s.history action else s.history⟩

def run (P : Provider Cert Key Envelope) (actions : List (PoolAction Cert)) : PoolSession Cert :=
  actions.foldl (next P) start

end PoolSession

/-! ### Offering certificates -/

lemma offerPem_of_unread {P : Provider Cert Key Envelope} (pool : TrustPool Cert) {bundle : Bytes}
    {reason : String} (unread : P.readCertificates bundle = .error reason) :
    pool.offerPem P bundle = .error (.syntaxError reason) := by
  unfold TrustPool.offerPem
  rw [unread]
  rfl

lemma ofPem_of_unread {P : Provider Cert Key Envelope} {bundle : Bytes} {reason : String}
    (unread : P.readCertificates bundle = .error reason) :
    TrustPool.ofPem P bundle = .error (.syntaxError reason) := by
  unfold TrustPool.ofPem
  rw [offerPem_of_unread _ unread, error_bind]

lemma ofPem_of_empty {P : Provider Cert Key Envelope} {bundle : Bytes}
    (read : P.readCertificates bundle = .ok []) :
    TrustPool.ofPem P bundle = .error (.trustPoolEmpty "no certificate found in PEM input") := by
  unfold TrustPool.ofPem
  rw [offerPem_of_read _ read, ok_bind]
  rfl

/-! ### What an action does -/

section Actions

variable {P : Provider Cert Key Envelope} {pools : Pools Cert}

lemma perform_ofPem_unread (name : String) {bundle : Bytes} {reason : String}
    (unread : P.readCertificates bundle = .error reason) :
    perform P pools (.ofPem name bundle) = (.failed (.syntaxError reason), pools) := by
  simp only [perform, ofPem_of_unread unread]

lemma perform_ofPem_empty (name : String) {bundle : Bytes} (read : P.readCertificates bundle = .ok []) :
    perform P pools (.ofPem name bundle) =
      (.failed (.trustPoolEmpty "no certificate found in PEM input"), pools) := by
  simp only [perform, ofPem_of_empty read]

lemma perform_ofPem_read (name : String) {bundle : Bytes} {certificates : List Cert}
    (read : P.readCertificates bundle = .ok certificates) (hne : certificates ≠ []) :
    perform P pools (.ofPem name bundle) =
      (.done, Function.update pools name (some (TrustPool.empty.offerAll certificates).2)) := by
  simp only [perform, ofPem_of_read read hne]

lemma perform_add {name : String} {pool : TrustPool Cert} (known : pools name = some pool) (c : Cert) :
    perform P pools (.add name c) =
      (.isNew (pool.offer c).1, Function.update pools name (some (pool.add c))) := by
  simp only [perform, known, offer_eq]

lemma perform_addPem_unread {name : String} {pool : TrustPool Cert} (known : pools name = some pool)
    {bundle : Bytes} {reason : String} (unread : P.readCertificates bundle = .error reason) :
    perform P pools (.addPem name bundle) = (.failed (.syntaxError reason), pools) := by
  simp only [perform, known, offerPem_of_unread pool unread]

lemma perform_addPem_read {name : String} {pool : TrustPool Cert} (known : pools name = some pool)
    {bundle : Bytes} {certificates : List Cert} (read : P.readCertificates bundle = .ok certificates) :
    perform P pools (.addPem name bundle) =
      (.count (pool.offerAll certificates).1,
        Function.update pools name (some (pool.offerAll certificates).2)) := by
  simp only [perform, known, offerPem_of_read pool read]

lemma perform_clone {source : String} {pool : TrustPool Cert} (known : pools source = some pool)
    (name : String) : perform P pools (.clone name source) =
      (.done, Function.update pools name (some pool)) := by
  simp only [perform, known]

lemma perform_unknown {name : String} (unknown : pools name = none) :
    (∀ c, perform P pools (.add name c) = (.unknown, pools)) ∧
    (∀ bundle, perform P pools (.addPem name bundle) = (.unknown, pools)) ∧
    ∀ other, perform P pools (.clone other name) = (.unknown, pools) := by
  simp only [perform, unknown, implies_true, and_self]

end Actions

lemma next_of_success {P : Provider Cert Key Envelope} {s : PoolSession Cert}
    {action : PoolAction Cert} {answer : PoolAnswer} {pools : Pools Cert}
    (h : perform P s.pools action = (answer, pools)) (success : answer.isSuccess = true) :
    s.next P action = ⟨pools, note P s.history action⟩ := by
  unfold PoolSession.next
  rw [h]
  simp only [success, if_true]

lemma next_of_failure {P : Provider Cert Key Envelope} {s : PoolSession Cert}
    {action : PoolAction Cert} {answer : PoolAnswer}
    (h : perform P s.pools action = (answer, s.pools)) (failure : answer.isSuccess = false) :
    s.next P action = s := by
  unfold PoolSession.next
  rw [h]
  simp only [failure, Bool.false_eq_true, if_false]

/-! ### Pools and histories -/

/-- The pools of all names are their histories, each certificate where it was first offered. -/
def Tracks (pools : Pools Cert) (history : History Cert) : Prop :=
  ∀ name, (pools name).map TrustPool.certificates = (history name).map List.eraseDups

lemma add_of_eraseDups {pool : TrustPool Cert} {offered : List Cert}
    (h : pool.certificates = offered.eraseDups) (c : Cert) :
    (pool.add c).certificates = (offered ++ [c]).eraseDups := by
  rw [List.eraseDups_append, ← h]
  unfold TrustPool.add TrustPool.offer
  have known : c ∈ pool.certificates ↔ c ∈ offered := by rw [h, List.mem_eraseDups]
  by_cases hc : c ∈ offered
  · rw [dif_pos (known.mpr hc)]
    simp [List.removeAll, hc]
  · rw [dif_neg fun hmem => hc (known.mp hmem)]
    simp [List.removeAll, hc, List.eraseDups_cons]

lemma offerAll_of_eraseDups {pool : TrustPool Cert} {offered : List Cert}
    (h : pool.certificates = offered.eraseDups) (certificates : List Cert) :
    (pool.offerAll certificates).2.certificates = (offered ++ certificates).eraseDups := by
  induction certificates generalizing pool offered with
  | nil => rw [List.append_nil, ← h, TrustPool.offerAll]
  | cons c certificates ih =>
    have hstep : (pool.offerAll (c :: certificates)).2 = ((pool.add c).offerAll certificates).2 := rfl
    rw [hstep, ih (add_of_eraseDups h c), List.append_assoc, List.singleton_append]

lemma Tracks.update {pools : Pools Cert} {history : History Cert} (h : Tracks pools history)
    (name : String) {pool : TrustPool Cert} {offered : Option (List Cert)}
    (same : some pool.certificates = offered.map List.eraseDups) :
    Tracks (Function.update pools name (some pool)) (Function.update history name offered) := by
  intro other
  by_cases hother : other = name
  · subst hother
    rw [Function.update_self, Function.update_self]
    exact same
  · rw [Function.update_of_ne hother, Function.update_of_ne hother]
    exact h other

lemma Tracks.of_known {pools : Pools Cert} {history : History Cert} (h : Tracks pools history)
    {name : String} {pool : TrustPool Cert} (known : pools name = some pool) :
    ∃ offered, history name = some offered ∧ pool.certificates = offered.eraseDups := by
  have same := h name
  rw [known, Option.map_some] at same
  obtain ⟨offered, hoffered, heq⟩ := Option.map_eq_some_iff.mp same.symm
  exact ⟨offered, hoffered, heq.symm⟩

/-- No action, successful or not, takes the pools away from their histories. -/
lemma tracks_next (P : Provider Cert Key Envelope) {s : PoolSession Cert}
    (h : Tracks s.pools s.history) (action : PoolAction Cert) :
    Tracks (s.next P action).pools (s.next P action).history := by
  cases action with
  | new name => exact h.update name rfl
  | ofPem name bundle =>
    cases read : P.readCertificates bundle with
    | error reason =>
      rw [next_of_failure (perform_ofPem_unread name read) rfl]
      exact h
    | ok certificates =>
      by_cases none : certificates = []
      · subst none
        rw [next_of_failure (perform_ofPem_empty name read) rfl]
        exact h
      · rw [next_of_success (perform_ofPem_read name read none) rfl]
        have nothing : (TrustPool.empty : TrustPool Cert).certificates = ([] : List Cert).eraseDups := rfl
        have fresh := offerAll_of_eraseDups nothing certificates
        apply h.update name
        rw [fresh, bundled, read]
        rfl
  | add name certificate =>
    cases known : s.pools name with
    | none =>
      rw [next_of_failure ((perform_unknown known).1 certificate) rfl]
      exact h
    | some pool =>
      obtain ⟨offered, hoffered, heq⟩ := h.of_known known
      rw [next_of_success (perform_add known certificate) rfl]
      apply h.update name
      rw [hoffered, Option.map_some, Option.map_some, add_of_eraseDups heq]
  | addPem name bundle =>
    cases known : s.pools name with
    | none =>
      rw [next_of_failure ((perform_unknown known).2.1 bundle) rfl]
      exact h
    | some pool =>
      cases read : P.readCertificates bundle with
      | error reason =>
        rw [next_of_failure (perform_addPem_unread known read) rfl]
        exact h
      | ok certificates =>
        obtain ⟨offered, hoffered, heq⟩ := h.of_known known
        rw [next_of_success (perform_addPem_read known read) rfl]
        apply h.update name
        rw [hoffered, Option.map_some, Option.map_some, offerAll_of_eraseDups heq, bundled, read]
        rfl
  | clone name source =>
    cases known : s.pools source with
    | none =>
      rw [next_of_failure ((perform_unknown known).2.2 name) rfl]
      exact h
    | some pool =>
      rw [next_of_success (perform_clone known name) rfl]
      apply h.update name
      rw [← h source, known, Option.map_some]

lemma tracks_run (P : Provider Cert Key Envelope) (actions : List (PoolAction Cert)) :
    Tracks (PoolSession.run P actions).pools (PoolSession.run P actions).history := by
  have fold : ∀ s : PoolSession Cert, Tracks s.pools s.history →
      Tracks (actions.foldl (PoolSession.next P) s).pools
        (actions.foldl (PoolSession.next P) s).history := by
    induction actions with
    | nil =>
      intro s h
      exact h
    | cons action actions ih =>
      intro s h
      exact ih _ (tracks_next P h action)
  exact fold PoolSession.start fun name => rfl

/-! ### What is answered -/

/-- The number of certificates in the pool of a name. -/
def Pools.size (pools : Pools Cert) (name : String) : Nat := ((pools name).map TrustPool.size).getD 0

/-- Whatever is done next, the answer tells by how much the pool grows and whether anything has
changed at all. -/
structure TellsGrowth (P : Provider Cert Key Envelope) (pools : Pools Cert) : Prop where
  added : ∀ name c pool, pools name = some pool → ∃ isNew after,
    perform P pools (.add name c) = (.isNew isNew, after) ∧
      (isNew = true ↔ after.size name = pools.size name + 1)
  counted : ∀ name bundle certificates pool, pools name = some pool →
    P.readCertificates bundle = .ok certificates → ∃ n after,
      perform P pools (.addPem name bundle) = (.count n, after) ∧
        after.size name = pools.size name + n
  refused : ∀ name bundle reason pool, pools name = some pool →
    P.readCertificates bundle = .error reason →
      perform P pools (.addPem name bundle) = (.failed (.syntaxError reason), pools)
  hollow : ∀ name bundle,
    (∃ detail after, perform P pools (.ofPem name bundle) = (.failed (.trustPoolEmpty detail), after)) ↔
      P.readCertificates bundle = .ok []
  unchanged : ∀ action answer after, perform P pools action = (answer, after) →
    answer.isSuccess = false → after = pools

omit [DecidableEq Cert] in
lemma size_update (pools : Pools Cert) (name : String) (pool : TrustPool Cert) :
    Pools.size (Function.update pools name (some pool)) name = pool.size := by
  rw [Pools.size, Function.update_self, Option.map_some, Option.getD_some]

omit [DecidableEq Cert] in
lemma size_of_known {pools : Pools Cert} {name : String} {pool : TrustPool Cert}
    (known : pools name = some pool) : pools.size name = pool.size := by
  rw [Pools.size, known, Option.map_some, Option.getD_some]

/-- An action fails only where it leaves the pools alone. -/
lemma perform_unchanged {P : Provider Cert Key Envelope} {pools after : Pools Cert}
    {action : PoolAction Cert} {answer : PoolAnswer} (h : perform P pools action = (answer, after))
    (failure : answer.isSuccess = false) : after = pools := by
  cases action with
  | new name =>
    cases h
    cases failure
  | ofPem name bundle =>
    simp only [perform] at h
    split at h
    · cases h
      cases failure
    · cases h
      rfl
  | add name certificate =>
    simp only [perform] at h
    split at h
    · cases h
      cases failure
    · cases h
      rfl
  | addPem name bundle =>
    simp only [perform] at h
    split at h
    · split at h
      · cases h
        cases failure
      · cases h
        rfl
    · cases h
      rfl
  | clone name source =>
    simp only [perform] at h
    split at h
    · cases h
      cases failure
    · cases h
      rfl

lemma tellsGrowth (P : Provider Cert Key Envelope) (pools : Pools Cert) : TellsGrowth P pools where
  added := by
    intro name c pool known
    have grown := size_offer pool c
    rw [offer_eq] at grown
    refine ⟨_, _, perform_add known c, ?_⟩
    rw [size_update, size_of_known known, grown, offer_eq]
    cases pool.contains c with
    | true => simp
    | false => simp
  counted := by
    intro name bundle certificates pool known read
    have grown := size_offerAll pool certificates
    refine ⟨_, _, perform_addPem_read known read, ?_⟩
    rw [size_update, size_of_known known, grown]
  refused := by
    intro name bundle reason pool known unread
    exact perform_addPem_unread known unread
  hollow := by
    intro name bundle
    cases read : P.readCertificates bundle with
    | error reason => simp [perform_ofPem_unread name read]
    | ok certificates =>
      by_cases none : certificates = []
      · subst none
        simp [perform_ofPem_empty name read]
      · simp [perform_ofPem_read name read none, none]
  unchanged := by
    intro action answer after h failure
    exact perform_unchanged h failure

/-- After any session every pool holds exactly the certificates that were offered to it by the
actions that succeeded, each once and in the order of the first offer, so that a certificate is in a
pool exactly when it was offered. An addition answers whether the pool has grown, a bundle by how
much; what fails leaves all pools alone, and a bundle that can be read makes no pool exactly when it
is empty. -/
theorem pools_hold_first_offers (P : Provider Cert Key Envelope) (actions : List (PoolAction Cert)) :
    (∀ name, ((PoolSession.run P actions).pools name).map TrustPool.certificates =
      ((PoolSession.run P actions).history name).map List.eraseDups) ∧
    (∀ name pool, (PoolSession.run P actions).pools name = some pool →
      pool.certificates.Nodup ∧ ∃ offered, (PoolSession.run P actions).history name = some offered ∧
        ∀ c, pool.contains c = true ↔ c ∈ offered) ∧
    TellsGrowth P (PoolSession.run P actions).pools := by
  have tracks := tracks_run P actions
  refine ⟨tracks, ?_, tellsGrowth P _⟩
  intro name pool known
  obtain ⟨offered, hoffered, heq⟩ := tracks.of_known known
  refine ⟨pool.nodup, offered, hoffered, fun c => ?_⟩
  rw [TrustPool.contains, decide_eq_true_iff, heq, List.mem_eraseDups]

/-- The provider without cryptography, in whose bundles every byte is a certificate and a zero is a
damage. -/
def bundleProvider : Provider UInt8 UInt8 (List UInt8 × Bytes) :=
  { plainProvider with
    readCertificates := fun b => if 0 ∈ b then .error "bad base64 decode" else .ok b }

/-- Bundles with repetitions, damage and nothing in them, and a copy that goes its own way. -/
def mixedActions : List (PoolAction UInt8) :=
  [.ofPem "a" [], .new "a", .add "a" 1, .addPem "a" [2, 1, 2, 3], .clone "b" "a", .addPem "b" [4, 0],
    .add "b" 4, .add "a" 1]

theorem pools_hold_first_offers_mixed :
    ((PoolSession.run bundleProvider mixedActions).pools "a").map TrustPool.certificates =
      some [1, 2, 3] ∧
    (∃ pool, (PoolSession.run bundleProvider mixedActions).pools "b" = some pool ∧
      pool.certificates.Nodup ∧ pool.contains 4 = true) ∧
    (∃ after, perform bundleProvider (PoolSession.run bundleProvider mixedActions).pools
      (.addPem "a" [5, 6, 5, 2]) = (.count 2, after)) := by
  obtain ⟨held, found, answers⟩ := pools_hold_first_offers bundleProvider mixedActions
  refine ⟨(held "a").trans (by decide), ?_, ?_⟩
  · have known : (PoolSession.run bundleProvider mixedActions).pools "b" =
        some ⟨[1, 2, 3, 4], by decide⟩ := rfl
    obtain ⟨nodup, offered, hoffered, contains⟩ := found "b" _ known
    cases hoffered
    exact ⟨_, known, nodup, (contains 4).mpr (by decide)⟩
  · have known : (PoolSession.run bundleProvider mixedActions).pools "a" =
        some ⟨[1, 2, 3], by decide⟩ := rfl
    obtain ⟨n, after, answered, grown⟩ := answers.counted "a" [5, 6, 5, 2] _ _ known rfl
    refine ⟨after, answered.trans ?_⟩
    cases answered
    rfl

end BootstrapVoucher.Proofs
