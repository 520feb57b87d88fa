import BootstrapVoucher.Proofs.JsonGrammar
import BootstrapVoucher.Proofs.Validity

/-!
# The language of voucher documents

A byte string is read as claims exactly when it is a JSON text of an object whose container member is
an object with the required members, each of its kind, and the claims are valid. Of several members
with one name the last one counts. Every other byte string is refused for the first thing that is
wrong with it: the text, the container, a missing member in the order of the required names, an
unreadable member in the order of all names, and last the validity of the claims.
-/

namespace BootstrapVoucher.Proofs

open Time Json Document

/-! ### Members -/

/-- The last member of this name has this value. -/
def Last (members : List (String × Value)) (name : String) (v : Value) : Prop :=
  ∃ before after, members = before ++ (name, v) :: after ∧ ∀ m ∈ after, m.1 ≠ name

lemma member?_eq_some {members : List (String × Value)} {name : String} {v : Value} :
    (Value.object members).member? name = some v ↔ Last members name v := by
  unfold Value.member?
  rw [Option.map_eq_some_iff]
  constructor
  · rintro ⟨⟨name', v'⟩, found, rfl⟩
    obtain ⟨hname, after, before, heq, others⟩ := List.find?_eq_some_iff_append.mp found
    obtain rfl : name' = name := by simpa using hname
    refine ⟨before.reverse, after.reverse, ?_, fun m hm => ?_⟩
    · rw [← List.reverse_reverse members, heq]
      simp
    · simpa using others m (List.mem_reverse.mp hm)
  · rintro ⟨before, after, rfl, others⟩
    refine ⟨(name, v), List.find?_eq_some_iff_append.mpr ⟨by simp, after.reverse, before.reverse,
      by simp, fun m hm => ?_⟩, rfl⟩
    simpa using others m (List.mem_reverse.mp hm)

lemma member?_eq_none {members : List (String × Value)} {name : String} :
    (Value.object members).member? name = none ↔ ∀ v, ¬Last members name v := by
  rw [Option.eq_none_iff_forall_ne_some]
  exact forall_congr' fun v => not_congr member?_eq_some

/-- These members are read as these claims. -/
structure ReadsAs (inner : List (String × Value)) (c : Claims) : Prop where
  createdOn : ∃ s, Last inner "created-on" (.string s) ∧ DateAndTime.parse s = .ok c.createdOn
  expiresOn : ∃ s, Last inner "expires-on" (.string s) ∧ DateAndTime.parse s = .ok c.expiresOn
  serialNumber : Last inner "serial-number" (.string c.serialNumber)
  pinnedDomainCert : Last inner "pinned-domain-cert" (.string c.pinnedDomainCert)
  assertion : Last inner "assertion" (.string ((c.assertion.map Assertion.text).getD "")) ∨
    (∀ v, ¬Last inner "assertion" v) ∧ c.assertion = none
  revocationChecks : Last inner "domain-cert-revocation-checks" (.bool c.revocationChecks) ∨
    (∀ v, ¬Last inner "domain-cert-revocation-checks" v) ∧ c.revocationChecks = false

/-- The first of the required names that no member has. -/
def FirstLacking (inner : List (String × Value)) (name : String) : Prop :=
  ∃ before after, requiredNames = before ++ name :: after ∧
    (∀ earlier ∈ before, ∃ v, Last inner earlier v) ∧ ∀ v, ¬Last inner name v

/-- What is wrong with the value of a member, if it is not a value that the name asks for. -/
def faultOf (name : String) (v : Value) : Option String :=
  match Draft.empty.put (name, v) with
  | .error detail => some detail
  | .ok _ => none

/-- What is wrong with the first of the members, in the order of all names, that cannot be read. -/
def FirstUnreadable (inner : List (String × Value)) (detail : String) : Prop :=
  ∃ before name after v, Document.allNames = before ++ name :: after ∧ Last inner name v ∧
    faultOf name v = some detail ∧ ∀ earlier ∈ before, ∀ w, Last inner earlier w → faultOf earlier w = none

/-! ### Readers of single values -/

lemma readText_eq_ok {v : Value} {s : String} : readText v = .ok s ↔ v = .string s := by
  cases v <;> simp [readText]

lemma readBool_eq_ok {v : Value} {b : Bool} : readBool v = .ok b ↔ v = .bool b := by
  cases v <;> simp [readBool]

lemma readInstant_eq_ok {v : Value} {t : Instant} :
    readInstant v = .ok t ↔ ∃ s, v = .string s ∧ DateAndTime.parse s = .ok t := by
  unfold readInstant
  constructor
  · intro h
    obtain ⟨s, hs, h⟩ := bind_eq_ok.mp h
    refine ⟨s, readText_eq_ok.mp hs, ?_⟩
    cases parsed : DateAndTime.parse s with
    | ok t' =>
      rw [parsed] at h
      cases h
      rfl
    | error fault =>
      rw [parsed] at h
      cases h
  · rintro ⟨s, rfl, parsed⟩
    rw [readText, ok_bind, parsed]

lemma ofText_eq_ok {s : String} {a : Assertion} : Assertion.ofText s = .ok a ↔ s = a.text := by
  unfold Assertion.ofText
  split_ifs with h1 h2 h3
  · subst h1
    cases a <;> simp [Assertion.text]
  · subst h2
    cases a <;> simp [Assertion.text]
  · subst h3
    cases a <;> simp [Assertion.text]
  · cases a <;> simp [Assertion.text, h1, h2, h3]

lemma readAssertion_eq_ok {v : Value} {a : Option Assertion} :
    readAssertion v = .ok a ↔ v = .string ((a.map Assertion.text).getD "") := by
  constructor
  · intro h
    obtain ⟨s, hs, h⟩ := bind_eq_ok.mp h
    rw [readText_eq_ok.mp hs]
    split at h
    · cases h
      simp_all
    · cases known : Assertion.ofText s with
      | ok a' =>
        rw [known] at h
        cases h
        rw [ofText_eq_ok.mp known]
        rfl
      | error e =>
        rw [known] at h
        cases h
  · rintro rfl
    exact readAssertion_text a

/-! ### Reading of all members -/

/-- Reads the value of a member, if there is one. -/
def optionally {α : Type} (read : Value → Except String α) : Option Value → Except String (Option α)
  | none => .ok none
  | some v => (read v).map some

lemma optionally_eq_ok {α : Type} {read : Value → Except String α} {v : Option Value} {a : Option α} :
    optionally read v = .ok a ↔
      v = none ∧ a = none ∨ ∃ x y, v = some x ∧ read x = .ok y ∧ a = some y := by
  cases v with
  | none => simp [optionally, eq_comm]
  | some x =>
    rw [optionally, map_eq_ok]
    simp [eq_comm]

/-- Members are put into a draft one after another, in the order of their names. -/
lemma foldlM_claims (v : Value) (name : String) (names : List String) (d : Draft) :
    ((name :: names).filterMap fun name => (v.member? name).map (name, ·)).foldlM Draft.put d =
      (match v.member? name with
        | none => .ok d
        | some x => d.put (name, x)) >>= fun d =>
          (names.filterMap fun name => (v.member? name).map (name, ·)).foldlM Draft.put d := by
  rw [List.filterMap_cons]
  cases v.member? name with
  | none => rfl
  | some x => rfl

/-- A member goes to its place in a draft where that is still free. -/
lemma put_optionally {α : Type} {name : String} {read : Value → Except String α}
    {place : Draft → Option α} {fill : Draft → Option α → Draft}
    (hput : ∀ d x, d.put (name, x) = Draft.once name (place d) (read x) >>= fun a => .ok (fill d a))
    {d : Draft} (free : place d = none) (unfilled : fill d none = d) (v : Option Value) :
    (match v with
      | none => .ok d
      | some x => d.put (name, x)) = optionally read v >>= fun a => .ok (fill d a) := by
  cases v with
  | none => rw [optionally, ok_bind, unfilled]
  | some x =>
    change d.put (name, x) = _
    rw [hput, free, once_none, optionally]

/-- The readers of the members, in the order of all names. -/
lemma readMembers_eq (v : Value) : readMembers (claimMembers v) = (do
    let assertion ← optionally readAssertion (v.member? "assertion")
    let createdOn ← optionally readInstant (v.member? "created-on")
    let revocationChecks ← optionally readBool (v.member? "domain-cert-revocation-checks")
    let expiresOn ← optionally readInstant (v.member? "expires-on")
    let pinnedDomainCert ← optionally readText (v.member? "pinned-domain-cert")
    let serialNumber ← optionally readText (v.member? "serial-number")
    Draft.finish ⟨createdOn, expiresOn, serialNumber, assertion, pinnedDomainCert, revocationChecks⟩) := by
  unfold readMembers claimMembers Document.allNames
  rw [foldlM_claims, put_optionally put_assertion rfl rfl]
  cases optionally readAssertion (v.member? "assertion") with
  | error e => rfl
  | ok assertion =>
  rw [ok_bind, ok_bind, ok_bind, foldlM_claims, put_optionally put_createdOn rfl rfl]
  cases optionally readInstant (v.member? "created-on") with
  | error e => rfl
  | ok createdOn =>
  rw [ok_bind, ok_bind, ok_bind, foldlM_claims, put_optionally put_revocationChecks rfl rfl]
  cases optionally readBool (v.member? "domain-cert-revocation-checks") with
  | error e => rfl
  | ok revocationChecks =>
  rw [ok_bind, ok_bind, ok_bind, foldlM_claims, put_optionally put_expiresOn rfl rfl]
  cases optionally readInstant (v.member? "expires-on") with
  | error e => rfl
  | ok expiresOn =>
  rw [ok_bind, ok_bind, ok_bind, foldlM_claims, put_optionally put_pinnedDomainCert rfl rfl]
  cases optionally readText (v.member? "pinned-domain-cert") with
  | error e => rfl
  | ok pinnedDomainCert =>
  rw [ok_bind, ok_bind, ok_bind, foldlM_claims, put_optionally put_serialNumber rfl rfl]
  cases optionally readText (v.member? "serial-number") with
  | error e => rfl
  | ok serialNumber => rfl

lemma finish_eq_ok {d : Draft} {c : Claims} : d.finish = .ok c ↔
    d.createdOn = some c.createdOn ∧ d.expiresOn = some c.expiresOn ∧
      d.serialNumber = some c.serialNumber ∧ d.assertion.getD none = c.assertion ∧
      d.pinnedDomainCert = some c.pinnedDomainCert ∧ d.revocationChecks.getD false = c.revocationChecks := by
  unfold Draft.finish
  simp only [bind_eq_ok]
  constructor
  · rintro ⟨createdOn, h1, expiresOn, h2, serialNumber, h3, pinnedDomainCert, h4, h⟩
    cases h
    exact ⟨required_eq_ok h1, required_eq_ok h2, required_eq_ok h3, rfl, required_eq_ok h4, rfl⟩
  · rintro ⟨h1, h2, h3, h4, h5, h6⟩
    rw [h1, h2, h3, h4, h5, h6]
    exact ⟨_, rfl, _, rfl, _, rfl, _, rfl, rfl⟩

lemma optionally_eq_some {α : Type} {read : Value → Except String α} {inner : List (String × Value)}
    {name : String} {a : α} :
    optionally read ((Value.object inner).member? name) = .ok (some a) ↔
      ∃ v, Last inner name v ∧ read v = .ok a := by
  rw [optionally_eq_ok]
  simp only [reduceCtorEq, and_false, false_or, Option.some.injEq, member?_eq_some]
  constructor
  · rintro ⟨v, a', last, read, rfl⟩
    exact ⟨v, last, read⟩
  · rintro ⟨v, last, read⟩
    exact ⟨v, a, last, read, rfl⟩

lemma optionally_eq_none {α : Type} {read : Value → Except String α} {inner : List (String × Value)}
    {name : String} : optionally read ((Value.object inner).member? name) = .ok none ↔
      ∀ v, ¬Last inner name v := by
  rw [optionally_eq_ok, ← member?_eq_none]
  simp

lemma optionally_getD {α : Type} {read : Value → Except String α} {inner : List (String × Value)}
    {name : String} {fallback a : α} :
    (∃ o, optionally read ((Value.object inner).member? name) = .ok o ∧ o.getD fallback = a) ↔
      (∃ v, Last inner name v ∧ read v = .ok a) ∨ (∀ v, ¬Last inner name v) ∧ a = fallback := by
  rw [← optionally_eq_some, ← @optionally_eq_none α read]
  constructor
  · rintro ⟨o, h, rfl⟩
    cases o with
    | none => exact .inr ⟨h, rfl⟩
    | some a => exact .inl h
  · rintro (h | ⟨h, rfl⟩)
    · exact ⟨_, h, rfl⟩
    · exact ⟨_, h, rfl⟩

lemma optionally_instant {inner : List (String × Value)} {name : String} {t : Instant} :
    optionally readInstant ((Value.object inner).member? name) = .ok (some t) ↔
      ∃ s, Last inner name (.string s) ∧ DateAndTime.parse s = .ok t := by
  rw [optionally_eq_some]
  constructor
  · rintro ⟨v, last, read⟩
    obtain ⟨s, rfl, parsed⟩ := readInstant_eq_ok.mp read
    exact ⟨s, last, parsed⟩
  · rintro ⟨s, last, parsed⟩
    exact ⟨_, last, readInstant_eq_ok.mpr ⟨s, rfl, parsed⟩⟩

lemma optionally_text {inner : List (String × Value)} {name s : String} :
    optionally readText ((Value.object inner).member? name) = .ok (some s) ↔
      Last inner name (.string s) := by
  simp [optionally_eq_some, readText_eq_ok]

lemma readMembers_eq_ok {inner : List (String × Value)} {c : Claims} :
    readMembers (claimMembers (.object inner)) = .ok c ↔ ReadsAs inner c := by
  have assertion_iff : (∃ a, optionally readAssertion ((Value.object inner).member? "assertion") = .ok a ∧
      a.getD none = c.assertion) ↔ _ := optionally_getD
  have revocation_iff : (∃ b, optionally readBool
      ((Value.object inner).member? "domain-cert-revocation-checks") = .ok b ∧
      b.getD false = c.revocationChecks) ↔ _ := optionally_getD
  simp only [readAssertion_eq_ok, readBool_eq_ok, exists_eq_right] at assertion_iff revocation_iff
  rw [readMembers_eq]
  simp only [bind_eq_ok, finish_eq_ok]
  constructor
  · rintro ⟨_, assertion, _, created, _, revocation, _, expires, _, pinned, _, serial, rfl, rfl, rfl,
      unset, rfl, unchecked⟩
    exact ⟨optionally_instant.mp created, optionally_instant.mp expires, optionally_text.mp serial,
      optionally_text.mp pinned, assertion_iff.mp ⟨_, assertion, unset⟩,
      revocation_iff.mp ⟨_, revocation, unchecked⟩⟩
  · intro reads
    obtain ⟨a, assertion, unset⟩ := assertion_iff.mpr reads.assertion
    obtain ⟨b, revocation, unchecked⟩ := revocation_iff.mpr reads.revocationChecks
    exact ⟨a, assertion, _, optionally_instant.mpr reads.createdOn, b, revocation,
      _, optionally_instant.mpr reads.expiresOn, _, optionally_text.mpr reads.pinnedDomainCert,
      _, optionally_text.mpr reads.serialNumber, rfl, rfl, rfl, unset, rfl, unchecked⟩

/-! ### Members that cannot be read -/

lemma firstUnreadable_iff {inner : List (String × Value)} {detail : String} :
    (Document.allNames.findSome? fun name => ((Value.object inner).member? name).bind (faultOf name)) =
      some detail ↔ FirstUnreadable inner detail := by
  rw [List.findSome?_eq_some_iff]
  simp only [Option.bind_eq_some_iff, Option.bind_eq_none_iff, member?_eq_some]
  constructor
  · rintro ⟨before, name, after, heq, ⟨v, last, fault⟩, earlier⟩
    exact ⟨before, name, after, v, heq, last, fault, earlier⟩
  · rintro ⟨before, name, after, v, heq, last, fault, earlier⟩
    exact ⟨before, name, after, heq, ⟨v, last, fault⟩, earlier⟩

lemma faultOf_eq {α : Type} {name : String} {read : Value → Except String α}
    {place : Draft → Option α} {fill : Draft → Option α → Draft}
    (hput : ∀ d x, d.put (name, x) = Draft.once name (place d) (read x) >>= fun a => .ok (fill d a))
    (free : place Draft.empty = none) (v : Option Value) :
    v.bind (faultOf name) =
      match optionally read v with
      | .error detail => some detail
      | .ok _ => none := by
  cases v with
  | none => rfl
  | some x =>
    rw [Option.bind_some, faultOf, hput, free, once_none, optionally]
    cases read x with
    | error detail => rfl
    | ok a => rfl

lemma readMembers_eq_error {inner : List (String × Value)} {detail : String}
    (complete : ∀ name ∈ requiredNames, ∃ v, Last inner name v) :
    readMembers (claimMembers (.object inner)) = .error detail ↔ FirstUnreadable inner detail := by
  have filled : ∀ {α : Type} {name : String} {read : Value → Except String α} {o : Option α},
      name ∈ requiredNames → optionally read ((Value.object inner).member? name) = .ok o →
        ∃ a, o = some a := by
    intro α name read o required h
    cases o with
    | some a => exact ⟨a, rfl⟩
    | none =>
      obtain ⟨v, last⟩ := complete name required
      exact absurd last (optionally_eq_none.mp h v)
  rw [readMembers_eq, ← firstUnreadable_iff, Document.allNames]
  simp only [List.findSome?_cons, List.findSome?_nil]
  rw [faultOf_eq put_assertion rfl, faultOf_eq put_createdOn rfl, faultOf_eq put_revocationChecks rfl,
    faultOf_eq put_expiresOn rfl, faultOf_eq put_pinnedDomainCert rfl, faultOf_eq put_serialNumber rfl]
  cases optionally readAssertion ((Value.object inner).member? "assertion") with
  | error e => simp [error_bind]
  | ok assertion =>
  cases created : optionally readInstant ((Value.object inner).member? "created-on") with
  | error e => simp [error_bind, ok_bind]
  | ok createdOn =>
  cases optionally readBool ((Value.object inner).member? "domain-cert-revocation-checks") with
  | error e => simp [error_bind, ok_bind]
  | ok revocationChecks =>
  cases expires : optionally readInstant ((Value.object inner).member? "expires-on") with
  | error e => simp [error_bind, ok_bind]
  | ok expiresOn =>
  cases pinned : optionally readText ((Value.object inner).member? "pinned-domain-cert") with
  | error e => simp [error_bind, ok_bind]
  | ok pinnedDomainCert =>
  cases serial : optionally readText ((Value.object inner).member? "serial-number") with
  | error e => simp [error_bind, ok_bind]
  | ok serialNumber =>
    obtain ⟨_, rfl⟩ := filled (by decide) created
    obtain ⟨_, rfl⟩ := filled (by decide) expires
    obtain ⟨_, rfl⟩ := filled (by decide) pinned
    obtain ⟨_, rfl⟩ := filled (by decide) serial
    simp [ok_bind, Draft.finish, Draft.required]

/-! ### Values that are documents -/

/-- Reads claims from a value that has been parsed. -/
def judge (document : Value) : Except FormatError Claims := do
  let some inner := document.member? container | .error (.missingField container)
  if !inner.isObject then .error (.syntaxError (container ++ " MUST be object"))
  match requiredNames.find? fun name => (inner.member? name).isNone with
  | some name => .error (.missingField name)
  | none =>
    let claims ← (readMembers (claimMembers inner)).mapError .syntaxError
    claims.validate
    return claims

lemma decode_eq_judge (s : Bytes) : Claims.decode s =
    (Value.parse s).mapError (fun fault => .syntaxError fault.message) >>= judge := rfl

/-- Whether a value is an object with a container member, whatever the value of that is. -/
def HasContainer (v : Value) : Prop := ∃ outer x, v = .object outer ∧ Last outer container x

/-- Why a value is not a document of valid claims: the first thing that is wrong with it. -/
inductive Rejected : Value → FormatError → Prop
  | noContainer {v : Value} (h : ¬HasContainer v) : Rejected v (.missingField container)
  | noObject {outer : List (String × Value)} {x : Value} (found : Last outer container x)
    (h : ∀ inner, x ≠ .object inner) :
    Rejected (.object outer) (.syntaxError (container ++ " MUST be object"))
  | lacking {outer inner : List (String × Value)} {name : String}
    (found : Last outer container (.object inner)) (h : FirstLacking inner name) :
    Rejected (.object outer) (.missingField name)
  | unreadable {outer inner : List (String × Value)} {detail : String}
    (found : Last outer container (.object inner))
    (complete : ∀ name ∈ requiredNames, ∃ v, Last inner name v) (h : FirstUnreadable inner detail) :
    Rejected (.object outer) (.syntaxError detail)
  | invalid {outer inner : List (String × Value)} {c : Claims} {e : FormatError}
    (found : Last outer container (.object inner)) (reads : ReadsAs inner c) (h : FirstViolation c e) :
    Rejected (.object outer) e

lemma hasContainer_iff {v : Value} : HasContainer v ↔ ∃ x, v.member? container = some x := by
  constructor
  · rintro ⟨outer, x, rfl, last⟩
    exact ⟨x, member?_eq_some.mpr last⟩
  · rintro ⟨x, found⟩
    cases v with
    | object outer => exact ⟨outer, x, rfl, member?_eq_some.mp found⟩
    | null | bool | number | string | array => cases found

lemma judge_noContainer {v : Value} (h : ¬HasContainer v) :
    judge v = .error (.missingField container) := by
  have absent : v.member? container = none := by
    rw [Option.eq_none_iff_forall_ne_some]
    intro x found
    exact h (hasContainer_iff.mpr ⟨x, found⟩)
  unfold judge
  rw [absent]

lemma judge_noObject {outer : List (String × Value)} {x : Value} (found : Last outer container x)
    (h : ∀ inner, x ≠ .object inner) :
    judge (.object outer) = .error (.syntaxError (container ++ " MUST be object")) := by
  have notObject : x.isObject = false := by
    cases x with
    | object inner => exact absurd rfl (h inner)
    | null | bool | number | string | array => rfl
  unfold judge
  rw [member?_eq_some.mpr found]
  simp only [notObject]
  rfl

lemma member?_isSome {inner : List (String × Value)} {name : String} :
    ((Value.object inner).member? name).isNone = false ↔ ∃ v, Last inner name v := by
  rw [Option.isNone_eq_false_iff, Option.isSome_iff_exists]
  exact exists_congr fun v => member?_eq_some

lemma firstLacking_iff {inner : List (String × Value)} {name : String} :
    (requiredNames.find? fun name => ((Value.object inner).member? name).isNone) = some name ↔
      FirstLacking inner name := by
  rw [List.find?_eq_some_iff_append, Option.isNone_iff_eq_none, member?_eq_none]
  simp only [Bool.not_eq_true', member?_isSome]
  constructor
  · rintro ⟨lacking, before, after, heq, earlier⟩
    exact ⟨before, after, heq, earlier, lacking⟩
  · rintro ⟨before, after, heq, earlier, lacking⟩
    exact ⟨lacking, before, after, heq, earlier⟩

lemma complete_iff {inner : List (String × Value)} :
    (requiredNames.find? fun name => ((Value.object inner).member? name).isNone) = none ↔
      ∀ name ∈ requiredNames, ∃ v, Last inner name v := by
  rw [List.find?_eq_none]
  simp only [Bool.not_eq_true, member?_isSome]

lemma ReadsAs.complete {inner : List (String × Value)} {c : Claims} (h : ReadsAs inner c) :
    ∀ name ∈ requiredNames, ∃ v, Last inner name v := by
  obtain ⟨created, hcreated, -⟩ := h.createdOn
  obtain ⟨expires, hexpires, -⟩ := h.expiresOn
  simp only [requiredNames, List.forall_mem_cons]
  exact ⟨⟨_, hcreated⟩, ⟨_, hexpires⟩, ⟨_, h.serialNumber⟩, ⟨_, h.pinnedDomainCert⟩, by simp⟩

lemma judge_lacking {outer inner : List (String × Value)} {name : String}
    (found : Last outer container (.object inner)) (h : FirstLacking inner name) :
    judge (.object outer) = .error (.missingField name) := by
  unfold judge
  rw [member?_eq_some.mpr found]
  simp only [firstLacking_iff.mpr h]
  rfl

lemma judge_complete {outer inner : List (String × Value)}
    (found : Last outer container (.object inner))
    (complete : ∀ name ∈ requiredNames, ∃ v, Last inner name v) :
    judge (.object outer) =
      (readMembers (claimMembers (.object inner))).mapError .syntaxError >>= fun c =>
        c.validate >>= fun _ => .ok c := by
  unfold judge
  rw [member?_eq_some.mpr found]
  simp only [complete_iff.mpr complete]
  rfl

/-- How far a value can be followed into a document. -/
lemma document_cases (v : Value) :
    ¬HasContainer v ∨
    (∃ outer x, v = .object outer ∧ Last outer container x ∧ ∀ inner, x ≠ .object inner) ∨
    (∃ outer inner name, v = .object outer ∧ Last outer container (.object inner) ∧
      FirstLacking inner name) ∨
    ∃ outer inner, v = .object outer ∧ Last outer container (.object inner) ∧
      ∀ name ∈ requiredNames, ∃ v, Last inner name v := by
  by_cases contained : HasContainer v
  · obtain ⟨outer, x, rfl, found⟩ := contained
    cases x with
    | object inner =>
      cases lacking : requiredNames.find? fun name => ((Value.object inner).member? name).isNone with
      | some name => exact .inr (.inr (.inl ⟨outer, inner, name, rfl, found, firstLacking_iff.mp lacking⟩))
      | none => exact .inr (.inr (.inr ⟨outer, inner, rfl, found, complete_iff.mp lacking⟩))
    | null | bool | number | string | array =>
      exact .inr (.inl ⟨outer, _, rfl, found, by simp⟩)
  · exact .inl contained

lemma judge_eq_ok {v : Value} {c : Claims} : judge v = .ok c ↔
    ∃ outer inner, v = .object outer ∧ Last outer container (.object inner) ∧ ReadsAs inner c ∧
      c.Valid := by
  constructor
  · intro h
    rcases document_cases v with uncontained | ⟨outer, x, rfl, found, other⟩ |
      ⟨outer, inner, name, rfl, found, lacking⟩ | ⟨outer, inner, rfl, found, complete⟩
    · rw [judge_noContainer uncontained] at h
      cases h
    · rw [judge_noObject found other] at h
      cases h
    · rw [judge_lacking found lacking] at h
      cases h
    · rw [judge_complete found complete] at h
      obtain ⟨claims, read, h⟩ := bind_eq_ok.mp h
      obtain ⟨⟨⟩, valid, h⟩ := bind_eq_ok.mp h
      cases h
      exact ⟨outer, inner, rfl, found, readMembers_eq_ok.mp (mapError_eq_ok.mp read),
        validate_eq_ok.mp valid⟩
  · rintro ⟨outer, inner, rfl, found, reads, valid⟩
    rw [judge_complete found reads.complete, readMembers_eq_ok.mpr reads, Except.mapError, ok_bind,
      validate_eq_ok.mpr valid, ok_bind]

lemma judge_eq_error {v : Value} {e : FormatError} : judge v = .error e ↔ Rejected v e := by
  constructor
  · intro h
    rcases document_cases v with uncontained | ⟨outer, x, rfl, found, other⟩ |
      ⟨outer, inner, name, rfl, found, lacking⟩ | ⟨outer, inner, rfl, found, complete⟩
    · rw [judge_noContainer uncontained] at h
      cases h
      exact .noContainer uncontained
    · rw [judge_noObject found other] at h
      cases h
      exact .noObject found other
    · rw [judge_lacking found lacking] at h
      cases h
      exact .lacking found lacking
    · rw [judge_complete found complete] at h
      rcases bind_eq_error.mp h with unread | ⟨c, read, h⟩
      · obtain ⟨detail, failed, rfl⟩ := mapError_eq_error.mp unread
        exact .unreadable found complete ((readMembers_eq_error complete).mp failed)
      · rcases bind_eq_error.mp h with invalid | ⟨_, _, ⟨⟩⟩
        exact .invalid found (readMembers_eq_ok.mp (mapError_eq_ok.mp read))
          (validate_eq_error.mp invalid)
  · intro h
    cases h with
    | noContainer uncontained => exact judge_noContainer uncontained
    | noObject found other => exact judge_noObject found other
    | lacking found lacking => exact judge_lacking found lacking
    | unreadable found complete unread =>
      rw [judge_complete found complete, (readMembers_eq_error complete).mpr unread]
      rfl
    | invalid found reads invalid =>
      rw [judge_complete found reads.complete, readMembers_eq_ok.mpr reads, Except.mapError, ok_bind,
        validate_eq_error.mpr invalid, error_bind]

lemma decode_of_text {s : Bytes} {v : Value} (h : IsTextOf v s) : Claims.decode s = judge v := by
  rw [decode_eq_judge, value_parse_eq_ok.mpr h]
  rfl

lemma FirstLacking.mem {inner : List (String × Value)} {name : String} (h : FirstLacking inner name) :
    name ∈ requiredNames := by
  obtain ⟨before, after, heq, -⟩ := h
  rw [heq]
  simp

/-- What is said to be missing is the container or a required member, and it is missing. -/
lemma rejected_missingField {v : Value} {name : String} : Rejected v (.missingField name) ↔
    name = container ∧ ¬HasContainer v ∨
      ∃ outer inner, v = .object outer ∧ Last outer container (.object inner) ∧ FirstLacking inner name := by
  constructor
  · intro h
    cases h with
    | noContainer uncontained => exact .inl ⟨rfl, uncontained⟩
    | lacking found lacking => exact .inr ⟨_, _, rfl, found, lacking⟩
    | invalid found reads invalid => cases invalid
  · rintro (⟨rfl, uncontained⟩ | ⟨outer, inner, rfl, found, lacking⟩)
    · exact .noContainer uncontained
    · exact .lacking found lacking

/-- The texts that are read as claims, what is missing where a JSON text is refused for that, and the
reason for every refusal. The reason for which a text is no JSON is told without its line and column. -/
theorem decode_accepts_documents (s : Bytes) :
    (∀ c, Claims.decode s = .ok c ↔ ∃ outer inner, IsTextOf (.object outer) s ∧
      Last outer container (.object inner) ∧ ReadsAs inner c ∧ c.Valid) ∧
    (∀ v, IsTextOf v s →
      (Claims.decode s = .error (.missingField container) ↔ ¬HasContainer v) ∧
      ∀ name, name ≠ container → (Claims.decode s = .error (.missingField name) ↔
        ∃ outer inner, v = .object outer ∧ Last outer container (.object inner) ∧
          FirstLacking inner name)) ∧
    ∀ e, Claims.decode s = .error e ↔
      (∃ fault, Value.parse s = .error fault ∧ e = .syntaxError fault.message) ∨
      ∃ v, IsTextOf v s ∧ Rejected v e := by
  refine ⟨fun c => ?_, fun v text => ⟨?_, fun name hname => ?_⟩, fun e => ?_⟩
  · rw [decode_eq_judge, bind_eq_ok]
    simp only [mapError_eq_ok, value_parse_eq_ok, judge_eq_ok]
    constructor
    · rintro ⟨v, text, outer, inner, rfl, found, reads, valid⟩
      exact ⟨outer, inner, text, found, reads, valid⟩
    · rintro ⟨outer, inner, text, found, reads, valid⟩
      exact ⟨_, text, outer, inner, rfl, found, reads, valid⟩
  · rw [decode_of_text text, judge_eq_error, rejected_missingField]
    constructor
    · rintro (⟨-, uncontained⟩ | ⟨outer, inner, -, -, lacking⟩)
      · exact uncontained
      · exact absurd lacking.mem (by decide)
    · intro uncontained
      exact .inl ⟨rfl, uncontained⟩
  · rw [decode_of_text text, judge_eq_error, rejected_missingField]
    simp [hname]
  · rw [decode_eq_judge, bind_eq_error]
    simp only [mapError_eq_error, mapError_eq_ok, value_parse_eq_ok, judge_eq_error, @eq_comm _ e]

/-- A document with several members of one name, the last of which counts. -/
def repeatedDocument : Value :=
  .object [(container, .null), (container, .object [
    ("serial-number", .string "1"), ("created-on", .string "2016-12-31T23:59:60.25Z"),
    ("expires-on", .string "2016-12-31T23:59:60.25Z"), ("pinned-domain-cert", .string "TUlJ"),
    ("assertion", .string ""), ("serial-number", .string "7")])]

/-- A document whose claims are the items of an array. -/
def positionalDocument : Value :=
  .object [(container, .array [.string "2016-12-31T23:59:60.25Z", .string "2016-12-31T23:59:60.25Z",
    .string "7", .string "", .string "TUlJ", .bool false])]

/-- A document in which two required members are missing and another one is no text. -/
def lackingDocument : Value :=
  .object [(container, .object [("created-on", .null), ("serial-number", .string "7")])]

theorem decode_accepts_repeatedDocument :
    Claims.decode repeatedDocument.compact = .ok (claimsOf leapSecond2016 leapSecond2016) ∧
      Claims.decode positionalDocument.compact =
        .error (.syntaxError (container ++ " MUST be object")) ∧
      Claims.decode lackingDocument.compact = .error (.missingField "expires-on") := by
  have repeated : IsTextOf repeatedDocument repeatedDocument.compact :=
    value_parse_eq_ok.mp (parse_write none _ rfl (show 2 < 128 by decide))
  have positional : IsTextOf positionalDocument positionalDocument.compact :=
    value_parse_eq_ok.mp (parse_write none _ rfl (show 2 < 128 by decide))
  have lacking : IsTextOf lackingDocument lackingDocument.compact :=
    value_parse_eq_ok.mp (parse_write none _ rfl (show 2 < 128 by decide))
  have parsed : DateAndTime.parse "2016-12-31T23:59:60.25Z" = .ok leapSecond2016 := by decide +kernel
  have last : ∀ {members : List (String × Value)} {name : String} {v : Value},
      (Value.object members).member? name = some v → Last members name v := member?_eq_some.mp
  refine ⟨?_, ?_, ?_⟩
  · refine ((decode_accepts_documents _).1 _).mpr ⟨_, _, repeated, last rfl, ?_, ?_⟩
    · exact ⟨⟨_, last rfl, parsed⟩, ⟨_, last rfl, parsed⟩, last rfl, last rfl, .inl (last rfl),
        .inr ⟨member?_eq_none.mp rfl, rfl⟩⟩
    · exact validate_eq_ok.mp rfl
  · exact ((decode_accepts_documents _).2.2 _).mpr
      (.inr ⟨_, positional, .noObject (last rfl) (by simp)⟩)
  · exact (((decode_accepts_documents _).2.1 _ lacking).2 "expires-on" (by decide)).mpr
      ⟨_, _, rfl, last rfl, firstLacking_iff.mp rfl⟩

end BootstrapVoucher.Proofs
