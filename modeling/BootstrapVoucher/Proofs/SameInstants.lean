import BootstrapVoucher.Proofs.DocumentEquivalence
import BootstrapVoucher.Proofs.Timestamps

/-!
# Documents that show the same instants

It does not matter in which zone the times of a document are written, and with how many digits: the
timestamps of an instant can be exchanged for one another. The claims are then the same, or the error
is, and so is the canonical document. In particular the window is judged by instants and not by what
the clocks show.
-/

namespace BootstrapVoucher.Proofs

open Time Json Document

/-- Two timestamps of one instant. -/
def SameInstant (text text' : String) : Prop := ∃ t, IsTimestamp text t ∧ IsTimestamp text' t

/-- Members of claims that are the same, or that are the same time in another layout. -/
inductive SameMember : String × Value → String × Value → Prop
  | same (m : String × Value) : SameMember m m
  | time {name text text' : String} (isTime : name ∈ ["created-on", "expires-on"])
    (h : SameInstant text text') : SameMember (name, .string text) (name, .string text')

/-- Members of a document of which the container may have its times in another layout. -/
inductive SameOuter : String × Value → String × Value → Prop
  | same (m : String × Value) : SameOuter m m
  | claims {inner inner' : List (String × Value)} (h : List.Forall₂ SameMember inner inner') :
    SameOuter (container, .object inner) (container, .object inner')

/-- Documents that differ only in how the times of the claims are written. -/
inductive SameTimes : Value → Value → Prop
  | same (v : Value) : SameTimes v v
  | document {outer outer' : List (String × Value)} (h : List.Forall₂ SameOuter outer outer') :
    SameTimes (.object outer) (.object outer')

/-- The last member of this name shows this instant. -/
def ShowsTime (members : List (String × Value)) (name : String) (t : Instant) : Prop :=
  ∃ text, Last members name (.string text) ∧ IsTimestamp text t

/-! ### Members that are found -/

section Found

variable {R : String × Value → String × Value → Prop} {a b : List (String × Value)}

lemma find?_rel (named : ∀ m m', R m m' → m.1 = m'.1) (h : List.Forall₂ R a b) (name : String) :
    Option.Rel (fun v v' => R (name, v) (name, v')) ((a.find? (·.1 == name)).map (·.2))
      ((b.find? (·.1 == name)).map (·.2)) := by
  induction h with
  | nil => exact .none
  | @cons m m' a b related _ ih =>
    obtain ⟨n, v⟩ := m
    obtain ⟨n', v'⟩ := m'
    obtain rfl : n = n' := named _ _ related
    rw [List.find?_cons, List.find?_cons]
    cases hn : n == name with
    | true =>
      obtain rfl : n = name := by simpa using hn
      exact .some related
    | false => exact ih

/-- Of a name there are related members in both objects, or there is none. -/
lemma member?_rel (named : ∀ m m', R m m' → m.1 = m'.1) (h : List.Forall₂ R a b) (name : String) :
    Option.Rel (fun v v' => R (name, v) (name, v')) ((Value.object a).member? name)
      ((Value.object b).member? name) :=
  find?_rel named (List.forall₂_reverse_iff.mpr h) name

lemma claimMembers_rel (named : ∀ m m', R m m' → m.1 = m'.1) (h : List.Forall₂ R a b) :
    List.Forall₂ R (claimMembers (.object a)) (claimMembers (.object b)) := by
  unfold claimMembers
  induction Document.allNames with
  | nil => exact .nil
  | cons name names ih =>
    have found := member?_rel named h name
    rw [List.filterMap_cons, List.filterMap_cons]
    generalize (Value.object a).member? name = x at found ⊢
    generalize (Value.object b).member? name = y at found ⊢
    cases found with
    | none => exact ih
    | some related => exact .cons related ih

end Found

lemma SameMember.name {m m' : String × Value} (h : SameMember m m') : m.1 = m'.1 := by
  cases h with
  | same => rfl
  | time => rfl

lemma SameOuter.name {m m' : String × Value} (h : SameOuter m m') : m.1 = m'.1 := by
  cases h with
  | same => rfl
  | claims => rfl

/-! ### Members that are read -/

/-- Times are read as the instants that they show. -/
lemma SameInstant.readInstant {text text' : String} (h : SameInstant text text') :
    Document.readInstant (.string text) = Document.readInstant (.string text') := by
  obtain ⟨t, shows, shows'⟩ := h
  unfold Document.readInstant
  simp only [readText, ok_bind, parse_eq_ok.mpr shows, parse_eq_ok.mpr shows']

lemma SameMember.put {m m' : String × Value} (h : SameMember m m') (d : Draft) :
    d.put m = d.put m' := by
  cases h with
  | same => rfl
  | time isTime instant =>
    simp only [List.mem_cons, List.not_mem_nil, or_false] at isTime
    rcases isTime with rfl | rfl
    · rw [put_createdOn, put_createdOn, instant.readInstant]
    · rw [put_expiresOn, put_expiresOn, instant.readInstant]

lemma readMembers_sameMember {a b : List (String × Value)} (h : List.Forall₂ SameMember a b) :
    readMembers a = readMembers b := by
  have folded (d : Draft) : a.foldlM Draft.put d = b.foldlM Draft.put d := by
    induction h generalizing d with
    | nil => rfl
    | cons same _ ih => simp only [List.foldlM_cons, same.put, ih]
  unfold readMembers
  rw [folded]

/-! ### Documents -/

lemma judge_sameMember {outer outer' inner inner' : List (String × Value)}
    (found : Last outer container (.object inner)) (found' : Last outer' container (.object inner'))
    (h : List.Forall₂ SameMember inner inner') : judge (.object outer) = judge (.object outer') := by
  apply judge_eq_of_reads found found'
  · intro name _
    have members := member?_rel (fun _ _ => SameMember.name) h name
    generalize (Value.object inner).member? name = x at members ⊢
    generalize (Value.object inner').member? name = y at members ⊢
    cases members with
    | none => rfl
    | some => rfl
  · exact readMembers_sameMember (claimMembers_rel (fun _ _ => SameMember.name) h)

lemma judge_sameTimes {v w : Value} (h : SameTimes v w) : judge v = judge w := by
  cases h with
  | same => rfl
  | @document outer outer' h =>
    have members := member?_rel (fun _ _ => SameOuter.name) h container
    generalize hx : (Value.object outer).member? container = x at members
    generalize hy : (Value.object outer').member? container = y at members
    cases members with
    | none =>
      unfold judge
      rw [hx, hy]
    | some related =>
      cases related with
      | same =>
        unfold judge
        rw [hx, hy]
      | claims inside => exact judge_sameMember (member?_eq_some.mp hx) (member?_eq_some.mp hy) inside

/-- Times are read as instants: timestamps are read exactly as the instants that they denote, documents
that differ only in how the times are written give the same claims, with the same canonical document,
or the same error, and the window of claims that are read is one of instants. -/
theorem times_are_read_as_instants :
    (∀ text t, DateAndTime.parse text = .ok t ↔ IsTimestamp text t) ∧
    (∀ v w a b, IsTextOf v a → IsTextOf w b → SameTimes v w →
      Claims.decode a = Claims.decode b ∧
      ∀ c d, Claims.decode a = .ok c → Claims.decode b = .ok d →
        ∃ e, c.encode = .ok e ∧ d.encode = .ok e) ∧
    ∀ v s c, IsTextOf v s → Claims.decode s = .ok c → ∃ outer inner, v = .object outer ∧
      Last outer container (.object inner) ∧ ShowsTime inner "created-on" c.createdOn ∧
      ShowsTime inner "expires-on" c.expiresOn ∧ c.createdOn ≤ c.expiresOn := by
  refine ⟨fun text t => parse_eq_ok, ?_, ?_⟩
  · intro v w a b textA textB same
    have alike : Claims.decode a = Claims.decode b := by
      rw [decode_of_text textA, decode_of_text textB, judge_sameTimes same]
    refine ⟨alike, fun c d readA readB => ?_⟩
    rw [← alike, readA] at readB
    cases readB
    have written := encode_of_valid (valid_of_decode readA)
    exact ⟨_, written, written⟩
  · intro v s c text read
    rw [decode_of_text text] at read
    obtain ⟨outer, inner, rfl, found, reads, valid⟩ := judge_eq_ok.mp read
    obtain ⟨created, lastCreated, shownCreated⟩ := reads.createdOn
    obtain ⟨expires, lastExpires, shownExpires⟩ := reads.expiresOn
    refine ⟨outer, inner, rfl, found, ?_, ?_, valid.window⟩
    · exact ⟨created, lastCreated, parse_eq_ok.mp shownCreated⟩
    · exact ⟨expires, lastExpires, parse_eq_ok.mp shownExpires⟩

def early2017 : Instant := instantOf 1483228801 0

/-- A window from a leap second, as it is told in India, to the second after midnight, as it is told
in New York: the clocks show the end on the day before the start. -/
theorem times_are_read_as_instants_early2017 :
    let india := "2017-01-01t05:29:60.2500000009+05:30"
    let newYork := "2016-12-31 19:00:01\u221205:00"
    let apart := (documentOf india newYork).compact
    let utc := (documentOf "2016-12-31T23:59:60.25Z" "2017-01-01T00:00:01Z").pretty
    IsTimestamp india leapSecond2016 ∧ IsTimestamp newYork early2017 ∧
      Claims.decode apart = .ok (claimsOf leapSecond2016 early2017) ∧
      Claims.decode utc = .ok (claimsOf leapSecond2016 early2017) ∧
      (∃ e, (claimsOf leapSecond2016 early2017).encode = .ok e) ∧ leapSecond2016 ≤ early2017 := by
  intro india newYork apart utc
  obtain ⟨denoted, exchanged, window⟩ := times_are_read_as_instants
  have created : IsTimestamp india leapSecond2016 := (denoted _ _).mp (by decide +kernel)
  have createdUtc : IsTimestamp "2016-12-31T23:59:60.25Z" leapSecond2016 :=
    (denoted _ _).mp (by decide +kernel)
  have expires : IsTimestamp newYork early2017 := (denoted _ _).mp (by decide +kernel)
  have expiresUtc : IsTimestamp "2017-01-01T00:00:01Z" early2017 :=
    (denoted _ _).mp (by decide +kernel)
  have textApart : IsTextOf (documentOf india newYork) apart :=
    value_parse_eq_ok.mp (parse_write none _ rfl (show 2 < 128 by decide))
  have textUtc : IsTextOf (documentOf "2016-12-31T23:59:60.25Z" "2017-01-01T00:00:01Z") utc :=
    value_parse_eq_ok.mp (parse_write (some 0) _ rfl (show 2 < 128 by decide))
  have same : SameTimes (documentOf india newYork)
      (documentOf "2016-12-31T23:59:60.25Z" "2017-01-01T00:00:01Z") := by
    refine .document (.cons (.claims ?_) .nil)
    refine .cons (.same _) (.cons (.same _) (.cons (.time (by decide) ?_) (.cons (.time (by decide) ?_) .nil)))
    · exact ⟨_, expires, expiresUtc⟩
    · exact ⟨_, created, createdUtc⟩
  have read : Claims.decode apart = .ok (claimsOf leapSecond2016 early2017) :=
    decode_documentOf ((denoted _ _).mpr created) ((denoted _ _).mpr expires) rfl
  obtain ⟨alike, encoded⟩ := exchanged _ _ _ _ textApart textUtc same
  have readUtc := alike.symm.trans read
  obtain ⟨e, written, -⟩ := encoded _ _ read readUtc
  obtain ⟨outer, inner, -, -, -, -, ordered⟩ := window _ _ _ textApart read
  exact ⟨created, expires, read, readUtc, ⟨e, written⟩, ordered⟩

end BootstrapVoucher.Proofs
