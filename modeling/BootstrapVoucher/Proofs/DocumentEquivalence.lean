import BootstrapVoucher.Proofs.DocumentLanguage

/-!
# Documents with the same members

What is read from a text depends on the members that count and on nothing else: not on the order of
members, not on members of other names, not on blanks, and not on the way in which strings are
written. Where no member that counts is repeated, two such texts give the same claims or the same
error. Behind a text that is read there may be blanks, but nothing else.
-/

namespace BootstrapVoucher.Proofs

open Json Document

/-- One list of members is made from the other by moving members and by adding and removing members
whose names do not count. -/
inductive Rearranged (counted : List String) :
    List (String × Value) → List (String × Value) → Prop
  | perm {a b : List (String × Value)} (h : a.Perm b) : Rearranged counted a b
  | add {a : List (String × Value)} {name : String} (v : Value) (h : name ∉ counted) :
    Rearranged counted a ((name, v) :: a)
  | remove {a : List (String × Value)} {name : String} (v : Value) (h : name ∉ counted) :
    Rearranged counted ((name, v) :: a) a
  | trans {a b c : List (String × Value)} (h : Rearranged counted a b) (h' : Rearranged counted b c) :
    Rearranged counted a c

/-- Values that differ only in the arrangement of the outermost object and of the object in its
container member. -/
inductive SameDocument : Value → Value → Prop
  | same (v : Value) : SameDocument v v
  | outer {a b : List (String × Value)} (h : Rearranged [container] a b) :
    SameDocument (.object a) (.object b)
  | inner {before after a b : List (String × Value)} (h : Rearranged Document.allNames a b) :
    SameDocument (.object (before ++ (container, .object a) :: after))
      (.object (before ++ (container, .object b) :: after))
  | trans {u v w : Value} (h : SameDocument u v) (h' : SameDocument v w) : SameDocument u w

/-- No name that counts is the name of two members. -/
def Unrepeated (counted : List String) (members : List (String × Value)) : Prop :=
  ((members.map Prod.fst).filter (· ∈ counted)).Nodup

/-- The members that count are not repeated, neither on the outside nor in the container. -/
def Unambiguous : Value → Prop
  | .object members => Unrepeated [container] members ∧
      ∀ inner, (container, .object inner) ∈ members → Unrepeated Document.allNames inner
  | _ => True

section Members

variable {counted : List String} {a b : List (String × Value)}

lemma Rearranged.names (h : Rearranged counted a b) :
    ((a.map Prod.fst).filter (· ∈ counted)).Perm ((b.map Prod.fst).filter (· ∈ counted)) := by
  induction h with
  | perm h => exact (h.map _).filter _
  | add v h => simp [h]
  | remove v h => simp [h]
  | trans _ _ ih ih' => exact ih.trans ih'

lemma Rearranged.mem_iff (h : Rearranged counted a b) {name : String} (hname : name ∈ counted)
    (v : Value) : (name, v) ∈ a ↔ (name, v) ∈ b := by
  induction h with
  | perm h => exact h.mem_iff
  | @add a other w h =>
    have apart : name ≠ other := fun same => h (same ▸ hname)
    simp [apart]
  | @remove a other w h =>
    have apart : name ≠ other := fun same => h (same ▸ hname)
    simp [apart]
  | trans _ _ ih ih' => exact ih.trans ih'

/-- A member that is not repeated is the last one of its name wherever it stands. -/
lemma last_iff_mem (h : Unrepeated counted a) {name : String} (hname : name ∈ counted) {v : Value} :
    Last a name v ↔ (name, v) ∈ a := by
  constructor
  · rintro ⟨before, after, rfl, -⟩
    simp
  · intro hmem
    obtain ⟨before, after, rfl⟩ := List.append_of_mem hmem
    refine ⟨before, after, rfl, fun m hm same => ?_⟩
    have again : name ∈ (after.map Prod.fst).filter (· ∈ counted) :=
      List.mem_filter.mpr ⟨List.mem_map.mpr ⟨m, hm, same⟩, by simpa using hname⟩
    have split : Unrepeated counted (before ++ (name, v) :: after) := h
    unfold Unrepeated at split
    rw [List.map_append, List.map_cons, List.filter_append, List.filter_cons_of_pos (by simpa using hname)]
      at split
    exact (List.nodup_cons.mp (List.Nodup.of_append_right split)).1 again

lemma Rearranged.member? (h : Rearranged counted a b) (ha : Unrepeated counted a) {name : String}
    (hname : name ∈ counted) :
    (Value.object a).member? name = (Value.object b).member? name := by
  have hb : Unrepeated counted b := h.names.nodup ha
  apply Option.ext
  intro v
  rw [member?_eq_some, member?_eq_some, last_iff_mem ha hname, last_iff_mem hb hname, h.mem_iff hname]

end Members

lemma requiredNames_subset : requiredNames ⊆ Document.allNames := by decide

/-- Two objects of claims are judged alike if they lack the same names and their members are read
alike. -/
lemma judge_eq_of_reads {outer outer' inner inner' : List (String × Value)}
    (found : Last outer container (.object inner)) (found' : Last outer' container (.object inner'))
    (lack : ∀ name ∈ Document.allNames, ((Value.object inner).member? name).isNone =
      ((Value.object inner').member? name).isNone)
    (read : readMembers (claimMembers (.object inner)) = readMembers (claimMembers (.object inner'))) :
    judge (.object outer) = judge (.object outer') := by
  have lacking : (requiredNames.find? fun name => ((Value.object inner).member? name).isNone) =
      requiredNames.find? fun name => ((Value.object inner').member? name).isNone := by
    apply List.find?_congr
    intro name hname
    rw [lack name (requiredNames_subset hname)]
  unfold judge
  rw [member?_eq_some.mpr found, member?_eq_some.mpr found']
  simp only [lacking, read]
  rfl

/-- Two objects of claims are judged alike if they agree on all names. -/
lemma judge_congr {outer outer' inner inner' : List (String × Value)}
    (found : Last outer container (.object inner)) (found' : Last outer' container (.object inner'))
    (agree : ∀ name ∈ Document.allNames,
      (Value.object inner).member? name = (Value.object inner').member? name) :
    judge (.object outer) = judge (.object outer') := by
  have members : claimMembers (.object inner) = claimMembers (.object inner') := by
    apply List.filterMap_congr
    intro name hname
    rw [agree name hname]
  apply judge_eq_of_reads found found'
  · intro name hname
    rw [agree name hname]
  · rw [members]

lemma judge_same {v w : Value} (h : SameDocument v w) (hv : Unambiguous v) :
    Unambiguous w ∧ judge v = judge w := by
  induction h with
  | same v => exact ⟨hv, rfl⟩
  | @outer a b h =>
    obtain ⟨single, inside⟩ := hv
    have hcontainer : container ∈ [container] := List.mem_singleton_self _
    refine ⟨⟨h.names.nodup single, fun inner hmem => ?_⟩, ?_⟩
    · exact inside inner ((h.mem_iff hcontainer _).mpr hmem)
    · unfold judge
      rw [h.member? single hcontainer]
  | @inner before after a b h =>
    obtain ⟨single, inside⟩ := hv
    have hcontainer : container ∈ [container] := List.mem_singleton_self _
    have distinct : Unrepeated Document.allNames a := inside a (by simp)
    have single' : Unrepeated [container] (before ++ (container, .object b) :: after) := by
      unfold Unrepeated at single ⊢
      simpa using single
    refine ⟨⟨single', fun inner hmem => ?_⟩, ?_⟩
    · rcases List.mem_append.mp hmem with hmem | hmem
      · exact inside inner (by simp [hmem])
      rcases List.mem_cons.mp hmem with heq | hmem
      · obtain ⟨-, ⟨⟩⟩ := Prod.mk.inj heq
        exact h.names.nodup distinct
      · exact inside inner (by simp [hmem])
    · have found : Last (before ++ (container, .object a) :: after) container (.object a) :=
        (last_iff_mem single hcontainer).mpr (by simp)
      have found' : Last (before ++ (container, .object b) :: after) container (.object b) :=
        (last_iff_mem single' hcontainer).mpr (by simp)
      exact judge_congr found found' fun name hname => h.member? distinct hname
  | trans _ _ ih ih' =>
    obtain ⟨hv, heq⟩ := ih hv
    obtain ⟨hw, heq'⟩ := ih' hv
    exact ⟨hw, heq.trans heq'⟩

lemma decode_append {s : Bytes} {c : Claims} (h : Claims.decode s = .ok c) (t : Bytes) :
    Claims.decode (s ++ t) =
      if t.all isBlank = true then .ok c else .error (.syntaxError Fault.trailingText.message) := by
  obtain ⟨v, parsed, judged⟩ := bind_eq_ok.mp h
  have hparse := mapError_eq_ok.mp parsed
  obtain ⟨outer, inner, rfl, -⟩ := judge_eq_ok.mp judged
  rw [decode_eq_judge, value_parse_append hparse t]
  split
  · exact judged
  · rfl

/-- Reading sees the members that count: texts are read exactly as the values they are texts of, the
same documents give the same answer, and only blanks may follow a text that is read. -/
theorem decode_sees_counted_members :
    (∀ s v, Value.parse s = .ok v ↔ IsTextOf v s) ∧
    (∀ v w a b, IsTextOf v a → IsTextOf w b → Unambiguous v → SameDocument v w →
      Claims.decode a = Claims.decode b) ∧
    ∀ s c t, Claims.decode s = .ok c →
      ((∃ d, Claims.decode (s ++ t) = .ok d) ↔ t.all isBlank = true) ∧
      (t.all isBlank = true → Claims.decode (s ++ t) = .ok c) := by
  refine ⟨fun s v => value_parse_eq_ok, ?_, ?_⟩
  · intro v w a b textA textB unambiguous same
    rw [decode_of_text textA, decode_of_text textB, (judge_same same unambiguous).2]
  · intro s c t read
    rw [decode_append read t]
    by_cases blank : t.all isBlank = true
    · simp [blank]
    · simp [blank]

def plainMembers : List (String × Value) :=
  [("serial-number", .string "7"), ("pinned-domain-cert", .string "TUlJ"),
    ("expires-on", .string "2016-12-31T23:59:60.25Z"), ("created-on", .string "2016-12-31T23:59:60.25Z")]

/-- A document whose claims are in reverse order, with a member more on each level. -/
def reversedDocument : Value :=
  .object [("note", .array [.null]),
    (container, .object (("created-on ", .bool true) :: plainMembers.reverse))]

/-- Both documents are read alike, also with blanks behind them, but not with a digit behind them. -/
theorem decode_sees_reversedDocument :
    Claims.decode (documentOf "2016-12-31T23:59:60.25Z" "2016-12-31T23:59:60.25Z").compact =
        Claims.decode reversedDocument.pretty ∧
      Claims.decode (reversedDocument.pretty ++ [13, 10, 32, 9]) =
        .ok (claimsOf leapSecond2016 leapSecond2016) ∧
      ¬∃ d, Claims.decode (reversedDocument.pretty ++ [10, 48]) = .ok d := by
  obtain ⟨parsed, alike, followed⟩ := decode_sees_counted_members
  have plain : IsTextOf (.object [(container, .object plainMembers)])
      (documentOf "2016-12-31T23:59:60.25Z" "2016-12-31T23:59:60.25Z").compact :=
    (parsed _ _).mp (parse_write none _ rfl (show 2 < 128 by decide))
  have reversed : IsTextOf reversedDocument reversedDocument.pretty :=
    (parsed _ _).mp (parse_write (some 0) _ rfl (show 2 < 128 by decide))
  have inside : Rearranged Document.allNames plainMembers
      (("created-on ", .bool true) :: plainMembers.reverse) :=
    .trans (.perm (List.reverse_perm _).symm) (.add _ (by decide))
  have same : SameDocument (.object ([] ++ (container, .object plainMembers) :: [])) reversedDocument :=
    .trans (.inner inside) (.outer (.add _ (by decide)))
  have unambiguous : Unambiguous (.object [(container, .object plainMembers)]) := by
    refine ⟨(by decide : [container].Nodup), fun inner hmem => ?_⟩
    obtain ⟨-, ⟨⟩⟩ := Prod.mk.inj (List.mem_singleton.mp hmem)
    exact (by decide : ["serial-number", "pinned-domain-cert", "expires-on", "created-on"].Nodup)
  have heq := alike _ _ _ _ plain reversed unambiguous same
  have read : Claims.decode reversedDocument.pretty = .ok (claimsOf leapSecond2016 leapSecond2016) :=
    heq.symm.trans (decode_documentOf (by decide +kernel) (by decide +kernel) rfl)
  refine ⟨heq, (followed _ _ [13, 10, 32, 9] read).2 rfl, fun more => ?_⟩
  cases (followed _ _ [10, 48] read).1.mp more

end BootstrapVoucher.Proofs
