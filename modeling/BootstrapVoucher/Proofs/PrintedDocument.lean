import BootstrapVoucher.Proofs.DocumentEquivalence
import BootstrapVoucher.Proofs.SignedFolder
import BootstrapVoucher.Proofs.WrittenText

/-!
# What the tool prints is read back

A document is read in two ways: token by token, and from the tree of its values. Both give the claims
back from either layout, whatever texts are in them. The reader of tokens is followed along the members
of an object: what it has read at each comma is the draft that the members so far make up.
-/

namespace BootstrapVoucher.Proofs

open Time Json Json.Value Document Tool

/-! ### Members read token by token -/

/-- The value is a single token, and no number. -/
def IsPlain : Value → Prop
  | .bool _ | .string _ => True
  | _ => False

lemma IsPlain.token {v : Value} (h : IsPlain v) : ∃ t, tokens v = [t] ∧ startOf t = .ok v := by
  match v with
  | .bool true => exact ⟨_, rfl, rfl⟩
  | .bool false => exact ⟨_, rfl, rfl⟩
  | .string s => exact ⟨_, rfl, rfl⟩

lemma once_free {α : Type} {name : String} {place filled : Option α} {read : Except String α}
    (h : Draft.once name place read = .ok filled) : place.isSome = false := by
  unfold Draft.once at h
  split at h
  · cases h
  · exact Bool.eq_false_of_not_eq_true ‹_›

/-- A draft that takes a member has not had it. -/
lemma has_eq_false_of_put {d next : Draft} {name : String} {v : Value} (hname : name ∈ writtenNames)
    (h : d.put (name, v) = .ok next) : d.has name = false := by
  simp only [writtenNames, List.mem_cons, List.not_mem_nil, or_false] at hname
  rcases hname with rfl | rfl | rfl | rfl | rfl | rfl
  all_goals
    simp only [put_createdOn, put_expiresOn, put_serialNumber, put_assertion, put_pinnedDomainCert,
      put_revocationChecks] at h
    obtain ⟨place, filled, -⟩ := bind_eq_ok.mp h
    exact once_free filled

/-- The reader goes from one state to another one by tokens, and passes over no value. -/
inductive Reads : Reader → List Token → Reader → Prop
  | done (r : Reader) : Reads r [] r
  | token {r next last : Reader} {t : Token} {ts : List Token} (meets : r.skipped? = none)
    (step : r.step t = .ok next) (onward : Reads next ts last) : Reads r (t :: ts) last

lemma Reads.append {r middle last : Reader} {ts more : List Token} (first : Reads r ts middle)
    (second : Reads middle more last) : Reads r (ts ++ more) last := by
  induction first with
  | done => exact second
  | token meets step _ ih => exact .token meets step (ih second)

/-- A text is read as its tokens are. -/
lemma run_of_reads {r last : Reader} {s : Bytes} (reads : Reads r (lex s) last)
    (meets : last.skipped? = none) : r.run s = last.result := by
  fun_induction lex s generalizing r with
  | case1 =>
    cases reads
    rw [Reader.run, meets]
  | case2 x s blank ih =>
    have first : r.skipped? = none := by
      generalize lex s = ts at reads
      cases reads with
      | done => exact meets
      | token first _ _ => exact first
    rw [Reader.run, first]
    simp only [blank, if_true]
    exact ih reads
  | case3 x s blank ih =>
    cases reads with
    | token first step onward =>
      rw [Reader.run, first]
      simp only [blank, step]
      exact ih onward

section Reading

variable {d next : Draft} {back : Slot}

lemma reads_named {name : String} {v : Value} (hname : name ∈ writtenNames) (plain : IsPlain v)
    (h : d.put (name, v) = .ok next) :
    Reads (.claims (.afterName name) d back) (.colon :: tokens v) (.claims .afterMember next back) := by
  obtain ⟨t, alone, start⟩ := plain.token
  have known : Reader.skipped? (.claims (.member name) d back) = none := if_pos hname
  have taken : Reader.step (.claims (.member name) d back) t = .ok (.claims .afterMember next back) := by
    simp only [Reader.step, Slot.step, Except.mapError, ok_bind, start, h]
    rfl
  rw [alone]
  exact .token rfl rfl (.token known taken (.done _))

lemma reads_name {name : String} (free : d.has name = false) {slot : Slot}
    (hslot : slot = .firstName ∨ slot = .nextName) :
    Reads (.claims slot d back) [.string name] (.claims (.afterName name) d back) := by
  rcases hslot with rfl | rfl
  all_goals
    refine .token rfl ?_ (.done _)
    simp only [Reader.step, Slot.step, Slot.readName, Except.mapError, ok_bind, free]
    rfl

/-- A member that fits the draft is read into it. -/
lemma reads_member {name : String} {v : Value} (hname : name ∈ writtenNames) (plain : IsPlain v)
    (h : d.put (name, v) = .ok next) {slot : Slot} (hslot : slot = .firstName ∨ slot = .nextName) :
    Reads (.claims slot d back) (.string name :: .colon :: tokens v) (.claims .afterMember next back) :=
  (reads_name (has_eq_false_of_put hname h) hslot).append (reads_named hname plain h)

lemma reads_nextMembers {members : List (String × Value)}
    (known : ∀ m ∈ members, m.1 ∈ writtenNames ∧ IsPlain m.2)
    (h : members.foldlM Draft.put d = .ok next) :
    Reads (.claims .afterMember d back) (memberTokens members) (.claims .afterMember next back) := by
  -- between members the reader holds nothing but the draft, so the draft is what varies
  induction members generalizing d with
  | nil =>
    cases h
    exact .done _
  | cons m members ih =>
    obtain ⟨name, v⟩ := m
    obtain ⟨hname, plain⟩ := known _ List.mem_cons_self
    rw [List.foldlM_cons] at h
    obtain ⟨more, put, h⟩ := bind_eq_ok.mp h
    have first : Reads (.claims .afterMember d back) (.comma :: .string name :: .colon :: tokens v)
        (.claims .afterMember more back) := .token rfl rfl (reads_member hname plain put (.inr rfl))
    exact first.append (ih (fun m hm => known m (List.mem_cons_of_mem _ hm)) h)

end Reading

/-- The reader of tokens takes from the container what is read from its members. -/
lemma reads_document {inner : List (String × Value)} {c : Claims}
    (known : ∀ m ∈ inner, m.1 ∈ writtenNames ∧ IsPlain m.2) (h : readMembers inner = .ok c) :
    Reads .start (tokens (.object [(container, .object inner)])) (.done c) := by
  cases inner with
  | nil => cases h
  | cons m members =>
    obtain ⟨name, v⟩ := m
    obtain ⟨hname, plain⟩ := known _ List.mem_cons_self
    obtain ⟨last, filled, finished⟩ := bind_eq_ok.mp h
    rw [List.foldlM_cons] at filled
    obtain ⟨d, put, filled⟩ := bind_eq_ok.mp filled
    have shape : tokens (.object [(container, .object ((name, v) :: members))]) =
        [.openBrace, .string container, .colon, .openBrace] ++
          ((.string name :: .colon :: tokens v) ++ (memberTokens members ++ [.closeBrace, .closeBrace])) := by
      simp [tokens, memberTokens]
    have opened : Reads .start [.openBrace, .string container, .colon, .openBrace]
        (.claims .firstName Draft.empty .afterMember) :=
      .token rfl rfl (.token rfl rfl (.token rfl rfl (.token rfl rfl (.done _))))
    have left : Reader.step (.claims .afterMember last .afterMember) .closeBrace =
        .ok (.document .afterMember (some c)) := by
      simp only [Reader.step, Slot.step, Except.mapError, ok_bind, finished]
      rfl
    have closed : Reads (.claims .afterMember last .afterMember) [.closeBrace, .closeBrace] (.done c) :=
      .token rfl left (.token rfl rfl (.done _))
    have others : Reads (.claims .afterMember d .afterMember) (memberTokens members)
        (.claims .afterMember last .afterMember) :=
      reads_nextMembers (fun m hm => known m (List.mem_cons_of_mem _ hm)) filled
    rw [shape]
    exact opened.append ((reads_member hname plain put (.inl rfl)).append (others.append closed))

lemma read_write {inner : List (String × Value)} {c : Claims}
    (known : ∀ m ∈ inner, m.1 ∈ writtenNames ∧ IsPlain m.2) (numberFree : membersAreNumberFree inner = true)
    (h : readMembers inner = .ok c) (depth : Option Nat) {blanks : Bytes}
    (hblanks : blanks.all isBlank = true) :
    Document.read (write depth (.object [(container, .object inner)]) ++ blanks) = .ok c := by
  have lexed := lex_write depth (.object [(container, .object inner)])
    (by simpa [isNumberFree, membersAreNumberFree] using numberFree) blanks
  rw [lex_eq_nil.mpr hblanks, List.append_nil] at lexed
  exact run_of_reads (lexed ▸ reads_document known h) rfl

/-! ### Claims read back -/

lemma read_value {c : Claims} (readable : HasReadableYears c) (depth : Option Nat) {blanks : Bytes}
    (hblanks : blanks.all isBlank = true) :
    Document.read (write depth (value c) ++ blanks) = .ok c.shown := by
  refine read_write ?_ rfl ?_ depth hblanks
  · intro m hm
    simp only [List.mem_cons, List.not_mem_nil, or_false] at hm
    rcases hm with rfl | rfl | rfl | rfl | rfl | rfl <;> exact ⟨by simp [writtenNames], trivial⟩
  · unfold readMembers
    simp only [List.foldlM_cons, List.foldlM_nil, put_createdOn, put_expiresOn, put_serialNumber,
      put_assertion, put_pinnedDomainCert, put_revocationChecks, Draft.empty, once_none,
      readInstant_format readable.1, readInstant_format readable.2, readAssertion_text]
    rfl

lemma decode_value {c : Claims} (valid : c.shown.Valid) (readable : HasReadableYears c)
    (depth : Option Nat) {blanks : Bytes} (hblanks : blanks.all isBlank = true) :
    Claims.decode (write depth (value c) ++ blanks) = .ok c.shown := by
  have parsed := parse_write depth (value c) rfl (show 2 < 128 by decide)
  have decoded : Claims.decode (write depth (value c)) = .ok c.shown :=
    decode_eq_ok.mpr ⟨claimsValue c, ⟨⟨value c, parsed, rfl⟩, rfl, rfl⟩, readMembers_readable readable,
      validate_eq_ok.mpr valid⟩
  rw [decode_append decoded, if_pos hblanks]

/-- Both readers give these claims back, the one that also checks them just if they are valid. -/
structure GivesBack (b : Bytes) (c : Claims) : Prop where
  read : Document.read b = .ok c
  decode : Claims.decode b = .ok c ↔ c.Valid

lemma givesBack_value {c : Claims} (readable : HasReadableYears c) (depth : Option Nat) {blanks : Bytes}
    (hblanks : blanks.all isBlank = true) : GivesBack (write depth (value c) ++ blanks) c.shown :=
  ⟨read_value readable depth hblanks, valid_of_decode, fun valid => decode_value valid readable depth hblanks⟩

/-- What is given back is what was written just if no time is a leap second within a minute. -/
lemma givesBack_iff {b : Bytes} {c : Claims} (h : GivesBack b c.shown) :
    GivesBack b c ↔ c.HasShownTimes := by
  rw [← Claims.shown_eq_self_iff]
  refine ⟨fun same => ?_, fun same => same ▸ h⟩
  exact Except.ok.inj (h.read.symm.trans same.read)

/-! ### Runs that verify -/

section Runs

variable {Cert Key Envelope : Type} [DecidableEq Cert]

/-- What the tool is told to verify is verified and states these claims, which may have to be within
their window. -/
def Accepts (P : Provider Cert Key Envelope) (now : Instant) (disk : Disk) (command : VerifyCommand)
    (c : Claims) : Prop :=
  ∃ voucher bundle pool, disk.read command.voucher = .ok voucher ∧
    disk.read command.trust = .ok bundle ∧ TrustPool.ofPem P bundle = .ok pool ∧
    (verify P pool voucher).value = .ok c ∧ (command.checkExpiry = true → c.checkAt now = .ok ())

variable {P : Provider Cert Key Envelope} {now : Instant} {disk : Disk} {command : VerifyCommand}

lemma verify_eq_ok {outcome : Outcome} :
    (command.run P now disk).run.value = .ok outcome ↔ ∃ c, Accepts P now disk command c ∧
      outcome = .prints ((Bytes.toText? (Document.pretty c)).getD "" ++ "\n") := by
  unfold VerifyCommand.run
  simp only [value_bind]
  constructor
  · intro h
    obtain ⟨voucher, hvoucher, h⟩ := bind_eq_ok.mp h
    obtain ⟨bundle, hbundle, h⟩ := bind_eq_ok.mp h
    obtain ⟨pool, assembled, h⟩ := bind_eq_ok.mp h
    obtain ⟨verified, answered, h⟩ := bind_eq_ok.mp h
    obtain ⟨c, accepted, h⟩ := bind_eq_ok.mp h
    have same := Except.ok.inj answered
    rw [mapError_eq_ok.mp accepted] at same
    refine ⟨c, ⟨voucher, bundle, pool, mapError_eq_ok.mp hvoucher, mapError_eq_ok.mp hbundle,
      mapError_eq_ok.mp assembled, ?_⟩, (Except.ok.inj h).symm⟩
    split at same
    · rename_i checked
      obtain ⟨verified, within⟩ := verifyAt_eq_ok.mp same
      exact ⟨verified, fun _ => within⟩
    · rename_i unchecked
      exact ⟨same, fun checked => absurd checked unchecked⟩
  · rintro ⟨c, ⟨voucher, bundle, pool, hvoucher, hbundle, assembled, verified, within⟩, rfl⟩
    have answered : (if command.checkExpiry then verifyAt P pool voucher now
        else BootstrapVoucher.verify P pool voucher).value = .ok c := by
      split
      · rename_i checked
        exact verifyAt_eq_ok.mpr ⟨verified, within checked⟩
      · exact verified
    refine bind_eq_ok.mpr ⟨voucher, mapError_eq_ok.mpr hvoucher, ?_⟩
    refine bind_eq_ok.mpr ⟨bundle, mapError_eq_ok.mpr hbundle, ?_⟩
    refine bind_eq_ok.mpr ⟨pool, mapError_eq_ok.mpr assembled, ?_⟩
    refine bind_eq_ok.mpr ⟨.ok c, congrArg Except.ok answered, ?_⟩
    exact bind_eq_ok.mpr ⟨c, rfl, rfl⟩

variable {arguments : List String} {verbose : Bool} {tree : FileTree}
  (invoked : Invocation.ofArguments arguments = .ok ⟨verbose, .verify command⟩)

include invoked

lemma run_of_accepts {c : Claims} (accepted : Accepts P now tree.disk command c) :
    Tool.run P now arguments tree =
      (Report.success ((Bytes.toText? (Document.pretty c)).getD "" ++ "\n"), tree) := by
  have printed := verify_eq_ok.mpr ⟨c, accepted, rfl⟩
  unfold Tool.run Command.run
  rw [invoked]
  simp only [printed]

lemma accepts_of_run (succeeds : (Tool.run P now arguments tree).1.exitCode = 0) :
    ∃ c, Accepts P now tree.disk command c := by
  cases result : (command.run P now tree.disk).run.value with
  | error reason =>
    unfold Tool.run Command.run at succeeds
    rw [invoked] at succeeds
    simp only [result] at succeeds
    cases succeeds
  | ok outcome =>
    obtain ⟨c, accepted, -⟩ := verify_eq_ok.mp result
    exact ⟨c, accepted⟩

lemma ofText_printed {c : Claims} (accepted : Accepts P now tree.disk command c) :
    Bytes.ofText (Tool.run P now arguments tree).1.stdout = Document.pretty c ++ [10] := by
  -- no byte of the document is lost where it is printed as a text
  obtain ⟨text, written⟩ : IsText (Document.pretty c) := isText_write (some 0) (value c)
  rw [run_of_accepts invoked accepted, ← written, Bytes.toText?_ofText]
  exact ofText_append text "\n"

end Runs

/-- The claims that the text shows which is printed of claims with times in the years 0 to 9999 are read
back from it, whatever is in their texts; if they are valid, they are decoded from it and from the
canonical document. They are the claims themselves, valid or not, just if no time is a leap second within
a minute. A run that verifies a voucher succeeds just if the voucher is accepted, and then this text and
a line feed are all that it prints; accepted claims have no such times. -/
theorem printed_document_is_read_back {Cert Key Envelope : Type} [DecidableEq Cert]
    (P : Provider Cert Key Envelope) (now : Instant) (arguments : List String) (tree : FileTree) :
    (∀ c, HasReadableYears c → (∃ text, Bytes.ofText text = Document.pretty c) ∧
      (GivesBack (Document.pretty c) c.shown ∧ (GivesBack (Document.pretty c) c ↔ c.HasShownTimes)) ∧
      (c.Valid → ∃ b, c.encode = .ok b ∧ GivesBack b c.shown ∧ (GivesBack b c ↔ c.HasShownTimes))) ∧
    ∀ verbose command, Invocation.ofArguments arguments = .ok ⟨verbose, .verify command⟩ →
      ((Tool.run P now arguments tree).1.exitCode = 0 ↔ ∃ c, Accepts P now tree.disk command c) ∧
      ∀ c, Accepts P now tree.disk command c → c.Valid ∧
        Bytes.ofText (Tool.run P now arguments tree).1.stdout = Document.pretty c ++ [10] ∧
        (HasReadableYears c → GivesBack (Bytes.ofText (Tool.run P now arguments tree).1.stdout) c) := by
  constructor
  · intro c readable
    have written : ∀ depth, GivesBack (write depth (value c)) c.shown := by
      intro depth
      rw [← List.append_nil (write depth (value c))]
      exact givesBack_value readable depth rfl
    exact ⟨isText_write (some 0) (value c), ⟨written (some 0), givesBack_iff (written (some 0))⟩,
      fun valid => ⟨_, encode_of_valid valid, written none, givesBack_iff (written none)⟩⟩
  · intro verbose command invoked
    refine ⟨⟨accepts_of_run invoked, ?_⟩, fun c accepted => ?_⟩
    · rintro ⟨c, accepted⟩
      exact congrArg (·.1.exitCode) (run_of_accepts invoked accepted)
    · have printed := ofText_printed invoked accepted
      obtain ⟨voucher, -, pool, -, -, -, verified, -⟩ := accepted
      refine ⟨valid_of_verify verified, printed, fun readable => ?_⟩
      have back : GivesBack (write (some 0) (value c) ++ [10]) c.shown :=
        givesBack_value readable (some 0) rfl
      rw [printed]
      exact (givesBack_iff back).mpr (hasShownTimes_of_verify verified)

/-- There is no serial number, and the body is no certificate. -/
def namelessClaims : Claims :=
  { leapSecondClaims with serialNumber := "", pinnedDomainCert := "\"\\\r\n\u0000\u007f\u20ac" }

/-- The plain provider, with a certificate for each byte of a bundle. -/
def anchorProvider : Provider UInt8 UInt8 (List UInt8 × Bytes) :=
  { plainProvider with readCertificates := fun b => .ok b }

/-- A directory with a voucher and the certificate that it is signed with. -/
def voucherTree : FileTree where
  nodes := [
    ([Bytes.ofText "ov_7.der"], .file (1 :: 0 :: (value leapSecondClaims).compact)),
    ([Bytes.ofText "vendorca_pub.pem"], .file [1])]

lemma accepts_voucherTree : Accepts anchorProvider leapSecond2016 voucherTree.disk
    ⟨"ov_7.der", "vendorca_pub.pem", true⟩ leapSecondClaims := by
  have faithful : IsFaithful plainProvider plainSigner.vendor := isFaithful_plainProvider (by decide)
  have hpool : (TrustPool.empty.add 1).certificates = [plainSigner.vendor.certificate] := rfl
  have verified := verify_envelopeOf_shown faithful hpool
    (envelopeOf_plain leapSecondClaims leapSecond2016 rfl) (by decide) (by decide)
  refine ⟨1 :: 0 :: (value leapSecondClaims).compact, [1], TrustPool.empty.add 1, ?_, ?_, rfl, verified,
    fun _ => rfl⟩
  · exact read_name (by constructor <;> decide +kernel) (by decide +kernel)
  · exact read_name (by constructor <;> decide +kernel) (by decide +kernel)

/-- The first claims could not be signed, but are read back from their text; the others are printed by
the tool. -/
theorem printed_document_is_read_back_leapSecond :
    (Document.read (Document.pretty namelessClaims) = .ok namelessClaims ∧ ¬namelessClaims.Valid) ∧
    (HasReadableYears leapSecondClaims ∧ leapSecondClaims.Valid ∧
      ∃ b, leapSecondClaims.encode = .ok b ∧ Claims.decode b = .ok leapSecondClaims) ∧
    (Tool.run anchorProvider leapSecond2016 ["verify", "-ci", "ov_7.der"] voucherTree).1.exitCode = 0 ∧
    ∃ printed,
      Bytes.ofText (Tool.run anchorProvider leapSecond2016 ["verify", "-ci", "ov_7.der"]
        voucherTree).1.stdout = printed ∧
      Document.read printed = .ok leapSecondClaims ∧ Claims.decode printed = .ok leapSecondClaims := by
  obtain ⟨documents, runs⟩ := printed_document_is_read_back anchorProvider leapSecond2016
    ["verify", "-ci", "ov_7.der"] voucherTree
  obtain ⟨succeeds, prints⟩ := runs false ⟨"ov_7.der", "vendorca_pub.pem", true⟩ (by decide +kernel)
  obtain ⟨valid, -, readBack⟩ := prints _ accepts_voucherTree
  obtain ⟨-, ⟨-, nameless⟩, -⟩ := documents namelessClaims (by decide)
  obtain ⟨-, -, canonical⟩ := documents leapSecondClaims (by decide)
  obtain ⟨b, encoded, -, canonicalBack⟩ := canonical valid
  have printed := readBack (by decide)
  exact ⟨⟨(nameless.mpr (by decide)).read, fun named => named.serial_ne rfl⟩,
    ⟨by decide, valid, b, encoded, (canonicalBack.mpr (by decide)).decode.mpr valid⟩,
    succeeds.mpr ⟨_, accepts_voucherTree⟩, _, rfl, printed.read, printed.decode.mpr valid⟩

/-- Valid claims from a leap second within a minute on are not read back from what is printed of them,
nor decoded from it. -/
theorem halfMinuteLeap_is_printed_as_next_second :
    HasReadableYears halfMinuteClaims ∧ halfMinuteClaims.Valid ∧
      Document.read (Document.pretty halfMinuteClaims) ≠ .ok halfMinuteClaims ∧
      Claims.decode (Document.pretty halfMinuteClaims) ≠ .ok halfMinuteClaims := by
  have readable : HasReadableYears halfMinuteClaims := by decide
  have back : GivesBack (write (some 0) (value halfMinuteClaims) ++ []) halfMinuteClaims.shown :=
    givesBack_value readable (some 0) rfl
  rw [List.append_nil] at back
  refine ⟨readable, validate_eq_ok.mp rfl, fun same => ?_, fun same => ?_⟩
  · have shown := Claims.shown_eq_self_iff.mp (Except.ok.inj (back.read.symm.trans same))
    revert shown
    decide
  · have shown := hasShownTimes_of_decode same
    revert shown
    decide

end BootstrapVoucher.Proofs
