import BootstrapVoucher.Proofs.KeySecrecy
import BootstrapVoucher.Proofs.SignedFolder
import BootstrapVoucher.Proofs.WrittenCertificate

/-!
# Loading a folder

Loading is a row of steps: four for each of three key pairs, one for the vouchers and one for the TLS
identity. Whatever is wrong with the files, the answer is the error of the first step that fails, and if
none fails the artifacts are those of the files. Whether the keys of the domain and of the vendor belong
to their certificates is never asked.
-/

namespace BootstrapVoucher.Proofs

open X509

/-! ### Steps in order -/

section Steps

variable {σ ε α β : Type} {fails : σ → ε → Prop} {step : σ} {steps more : List σ}

/-- The error of the first of some steps that fails. -/
inductive FirstFailure (fails : σ → ε → Prop) : List σ → ε → Prop
  | here {step : σ} {rest : List σ} {e : ε} (failed : fails step e) :
    FirstFailure fails (step :: rest) e
  | later {step : σ} {rest : List σ} {e : ε} (passed : ∀ e, ¬fails step e)
    (failed : FirstFailure fails rest e) : FirstFailure fails (step :: rest) e

/-- What is computed fails exactly if one of the steps does, with the error of the first one. -/
def Follows (fails : σ → ε → Prop) (steps : List σ) (x : Except ε α) : Prop :=
  ∀ e, x = .error e ↔ FirstFailure fails steps e

lemma follows_of_step {x : Except ε α} (h : ∀ e, x = .error e ↔ fails step e) :
    Follows fails [step] x := by
  intro e
  rw [h]
  constructor
  · exact .here
  · intro failed
    cases failed with
    | here failed => exact failed
    | later _ failed => cases failed

lemma firstFailure_append {e : ε} : FirstFailure fails (steps ++ more) e ↔
    FirstFailure fails steps e ∨ (∀ e, ¬FirstFailure fails steps e) ∧ FirstFailure fails more e := by
  induction steps with
  | nil =>
    constructor
    · exact fun failed => .inr ⟨fun _ => nofun, failed⟩
    · rintro (failed | ⟨-, failed⟩)
      · cases failed
      · exact failed
  | cons step steps ih =>
    constructor
    · intro failed
      cases failed with
      | here failed => exact .inl (.here failed)
      | later passed failed =>
        rcases ih.mp failed with failed | ⟨none, failed⟩
        · exact .inl (.later passed failed)
        · refine .inr ⟨fun e failed => ?_, failed⟩
          cases failed with
          | here failed => exact passed e failed
          | later _ failed => exact none e failed
    · rintro (failed | ⟨none, failed⟩)
      · cases failed with
        | here failed => exact .here failed
        | later passed failed => exact .later passed (ih.mpr (.inl failed))
      · have passed : ∀ e, ¬fails step e := fun e failed => none e (.here failed)
        exact .later passed (ih.mpr (.inr ⟨fun e failed => none e (.later passed failed), failed⟩))

/-- What follows some steps is only reached if none of them fails. -/
lemma Follows.bind {x : Except ε α} {f : α → Except ε β} (hx : Follows fails steps x)
    (hf : ∀ a, x = .ok a → Follows fails more (f a)) : Follows fails (steps ++ more) (x >>= f) := by
  intro e
  rw [firstFailure_append, bind_eq_error, hx]
  apply or_congr_right
  cases x with
  | error e' =>
    have failed := (hx e').mp rfl
    constructor
    · rintro ⟨a, ⟨⟩, -⟩
    · rintro ⟨none, -⟩
      exact absurd failed (none e')
  | ok a =>
    have none : ∀ e, ¬FirstFailure fails steps e := fun e failed => nomatch (hx e).mpr failed
    constructor
    · rintro ⟨_, ⟨⟩, failed⟩
      exact ⟨none, (hf a rfl e).mp failed⟩
    · rintro ⟨-, failed⟩
      exact ⟨a, rfl, (hf a rfl e).mpr failed⟩

lemma Follows.cons {x : Except ε α} {f : α → Except ε β} (hx : ∀ e, x = .error e ↔ fails step e)
    (hf : ∀ a, x = .ok a → Follows fails more (f a)) : Follows fails (step :: more) (x >>= f) :=
  (follows_of_step hx).bind hf

lemma follows_ok (a : α) : Follows fails [] (.ok a) := by
  intro e
  constructor
  · nofun
  · nofun

end Steps

/-! ### The steps of loading -/

/-- The steps of loading a folder. -/
inductive LoadStep
  | readCertificate (name : String)
  | readKey (name : String)
  | parseCertificate (name : String)
  | parseKey (name : String)
  | collectVouchers
  | makeIdentity

/-- The steps of loading a key pair, in their order. -/
def pairSteps (name : String) : List LoadStep :=
  [.readCertificate name, .readKey name, .parseCertificate name, .parseKey name]

/-- All steps of loading, in their order. -/
def loadSteps : List LoadStep :=
  pairSteps "oc" ++ (pairSteps "pdc" ++ (pairSteps "vendorca" ++ [.collectVouchers, .makeIdentity]))

variable {Cert Key Envelope : Type} (P : Provider Cert Key Envelope) (disk : Disk)
  (folder : ArtifactFolder)

/-- The certificate file of a name holds the certificate. -/
def HoldsCertificate (name : String) (c : Cert) : Prop :=
  ∃ text, disk.read (Disk.join folder.root (name ++ "_pub.pem")) = .ok text ∧
    P.readCertificate text = .ok c

/-- The key file of a name holds the key. -/
def HoldsKey (name : String) (key : Key) : Prop :=
  ∃ text, disk.read (Disk.join folder.root (name ++ "_priv.pem")) = .ok text ∧
    P.readKey text = .ok key

/-- The files of a name hold the key pair. -/
structure HoldsPair (name : String) (pair : KeyPair Cert Key) : Prop where
  certificate : HoldsCertificate P disk folder name pair.certificate
  key : HoldsKey P disk folder name pair.key

/-- How a step fails when it is reached: a file that cannot be read is reported with its path, and one
that cannot be parsed with what it should be. -/
inductive Fails : LoadStep → LoadError → Prop
  | readCertificate {name : String} {e : IoError}
    (unread : disk.read (Disk.join folder.root (name ++ "_pub.pem")) = .error e) :
    Fails (.readCertificate name) (.ioError
      ("reading " ++ Disk.join folder.root (name ++ "_pub.pem") ++ ": " ++ e.message))
  | readKey {name : String} {e : IoError}
    (unread : disk.read (Disk.join folder.root (name ++ "_priv.pem")) = .error e) :
    Fails (.readKey name) (.ioError
      ("reading " ++ Disk.join folder.root (name ++ "_priv.pem") ++ ": " ++ e.message))
  | parseCertificate {name : String} {text : Bytes} {e : String}
    (read : disk.read (Disk.join folder.root (name ++ "_pub.pem")) = .ok text)
    (unparsed : P.readCertificate text = .error e) :
    Fails (.parseCertificate name) (.assembly (.syntaxError ("parsing certificate: " ++ e)))
  | parseKey {name : String} {text : Bytes} {e : String}
    (read : disk.read (Disk.join folder.root (name ++ "_priv.pem")) = .ok text)
    (unparsed : P.readKey text = .error e) :
    Fails (.parseKey name) (.assembly (.syntaxError ("parsing private key: " ++ e)))
  | collectVouchers {e : LoadError} (failed : (folder.readVouchers disk).run.value = .error e) :
    Fails .collectVouchers e
  | makeIdentity {server : KeyPair Cert Key} {e : String}
    (held : HoldsPair P disk folder "oc" server)
    (refused : P.checkTls server.certificate server.key = .error e) :
    Fails .makeIdentity (.assembly (.tlsIdentityInvalid (P.subject server.certificate ++ ": " ++ e)))

/-- The artifacts are those of the folder: each key pair comes from its own files, the vouchers are those
that are collected, TLS accepts the server's pair and presents it, and the domain's certificate is all
that is trusted. -/
structure HoldsArtifacts (a : Artifacts Cert Key) : Prop where
  server : HoldsPair P disk folder "oc" a.server
  domain : HoldsPair P disk folder "pdc" a.domain
  vendorCa : HoldsPair P disk folder "vendorca" a.vendorCa
  vouchers : (folder.readVouchers disk).run.value = .ok a.vouchers
  accepted : P.checkTls a.server.certificate a.server.key = .ok ()
  tlsIdentity : a.tlsIdentity = ⟨a.server.certificate, a.server.key⟩
  trustPool : a.trustPool.certificates = [a.domain.certificate]

/-! ### Key pairs -/

section Pairs

variable {P disk folder} {name : String}

lemma keyPair_eq : folder.keyPair P disk name =
    folder.readFile disk (name ++ "_pub.pem") >>= fun certificate =>
    folder.readFile disk (name ++ "_priv.pem") >>= fun key =>
    ((P.readCertificate certificate).mapError fun e =>
      LoadError.assembly (.syntaxError ("parsing certificate: " ++ e))) >>= fun c =>
    ((P.readKey key).mapError fun e =>
      LoadError.assembly (.syntaxError ("parsing private key: " ++ e))) >>= fun k => .ok ⟨c, k⟩ := by
  unfold ArtifactFolder.keyPair
  refine congrArg _ (funext fun certificate => congrArg _ (funext fun key => ?_))
  unfold KeyPair.ofPem
  cases P.readCertificate certificate with
  | error e => rfl
  | ok c =>
    cases P.readKey key with
    | error e => rfl
    | ok k => rfl

lemma readFile_eq_ok {file : String} {text : Bytes} :
    folder.readFile disk file = .ok text ↔ disk.read (Disk.join folder.root file) = .ok text :=
  mapError_eq_ok

lemma keyPair_eq_ok {pair : KeyPair Cert Key} :
    folder.keyPair P disk name = .ok pair ↔ HoldsPair P disk folder name pair := by
  simp only [keyPair_eq, bind_eq_ok, readFile_eq_ok, mapError_eq_ok]
  constructor
  · rintro ⟨certificate, hcertificate, key, hkey, c, hc, k, hk, ⟨⟩⟩
    exact ⟨⟨certificate, hcertificate, hc⟩, key, hkey, hk⟩
  · rintro ⟨⟨certificate, hcertificate, hc⟩, key, hkey, hk⟩
    exact ⟨certificate, hcertificate, key, hkey, _, hc, _, hk, rfl⟩

lemma follows_keyPair :
    Follows (Fails P disk folder) (pairSteps name) (folder.keyPair P disk name) := by
  rw [keyPair_eq]
  refine .cons (fun e => ?_) fun certificate hcertificate => .cons (fun e => ?_) fun key hkey =>
    .cons (fun e => ?_) fun c _ => .cons (fun e => ?_) fun k _ => follows_ok _
  · refine mapError_eq_error.trans ⟨?_, fun failed => ?_⟩
    · rintro ⟨fault, unread, rfl⟩
      exact .readCertificate unread
    · cases failed with
      | readCertificate unread => exact ⟨_, unread, rfl⟩
  · refine mapError_eq_error.trans ⟨?_, fun failed => ?_⟩
    · rintro ⟨fault, unread, rfl⟩
      exact .readKey unread
    · cases failed with
      | readKey unread => exact ⟨_, unread, rfl⟩
  · refine mapError_eq_error.trans ⟨?_, fun failed => ?_⟩
    · rintro ⟨fault, unparsed, rfl⟩
      exact .parseCertificate (readFile_eq_ok.mp hcertificate) unparsed
    · cases failed with
      | parseCertificate read unparsed =>
        cases read.symm.trans (readFile_eq_ok.mp hcertificate)
        exact ⟨_, unparsed, rfl⟩
  · refine mapError_eq_error.trans ⟨?_, fun failed => ?_⟩
    · rintro ⟨fault, unparsed, rfl⟩
      exact .parseKey (readFile_eq_ok.mp hkey) unparsed
    · cases failed with
      | parseKey read unparsed =>
        cases read.symm.trans (readFile_eq_ok.mp hkey)
        exact ⟨_, unparsed, rfl⟩

lemma ofKeyPair_eq_error_iff {pair : KeyPair Cert Key} {e : AssemblyError} :
    TlsIdentity.ofKeyPair P pair = .error e ↔ ∃ fault,
      P.checkTls pair.certificate pair.key = .error fault ∧
        e = .tlsIdentityInvalid (P.subject pair.certificate ++ ": " ++ fault) := by
  unfold TlsIdentity.ofKeyPair
  cases P.checkTls pair.certificate pair.key with
  | error fault => simp [eq_comm, KeyPair.subject]
  | ok _ => simp

lemma ofKeyPair_eq_ok_iff {pair : KeyPair Cert Key} {tls : TlsIdentity Cert Key} :
    TlsIdentity.ofKeyPair P pair = .ok tls ↔
      P.checkTls pair.certificate pair.key = .ok () ∧ tls = ⟨pair.certificate, pair.key⟩ := by
  unfold TlsIdentity.ofKeyPair
  cases P.checkTls pair.certificate pair.key with
  | error fault => simp
  | ok _ => simp [eq_comm]

/-- The same certificate is read on another disk, with another key. -/
lemma keyPair_other {other : Disk} {key : Key}
    (certificate : folder.readFile other (name ++ "_pub.pem") =
      folder.readFile disk (name ++ "_pub.pem"))
    (held : ∃ key, HoldsKey P disk folder name key) (replaced : HoldsKey P other folder name key) :
    folder.keyPair P other name =
      (folder.keyPair P disk name).map fun pair => ⟨pair.certificate, key⟩ := by
  obtain ⟨old, text, read, parsed⟩ := held
  obtain ⟨text', read', parsed'⟩ := replaced
  simp only [keyPair_eq, certificate, readFile_eq_ok.mpr read, readFile_eq_ok.mpr read', ok_bind,
    parsed, parsed', Except.mapError]
  cases folder.readFile disk (name ++ "_pub.pem") with
  | error e => rfl
  | ok text =>
    simp only [ok_bind]
    cases P.readCertificate text with
    | error e => rfl
    | ok c => rfl

end Pairs

/-! ### The whole folder -/

section Folder

variable [DecidableEq Cert]

lemma load_value : (folder.load P disk).run.value =
    folder.keyPair P disk "oc" >>= fun server => folder.keyPair P disk "pdc" >>= fun domain =>
      folder.keyPair P disk "vendorca" >>= fun vendorCa =>
        (folder.readVouchers disk).run.value >>= fun vouchers =>
          (Artifacts.assemble P server domain vendorCa vouchers).value.mapError .assembly := by
  have pair (name : String) : (folder.readKeyPair P disk name).run.value =
      folder.keyPair P disk name := by
    unfold ArtifactFolder.readKeyPair
    rw [value_bind]
    change (folder.keyPair P disk name >>= fun pair => .ok pair) = folder.keyPair P disk name
    cases folder.keyPair P disk name with
    | error e => rfl
    | ok pair => rfl
  unfold ArtifactFolder.load
  simp only [value_bind, pair]
  rfl

variable {P disk folder}

variable (reread : ∀ c, HoldsCertificate P disk folder "pdc" c → PemReadsBack P c)

include reread

lemma follows_load : Follows (Fails P disk folder) loadSteps (folder.load P disk).run.value := by
  rw [load_value]
  refine follows_keyPair.bind fun server hserver => follows_keyPair.bind fun domain hdomain =>
    follows_keyPair.bind fun vendorCa _ => .cons (fun e => ?_) fun vouchers _ =>
      follows_of_step fun e => ?_
  · constructor
    · exact .collectVouchers
    · intro failed
      cases failed with
      | collectVouchers failed => exact failed
  · have held := keyPair_eq_ok.mp hserver
    rw [assemble_value (reread _ (keyPair_eq_ok.mp hdomain).certificate)]
    refine mapError_eq_error.trans ⟨?_, fun failed => ?_⟩
    · rintro ⟨fault, failed, rfl⟩
      obtain ⟨reason, refused, rfl⟩ := ofKeyPair_eq_error_iff.mp (map_eq_error.mp failed)
      exact .makeIdentity held refused
    · cases failed with
      | makeIdentity held' refused =>
        cases (keyPair_eq_ok.mpr held').symm.trans hserver
        exact ⟨_, map_eq_error.mpr (ofKeyPair_eq_error_iff.mpr ⟨_, refused, rfl⟩), rfl⟩

lemma load_eq_ok {a : Artifacts Cert Key} :
    (folder.load P disk).run.value = .ok a ↔ HoldsArtifacts P disk folder a := by
  rw [load_value]
  simp only [bind_eq_ok, keyPair_eq_ok, mapError_eq_ok]
  constructor
  · rintro ⟨server, hserver, domain, hdomain, vendorCa, hvendorCa, vouchers, hvouchers, h⟩
    rw [assemble_value (reread _ hdomain.certificate)] at h
    obtain ⟨tls, identified, rfl⟩ := map_eq_ok.mp h
    obtain ⟨accepted, rfl⟩ := ofKeyPair_eq_ok_iff.mp identified
    exact ⟨hserver, hdomain, hvendorCa, hvouchers, accepted, rfl, rfl⟩
  · intro holds
    refine ⟨_, holds.server, _, holds.domain, _, holds.vendorCa, _, holds.vouchers, ?_⟩
    rw [assemble_value (reread _ holds.domain.certificate)]
    refine map_eq_ok.mpr ⟨_, ofKeyPair_eq_ok_iff.mpr ⟨holds.accepted, rfl⟩, ?_⟩
    obtain ⟨server, domain, vendorCa, vouchers, tls, ⟨certificates, nodup⟩⟩ := a
    have identity : tls = ⟨server.certificate, server.key⟩ := holds.tlsIdentity
    have pool : certificates = [domain.certificate] := holds.trustPool
    subst identity pool
    rfl

lemma load_succeeds_iff : (∃ a, (folder.load P disk).run.value = .ok a) ↔
    (∀ name ∈ ["oc", "pdc", "vendorca"], ∃ pair, HoldsPair P disk folder name pair) ∧
      (∃ vouchers, (folder.readVouchers disk).run.value = .ok vouchers) ∧
      ∀ server, HoldsPair P disk folder "oc" server →
        P.checkTls server.certificate server.key = .ok () := by
  simp only [List.mem_cons, List.not_mem_nil, or_false, forall_eq_or_imp, forall_eq]
  constructor
  · rintro ⟨a, h⟩
    have holds := (load_eq_ok reread).mp h
    refine ⟨⟨⟨_, holds.server⟩, ⟨_, holds.domain⟩, _, holds.vendorCa⟩, ⟨_, holds.vouchers⟩, ?_⟩
    intro server held
    cases (keyPair_eq_ok.mpr held).symm.trans (keyPair_eq_ok.mpr holds.server)
    exact holds.accepted
  · rintro ⟨⟨⟨server, hserver⟩, ⟨domain, hdomain⟩, vendorCa, hvendorCa⟩, ⟨vouchers, hvouchers⟩, accepts⟩
    exact ⟨⟨server, domain, vendorCa, vouchers, ⟨server.certificate, server.key⟩,
      TrustPool.empty.add domain.certificate⟩, (load_eq_ok reread).mpr
        ⟨hserver, hdomain, hvendorCa, hvouchers, accepts server hserver, rfl, rfl⟩⟩

end Folder

/-! ### Other keys -/

section OtherKeys

lemma relative_of_toList {name : String} {first : Char} {rest : List Char}
    (h : name.toList = first :: rest) (plain : first ≠ '/') : ¬name.startsWith "/" = true := by
  intro absolute
  obtain ⟨after, split⟩ := String.startsWith_string_iff.mp absolute
  rw [h] at split
  cases split
  exact plain rfl

/-- Different names in a directory have different paths. -/
lemma join_ne {root a b : String} (ha : ¬a.startsWith "/" = true) (hb : ¬b.startsWith "/" = true)
    (differ : a ≠ b) : Disk.join root a ≠ Disk.join root b := by
  have cancel {before : String} (same : before ++ a = before ++ b) : a = b := by
    rw [← String.toList_inj, String.toList_append, String.toList_append] at same
    exact String.toList_inj.mp (List.append_cancel_left same)
  intro same
  unfold Disk.join at same
  rw [if_neg ha, if_neg hb] at same
  split at same
  · exact differ (cancel same)
  · exact differ (cancel same)

/-- The other disk is the same one, except for what the key files of the domain and of the vendor
hold. -/
structure DiffersInKeys (disk other : Disk) (folder : ArtifactFolder) : Prop where
  list : other.list = disk.list
  read : ∀ path, path ≠ Disk.join folder.root "pdc_priv.pem" →
    path ≠ Disk.join folder.root "vendorca_priv.pem" → other.read path = disk.read path

variable {P disk folder} {other : Disk} (differs : DiffersInKeys disk other folder)

include differs

lemma readFile_other {file : String} (relative : ¬file.startsWith "/" = true)
    (domain : file ≠ "pdc_priv.pem") (vendor : file ≠ "vendorca_priv.pem") :
    folder.readFile other file = folder.readFile disk file := by
  have domainKey : ¬"pdc_priv.pem".startsWith "/" = true := relative_of_toList rfl (by decide)
  have vendorKey : ¬"vendorca_priv.pem".startsWith "/" = true := relative_of_toList rfl (by decide)
  unfold ArtifactFolder.readFile
  simp only [differs.read _ (join_ne relative domainKey domain) (join_ne relative vendorKey vendor)]

lemma readVouchers_other : folder.readVouchers other = folder.readVouchers disk := by
  have added : folder.addVoucher other = folder.addVoucher disk := by
    funext store entry
    unfold ArtifactFolder.addVoucher
    split
    · rename_i id name regular known text
      obtain ⟨extensions, isFile⟩ := isVoucherFile_of_voucherId? regular known
      obtain rfl : name = "ov_" ++ id ++ extensions :=
        Option.some.inj (text.symm.trans isFile.toText?)
      have start : ("ov_" ++ id ++ extensions).toList =
          'o' :: ("v_".toList ++ id.toList ++ extensions.toList) := by
        simp
      have relative := relative_of_toList start (by decide)
      rw [readFile_other differs relative]
      · intro same
        simp [same] at start
      · intro same
        simp [same] at start
    · rfl
  unfold ArtifactFolder.readVouchers ArtifactFolder.addListed
  rw [differs.list, added]

lemma load_other [DecidableEq Cert] {domainKey vendorKey : Key}
    (reread : ∀ c, HoldsCertificate P disk folder "pdc" c → PemReadsBack P c)
    (domain : ∃ key, HoldsKey P disk folder "pdc" key)
    (domain' : HoldsKey P other folder "pdc" domainKey)
    (vendor : ∃ key, HoldsKey P disk folder "vendorca" key)
    (vendor' : HoldsKey P other folder "vendorca" vendorKey) :
    (folder.load P other).run.value = (folder.load P disk).run.value.map fun a =>
      { a with
        domain := ⟨a.domain.certificate, domainKey⟩
        vendorCa := ⟨a.vendorCa.certificate, vendorKey⟩ } := by
  have server : folder.keyPair P other "oc" = folder.keyPair P disk "oc" := by
    unfold ArtifactFolder.keyPair
    rw [readFile_other differs (relative_of_toList rfl (by decide)) (by decide) (by decide),
      readFile_other differs (relative_of_toList rfl (by decide)) (by decide) (by decide)]
  rw [load_value, load_value, server, readVouchers_other differs,
    keyPair_other (readFile_other differs (relative_of_toList rfl (by decide)) (by decide) (by decide))
      domain domain',
    keyPair_other (readFile_other differs (relative_of_toList rfl (by decide)) (by decide) (by decide))
      vendor vendor']
  cases folder.keyPair P disk "oc" with
  | error e => rfl
  | ok server =>
    cases hdomain : folder.keyPair P disk "pdc" with
    | error e => rfl
    | ok domain =>
      cases folder.keyPair P disk "vendorca" with
      | error e => rfl
      | ok vendorCa =>
        cases (folder.readVouchers disk).run.value with
        | error e => rfl
        | ok vouchers =>
          have same := reread _ (keyPair_eq_ok.mp hdomain).certificate
          let replaced : KeyPair Cert Key := ⟨domain.certificate, domainKey⟩
          have same' : PemReadsBack P replaced.certificate := same
          simp only [ok_bind, Except.map]
          rw [assemble_value same, assemble_value same']
          cases TlsIdentity.ofKeyPair P server with
          | error e => rfl
          | ok tls => rfl

end OtherKeys

/-- Every certificate that the standard provider reads from a file is read back from what is printed. -/
lemma reread_standardProvider {text : Bytes} {c : Certificate}
    (read : standardProvider.readCertificate text = .ok c) (short : c.der.length < 2 ^ 63) :
    PemReadsBack standardProvider c := by
  obtain ⟨block, -, parsed⟩ := bind_eq_ok.mp (mapError_eq_ok.mp read)
  obtain ⟨e, he⟩ := read_of_ofBytes parsed
  obtain ⟨again, whole, hread⟩ := denotes_certificate he short
  have alone := whole.read []
  rw [List.append_nil] at alone
  have known : Certificate.ofBytes c.der = .ok c := by
    simp [Certificate.ofBytes, Asn1.readWith?, alone, hread]
  exact (isReadBack_standardProvider known).pemReadsBack

/-- Whatever the disk answers, loading a folder fails exactly with the error of the first failing step,
and succeeds exactly with the artifacts that its files hold; it succeeds just if the six files of the key
pairs can be read and parsed, the vouchers are collected and TLS accepts the server's pair. Other keys in
the key files of the domain and of the vendor change these keys in the result and nothing else, so they
need not belong to their certificates. All this holds where the domain's certificate is read back from
what is printed, as certificates of the standard provider are. -/
theorem load_answers_first_failing_step :
    (∀ (text : Bytes) (c : Certificate), standardProvider.readCertificate text = .ok c →
      c.der.length < 2 ^ 63 → PemReadsBack standardProvider c) ∧
    ∀ {Cert Key Envelope : Type} [DecidableEq Cert] (P : Provider Cert Key Envelope) (disk : Disk)
      (folder : ArtifactFolder), (∀ c, HoldsCertificate P disk folder "pdc" c → PemReadsBack P c) →
      (∀ e, (folder.load P disk).run.value = .error e ↔
        FirstFailure (Fails P disk folder) loadSteps e) ∧
      (∀ a, (folder.load P disk).run.value = .ok a ↔ HoldsArtifacts P disk folder a) ∧
      ((∃ a, (folder.load P disk).run.value = .ok a) ↔
        (∀ name ∈ ["oc", "pdc", "vendorca"], ∃ pair, HoldsPair P disk folder name pair) ∧
          (∃ vouchers, (folder.readVouchers disk).run.value = .ok vouchers) ∧
          ∀ server, HoldsPair P disk folder "oc" server →
            P.checkTls server.certificate server.key = .ok ()) ∧
      ∀ (other : Disk) (domainKey vendorKey : Key), DiffersInKeys disk other folder →
        (∃ key, HoldsKey P disk folder "pdc" key) → HoldsKey P other folder "pdc" domainKey →
        (∃ key, HoldsKey P disk folder "vendorca" key) →
        HoldsKey P other folder "vendorca" vendorKey →
          (folder.load P other).run.value = (folder.load P disk).run.value.map fun a =>
            { a with
              domain := ⟨a.domain.certificate, domainKey⟩
              vendorCa := ⟨a.vendorCa.certificate, vendorKey⟩ } := by
  refine ⟨fun text c => reread_standardProvider, ?_⟩
  intro Cert Key Envelope _ P disk folder reread
  exact ⟨follows_load reread, fun a => load_eq_ok reread, load_succeeds_iff reread,
    fun other domainKey vendorKey differs domain domain' vendor vendor' =>
      load_other differs reread domain domain' vendor vendor'⟩

/-- Certificates and keys are numbers below 128, the keys in two forms; a file of one byte holds its
number. -/
def numberProvider : Provider UInt8 UInt8 (List UInt8 × Bytes) :=
  { printingProvider with
    readCertificate := fileProvider.readCertificate
    readKey := fileProvider.readKey }

/-- A folder with one voucher, the server's pair, and keys for the domain and the vendor. -/
def serverDisk (domainKey vendorKey : UInt8) : Disk :=
  .ofAnswers [("a/oc_pub.pem", .ok [1]), ("a/oc_priv.pem", .ok [129]), ("a/pdc_pub.pem", .ok [2]),
      ("a/pdc_priv.pem", .ok [domainKey]), ("a/vendorca_pub.pem", .ok [3]),
      ("a/vendorca_priv.pem", .ok [vendorKey]), ("a/ov_7.der", .ok [2, 0, 7])]
    [("a", .ok [.ok ⟨Bytes.ofText "ov_7.der", .file⟩])]

/-- A folder in which hardly anything is right: TLS refuses the server's pair, the domain's certificate
is empty and its key a directory, and there is no vendor and no voucher. -/
def spoiltDisk : Disk :=
  .ofAnswers [("a/oc_pub.pem", .ok [1]), ("a/oc_priv.pem", .ok [5]), ("a/pdc_pub.pem", .ok []),
    ("a/pdc_priv.pem", .error .isDirectory)] [("a", .ok [])]

lemma readVouchers_serverDisk : ∃ store,
    (ArtifactFolder.readVouchers (serverDisk 77 0) ⟨"a"⟩).run.value = .ok store ∧
      store.find? "7" = some [2, 0, 7] := by
  have listed : (serverDisk 77 0).list (ArtifactFolder.mk "a").root =
      .ok ([⟨Bytes.ofText "ov_7.der", .file⟩].map .ok) := rfl
  have files : [⟨Bytes.ofText "ov_7.der", .file⟩].filterMap (fileOf? (serverDisk 77 0) ⟨"a"⟩) =
      [("7", [2, 0, 7])] := by
    decide +kernel
  have readable : Readable (serverDisk 77 0) ⟨"a"⟩ [⟨Bytes.ofText "ov_7.der", .file⟩] :=
    readable_of_found (by decide +kernel)
  obtain ⟨store, collected, kept⟩ := readVouchers_distinct listed readable (by simp [files])
    (by simp [files])
  exact ⟨store, collected, (kept _ _).mpr (by simp [files])⟩

lemma firstFailure_spoiltDisk : FirstFailure (Fails numberProvider spoiltDisk ⟨"a"⟩) loadSteps
    (.ioError "reading a/pdc_priv.pem: Is a directory (os error 21)") := by
  have server : spoiltDisk.read (Disk.join "a" ("oc" ++ "_pub.pem")) = .ok [1] := by decide +kernel
  have serverKey : spoiltDisk.read (Disk.join "a" ("oc" ++ "_priv.pem")) = .ok [5] := by
    decide +kernel
  have domain : spoiltDisk.read (Disk.join "a" ("pdc" ++ "_pub.pem")) = .ok [] := by decide +kernel
  have domainKey : spoiltDisk.read (Disk.join "a" ("pdc" ++ "_priv.pem")) = .error .isDirectory := by
    decide +kernel
  have text : "reading " ++ Disk.join "a" ("pdc" ++ "_priv.pem") ++ ": " ++
      IoError.isDirectory.message = "reading a/pdc_priv.pem: Is a directory (os error 21)" := by
    decide +kernel
  have failed : Fails numberProvider spoiltDisk ⟨"a"⟩ (.readKey "pdc") _ := .readKey domainKey
  rw [text] at failed
  refine .later ?_ (.later ?_ (.later ?_ (.later ?_ (.later ?_ (.here failed)))))
  · intro e failed
    cases failed with
    | readCertificate unread => cases server.symm.trans unread
  · intro e failed
    cases failed with
    | readKey unread => cases serverKey.symm.trans unread
  · intro e failed
    cases failed with
    | parseCertificate read unparsed =>
      cases server.symm.trans read
      cases unparsed
  · intro e failed
    cases failed with
    | parseKey read unparsed =>
      cases serverKey.symm.trans read
      cases unparsed
  · intro e failed
    cases failed with
    | readCertificate unread => cases domain.symm.trans unread

lemma holdsPair_serverDisk (name : String) (certificate key : UInt8)
    (first : (serverDisk 77 0).read (Disk.join "a" (name ++ "_pub.pem")) = .ok [certificate])
    (second : (serverDisk 77 0).read (Disk.join "a" (name ++ "_priv.pem")) = .ok [key]) :
    HoldsPair numberProvider (serverDisk 77 0) ⟨"a"⟩ name ⟨certificate, key⟩ :=
  ⟨⟨_, first, rfl⟩, _, second, rfl⟩

lemma differsInKeys_serverDisk : DiffersInKeys (serverDisk 77 0) (serverDisk 2 3) ⟨"a"⟩ := by
  have domainPath : Disk.join "a" "pdc_priv.pem" = "a/pdc_priv.pem" := by decide +kernel
  have vendorPath : Disk.join "a" "vendorca_priv.pem" = "a/vendorca_priv.pem" := by decide +kernel
  refine ⟨rfl, fun path domain vendor => ?_⟩
  rw [domainPath, ← beq_eq_false_iff_ne] at domain
  rw [vendorPath, ← beq_eq_false_iff_ne] at vendor
  simp only [serverDisk, Disk.ofAnswers, List.lookup, domain, vendor]

/-- The PEM text of a certificate with empty names. -/
def smallFile : Bytes := Bytes.ofText (Pem.write "CERTIFICATE" smallDer)

lemma exists_smallCertificate : ∃ c : Certificate,
    standardProvider.readCertificate smallFile = .ok c ∧ c.der = smallDer := by
  have known : (standardProvider.readCertificate smallFile).toOption.map (·.der) = some smallDer := by
    decide +kernel
  cases read : standardProvider.readCertificate smallFile with
  | error e =>
    rw [read] at known
    cases known
  | ok c =>
    rw [read] at known
    exact ⟨c, rfl, Option.some.inj known⟩

/-- The first of many faults is the directory that stands in the place of the domain's key. A folder with
keys that do not belong to their certificates is loaded, as it is with keys that do. What the standard
provider reads from the file of a small certificate is read back. -/
theorem load_answers_first_failing_step_spoilt :
    (∃ c, standardProvider.readCertificate smallFile = .ok c ∧ PemReadsBack standardProvider c) ∧
    (ArtifactFolder.load numberProvider spoiltDisk ⟨"a"⟩).run.value =
      .error (.ioError "reading a/pdc_priv.pem: Is a directory (os error 21)") ∧
    numberProvider.owns 2 77 = false ∧
    ∃ a, (ArtifactFolder.load numberProvider (serverDisk 77 0) ⟨"a"⟩).run.value = .ok a ∧
      a.domain = ⟨2, 77⟩ ∧ a.trustPool.certificates = [2] ∧ a.tlsIdentity = ⟨1, 129⟩ ∧
      a.voucher? "7" = some [2, 0, 7] ∧
      (ArtifactFolder.load numberProvider (serverDisk 2 3) ⟨"a"⟩).run.value =
        .ok { a with domain := ⟨2, 2⟩, vendorCa := ⟨3, 3⟩ } := by
  obtain ⟨c, small, der⟩ := exists_smallCertificate
  have short : c.der.length < 2 ^ 63 := by
    rw [der]
    decide
  have server := holdsPair_serverDisk "oc" 1 129 (by decide +kernel) (by decide +kernel)
  have domain := holdsPair_serverDisk "pdc" 2 77 (by decide +kernel) (by decide +kernel)
  have vendorCa := holdsPair_serverDisk "vendorca" 3 0 (by decide +kernel) (by decide +kernel)
  obtain ⟨store, collected, found⟩ := readVouchers_serverDisk
  have nothing : ∀ c, HoldsCertificate numberProvider spoiltDisk ⟨"a"⟩ "pdc" c →
      PemReadsBack numberProvider c := by
    rintro c ⟨text, read, parsed⟩
    have empty : spoiltDisk.read (Disk.join "a" ("pdc" ++ "_pub.pem")) = .ok [] := by decide +kernel
    cases empty.symm.trans read
    cases parsed
  have two : ∀ c, HoldsCertificate numberProvider (serverDisk 77 0) ⟨"a"⟩ "pdc" c →
      PemReadsBack numberProvider c := by
    rintro c ⟨text, read, parsed⟩
    have only : (serverDisk 77 0).read (Disk.join "a" ("pdc" ++ "_pub.pem")) = .ok [2] := by
      decide +kernel
    cases only.symm.trans read
    cases parsed
    exact ⟨String.singleton (Char.ofNat 2), rfl, by decide +kernel⟩
  obtain ⟨fails, -⟩ :=
    load_answers_first_failing_step.2 numberProvider spoiltDisk ⟨"a"⟩ nothing
  obtain ⟨-, holds, -, otherKeys⟩ :=
    load_answers_first_failing_step.2 numberProvider (serverDisk 77 0) ⟨"a"⟩ two
  let a : Artifacts UInt8 UInt8 := {
    server := ⟨1, 129⟩, domain := ⟨2, 77⟩, vendorCa := ⟨3, 0⟩, vouchers := store
    tlsIdentity := ⟨1, 129⟩, trustPool := TrustPool.empty.add 2 }
  have accepted : numberProvider.checkTls 1 129 = .ok () := by decide +kernel
  have loaded := (holds a).mpr ⟨server, domain, vendorCa, collected, accepted, rfl, rfl⟩
  refine ⟨⟨c, small, load_answers_first_failing_step.1 smallFile c small short⟩,
    (fails _).mpr firstFailure_spoiltDisk, rfl, a, loaded, rfl, rfl, rfl, found, ?_⟩
  rw [otherKeys (serverDisk 2 3) 2 3 differsInKeys_serverDisk ⟨_, domain.key⟩ ⟨[2], by decide +kernel, rfl⟩
    ⟨_, vendorCa.key⟩ ⟨[3], by decide +kernel, rfl⟩, loaded]
  rfl

end BootstrapVoucher.Proofs
