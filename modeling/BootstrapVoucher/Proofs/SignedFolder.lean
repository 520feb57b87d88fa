import BootstrapVoucher.Proofs.FileTree
import BootstrapVoucher.Proofs.Validity
import BootstrapVoucher.Proofs.VoucherFolder
import BootstrapVoucher.Tool.Run

/-!
# Vouchers that the tool writes

Unless it is told otherwise, the tool writes a voucher to a file that is named after the serial number.
When the folder is loaded, the identifier of the voucher is taken from this name again, up to its first
point. So the vouchers of serial numbers without a point are found under their serial numbers; of any
other serial number only what stands before its first point is left.
-/

namespace BootstrapVoucher.Proofs

open FileTree Time Tool

variable {Cert Key Envelope : Type}

/-! ### Runs that sign -/

/-- What is written to a file, if anything is. -/
def writtenBy : Outcome → Bytes
  | .writes _ content _ => content
  | .prints _ | .fails _ => []

/-- The tool is run on a file tree, again and again, and each time signs a voucher for a serial number
without being told of a file, and succeeds. The serial numbers stand with what is written for them, in
the order of the runs. -/
inductive Signs [DecidableEq Cert] (P : Provider Cert Key Envelope) :
    FileTree → List (String × Bytes) → FileTree → Prop
  | done (tree : FileTree) : Signs P tree [] tree
  | run {tree last : FileTree} {now : Instant} {arguments : List String} {verbose : Bool}
      {command : SignCommand} {signed : List (String × Bytes)}
      (invoked : Invocation.ofArguments arguments = .ok ⟨verbose, .sign command⟩)
      (unnamed : command.out = none)
      (succeeds : (Tool.run P now arguments tree).1.exitCode = 0)
      (later : Signs P (Tool.run P now arguments tree).2 signed last) :
      Signs P tree
        ((command.serial, writtenBy ((Command.sign command).run P now tree.disk).value) :: signed) last

/-- The file for the voucher of a serial number. -/
def voucherName (serial : String) : String := "ov_" ++ serial ++ ".der"

section Runs

variable {P : Provider Cert Key Envelope} {now : Instant} {command : SignCommand}

/-- Vouchers are signed for serial numbers only that are not empty. -/
lemma serial_ne_of_signAt {s : Signer Cert Key} {serialNumber pdcPem : String} {createdOn : Instant}
    {voucher : Bytes} (h : (s.signAt P now serialNumber pdcPem createdOn).value = .ok voucher) :
    serialNumber ≠ "" := by
  obtain ⟨claims, made, sealed⟩ := signAt_eq_ok h
  obtain ⟨expiresOn, body, -, -, rfl⟩ := claims_eq_ok made
  exact (validate_eq_ok.mp (envelopeOf_eq_ok sealed).1).serial_ne

/-- The signer of a command finds all that it needs on a disk, and returns a voucher. -/
def SignerReturns (P : Provider Cert Key Envelope) (now : Instant) (disk : Disk)
    (command : SignCommand) (voucher : Bytes) : Prop :=
  ∃ certificate key vendor pdc validity, disk.read command.certificate = .ok certificate ∧
    disk.read command.key = .ok key ∧ KeyPair.ofPem P certificate key = .ok vendor ∧
    disk.readText command.pdc = .ok pdc ∧ validityOf command.validityDays = .ok validity ∧
    ((command.signer vendor validity).sign P now command.serial pdc).value = .ok voucher

lemma SignerReturns.serial_ne {disk : Disk} {voucher : Bytes}
    (h : SignerReturns P now disk command voucher) : command.serial ≠ "" := by
  obtain ⟨-, -, vendor, pdc, validity, -, -, -, -, -, sealed⟩ := h
  exact serial_ne_of_signAt sealed

/-- A voucher is signed once all that it needs has been read, and then it is to be written. -/
lemma sign_eq_ok {disk : Disk} {outcome : Outcome} :
    (command.run P now disk).run.value = .ok outcome ↔
      ∃ voucher, SignerReturns P now disk command voucher ∧
        outcome = .writes command.path voucher ("voucher written to " ++ command.path ++ "\n") := by
  unfold SignCommand.run
  simp only [value_bind]
  constructor
  · intro h
    obtain ⟨certificate, hcertificate, h⟩ := bind_eq_ok.mp h
    obtain ⟨key, hkey, h⟩ := bind_eq_ok.mp h
    obtain ⟨vendor, paired, h⟩ := bind_eq_ok.mp h
    obtain ⟨pdc, hpdc, h⟩ := bind_eq_ok.mp h
    obtain ⟨validity, valid, h⟩ := bind_eq_ok.mp h
    obtain ⟨signed, answered, h⟩ := bind_eq_ok.mp h
    obtain ⟨voucher, accepted, h⟩ := bind_eq_ok.mp h
    have sealed : signed = .ok voucher := mapError_eq_ok.mp accepted
    have same := Except.ok.inj answered
    rw [sealed] at same
    refine ⟨voucher, ?_, (Except.ok.inj h).symm⟩
    exact ⟨certificate, key, vendor, pdc, validity, mapError_eq_ok.mp hcertificate,
      mapError_eq_ok.mp hkey, mapError_eq_ok.mp paired, mapError_eq_ok.mp hpdc, valid, same⟩
  · rintro ⟨voucher, ⟨certificate, key, vendor, pdc, validity, hcertificate, hkey, paired, hpdc, valid,
      sealed⟩, rfl⟩
    refine bind_eq_ok.mpr ⟨certificate, mapError_eq_ok.mpr hcertificate, ?_⟩
    refine bind_eq_ok.mpr ⟨key, mapError_eq_ok.mpr hkey, ?_⟩
    refine bind_eq_ok.mpr ⟨vendor, mapError_eq_ok.mpr paired, ?_⟩
    refine bind_eq_ok.mpr ⟨pdc, mapError_eq_ok.mpr hpdc, ?_⟩
    refine bind_eq_ok.mpr ⟨validity, valid, ?_⟩
    refine bind_eq_ok.mpr ⟨.ok voucher, congrArg Except.ok sealed, ?_⟩
    have accepted : (Except.ok voucher).mapError SigningError.message = .ok voucher := rfl
    exact bind_eq_ok.mpr ⟨voucher, accepted, rfl⟩

variable [DecidableEq Cert] {arguments : List String} {verbose : Bool} {tree : FileTree}
  (invoked : Invocation.ofArguments arguments = .ok ⟨verbose, .sign command⟩)

lemma run_sign_value (disk : Disk) : ((Command.sign command).run P now disk).value =
    match (command.run P now disk).run.value with
    | .ok outcome => outcome
    | .error reason => .fails ((Command.sign command).failureMessage reason) := rfl

include invoked

lemma run_of_sign {path text : String} {voucher : Bytes} {next : FileTree}
    (signed : (command.run P now tree.disk).run.value = .ok (.writes path voucher text))
    (written : tree.write path voucher = .ok next) :
    Tool.run P now arguments tree = (Report.success text, next) ∧
      writtenBy ((Command.sign command).run P now tree.disk).value = voucher := by
  have writes : ((Command.sign command).run P now tree.disk).value = .writes path voucher text := by
    rw [run_sign_value, signed]
  unfold Tool.run
  rw [invoked]
  simp only [writes, written, writtenBy, and_self]

/-- A run that succeeds in signing writes what the signer returned. -/
lemma exists_write_of_run (succeeds : (Tool.run P now arguments tree).1.exitCode = 0) :
    ∃ voucher, SignerReturns P now tree.disk command voucher ∧
      writtenBy ((Command.sign command).run P now tree.disk).value = voucher ∧
      tree.write command.path voucher = .ok (Tool.run P now arguments tree).2 := by
  unfold Tool.run at succeeds ⊢
  rw [invoked] at succeeds ⊢
  dsimp only at succeeds ⊢
  rw [run_sign_value] at succeeds ⊢
  cases result : (command.run P now tree.disk).run.value with
  | error reason =>
    rw [result] at succeeds
    cases succeeds
  | ok outcome =>
    obtain ⟨voucher, returned, rfl⟩ := sign_eq_ok.mp result
    refine ⟨voucher, returned, rfl, ?_⟩
    rw [result] at succeeds
    dsimp only at succeeds ⊢
    cases written : tree.write command.path voucher with
    | error e =>
      rw [written] at succeeds
      cases succeeds
    | ok next => rfl

/-- A run that is told of no file writes to the one that is named after the serial number, which is
not empty. -/
lemma write_of_run (unnamed : command.out = none)
    (succeeds : (Tool.run P now arguments tree).1.exitCode = 0) :
    command.serial ≠ "" ∧
      tree.write (voucherName command.serial)
        (writtenBy ((Command.sign command).run P now tree.disk).value) =
          .ok (Tool.run P now arguments tree).2 := by
  obtain ⟨voucher, returned, wrote, written⟩ := exists_write_of_run invoked succeeds
  refine ⟨returned.serial_ne, ?_⟩
  unfold SignCommand.path at written
  rw [unnamed] at written
  rw [wrote]
  exact written

end Runs

/-! ### Names of the files -/

lemma voucherName_injective : Function.Injective voucherName := by
  intro a b h
  have same : ("ov_".toList ++ a.toList) ++ ".der".toList = ("ov_".toList ++ b.toList) ++ ".der".toList := by
    simpa [voucherName] using congrArg String.toList h
  exact String.toList_inj.mp (List.append_cancel_left (List.append_cancel_right same))

/-- The file stands for what is before the first point of the serial number. -/
lemma voucherId?_voucherName (serial : String) :
    ArtifactFolder.voucherId? (Bytes.ofText (voucherName serial)) =
      if beforePoint serial = "" then none else some (beforePoint serial) := by
  obtain ⟨extensions, split, plain, extended⟩ := beforePoint_eq_iff.mp (rfl : beforePoint serial = _)
  have cut : beforePoint (serial ++ ".der") = beforePoint serial := by
    refine beforePoint_eq_iff.mpr ⟨extensions ++ ".der", ?_, plain, .inr ?_⟩
    · rw [← String.append_assoc, ← split]
    · rcases extended with rfl | ⟨rest, rfl⟩
      · exact ⟨"der", rfl⟩
      · exact ⟨rest ++ ".der", String.append_assoc⟩
  rw [voucherName, String.append_assoc, voucherId?_start, cut]

/-- The bytes with which the names of voucher files start. -/
def startBytes : Bytes := Bytes.ofText ArtifactFolder.voucherStart

lemma startBytes_eq : startBytes = [111, 118, 95] := by decide +kernel

/-- The place in the directory that is worked in where the voucher of a serial number is put. -/
def voucherPlace (tree : FileTree) (serial : String) : List Bytes :=
  tree.directory ++ [Bytes.ofText (voucherName serial)]

lemma voucherPlace_of_directory {tree last : FileTree} (same : last.directory = tree.directory)
    (serial : String) : voucherPlace last serial = voucherPlace tree serial := by
  rw [voucherPlace, same, voucherPlace]

lemma voucherPlace_injective (tree : FileTree) : Function.Injective (voucherPlace tree) := by
  intro a b h
  have same := List.singleton_inj.mp (List.append_cancel_left h)
  exact voucherName_injective (Bytes.ofText_injective same)

lemma ofText_voucherName (serial : String) : Bytes.ofText (voucherName serial) =
    startBytes ++ (Bytes.ofText serial ++ [46, 100, 101, 114]) := by
  rw [voucherName, ofText_append, ofText_append, List.append_assoc]
  rfl

lemma prefix_voucherName (serial : String) : startBytes <+: Bytes.ofText (voucherName serial) := by
  rw [ofText_voucherName]
  exact List.prefix_append _ _

/-- Under a name that starts like those of voucher files there is nothing or a file. -/
def HoldsFiles (tree : FileTree) : Prop :=
  ∀ name, startBytes <+: name → IsFilePlace tree (tree.directory ++ [name])

lemma prefix_before_slash {start front back : Bytes} (no_slash : 47 ∉ start)
    (h : start <+: front ++ 47 :: back) : start <+: front := by
  rcases List.prefix_or_prefix_of_prefix h (List.prefix_append front _) with shorter | longer
  · exact shorter
  · obtain ⟨rest, rfl⟩ := longer
    have onward := (List.prefix_append_right_inj front).mp h
    cases rest with
    | nil => rw [List.append_nil]
    | cons b rest =>
      obtain ⟨rfl, -⟩ := List.cons_prefix_cons.mp onward
      exact absurd (List.mem_append_right _ List.mem_cons_self) no_slash

lemma ordinary_of_start {name : Bytes} (starts : startBytes <+: name) :
    ¬(name = [] ∨ name = [46]) ∧ name ≠ [46, 46] := by
  rw [startBytes_eq] at starts
  refine ⟨?_, ?_⟩
  · rintro (rfl | rfl) <;> simp at starts
  · rintro rfl
    simp at starts

lemma startOf_voucherName (serial : String) (place : List Bytes) :
    startOf (Bytes.ofText (voucherName serial)) place = place := by
  have first : (Bytes.ofText (voucherName serial)).head? = some 111 := by
    rw [ofText_voucherName, startBytes_eq]
    rfl
  unfold FileTree.startOf
  rw [first]
  rfl

/-- A slash in a serial number leaves the start of the name before it and more names behind it, since
the name ends in a letter. -/
lemma voucherName_split {serial : String} {front back : Bytes}
    (split : Bytes.ofText (voucherName serial) = front ++ 47 :: back) :
    startBytes <+: front ∧ back ≠ [] := by
  have last : (front ++ 47 :: back).getLast? = some 114 := by
    rw [← split, ofText_voucherName]
    simp
  refine ⟨prefix_before_slash (by decide +kernel) (split ▸ prefix_voucherName serial), ?_⟩
  rintro rfl
  simp at last

/-- A serial number that would lead out of the directory has no file: the way ends at what stands
before its first slash. -/
lemma locate_voucherName {tree : FileTree} {creating : Bool} {place : List Bytes} {serial : String}
    (holds : HoldsFiles tree) (located : tree.locate (voucherName serial) creating = .ok place) :
    IsName (Bytes.ofText (voucherName serial)) ∧ place = voucherPlace tree serial := by
  obtain ⟨⟨no_nul, -, -⟩, leads⟩ := locate_eq_ok.mp located
  rw [startOf_voucherName] at leads
  by_cases slash : (47 : UInt8) ∈ Bytes.ofText (voucherName serial)
  · obtain ⟨front, back, split, new⟩ := List.eq_append_cons_of_mem slash
    obtain ⟨starts, more⟩ := voucherName_split split
    obtain ⟨proper, ordinary⟩ := ordinary_of_start starts
    rw [split, names_slash front more, pieces_of_no_slash new (not_or.mp proper).1] at leads
    obtain ⟨none, -⟩ := leads.of_free proper ordinary (holds front starts)
    exact absurd none (names_ne_nil more)
  · have starts := prefix_voucherName serial
    obtain ⟨proper, ordinary⟩ := ordinary_of_start starts
    obtain ⟨ne_nil, ne_point⟩ := not_or.mp proper
    rw [names_of_no_slash slash ne_nil] at leads
    obtain ⟨-, here, short⟩ := leads.of_free proper ordinary (holds _ starts)
    exact ⟨⟨ne_nil, ne_point, ordinary, no_nul, slash, short⟩, here⟩

/-! ### What the runs leave behind -/

/-- The tree is ready for new vouchers of some serial numbers. -/
structure Awaits (tree : FileTree) (serials : List String) : Prop where
  holds : HoldsFiles tree
  missing : ∀ serial ∈ serials, tree.node? (voucherPlace tree serial) = none

/-- The last tree is the first one with new vouchers, which are the last entries of the directory that is
worked in. -/
structure Gains (tree last : FileTree) (signed : List (String × Bytes)) : Prop where
  directory : last.directory = tree.directory
  entries : last.entries tree.directory =
    tree.entries tree.directory ++ signed.map fun file => ⟨Bytes.ofText (voucherName file.1), .file⟩
  kept : ∀ place, (∀ file ∈ signed, place ≠ voucherPlace tree file.1) →
    last.node? place = tree.node? place
  gained : ∀ file ∈ signed, file.1 ≠ "" ∧ IsName (Bytes.ofText (voucherName file.1)) ∧
    last.node? (voucherPlace tree file.1) = some (.file file.2)

lemma Gains.trans {tree middle last : FileTree} {signed more : List (String × Bytes)}
    (first : Gains tree middle signed) (second : Gains middle last more)
    (apart : ∀ file ∈ signed, ∀ other ∈ more, file.1 ≠ other.1) :
    Gains tree last (signed ++ more) := by
  have same := voucherPlace_of_directory first.directory
  have secondEntries := second.entries
  rw [first.directory] at secondEntries
  refine ⟨second.directory.trans first.directory, ?_, fun place elsewhere => ?_, fun file h => ?_⟩
  · rw [secondEntries, first.entries, List.map_append, List.append_assoc]
  · rw [second.kept place fun file h => same file.1 ▸ elsewhere file (List.mem_append_right _ h),
      first.kept place fun file h => elsewhere file (List.mem_append_left _ h)]
  · rcases List.mem_append.mp h with h | h
    · obtain ⟨present, isName, stands⟩ := first.gained file h
      refine ⟨present, isName, ?_⟩
      rw [second.kept, stands]
      intro other hother here
      exact apart file h other hother (voucherPlace_injective tree (here.trans (same other.1)))
    · rw [← same]
      exact second.gained file h

section Writing

variable {tree next : FileTree} {serial : String} {serials : List String} {content : Bytes}
  (awaits : Awaits tree (serial :: serials)) (written : tree.write (voucherName serial) content = .ok next)

include awaits written

lemma Awaits.step (new : serial ∉ serials) : Awaits next serials := by
  obtain ⟨place, located, free, rfl⟩ := write_eq_ok.mp written
  obtain ⟨-, rfl⟩ := locate_voucherName awaits.holds located
  have same := put_directory tree (voucherPlace tree serial) (.file content)
  refine ⟨fun name starts => ?_, fun other hother => ?_⟩
  · rw [same]
    exact (awaits.holds name starts).put free content
  · have differs : voucherPlace tree other ≠ voucherPlace tree serial :=
      fun same => new (voucherPlace_injective tree same ▸ hother)
    rw [voucherPlace_of_directory same, node?_put_other differs]
    exact awaits.missing other (List.mem_cons_of_mem _ hother)

lemma Awaits.gains (present : serial ≠ "") : Gains tree next [(serial, content)] := by
  have missing := awaits.missing serial List.mem_cons_self
  obtain ⟨place, located, free, rfl⟩ := write_eq_ok.mp written
  obtain ⟨isName, rfl⟩ := locate_voucherName awaits.holds located
  refine ⟨put_directory tree _ _, entries_put_new missing content, fun place elsewhere => ?_,
    fun file h => ?_⟩
  · exact node?_put_other (elsewhere _ List.mem_cons_self) _
  · cases List.mem_singleton.mp h
    exact ⟨present, isName, node?_put free.apart _⟩

end Writing

/-- Runs that sign for new serial numbers leave the files of all the vouchers, and nothing else. -/
lemma gains_of_signs [DecidableEq Cert] {P : Provider Cert Key Envelope} {tree last : FileTree}
    {signed : List (String × Bytes)} (signs : Signs P tree signed last)
    (awaits : Awaits tree (signed.map Prod.fst)) (distinct : (signed.map Prod.fst).Nodup) :
    Gains tree last signed := by
  induction signs with
  | done tree => exact ⟨rfl, by simp, fun _ _ => rfl, by simp⟩
  | run invoked unnamed succeeds later ih =>
    obtain ⟨present, written⟩ := write_of_run invoked unnamed succeeds
    obtain ⟨new, distinct⟩ := List.nodup_cons.mp distinct
    refine (awaits.gains written present).trans (ih (awaits.step written new) distinct) ?_
    intro file h other hother same
    cases List.mem_singleton.mp h
    exact new (List.mem_map.mpr ⟨other, hother, same.symm⟩)

/-! ### What is loaded -/

/-- No entry of the directory that is worked in is named like a voucher file. -/
def LacksVouchers (tree : FileTree) : Prop :=
  ∀ entry ∈ tree.entries tree.directory, ¬startBytes <+: entry.name

lemma LacksVouchers.awaits {tree : FileTree} (lacks : LacksVouchers tree) (serials : List String) :
    Awaits tree serials := by
  have nothing : ∀ name, startBytes <+: name → tree.node? (tree.directory ++ [name]) = none := by
    intro name starts
    by_contra present
    obtain ⟨node, found⟩ := Option.ne_none_iff_exists'.mp present
    obtain ⟨entry, listed, rfl⟩ := exists_entry found
    exact lacks entry listed starts
  exact ⟨fun name starts => isFilePlace_of_missing (nothing name starts),
    fun serial _ => nothing _ (prefix_voucherName serial)⟩

/-- The vouchers under what stands before the first point of their serial numbers, unless that is
nothing. -/
def foundAs (signed : List (String × Bytes)) : List (String × Bytes) :=
  signed.filterMap fun file =>
    if beforePoint file.1 = "" then none else some (beforePoint file.1, file.2)

/-- What comes of loading files under identifiers: one at least must be there, no two may have the
same identifier, and then each is kept under its identifier as it is. -/
structure IsLoaded (root : String) (files : List (String × Bytes))
    (answer : Except LoadError VoucherStore) : Prop where
  none : files = [] → answer = .error (.noVouchers root)
  shared : ¬(files.map Prod.fst).Nodup → ∃ id, List.Duplicate id (files.map Prod.fst) ∧
    answer = .error (.duplicatedVoucher (id ++ " in " ++ root))
  distinct : files ≠ [] → (files.map Prod.fst).Nodup → ∃ store, answer = .ok store ∧
    ∀ id content, store.find? id = some content ↔ (id, content) ∈ files

section Loading

variable {tree last : FileTree} {signed : List (String × Bytes)} {folder : ArtifactFolder}
  (gains : Gains tree last signed) (lacks : LacksVouchers tree)
  (located : last.locate folder.root = .ok last.directory)
  (short : ∀ file ∈ signed,
    (Bytes.ofText (Disk.join folder.root (voucherName file.1))).length ≤ pathLimit)

lemma voucherId?_eq_none {entry : DirectoryEntry} (other : ¬startBytes <+: entry.name) :
    ArtifactFolder.voucherId? entry.name = none := by
  by_contra present
  obtain ⟨id, found⟩ := Option.ne_none_iff_exists'.mp present
  obtain ⟨rest, named, -, -⟩ := voucherId?_eq_some.mp found
  rw [named, ofText_append] at other
  exact other (List.prefix_append _ _)

include located in
lemma list_located : last.disk.list folder.root = .ok ((last.entries last.directory).map .ok) := by
  change last.list folder.root = _
  unfold FileTree.list
  rw [located, ok_bind, node?_around (List.prefix_refl _)]

include gains located short in
lemma fileOf?_gained {file : String × Bytes} (h : file ∈ signed) :
    fileOf? last.disk folder ⟨Bytes.ofText (voucherName file.1), .file⟩ =
      if beforePoint file.1 = "" then none else some (beforePoint file.1, file.2) := by
  obtain ⟨-, isName, stands⟩ := gains.gained file h
  rw [← voucherPlace_of_directory gains.directory] at stands
  have read : last.disk.read (Disk.join folder.root (voucherName file.1)) = .ok file.2 :=
    read_join located (node?_around (List.prefix_refl _)) isName (short file h) stands
  unfold fileOf?
  rw [voucherId?_voucherName, Bytes.toText?_ofText]
  split
  · rename_i id name regular known text
    cases text
    rw [read]
    split at known
    · cases known
    · rename_i present
      rw [if_neg present]
      cases known
      rfl
  · rename_i other
    split
    · rfl
    · rename_i present
      rw [if_neg present] at other
      exact absurd rfl (other _ _ rfl rfl)

include gains lacks located short

lemma filterMap_gained :
    (last.entries last.directory).filterMap (fileOf? last.disk folder) = foundAs signed := by
  have others : (tree.entries tree.directory).filterMap (fileOf? last.disk folder) = [] := by
    refine List.filterMap_eq_nil_iff.mpr fun entry h => ?_
    unfold fileOf?
    rw [voucherId?_eq_none (lacks entry h)]
    split
    · rename_i known text
      cases known
    · rfl
  rw [gains.directory, gains.entries, List.filterMap_append, others, List.nil_append,
    List.filterMap_map]
  exact List.filterMap_congr fun file h => fileOf?_gained gains located short h

lemma readable_gained : Readable last.disk folder (last.entries last.directory) := by
  refine readable_of_found fun entry h regular known => ?_
  rw [gains.directory, gains.entries] at h
  rcases List.mem_append.mp h with old | new
  · rw [voucherId?_eq_none (lacks entry old)] at known
    cases known
  · obtain ⟨file, hfile, rfl⟩ := List.mem_map.mp new
    rw [voucherId?_voucherName] at known
    rw [fileOf?_gained gains located short hfile]
    split
    · rename_i empty
      rw [if_pos empty] at known
      cases known
    · rfl

lemma isLoaded_gained :
    IsLoaded folder.root (foundAs signed) (folder.readVouchers last.disk).run.value := by
  have listed := list_located located
  have readable := readable_gained gains lacks located short
  rw [← filterMap_gained gains lacks located short]
  exact ⟨readVouchers_none listed readable, readVouchers_shared listed readable,
    readVouchers_distinct listed readable⟩

end Loading

/-- A serial number without a point is the identifier of its voucher. -/
lemma foundAs_plain {signed : List (String × Bytes)}
    (plain : ∀ file ∈ signed, file.1 ≠ "" ∧ '.' ∉ file.1.toList) : foundAs signed = signed := by
  have same : ∀ file ∈ signed, (if beforePoint file.1 = "" then none
      else some (beforePoint file.1, file.2)) = some file := by
    intro file h
    obtain ⟨present, whole⟩ := plain file h
    have cut : beforePoint file.1 = file.1 := beforePoint_eq_iff.mpr ⟨"", by simp, whole, .inl rfl⟩
    rw [cut, if_neg present]
  unfold foundAs
  rw [List.filterMap_congr same, List.filterMap_some]

/-- The tool signs vouchers for distinct serial numbers, without being told of a file, in a directory
that has none, and then the directory is loaded by any path that leads to it and is not too long for the
names of the files to be joined to it. If there are vouchers and no serial number has a point, each is
found under its serial number as it was written, and nothing else is found. In general each voucher
stands for what is before the first point of its serial number. It is passed over if that is nothing,
and the directory is refused if no voucher is left or two of them stand for the same. -/
theorem signed_vouchers_are_found [DecidableEq Cert] {P : Provider Cert Key Envelope}
    {tree last : FileTree} {signed : List (String × Bytes)} (folder : ArtifactFolder)
    (signs : Signs P tree signed last) (distinct : (signed.map Prod.fst).Nodup)
    (lacks : LacksVouchers tree) (located : last.locate folder.root = .ok last.directory)
    (short : ∀ file ∈ signed,
      (Bytes.ofText (Disk.join folder.root (voucherName file.1))).length ≤ pathLimit) :
    (signed ≠ [] → (∀ file ∈ signed, '.' ∉ file.1.toList) →
      ∃ store, (folder.readVouchers last.disk).run.value = .ok store ∧
        ∀ id content, store.find? id = some content ↔ (id, content) ∈ signed) ∧
    IsLoaded folder.root (foundAs signed) (folder.readVouchers last.disk).run.value := by
  have gains := gains_of_signs signs (lacks.awaits _) distinct
  have loaded := isLoaded_gained gains lacks located short
  refine ⟨fun filled whole => ?_, loaded⟩
  have plain : foundAs signed = signed :=
    foundAs_plain fun file h => ⟨(gains.gained file h).1, whole file h⟩
  rw [plain] at loaded
  exact loaded.distinct filled distinct

/-- The plain provider, with the files of certificates and keys: the one byte of a file is its
number. -/
def fileProvider : Provider UInt8 UInt8 (List UInt8 × Bytes) :=
  { plainProvider with
    readCertificate := fun b => match b with
      | [n] => .ok n
      | _ => .error "no certificate"
    readKey := fun b => match b with
      | [n] => .ok n
      | _ => .error "no key" }

/-- A directory with the vendor's key pair and the owner's certificate, which is not the one at the top. -/
def vendorTree : FileTree where
  nodes := [
    ([Bytes.ofText "work", Bytes.ofText "vendorca_pub.pem"], .file [1]),
    ([Bytes.ofText "work", Bytes.ofText "vendorca_priv.pem"], .file [1]),
    ([Bytes.ofText "work", Bytes.ofText "pdc_pub.pem"], .file (Bytes.ofText (Armor.add "TUlJ")))]
  directory := [Bytes.ofText "work"]

lemma lacksVouchers_vendorTree : LacksVouchers vendorTree := by
  unfold LacksVouchers
  decide +kernel

/-- A path that stays where it starts, as often as it is told to. -/
def stayingPath : Nat → String
  | 0 => "."
  | n + 1 => "./" ++ stayingPath n

lemma ofText_stayingPath (n : Nat) :
    Bytes.ofText (stayingPath (n + 1)) = [46] ++ 47 :: Bytes.ofText (stayingPath n) := by
  rw [stayingPath, ofText_append]
  rfl

lemma length_stayingPath (n : Nat) : (Bytes.ofText (stayingPath n)).length = 2 * n + 1 := by
  induction n with
  | zero => rfl
  | succ n ih =>
    rw [ofText_stayingPath, List.length_append, List.length_singleton, List.length_cons, ih]
    omega

lemma stayingPath_ne (n : Nat) : Bytes.ofText (stayingPath n) ≠ [] := by
  rw [← List.length_pos_iff, length_stayingPath]
  omega

lemma locate_stayingPath (tree : FileTree) {n : Nat} (short : 2 * n + 1 ≤ pathLimit) :
    tree.locate (stayingPath n) = .ok tree.directory := by
  have stays : 0 ∉ Bytes.ofText (stayingPath n) ∧ (Bytes.ofText (stayingPath n)).head? ≠ some 47 ∧
      Leads tree false linkLimit tree.directory (names (Bytes.ofText (stayingPath n)))
        tree.directory := by
    clear short
    induction n with
    | zero =>
      have point : names (Bytes.ofText (stayingPath 0)) = [[46]] := by decide +kernel
      refine ⟨by decide +kernel, by decide +kernel, ?_⟩
      rw [point]
      exact .stay (.inr rfl) .done
    | succ n ih =>
      obtain ⟨no_nul, -, leads⟩ := ih
      rw [ofText_stayingPath]
      refine ⟨by simp [no_nul], by simp, ?_⟩
      rw [names_slash _ (stayingPath_ne n), pieces_of_no_slash (by decide) (by decide)]
      exact .stay (.inr rfl) leads
  obtain ⟨no_nul, relative, leads⟩ := stays
  refine locate_eq_ok.mpr ⟨⟨no_nul, length_stayingPath n ▸ short, ?_⟩, ?_⟩
  · exact fun empty => stayingPath_ne n (ofText_eq_nil.mpr empty)
  · unfold FileTree.startOf
    rwa [if_neg relative]

lemma locate_point (tree : FileTree) : tree.locate "." = .ok tree.directory :=
  locate_stayingPath tree (n := 0) (by decide)

/-- In the directory that is worked in there is room for the names of all files. -/
lemma short_of_gains {tree last : FileTree} {signed : List (String × Bytes)}
    (gains : Gains tree last signed) :
    ∀ file ∈ signed, (Bytes.ofText (Disk.join "." (voucherName file.1))).length ≤ pathLimit := by
  intro file h
  obtain ⟨-, isName, -⟩ := gains.gained file h
  have short := isName.short
  have present : "." ≠ "" := by decide
  have joined := (length_join present isName).2
  have point : (Bytes.ofText ".").length = 1 := length_stayingPath 0
  unfold nameLimit at short
  unfold pathLimit
  omega

/-- The command for a serial number and nothing else. -/
def signCommand (serial : String) : SignCommand where
  serial
  pdc := "pdc_pub.pem"
  certificate := "vendorca_pub.pem"
  key := "vendorca_priv.pem"
  assertion := none
  revocationChecks := false
  validityDays := 365
  out := none

/-- The vendor's key pair and the owner's certificate are in the directory that is worked in. -/
structure HoldsVendor (tree : FileTree) : Prop where
  certificate : tree.node? (tree.directory ++ [Bytes.ofText "vendorca_pub.pem"]) = some (.file [1])
  key : tree.node? (tree.directory ++ [Bytes.ofText "vendorca_priv.pem"]) = some (.file [1])
  pdc : tree.node? (tree.directory ++ [Bytes.ofText "pdc_pub.pem"]) =
    some (.file (Bytes.ofText (Armor.add "TUlJ")))

lemma holdsVendor_vendorTree : HoldsVendor vendorTree :=
  ⟨by decide +kernel, by decide +kernel, by decide +kernel⟩

lemma HoldsVendor.put {tree : FileTree} (holds : HoldsVendor tree) (serial : String) (node : Node) :
    HoldsVendor (tree.put (voucherPlace tree serial) node) := by
  have other : ∀ name, ¬startBytes <+: name → tree.directory ++ [name] ≠ voucherPlace tree serial := by
    rintro name unlike same
    have same := List.singleton_inj.mp (List.append_cancel_left same)
    exact unlike (same ▸ prefix_voucherName serial)
  constructor <;> rw [put_directory]
  · rw [node?_put_other (other _ (by decide +kernel)), holds.certificate]
  · rw [node?_put_other (other _ (by decide +kernel)), holds.key]
  · rw [node?_put_other (other _ (by decide +kernel)), holds.pdc]

/-- The voucher that the vendor signs for a serial number. -/
def voucherFor (serial : String) : Except SigningError Bytes :=
  (((signCommand serial).signer ⟨1, 1⟩ (Span.ofDays 365)).sign fileProvider leapSecond2016 serial
    (Armor.add "TUlJ")).value

section Vendor

variable {tree : FileTree} {serial : String} {voucher : Bytes} (holds : HoldsVendor tree)
  (invoked : Invocation.ofArguments ["sign", "--serial", serial] =
    .ok ⟨false, .sign (signCommand serial)⟩)
  (sealed : voucherFor serial = .ok voucher) (isName : IsName (Bytes.ofText (voucherName serial)))
  (missing : tree.node? (voucherPlace tree serial) = none)

include holds invoked sealed isName missing

lemma HoldsVendor.run :
    Tool.run fileProvider leapSecond2016 ["sign", "--serial", serial] tree =
        (Report.success ("voucher written to " ++ voucherName serial ++ "\n"),
          tree.put (voucherPlace tree serial) (.file voucher)) ∧
      writtenBy ((Command.sign (signCommand serial)).run fileProvider leapSecond2016 tree.disk).value =
        voucher := by
  have certificate : tree.disk.read "vendorca_pub.pem" = .ok [1] :=
    read_name (by constructor <;> decide +kernel) holds.certificate
  have key : tree.disk.read "vendorca_priv.pem" = .ok [1] :=
    read_name (by constructor <;> decide +kernel) holds.key
  have pdc : tree.disk.readText "pdc_pub.pem" = .ok (Armor.add "TUlJ") := by
    have read : tree.disk.read "pdc_pub.pem" = .ok (Bytes.ofText (Armor.add "TUlJ")) :=
      read_name (by constructor <;> decide +kernel) holds.pdc
    unfold Disk.readText
    rw [read, ok_bind, Bytes.toText?_ofText]
  have returned : SignerReturns fileProvider leapSecond2016 tree.disk (signCommand serial) voucher :=
    ⟨[1], [1], ⟨1, 1⟩, _, _, certificate, key, rfl, pdc, rfl, sealed⟩
  have outcome := sign_eq_ok.mpr ⟨voucher, returned, rfl⟩
  have free := isFilePlace_of_missing missing
  exact run_of_sign invoked outcome (write_eq_ok.mpr ⟨_, locate_name isName free, free, rfl⟩)

/-- Where the vendor's files are, one more voucher can be signed. -/
lemma HoldsVendor.signs {last : FileTree} {signed : List (String × Bytes)}
    (later : Signs fileProvider (tree.put (voucherPlace tree serial) (.file voucher)) signed last) :
    Signs fileProvider tree ((serial, voucher) :: signed) last := by
  obtain ⟨ran, wrote⟩ := holds.run invoked sealed isName missing
  have onward : Signs fileProvider
      (Tool.run fileProvider leapSecond2016 ["sign", "--serial", serial] tree).2 signed last := by
    rw [ran]
    exact later
  have step := Signs.run invoked rfl (congrArg (·.1.exitCode) ran) onward
  rwa [wrote] at step

end Vendor

/-- Two vouchers are signed and found. -/
theorem signed_vouchers_are_found_twice :
    ∃ first second last,
      Signs fileProvider vendorTree [("7A", first), ("7B", second)] last ∧
      ["7A", "7B"].Nodup ∧ LacksVouchers vendorTree ∧ last.locate "." = .ok last.directory ∧
      ∃ store, (ArtifactFolder.readVouchers last.disk ⟨"."⟩).run.value = .ok store ∧
        store.find? "7A" = some first ∧ store.find? "7B" = some second ∧
        ∀ id ∈ store.ids, id ∈ ["7A", "7B"] := by
  obtain ⟨first, hfirst⟩ : ∃ voucher, voucherFor "7A" = .ok voucher :=
    exists_of_isOk (by decide +kernel)
  obtain ⟨second, hsecond⟩ : ∃ voucher, voucherFor "7B" = .ok voucher :=
    exists_of_isOk (by decide +kernel)
  have same := put_directory vendorTree (voucherPlace vendorTree "7A") (.file first)
  have missing : (vendorTree.put (voucherPlace vendorTree "7A") (.file first)).node?
      (voucherPlace (vendorTree.put (voucherPlace vendorTree "7A") (.file first)) "7B") = none := by
    rw [voucherPlace_of_directory same, node?_put_other (by decide +kernel)]
    decide +kernel
  have again := (holdsVendor_vendorTree.put "7A" (.file first)).signs (by decide +kernel) hsecond
    (by constructor <;> decide +kernel) missing (.done _)
  have signs := holdsVendor_vendorTree.signs (by decide +kernel) hfirst
    (by constructor <;> decide +kernel) (by decide +kernel) again
  have plain : ∀ file ∈ [("7A", first), ("7B", second)], '.' ∉ file.1.toList := by
    simp
  have lacks := lacksVouchers_vendorTree
  have gains := gains_of_signs signs (lacks.awaits _) (by simp)
  obtain ⟨store, loaded, kept⟩ := (signed_vouchers_are_found ⟨"."⟩ signs (by simp) lacks
    (locate_point _) (short_of_gains gains)).1 (List.cons_ne_nil _ _) plain
  refine ⟨first, second, _, signs, by decide, lacks, locate_point _, store, loaded,
    (kept _ _).mpr (by simp), (kept _ _).mpr (by simp), fun id known => ?_⟩
  obtain ⟨voucher, found⟩ := mem_ids_iff.mp known
  exact List.mem_map_of_mem (f := Prod.fst) ((kept _ _).mp found)

/-- By a path that cannot be made longer a directory is listed, but none of its files is read. -/
lemma readVouchers_of_full {tree last : FileTree} {signed : List (String × Bytes)} {n : Nat}
    (gains : Gains tree last signed) (full : 2 * n + 1 = pathLimit) {file : String × Bytes}
    (h : file ∈ signed) (known : beforePoint file.1 ≠ "") (store : VoucherStore) :
    (ArtifactFolder.readVouchers last.disk ⟨stayingPath n⟩).run.value ≠ .ok store := by
  intro loaded
  have listed : last.disk.list (ArtifactFolder.mk (stayingPath n)).root =
      .ok ((last.entries last.directory).map .ok) :=
    list_located (locate_stayingPath last full.le)
  have readable := readable_of_readVouchers listed loaded
  obtain ⟨-, isName, -⟩ := gains.gained file h
  have entry : ⟨Bytes.ofText (voucherName file.1), .file⟩ ∈ last.entries last.directory := by
    rw [gains.directory, gains.entries]
    exact List.mem_append_right _ (List.mem_map_of_mem h)
  obtain ⟨extensions, isFile⟩ : ∃ extensions,
      IsVoucherFile ⟨Bytes.ofText (voucherName file.1), .file⟩ (beforePoint file.1) extensions :=
    isVoucherFile_of_voucherId? rfl ((voucherId?_voucherName file.1).trans (if_neg known))
  obtain ⟨content, read⟩ := readable _ entry _ _ isFile
  rw [← Option.some.inj ((Bytes.toText?_ofText _).symm.trans isFile.toText?)] at read
  have longer := (length_join (fun empty => stayingPath_ne n (ofText_eq_nil.mpr empty)) isName).1
  have short : (Bytes.ofText (Disk.join (stayingPath n) (voucherName file.1))).length ≤ pathLimit :=
    length_le_of_read read
  have name := List.length_pos_iff.mpr isName.ne_nil
  rw [length_stayingPath] at longer
  omega

/-- The voucher for the serial number 1.2 is found as the one for 1; no vouchers at all are refused, and
so is a voucher in a directory that is given by the longest path. -/
theorem signed_voucher_with_point :
    (∃ voucher last, Signs fileProvider vendorTree [("1.2", voucher)] last ∧ ["1.2"].Nodup ∧
      LacksVouchers vendorTree ∧ last.locate "." = .ok last.directory ∧
      (∃ store, (ArtifactFolder.readVouchers last.disk ⟨"."⟩).run.value = .ok store ∧
        store.find? "1" = some voucher) ∧
      ¬∃ store, (ArtifactFolder.readVouchers last.disk ⟨"."⟩).run.value = .ok store ∧
        ∀ id content, store.find? id = some content ↔ (id, content) ∈ [("1.2", voucher)]) ∧
    (Signs fileProvider vendorTree [] vendorTree ∧ vendorTree.locate "." = .ok vendorTree.directory ∧
      (ArtifactFolder.readVouchers vendorTree.disk ⟨"."⟩).run.value = .error (.noVouchers ".")) ∧
    ∃ voucher last, Signs fileProvider vendorTree [("7A", voucher)] last ∧ ∃ root,
      last.locate root = .ok last.directory ∧
      ∀ store, (ArtifactFolder.readVouchers last.disk ⟨root⟩).run.value ≠ .ok store := by
  have lacks := lacksVouchers_vendorTree
  have nothing : Signs fileProvider vendorTree [] vendorTree := .done _
  have here : ∀ tree : FileTree, tree.locate (ArtifactFolder.mk ".").root = .ok tree.directory :=
    locate_point
  have unsigned := isLoaded_gained (gains_of_signs nothing (lacks.awaits _) List.nodup_nil) lacks
    (here vendorTree) (by simp)
  refine ⟨?_, ⟨nothing, locate_point _, unsigned.none rfl⟩, ?_⟩
  · obtain ⟨voucher, sealed⟩ : ∃ voucher, voucherFor "1.2" = .ok voucher :=
      exists_of_isOk (by decide +kernel)
    have signs := holdsVendor_vendorTree.signs (by decide +kernel) sealed
      (by constructor <;> decide +kernel) (by decide +kernel) (.done _)
    have gains := gains_of_signs signs (lacks.awaits _) (by simp)
    have cut : foundAs [("1.2", voucher)] = [("1", voucher)] := by
      have before : beforePoint "1.2" = "1" := by decide +kernel
      simp [foundAs, before]
    have loaded := isLoaded_gained gains lacks (here _) (short_of_gains gains)
    rw [cut] at loaded
    obtain ⟨store, answer, kept⟩ := loaded.distinct (List.cons_ne_nil _ _) (by simp)
    have found : store.find? "1" = some voucher := (kept _ _).mpr (by simp)
    refine ⟨voucher, _, signs, by decide, lacks, locate_point _, ⟨store, answer, found⟩, ?_⟩
    rintro ⟨other, same, claimed⟩
    cases answer.symm.trans same
    have listed := (claimed _ _).mp found
    simp at listed
  · obtain ⟨voucher, sealed⟩ : ∃ voucher, voucherFor "7A" = .ok voucher :=
      exists_of_isOk (by decide +kernel)
    have signs := holdsVendor_vendorTree.signs (by decide +kernel) sealed
      (by constructor <;> decide +kernel) (by decide +kernel) (.done _)
    have gains := gains_of_signs signs (lacks.awaits _) (by simp)
    have known : beforePoint "7A" ≠ "" := by decide +kernel
    exact ⟨voucher, _, signs, stayingPath 2047, locate_stayingPath _ (by decide),
      readVouchers_of_full gains (by decide) List.mem_cons_self known⟩

end BootstrapVoucher.Proofs
