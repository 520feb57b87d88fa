import BootstrapVoucher.ArtifactFolder
import BootstrapVoucher.Proofs.Outcome
import BootstrapVoucher.Proofs.StoredVouchers

/-!
# The vouchers of a folder

The voucher files of a directory are told by their names, which start with a fixed word and go on with
an identifier up to the first point. They are collected in the order in which the directory is
enumerated. The order has no part in what comes of it: each voucher is kept under its identifier with
the bytes of its file, and two files with one identifier are refused wherever they stand.
-/

namespace BootstrapVoucher.Proofs

open ArtifactFolder

/-! ### Names of voucher files -/

/-- A regular file whose name is the fixed word, an identifier without a point and, if there is more,
extensions from a point on. -/
structure IsVoucherFile (entry : DirectoryEntry) (id extensions : String) : Prop where
  regular : entry.kind = .file
  named : entry.name = Bytes.ofText ("ov_" ++ id ++ extensions)
  id_ne : id ≠ ""
  id_plain : '.' ∉ id.toList
  extended : extensions = "" ∨ ∃ rest, extensions = "." ++ rest

/-- What stands before the first point of a text, or all of it. -/
def beforePoint (text : String) : String := String.ofList (text.toList.takeWhile (· != '.'))

lemma beforePoint_eq_iff {text id : String} : beforePoint text = id ↔
    ∃ extensions, text = id ++ extensions ∧ '.' ∉ id.toList ∧
      (extensions = "" ∨ ∃ rest, extensions = "." ++ rest) := by
  constructor
  · rintro rfl
    refine ⟨String.ofList (text.toList.dropWhile (· != '.')), ?_, ?_, ?_⟩
    · rw [beforePoint, ← String.ofList_append, List.takeWhile_append_dropWhile, String.ofList_toList]
    · intro h
      rw [beforePoint, String.toList_ofList] at h
      simpa using List.mem_takeWhile_imp h
    · cases h : text.toList.dropWhile (· != '.') with
      | nil => exact .inl rfl
      | cons c rest =>
        have stops := List.head?_dropWhile_not (· != '.') text.toList
        rw [h] at stops
        have point : c = '.' := by simpa using stops
        subst point
        exact .inr ⟨String.ofList rest, String.ext (by simp)⟩
  · rintro ⟨extensions, rfl, plain, extended⟩
    have kept : ∀ c ∈ id.toList, (c != '.') = true :=
      fun c hc => bne_iff_ne.mpr fun point => plain (point ▸ hc)
    have stops : extensions.toList.takeWhile (· != '.') = [] := by
      rcases extended with rfl | ⟨rest, rfl⟩
      · rfl
      · simp
    rw [beforePoint, String.toList_append, List.takeWhile_append_of_pos kept, stops, List.append_nil,
      String.ofList_toList]

/-- The identifier that the name of a file is for, if it starts with the fixed word. -/
lemma voucherId?_start (rest : String) : voucherId? (Bytes.ofText ("ov_" ++ rest)) =
    if beforePoint rest = "" then none else some (beforePoint rest) := by
  have prefixed : ("ov_" ++ rest).toList = voucherStart.toList ++ rest.toList := String.toList_append
  have starts : voucherStart.toList.isPrefixOf (voucherStart.toList ++ rest.toList) = true :=
    List.isPrefixOf_iff_prefix.mpr (List.prefix_append _ _)
  have bare : beforePoint rest = "" ↔ (rest.toList.takeWhile (· != '.')).isEmpty = true := by
    rw [beforePoint, List.isEmpty_iff, ← String.toList_inj, String.toList_ofList]
    rfl
  unfold voucherId?
  simp only [Bytes.toText?_ofText, Option.bind_eq_bind, Option.bind_some, prefixed, starts, if_true,
    List.drop_left, bare]
  rfl

lemma voucherId?_eq_some {name : Bytes} {id : String} : voucherId? name = some id ↔
    ∃ rest, name = Bytes.ofText ("ov_" ++ rest) ∧ beforePoint rest = id ∧ id ≠ "" := by
  constructor
  · intro h
    cases read : Bytes.toText? name with
    | none => simp [voucherId?, read] at h
    | some text =>
      have starts : voucherStart.toList <+: text.toList := by
        by_contra other
        simp [voucherId?, read, other] at h
      obtain ⟨after, split⟩ := starts
      have whole : text = "ov_" ++ String.ofList after := by
        rw [← String.toList_inj, ← split, String.toList_append, @String.toList_ofList after]
        rfl
      have named : name = Bytes.ofText ("ov_" ++ String.ofList after) :=
        whole ▸ (Bytes.ofText_of_toText? read).symm
      rw [named, voucherId?_start] at h
      split at h
      · cases h
      · rename_i present
        cases h
        exact ⟨_, named, rfl, present⟩
  · rintro ⟨rest, rfl, rfl, present⟩
    rw [voucherId?_start, if_neg present]

lemma isVoucherFile_of_voucherId? {entry : DirectoryEntry} {id : String} (regular : entry.kind = .file)
    (h : voucherId? entry.name = some id) : ∃ extensions, IsVoucherFile entry id extensions := by
  obtain ⟨rest, named, cut, present⟩ := voucherId?_eq_some.mp h
  obtain ⟨extensions, rfl, plain, extended⟩ := beforePoint_eq_iff.mp cut
  rw [← String.append_assoc] at named
  exact ⟨extensions, regular, named, present, plain, extended⟩

section Files

variable {entry : DirectoryEntry} {id extensions : String}

lemma IsVoucherFile.toText? (h : IsVoucherFile entry id extensions) :
    Bytes.toText? entry.name = some ("ov_" ++ id ++ extensions) := by
  rw [h.named, Bytes.toText?_ofText]

lemma IsVoucherFile.voucherId? (h : IsVoucherFile entry id extensions) :
    ArtifactFolder.voucherId? entry.name = some id := by
  refine voucherId?_eq_some.mpr ⟨id ++ extensions, ?_, ?_, h.id_ne⟩
  · rw [← String.append_assoc, h.named]
  · exact beforePoint_eq_iff.mpr ⟨extensions, rfl, h.id_plain, h.extended⟩

/-! ### Collecting files -/

variable (disk : Disk) (folder : ArtifactFolder)

/-- The identifier and the content of a voucher file that can be read. -/
def fileOf? (entry : DirectoryEntry) : Option (String × Bytes) :=
  match entry.kind, voucherId? entry.name, Bytes.toText? entry.name with
  | .file, some id, some name =>
    (disk.read (Disk.join folder.root name)).toOption.map fun content => (id, content)
  | _, _, _ => none

/-- Every voucher file among the entries can be read. -/
def Readable (entries : List DirectoryEntry) : Prop :=
  ∀ entry ∈ entries, ∀ id extensions, IsVoucherFile entry id extensions →
    ∃ content, disk.read (Disk.join folder.root ("ov_" ++ id ++ extensions)) = .ok content

/-- Puts a voucher under an identifier that is not taken. -/
def addOnce (root : String) (store : VoucherStore) (file : String × Bytes) :
    Except LoadError VoucherStore :=
  if store.contains file.1 then .error (.duplicatedVoucher (file.1 ++ " in " ++ root))
  else .ok (store.insert file.1 file.2)

variable {disk folder}

lemma fileOf?_eq_some {content : Bytes} : fileOf? disk folder entry = some (id, content) ↔
    ∃ extensions, IsVoucherFile entry id extensions ∧
      disk.read (Disk.join folder.root ("ov_" ++ id ++ extensions)) = .ok content := by
  constructor
  · intro h
    unfold fileOf? at h
    split at h
    · rename_i found name regular known text
      obtain ⟨bytes, read, same⟩ := Option.map_eq_some_iff.mp h
      cases same
      obtain ⟨extensions, isFile⟩ := isVoucherFile_of_voucherId? regular known
      have named : name = "ov_" ++ id ++ extensions :=
        Option.some.inj (text.symm.trans isFile.toText?)
      subst named
      refine ⟨extensions, isFile, ?_⟩
      cases answer : disk.read (Disk.join folder.root ("ov_" ++ id ++ extensions)) with
      | error e =>
        rw [answer] at read
        cases read
      | ok bytes =>
        rw [answer] at read
        cases read
        rfl
    · cases h
  · rintro ⟨extensions, isFile, read⟩
    unfold fileOf?
    rw [isFile.regular, isFile.voucherId?, isFile.toText?]
    simp only [read, Except.toOption, Option.map_some]

/-- Files that are told by their names can be read if something is found for each of them. -/
lemma readable_of_found {entries : List DirectoryEntry}
    (h : ∀ entry ∈ entries, entry.kind = .file → (voucherId? entry.name).isSome = true →
      (fileOf? disk folder entry).isSome = true) : Readable disk folder entries := by
  intro entry listed id extensions isFile
  have known : (ArtifactFolder.voucherId? entry.name).isSome = true := by
    rw [isFile.voucherId?]
    rfl
  obtain ⟨⟨found, content⟩, hfound⟩ := Option.isSome_iff_exists.mp (h entry listed isFile.regular known)
  obtain ⟨extensions', isFile', read⟩ := fileOf?_eq_some.mp hfound
  have name : "ov_" ++ found ++ extensions' = "ov_" ++ id ++ extensions :=
    Option.some.inj (isFile'.toText?.symm.trans isFile.toText?)
  exact ⟨content, name ▸ read⟩

lemma addVoucher_value {entries : List DirectoryEntry} (readable : Readable disk folder entries)
    (h : entry ∈ entries) (store : VoucherStore) :
    (folder.addVoucher disk store entry).run.value =
      ((fileOf? disk folder entry).map (addOnce folder.root store)).getD (.ok store) := by
  unfold ArtifactFolder.addVoucher
  split
  · rename_i id name regular known text
    obtain ⟨extensions, isFile⟩ := isVoucherFile_of_voucherId? regular known
    have named : name = "ov_" ++ id ++ extensions :=
      Option.some.inj (text.symm.trans isFile.toText?)
    subst named
    obtain ⟨content, read⟩ := readable entry h id extensions isFile
    rw [fileOf?_eq_some.mpr ⟨extensions, isFile, read⟩, value_bind]
    have opened : (Loading.ofExcept (folder.readFile disk ("ov_" ++ id ++ extensions))).run.value =
        .ok content := mapError_eq_ok.mpr read
    rw [opened, ok_bind]
    change _ = addOnce folder.root store (id, content)
    unfold addOnce
    by_cases taken : store.contains id = true
    · rw [if_pos taken, if_pos taken]
      rfl
    · rw [if_neg taken, if_neg taken, value_bind]
      rfl
  · rename_i other
    have skipped : fileOf? disk folder entry = none := by
      unfold fileOf?
      split
      · rename_i regular known text
        exact absurd text (other _ _ regular known)
      · rfl
    rw [skipped]
    rfl

end Files

lemma foldlM_addVoucher {disk : Disk} {folder : ArtifactFolder} {entries : List DirectoryEntry}
    (readable : Readable disk folder entries) (store : VoucherStore) :
    (entries.foldlM (folder.addVoucher disk) store).run.value =
      (entries.filterMap (fileOf? disk folder)).foldlM (addOnce folder.root) store := by
  rw [value_foldlM]
  induction entries generalizing store with
  | nil => rfl
  | cons entry entries ih =>
    have rest : Readable disk folder entries := fun e he => readable e (List.mem_cons_of_mem _ he)
    rw [List.foldlM_cons, addVoucher_value readable List.mem_cons_self]
    cases found : fileOf? disk folder entry with
    | none =>
      rw [List.filterMap_cons_none found]
      exact ih rest store
    | some file =>
      rw [List.filterMap_cons_some found, List.foldlM_cons]
      exact congrArg _ (funext (ih rest))

section Runs

variable (root : String)

lemma addOnce_free {store : VoucherStore} {file : String × Bytes} (free : file.1 ∉ store.ids) :
    addOnce root store file = .ok (store.insert file.1 file.2) :=
  if_neg fun taken => free (contains_iff.mp taken)

/-- Files with new identifiers are all kept, beside what is there already. -/
lemma foldlM_addOnce_distinct {files : List (String × Bytes)} (store : VoucherStore)
    (distinct : (files.map Prod.fst).Nodup) (free : ∀ id ∈ files.map Prod.fst, id ∉ store.ids) :
    ∃ last, files.foldlM (addOnce root) store = .ok last ∧
      ∀ entry, entry ∈ last.entries ↔ entry ∈ store.entries ∨ entry ∈ files := by
  induction files generalizing store with
  | nil => exact ⟨store, rfl, by simp⟩
  | cons file files ih =>
    obtain ⟨new, distinct⟩ := List.nodup_cons.mp distinct
    have fresh := free file.1 List.mem_cons_self
    have stillFree : ∀ id ∈ files.map Prod.fst, id ∉ (store.insert file.1 file.2).ids := by
      intro id hid taken
      rcases mem_ids_insert.mp taken with rfl | taken
      · exact new hid
      · exact free id (List.mem_cons_of_mem _ hid) taken
    obtain ⟨last, run, kept⟩ := ih (store.insert file.1 file.2) distinct stillFree
    refine ⟨last, ?_, fun entry => ?_⟩
    · rw [List.foldlM_cons, addOnce_free root fresh, ok_bind, run]
    · have others : entry ∈ store.entries → entry.1 ≠ file.1 := by
        rintro listed same
        exact fresh (same ▸ List.mem_map_of_mem listed)
      rw [kept, mem_insert_iff, List.mem_cons]
      tauto

/-- A file whose identifier is taken, by an earlier file or before, ends the run. -/
lemma foldlM_addOnce_taken {files : List (String × Bytes)} (store : VoucherStore)
    (h : ¬((files.map Prod.fst).Nodup ∧ ∀ id ∈ files.map Prod.fst, id ∉ store.ids)) :
    ∃ id, files.foldlM (addOnce root) store = .error (.duplicatedVoucher (id ++ " in " ++ root)) ∧
      (List.Duplicate id (files.map Prod.fst) ∨ id ∈ files.map Prod.fst ∧ id ∈ store.ids) := by
  induction files generalizing store with
  | nil => exact absurd ⟨List.nodup_nil, by simp⟩ h
  | cons file files ih =>
    by_cases taken : file.1 ∈ store.ids
    · refine ⟨file.1, ?_, .inr ⟨List.mem_cons_self, taken⟩⟩
      rw [List.foldlM_cons, addOnce, if_pos (contains_iff.mpr taken), error_bind]
    · have later : ¬((files.map Prod.fst).Nodup ∧
          ∀ id ∈ files.map Prod.fst, id ∉ (store.insert file.1 file.2).ids) := by
        rintro ⟨distinct, free⟩
        refine h ⟨List.nodup_cons.mpr ⟨fun again => ?_, distinct⟩, fun id hid known => ?_⟩
        · exact free _ again (mem_ids_insert.mpr (.inl rfl))
        · rcases List.mem_cons.mp hid with rfl | hid
          · exact taken known
          · exact free id hid (mem_ids_insert.mpr (.inr known))
      obtain ⟨id, run, why⟩ := ih _ later
      refine ⟨id, ?_, ?_⟩
      · rw [List.foldlM_cons, addOnce_free root taken, ok_bind, run]
      · rcases why with again | ⟨hid, known⟩
        · exact .inl (again.duplicate_cons _)
        · rcases mem_ids_insert.mp known with rfl | known
          · exact .inl (List.Mem.duplicate_cons_self hid)
          · exact .inr ⟨List.mem_cons_of_mem _ hid, known⟩

end Runs

/-! ### What comes of a listing -/

section Listing

variable {disk : Disk} {folder : ArtifactFolder} {entries : List DirectoryEntry}
  (listed : disk.list folder.root = .ok (entries.map .ok)) (readable : Readable disk folder entries)

include listed

lemma readVouchers_listed : (folder.readVouchers disk).run.value =
    (entries.foldlM (addVoucher disk folder) VoucherStore.empty).run.value >>= fun store =>
      if store.entries.isEmpty then .error (.noVouchers folder.root) else .ok store := by
  unfold ArtifactFolder.readVouchers
  rw [value_bind]
  have opened : (Loading.ofExcept ((disk.list folder.root).mapError fun e =>
      .ioError ("listing " ++ folder.root ++ ": " ++ e.message))).run.value = .ok (entries.map .ok) :=
    mapError_eq_ok.mpr listed
  rw [opened, ok_bind, value_bind, List.foldlM_map]
  refine congrArg _ (funext fun store => ?_)
  split
  · rfl
  · rfl

/-- Vouchers are loaded only if all their files can be read. -/
lemma readable_of_readVouchers {store : VoucherStore}
    (loaded : (folder.readVouchers disk).run.value = .ok store) : Readable disk folder entries := by
  rw [readVouchers_listed listed, value_foldlM] at loaded
  obtain ⟨last, run, -⟩ := bind_eq_ok.mp loaded
  intro entry h id extensions isFile
  obtain ⟨before, after, added⟩ := ok_of_foldlM run entry h
  unfold ArtifactFolder.addVoucher at added
  simp only [isFile.regular, isFile.voucherId?, isFile.toText?] at added
  rw [value_bind] at added
  obtain ⟨content, read, -⟩ := bind_eq_ok.mp added
  exact ⟨content, mapError_eq_ok.mp read⟩

include readable

lemma readVouchers_value : (folder.readVouchers disk).run.value =
    (entries.filterMap (fileOf? disk folder)).foldlM (addOnce folder.root) VoucherStore.empty >>=
      fun store => if store.entries.isEmpty then .error (.noVouchers folder.root) else .ok store := by
  rw [readVouchers_listed listed, foldlM_addVoucher readable]

lemma readVouchers_none (none : entries.filterMap (fileOf? disk folder) = []) :
    (folder.readVouchers disk).run.value = .error (.noVouchers folder.root) := by
  rw [readVouchers_value listed readable, none]
  rfl

lemma readVouchers_shared
    (shared : ¬((entries.filterMap (fileOf? disk folder)).map Prod.fst).Nodup) :
    ∃ id, List.Duplicate id ((entries.filterMap (fileOf? disk folder)).map Prod.fst) ∧
      (folder.readVouchers disk).run.value =
        .error (.duplicatedVoucher (id ++ " in " ++ folder.root)) := by
  obtain ⟨id, run, why⟩ := foldlM_addOnce_taken folder.root VoucherStore.empty
    fun h => shared h.1
  refine ⟨id, ?_, ?_⟩
  · rcases why with again | ⟨-, known⟩
    · exact again
    · cases known
  · rw [readVouchers_value listed readable, run, error_bind]

lemma readVouchers_distinct (filled : entries.filterMap (fileOf? disk folder) ≠ [])
    (distinct : ((entries.filterMap (fileOf? disk folder)).map Prod.fst).Nodup) :
    ∃ store, (folder.readVouchers disk).run.value = .ok store ∧ ∀ id content,
      store.find? id = some content ↔ (id, content) ∈ entries.filterMap (fileOf? disk folder) := by
  obtain ⟨store, run, kept⟩ := foldlM_addOnce_distinct folder.root VoucherStore.empty
    distinct fun id _ taken => by cases taken
  obtain ⟨file, hfile⟩ := List.exists_mem_of_ne_nil _ filled
  have full : store.entries.isEmpty = false :=
    List.isEmpty_eq_false_iff.mpr (List.ne_nil_of_mem ((kept file).mpr (.inr hfile)))
  refine ⟨store, ?_, fun id content => ?_⟩
  · rw [readVouchers_value listed readable, run, ok_bind, full]
    rfl
  · rw [find?_eq_some_iff, kept]
    simp [VoucherStore.empty]

end Listing

/-! ### Directories, in any order -/

/-- The entries of a directory in some order, each once. -/
structure Enumerates (entries : List DirectoryEntry) (directory : Finset DirectoryEntry) : Prop where
  once : entries.Nodup
  complete : ∀ entry, entry ∈ entries ↔ entry ∈ directory

/-- Two files of a directory are for one identifier. -/
def IsShared (directory : Finset DirectoryEntry) (id : String) : Prop :=
  ∃ first ∈ directory, ∃ second ∈ directory, first ≠ second ∧
    (∃ extensions, IsVoucherFile first id extensions) ∧
    ∃ extensions, IsVoucherFile second id extensions

/-- What comes of the voucher files of a directory: none may be missing, none may share its
identifier with another one, and then each is kept under its identifier as it is. -/
structure IsCollected (read : String → Except IoError Bytes) (folder : ArtifactFolder)
    (directory : Finset DirectoryEntry) (answer : Except LoadError VoucherStore) : Prop where
  none : (∀ entry ∈ directory, ∀ id extensions, ¬IsVoucherFile entry id extensions) →
    answer = .error (.noVouchers folder.root)
  shared : (∃ id, IsShared directory id) →
    ∃ id, IsShared directory id ∧ answer = .error (.duplicatedVoucher (id ++ " in " ++ folder.root))
  distinct : (∃ entry ∈ directory, ∃ id extensions, IsVoucherFile entry id extensions) →
    (∀ id, ¬IsShared directory id) →
      ∃ store, answer = .ok store ∧ ∀ id content, store.find? id = some content ↔
        ∃ entry ∈ directory, ∃ extensions, IsVoucherFile entry id extensions ∧
          read (Disk.join folder.root ("ov_" ++ id ++ extensions)) = .ok content

/-- The same answer, except that another shared identifier may be named. -/
def SameAnswer : Except LoadError VoucherStore → Except LoadError VoucherStore → Prop
  | .ok store, .ok other => store = other
  | .error (.noVouchers root), .error (.noVouchers other) => root = other
  | .error (.duplicatedVoucher _), .error (.duplicatedVoucher _) => True
  | _, _ => False

lemma duplicate_filterMap_iff {α β : Type} {f : α → Option β} {l : List α} (once : l.Nodup) {b : β} :
    List.Duplicate b (l.filterMap f) ↔ ∃ x ∈ l, ∃ y ∈ l, x ≠ y ∧ f x = some b ∧ f y = some b := by
  induction l with
  | nil => simp
  | cons a l ih =>
    obtain ⟨new, once⟩ := List.nodup_cons.mp once
    have others : List.Duplicate b (l.filterMap f) → ∃ x ∈ a :: l, ∃ y ∈ a :: l,
        x ≠ y ∧ f x = some b ∧ f y = some b := by
      intro again
      obtain ⟨x, hx, y, hy, h⟩ := (ih once).mp again
      exact ⟨x, List.mem_cons_of_mem _ hx, y, List.mem_cons_of_mem _ hy, h⟩
    constructor
    · intro h
      cases found : f a with
      | none =>
        rw [List.filterMap_cons_none found] at h
        exact others h
      | some c =>
        rw [List.filterMap_cons_some found, List.duplicate_cons_iff] at h
        rcases h with ⟨rfl, h⟩ | h
        · obtain ⟨y, hy, hfy⟩ := List.mem_filterMap.mp h
          exact ⟨a, List.mem_cons_self, y, List.mem_cons_of_mem _ hy, fun same => new (same ▸ hy),
            found, hfy⟩
        · exact others h
    · rintro ⟨x, hx, y, hy, differ, hfx, hfy⟩
      -- At most one of the two is the head, and then the other one follows it.
      have follows : ∀ z ∈ l, f a = some b → f z = some b → List.Duplicate b ((a :: l).filterMap f) := by
        intro z hz first second
        rw [List.filterMap_cons_some first]
        exact List.Mem.duplicate_cons_self (List.mem_filterMap.mpr ⟨z, hz, second⟩)
      rcases List.mem_cons.mp hx with rfl | inRest
      · exact follows y ((List.mem_cons.mp hy).resolve_left fun same => differ same.symm) hfx hfy
      · rcases List.mem_cons.mp hy with rfl | inRest'
        · exact follows x inRest hfy hfx
        · exact ((ih once).mpr ⟨x, inRest, y, inRest', differ, hfx, hfy⟩).mono_sublist
            ((List.sublist_cons_self a l).filterMap f)

section Directories

variable {disk : Disk} {folder : ArtifactFolder} {directory : Finset DirectoryEntry}
  {entries : List DirectoryEntry}

lemma shared_iff (readable : Readable disk folder entries) (all : Enumerates entries directory)
    {id : String} :
    List.Duplicate id ((entries.filterMap (fileOf? disk folder)).map Prod.fst) ↔
      IsShared directory id := by
  have known : ∀ entry ∈ entries, (fileOf? disk folder entry).map Prod.fst = some id ↔
      ∃ extensions, IsVoucherFile entry id extensions := by
    intro entry h
    rw [Option.map_eq_some_iff]
    constructor
    · rintro ⟨⟨_, content⟩, found, rfl⟩
      obtain ⟨extensions, isFile, -⟩ := fileOf?_eq_some.mp found
      exact ⟨extensions, isFile⟩
    · rintro ⟨extensions, isFile⟩
      obtain ⟨content, read⟩ := readable entry h id extensions isFile
      exact ⟨(id, content), fileOf?_eq_some.mpr ⟨extensions, isFile, read⟩, rfl⟩
  rw [List.map_filterMap, duplicate_filterMap_iff all.once]
  constructor
  · rintro ⟨x, hx, y, hy, differ, hfx, hfy⟩
    exact ⟨x, (all.complete x).mp hx, y, (all.complete y).mp hy, differ, (known x hx).mp hfx,
      (known y hy).mp hfy⟩
  · rintro ⟨x, hx, y, hy, differ, hfx, hfy⟩
    have hx := (all.complete x).mpr hx
    have hy := (all.complete y).mpr hy
    exact ⟨x, hx, y, hy, differ, (known x hx).mpr hfx, (known y hy).mpr hfy⟩

lemma isCollected_of_listing (listed : disk.list folder.root = .ok (entries.map .ok))
    (readable : Readable disk folder entries) (all : Enumerates entries directory) :
    IsCollected disk.read folder directory (folder.readVouchers disk).run.value := by
  have mem_files : ∀ id content, (id, content) ∈ entries.filterMap (fileOf? disk folder) ↔
      ∃ entry ∈ directory, ∃ extensions, IsVoucherFile entry id extensions ∧
        disk.read (Disk.join folder.root ("ov_" ++ id ++ extensions)) = .ok content := by
    intro id content
    simp only [List.mem_filterMap, fileOf?_eq_some, all.complete]
  refine ⟨fun none => ?_, ?_, ?_⟩
  · refine readVouchers_none listed readable (List.eq_nil_iff_forall_not_mem.mpr ?_)
    rintro ⟨id, content⟩ h
    obtain ⟨entry, hentry, extensions, isFile, -⟩ := (mem_files id content).mp h
    exact none entry hentry id extensions isFile
  · rintro ⟨id, shared⟩
    have repeated := ((shared_iff readable all).mpr shared).not_nodup
    obtain ⟨named, again, answer⟩ := readVouchers_shared listed readable repeated
    exact ⟨named, (shared_iff readable all).mp again, answer⟩
  · rintro ⟨entry, hentry, id, extensions, isFile⟩ distinct
    obtain ⟨content, read⟩ := readable entry ((all.complete entry).mpr hentry) id extensions isFile
    have present := (mem_files id content).mpr ⟨entry, hentry, extensions, isFile, read⟩
    have once : ((entries.filterMap (fileOf? disk folder)).map Prod.fst).Nodup :=
      List.nodup_iff_forall_not_duplicate.mpr fun id again =>
        distinct id ((shared_iff readable all).mp again)
    obtain ⟨store, answer, kept⟩ :=
      readVouchers_distinct listed readable (List.ne_nil_of_mem present) once
    exact ⟨store, answer, fun id content => (kept id content).trans (mem_files id content)⟩

/-- The directory leaves no choice but which shared identifier is named. -/
lemma IsCollected.same {read : String → Except IoError Bytes}
    {answer other : Except LoadError VoucherStore} (h : IsCollected read folder directory answer)
    (h' : IsCollected read folder directory other) : SameAnswer answer other := by
  by_cases filled : ∃ entry ∈ directory, ∃ id extensions, IsVoucherFile entry id extensions
  · by_cases shared : ∃ id, IsShared directory id
    · obtain ⟨id, -, rfl⟩ := h.shared shared
      obtain ⟨id', -, rfl⟩ := h'.shared shared
      exact trivial
    · have distinct := not_exists.mp shared
      obtain ⟨store, rfl, kept⟩ := h.distinct filled distinct
      obtain ⟨store', rfl, kept'⟩ := h'.distinct filled distinct
      refine store_ext fun entry => ?_
      rw [← find?_eq_some_iff, ← find?_eq_some_iff, kept, kept']
  · have none : ∀ entry ∈ directory, ∀ id extensions, ¬IsVoucherFile entry id extensions :=
      fun entry hentry id extensions isFile => filled ⟨entry, hentry, id, extensions, isFile⟩
    obtain rfl := h.none none
    obtain rfl := h'.none none
    exact rfl

end Directories

/-- If the voucher files of a directory can be read, what comes of them is decided by the directory:
each is kept under its identifier with its bytes and nothing else is, unless there are none or two of
them share an identifier. The order in which the directory is enumerated makes no difference, except
that another shared identifier may be named. -/
theorem vouchers_do_not_depend_on_order (disk other : Disk) (folder : ArtifactFolder)
    (directory : Finset DirectoryEntry) (same : other.read = disk.read)
    (readable : ∀ entry ∈ directory, ∀ id extensions, IsVoucherFile entry id extensions →
      ∃ content, disk.read (Disk.join folder.root ("ov_" ++ id ++ extensions)) = .ok content)
    (entries entries' : List DirectoryEntry) (listed : disk.list folder.root = .ok (entries.map .ok))
    (listed' : other.list folder.root = .ok (entries'.map .ok)) (all : Enumerates entries directory)
    (all' : Enumerates entries' directory) :
    IsCollected disk.read folder directory (folder.readVouchers disk).run.value ∧
      SameAnswer (folder.readVouchers disk).run.value (folder.readVouchers other).run.value := by
  have first : Readable disk folder entries :=
    fun entry h => readable entry ((all.complete entry).mp h)
  have second : Readable other folder entries' := by
    intro entry h
    rw [same]
    exact readable entry ((all'.complete entry).mp h)
  have collected := isCollected_of_listing listed first all
  have collected' := isCollected_of_listing listed' second all'
  rw [same] at collected'
  exact ⟨collected, collected.same collected'⟩

/-- Files, a directory and a link; not all of the files are for vouchers, and one name is no text. -/
def mixedEntries : List DirectoryEntry := [
  ⟨Bytes.ofText "ov_7.der", .file⟩, ⟨Bytes.ofText "ov_9.der", .directory⟩,
  ⟨Bytes.ofText "ov_9", .link⟩, ⟨[111, 118, 95, 255], .file⟩, ⟨Bytes.ofText "ov_.der", .file⟩,
  ⟨Bytes.ofText "oc_pub.pem", .file⟩, ⟨Bytes.ofText "ov_8", .file⟩]

def mixedDisk (entries : List DirectoryEntry) : Disk :=
  .ofAnswers [("vouchers/ov_7.der", .ok [7]), ("vouchers/ov_8", .ok [8])]
    [("vouchers", .ok (entries.map .ok))]

/-- Two vouchers are found among other entries, from the front and from the back. -/
theorem vouchers_do_not_depend_on_order_mixed :
    Enumerates mixedEntries mixedEntries.toFinset ∧
    Enumerates mixedEntries.reverse mixedEntries.toFinset ∧
    ∃ store, store.find? "7" = some [7] ∧ store.find? "8" = some [8] ∧ store.find? "9" = none ∧
      (ArtifactFolder.readVouchers (mixedDisk mixedEntries) ⟨"vouchers"⟩).run.value = .ok store ∧
      (ArtifactFolder.readVouchers (mixedDisk mixedEntries.reverse) ⟨"vouchers"⟩).run.value =
        .ok store := by
  have forwards : Enumerates mixedEntries mixedEntries.toFinset :=
    ⟨by decide +kernel, fun entry => List.mem_toFinset.symm⟩
  have backwards : Enumerates mixedEntries.reverse mixedEntries.toFinset :=
    ⟨List.nodup_reverse.mpr forwards.once, fun entry => by simp⟩
  have files : mixedEntries.filterMap (fileOf? (mixedDisk mixedEntries) ⟨"vouchers"⟩) =
      [("7", [7]), ("8", [8])] := by
    decide +kernel
  have readable : Readable (mixedDisk mixedEntries) ⟨"vouchers"⟩ mixedEntries :=
    readable_of_found (by decide +kernel)
  have seven : IsVoucherFile ⟨Bytes.ofText "ov_7.der", .file⟩ "7" ".der" :=
    ⟨rfl, rfl, by decide, by decide, .inr ⟨"der", rfl⟩⟩
  have eight : IsVoucherFile ⟨Bytes.ofText "ov_8", .file⟩ "8" "" :=
    ⟨rfl, rfl, by decide, by decide, .inl rfl⟩
  have first : (⟨Bytes.ofText "ov_7.der", .file⟩ : DirectoryEntry) ∈ mixedEntries.toFinset := by
    simp [mixedEntries]
  have last : (⟨Bytes.ofText "ov_8", .file⟩ : DirectoryEntry) ∈ mixedEntries.toFinset := by
    simp [mixedEntries]
  have distinct : ∀ id, ¬IsShared mixedEntries.toFinset id := by
    intro id shared
    have again := (shared_iff readable forwards).mpr shared
    rw [files] at again
    exact again.not_nodup (by decide)
  obtain ⟨collected, same⟩ := vouchers_do_not_depend_on_order (mixedDisk mixedEntries)
    (mixedDisk mixedEntries.reverse) ⟨"vouchers"⟩ mixedEntries.toFinset rfl
    (fun entry h => readable entry (List.mem_toFinset.mp h)) mixedEntries mixedEntries.reverse rfl rfl
    forwards backwards
  obtain ⟨store, answer, kept⟩ := collected.distinct ⟨_, first, "7", ".der", seven⟩ distinct
  rw [answer] at same
  refine ⟨forwards, backwards, store, ?_, ?_, ?_, answer, ?_⟩
  · exact (kept _ _).mpr ⟨_, first, ".der", seven, by decide +kernel⟩
  · exact (kept _ _).mpr ⟨_, last, "", eight, by decide +kernel⟩
  · rw [Option.eq_none_iff_forall_ne_some]
    intro content found
    obtain ⟨entry, h, extensions, isFile, read⟩ := (kept _ _).mp found
    have listed : ("9", content) ∈ [("7", [7]), ("8", [8])] :=
      files ▸ List.mem_filterMap.mpr ⟨entry, List.mem_toFinset.mp h,
        fileOf?_eq_some.mpr ⟨extensions, isFile, read⟩⟩
    simp at listed
  · cases reversed : (ArtifactFolder.readVouchers (mixedDisk mixedEntries.reverse) ⟨"vouchers"⟩).run.value with
    | error e =>
      rw [reversed] at same
      exact same.elim
    | ok other =>
      rw [reversed] at same
      exact congrArg _ (Eq.symm same)

end BootstrapVoucher.Proofs
