import BootstrapVoucher.Disk
import BootstrapVoucher.Proofs.Outcome

/-!
# Paths in a file tree

A path that leads to a directory leads on to what the directory holds under a name, once the name is
joined to it. A file that is written is read by the same path again, and all other places keep what
stands there. Under a new name of a directory it becomes the last entry. The ways that arrive are told by
their steps, so each of these facts is an induction over a way.
-/

namespace BootstrapVoucher.Proofs

open FileTree

/-! ### The names of a path -/

lemma ofText_append (a b : String) : Bytes.ofText (a ++ b) = Bytes.ofText a ++ Bytes.ofText b := by
  simp [Bytes.ofText]

lemma ofText_eq_nil {text : String} : Bytes.ofText text = [] ↔ text = "" := by
  constructor
  · intro h
    exact Bytes.ofText_injective h
  · rintro rfl
    rfl

/-- A name under which a directory can hold something. -/
structure IsName (name : Bytes) : Prop where
  ne_nil : name ≠ []
  ne_point : name ≠ [46]
  ne_points : name ≠ [46, 46]
  no_nul : 0 ∉ name
  no_slash : 47 ∉ name
  short : name.length ≤ nameLimit

lemma pieces_slash (front back : Bytes) :
    pieces (front ++ 47 :: back) = pieces front ++ pieces back := by
  unfold pieces
  rw [List.splitOn_append_cons_self, List.filter_append]

lemma pieces_of_no_slash {name : Bytes} (no_slash : 47 ∉ name) (ne_nil : name ≠ []) :
    pieces name = [name] := by
  unfold pieces
  rw [List.splitOn_eq_singleton no_slash]
  simp [ne_nil]

lemma pieces_closed (front : Bytes) : pieces (front ++ [47]) = pieces front := by
  rw [pieces_slash]
  exact List.append_nil _

/-- What is joined to a path decides how the path ends. -/
lemma names_slash (front : Bytes) {back : Bytes} (h : back ≠ []) :
    names (front ++ 47 :: back) = pieces front ++ names back := by
  unfold names
  rw [pieces_slash, List.append_assoc, List.append_cons, List.getLast?_append_of_ne_nil _ h]

lemma names_of_no_slash {name : Bytes} (no_slash : 47 ∉ name) (ne_nil : name ≠ []) :
    names name = [name] := by
  have open_end : name.getLast? ≠ some 47 := fun closed => no_slash (List.mem_of_getLast? closed)
  unfold names
  rw [pieces_of_no_slash no_slash ne_nil, if_neg open_end, List.append_nil]

lemma names_ne_nil {path : Bytes} (h : path ≠ []) : names path ≠ [] := by
  induction length : path.length using Nat.strong_induction_on generalizing path with
  | _ n ih =>
    by_cases slash : (47 : UInt8) ∈ path
    · obtain ⟨front, back, rfl⟩ := List.append_of_mem slash
      by_cases closed : back = []
      · subst closed
        simp [names]
      · rw [List.length_append, List.length_cons] at length
        rw [names_slash front closed]
        exact List.append_ne_nil_of_right_ne_nil _ (ih back.length (by omega) closed rfl)
    · rw [names_of_no_slash slash h]
      exact List.cons_ne_nil _ _

/-! ### What stands in a tree -/

section Nodes

variable {tree : FileTree} {place : List Bytes}

/-- A place where a file can be put: there is a file already, or nothing. -/
def IsFilePlace (tree : FileTree) (place : List Bytes) : Prop :=
  ∀ node, tree.node? place = some node → ∃ content, node = .file content

/-- All that a place goes through are directories. -/
def IsOpen (tree : FileTree) (place : List Bytes) : Prop :=
  ∀ front, front <+: place → tree.node? front = some .directory

lemma isPrefixOf_eq_false {front place : List Bytes} :
    front.isPrefixOf place = false ↔ ¬front <+: place := by
  rw [← Bool.not_eq_true, List.isPrefixOf_iff_prefix]

lemma mem_standing {entry : List Bytes × Node} : entry ∈ tree.standing ↔
    entry.1 <+: tree.directory ∧ entry.2 = .directory ∨
      entry ∈ tree.nodes ∧ ¬entry.1 <+: tree.directory := by
  obtain ⟨front, node⟩ := entry
  unfold FileTree.standing
  rw [List.mem_append, List.mem_filter, List.mem_map]
  refine or_congr ⟨?_, ?_⟩ (by simp [isPrefixOf_eq_false])
  · rintro ⟨n, -, same⟩
    cases same
    exact ⟨List.take_prefix n _, rfl⟩
  · rintro ⟨hfront, rfl⟩
    refine ⟨front.length, List.mem_range.mpr (Nat.lt_succ_of_le hfront.length_le), ?_⟩
    rw [← List.prefix_iff_eq_take.mp hfront]

/-- The directory that is worked in and those around it cannot be replaced. -/
lemma node?_around (h : place <+: tree.directory) : tree.node? place = some .directory := by
  have known : (place, Node.directory) ∈ tree.standing := mem_standing.mpr (.inl ⟨h, rfl⟩)
  obtain ⟨entry, found⟩ := Option.isSome_iff_exists.mp
    (List.find?_isSome (p := (·.1 == place)).mpr ⟨_, known, beq_self_eq_true place⟩)
  have here : entry.1 = place := by simpa using List.find?_some found
  unfold FileTree.node?
  rw [found]
  rcases mem_standing.mp (List.mem_of_find?_eq_some found) with ⟨-, directory⟩ | ⟨-, apart⟩
  · exact congrArg some directory
  · exact absurd h (here ▸ apart)

lemma node?_apart (h : ¬place <+: tree.directory) :
    tree.node? place = (tree.nodes.find? (·.1 == place)).map (·.2) := by
  have chain : ((List.range (tree.directory.length + 1)).map fun n =>
      (tree.directory.take n, Node.directory)).find? (·.1 == place) = none := by
    rw [List.find?_eq_none]
    intro entry hentry
    obtain ⟨n, -, rfl⟩ := List.mem_map.mp hentry
    rw [beq_iff_eq]
    rintro rfl
    exact h (List.take_prefix n _)
  unfold FileTree.node? FileTree.standing
  rw [List.find?_append, chain, Option.none_or, List.find?_filter]
  congr 2
  funext entry
  by_cases here : entry.1 = place
  · simp [here, isPrefixOf_eq_false.mpr h]
  · simp [here]

lemma IsFilePlace.ne_directory (h : IsFilePlace tree place) : tree.node? place ≠ some .directory := by
  intro found
  obtain ⟨content, same⟩ := h _ found
  cases same

lemma IsFilePlace.ne_link (h : IsFilePlace tree place) (target : Bytes) :
    tree.node? place ≠ some (.link target) := by
  intro found
  obtain ⟨content, same⟩ := h _ found
  cases same

lemma IsFilePlace.apart (h : IsFilePlace tree place) : ¬place <+: tree.directory :=
  fun around => h.ne_directory (node?_around around)

lemma isFilePlace_of_missing (h : tree.node? place = none) : IsFilePlace tree place := by
  intro node found
  rw [h] at found
  cases found

lemma isFilePlace_of_file {content : Bytes} (h : tree.node? place = some (.file content)) :
    IsFilePlace tree place :=
  fun _ found => ⟨content, Option.some.inj (found.symm.trans h)⟩

lemma isOpen_around (h : place <+: tree.directory) : IsOpen tree place :=
  fun _ hfront => node?_around (hfront.trans h)

lemma IsOpen.dropLast (h : IsOpen tree place) : IsOpen tree place.dropLast :=
  fun front hfront => h front (hfront.trans (List.dropLast_prefix place))

lemma IsOpen.concat {name : Bytes} (h : IsOpen tree place)
    (directory : tree.node? (place ++ [name]) = some .directory) : IsOpen tree (place ++ [name]) := by
  intro front hfront
  rcases List.prefix_concat_iff.mp hfront with rfl | hfront
  · exact directory
  · exact h front hfront

lemma IsOpen.startOf (path : Bytes) (h : IsOpen tree place) : IsOpen tree (startOf path place) := by
  unfold FileTree.startOf
  split
  · exact isOpen_around List.nil_prefix
  · exact h

lemma isOpen_start (path : Bytes) : IsOpen tree (startOf path tree.directory) :=
  (isOpen_around (List.prefix_refl _)).startOf path

end Nodes

/-! ### Following a path -/

/-- A name that stands for what the directory has under it, and which may be the last one but for the
rest. -/
structure Passes (creating : Bool) (name : Bytes) (rest : List Bytes) : Prop where
  proper : ¬(name = [] ∨ name = [46])
  ordinary : name ≠ [46, 46]
  unclosed : ¬(creating = true ∧ rest = [[]])
  short : ¬nameLimit < name.length

/-- Where no file is to be created, the names that follow do not matter. -/
lemma Passes.reading {creating : Bool} {name : Bytes} {rest : List Bytes}
    (h : Passes creating name rest) (more : List Bytes) : Passes false name more :=
  ⟨h.proper, h.ordinary, by simp, h.short⟩

/-- The names lead from a directory to a place, step by step. -/
inductive Leads (tree : FileTree) (creating : Bool) :
    (links : Nat) → (start rest place : List Bytes) → Prop
  | done {links : Nat} {start : List Bytes} : Leads tree creating links start [] start
  | stay {links : Nat} {start rest place : List Bytes} {name : Bytes} (blank : name = [] ∨ name = [46])
    (onward : Leads tree creating links start rest place) :
    Leads tree creating links start (name :: rest) place
  | up {links : Nat} {start rest place : List Bytes}
    (onward : Leads tree creating links start.dropLast rest place) :
    Leads tree creating links start ([46, 46] :: rest) place
  | link {links : Nat} {start rest place : List Bytes} {name target : Bytes}
    (passes : Passes creating name rest) (found : tree.node? (start ++ [name]) = some (.link target))
    (onward : Leads tree creating links (startOf target start) (names target ++ rest) place) :
    Leads tree creating (links + 1) start (name :: rest) place
  | directory {links : Nat} {start rest place : List Bytes} {name : Bytes}
    (passes : Passes creating name rest) (found : tree.node? (start ++ [name]) = some .directory)
    (onward : Leads tree creating links (start ++ [name]) rest place) :
    Leads tree creating links start (name :: rest) place
  | ends {links : Nat} {start : List Bytes} {name : Bytes} (passes : Passes creating name [])
    (free : IsFilePlace tree (start ++ [name])) :
    Leads tree creating links start [name] (start ++ [name])

section Walks

variable {tree : FileTree} {creating : Bool} {links : Nat} {start rest place : List Bytes}

lemma walk_of_passes {name : Bytes} (h : Passes creating name rest) :
    tree.walk creating links start (name :: rest) =
      match tree.node? (start ++ [name]), links with
      | some (.link target), links + 1 =>
        tree.walk creating links (startOf target start) (names target ++ rest)
      | some (.link _), 0 => .error .linkLoop
      | some .directory, links => tree.walk creating links (start ++ [name]) rest
      | some (.file _), _ => if rest.isEmpty then .ok (start ++ [name]) else .error .notDirectory
      | none, _ => if rest.isEmpty then .ok (start ++ [name]) else .error .notFound := by
  rewrite [FileTree.walk, if_neg h.proper, if_neg h.ordinary, if_neg h.unclosed, if_neg h.short]
  rfl

lemma walk_eq_ok : tree.walk creating links start rest = .ok place ↔
    Leads tree creating links start rest place := by
  constructor
  · intro arrived
    fun_induction FileTree.walk tree creating links start rest with
    | case1 =>
      cases arrived
      exact .done
    | case2 links start name rest blank ih => exact .stay blank (ih arrived)
    | case3 links start rest proper ih => exact .up (ih arrived)
    | case4 | case5 | case7 | case10 | case12 => cases arrived
    | case6 start name rest proper ordinary unclosed short next target links found ih =>
      exact .link ⟨proper, ordinary, unclosed, short⟩ found (ih arrived)
    | case8 start name rest proper ordinary unclosed short next links found ih =>
      exact .directory ⟨proper, ordinary, unclosed, short⟩ found (ih arrived)
    | case9 links start name rest proper ordinary unclosed short next content found last =>
      cases List.isEmpty_iff.mp last
      obtain rfl : next = place := Except.ok.inj arrived
      exact .ends ⟨proper, ordinary, unclosed, short⟩ (isFilePlace_of_file found)
    | case11 links start name rest proper ordinary unclosed short next missing last =>
      cases List.isEmpty_iff.mp last
      obtain rfl : next = place := Except.ok.inj arrived
      exact .ends ⟨proper, ordinary, unclosed, short⟩ (isFilePlace_of_missing missing)
  · intro leads
    induction leads with
    | done => rw [FileTree.walk]
    | stay blank onward ih => rw [FileTree.walk, if_pos blank, ih]
    | up onward ih => rw [FileTree.walk, if_neg (by simp), if_pos rfl, ih]
    | link passes found onward ih =>
      rw [walk_of_passes passes, found]
      exact ih
    | directory passes found onward ih =>
      rw [walk_of_passes passes, found]
      exact ih
    | @ends links start name passes free =>
      rw [walk_of_passes passes]
      cases found : tree.node? (start ++ [name]) with
      | none => rfl
      | some node =>
        obtain ⟨content, rfl⟩ := free node found
        rfl

namespace Leads

/-- The way to a directory can be followed on. -/
lemma append (leads : Leads tree false links start rest place)
    (directory : tree.node? place = some .directory) :
    ∃ left, ∀ {more arrived}, Leads tree false left place more arrived →
      Leads tree false links start (rest ++ more) arrived := by
  induction leads with
  | @done links start => exact ⟨links, id⟩
  | stay blank onward ih =>
    obtain ⟨left, h⟩ := ih directory
    exact ⟨left, fun further => .stay blank (h further)⟩
  | up onward ih =>
    obtain ⟨left, h⟩ := ih directory
    exact ⟨left, fun further => .up (h further)⟩
  | link passes found onward ih =>
    obtain ⟨left, h⟩ := ih directory
    exact ⟨left, fun further =>
      .link (passes.reading _) found (List.append_assoc .. ▸ h further)⟩
  | directory passes found onward ih =>
    obtain ⟨left, h⟩ := ih directory
    exact ⟨left, fun further => .directory (passes.reading _) found (h further)⟩
  | ends passes free => exact absurd directory free.ne_directory

/-- A slash at the end of a path asks for a directory, and changes nothing if there is one. -/
lemma of_closed (leads : Leads tree false links start (rest ++ [[]]) place) :
    Leads tree false links start rest place := by
  generalize closed : rest ++ [[]] = all at leads
  induction leads generalizing rest with
  | done => simp at closed
  | @stay links start more place name blank onward ih =>
    rcases List.append_eq_cons_iff.mp closed with ⟨rfl, same⟩ | ⟨front, rfl, rfl⟩
    · cases same
      exact onward
    · exact .stay blank (ih rfl)
  | up onward ih =>
    rcases List.append_eq_cons_iff.mp closed with ⟨rfl, same⟩ | ⟨front, rfl, rfl⟩
    · cases same
    · exact .up (ih rfl)
  | link passes found onward ih =>
    rcases List.append_eq_cons_iff.mp closed with ⟨rfl, same⟩ | ⟨front, rfl, rfl⟩
    · cases same
      exact absurd (.inl rfl) passes.proper
    · exact .link (passes.reading _) found (ih (List.append_assoc ..))
  | directory passes found onward ih =>
    rcases List.append_eq_cons_iff.mp closed with ⟨rfl, same⟩ | ⟨front, rfl, rfl⟩
    · cases same
      exact absurd (.inl rfl) passes.proper
    · exact .directory (passes.reading _) found (ih rfl)
  | ends passes free =>
    rcases List.append_eq_cons_iff.mp closed with ⟨rfl, same⟩ | ⟨front, rfl, same⟩
    · cases same
      exact absurd (.inl rfl) passes.proper
    · simp at same

/-- A path leads to a directory, to a file, or to a place where nothing stands; its last link has been
followed. -/
lemma ne_link (leads : Leads tree creating links start rest place) (isOpen : IsOpen tree start)
    (target : Bytes) : tree.node? place ≠ some (.link target) := by
  induction leads with
  | done => simp [isOpen _ (List.prefix_refl _)]
  | stay blank onward ih => exact ih isOpen
  | up onward ih => exact ih isOpen.dropLast
  | link passes found onward ih => exact ih (isOpen.startOf _)
  | directory passes found onward ih => exact ih (isOpen.concat found)
  | ends passes free => exact free.ne_link target

/-- No way leads on through a name under which there is nothing or a file. -/
lemma of_free {name : Bytes} (leads : Leads tree creating links start (name :: rest) place)
    (proper : ¬(name = [] ∨ name = [46])) (ordinary : name ≠ [46, 46])
    (free : IsFilePlace tree (start ++ [name])) :
    rest = [] ∧ place = start ++ [name] ∧ name.length ≤ nameLimit := by
  cases leads with
  | stay blank onward => exact absurd blank proper
  | up onward => exact absurd rfl ordinary
  | link passes found onward => exact absurd found (free.ne_link _)
  | directory passes found onward => exact absurd found free.ne_directory
  | ends passes free => exact ⟨rfl, rfl, Nat.not_lt.mp passes.short⟩

lemma of_name {name : Bytes} (isName : IsName name) (free : IsFilePlace tree (start ++ [name])) :
    Leads tree creating links start [name] (start ++ [name]) :=
  .ends ⟨not_or.mpr ⟨isName.ne_nil, isName.ne_point⟩, isName.ne_points, by simp,
    Nat.not_lt.mpr isName.short⟩ free

end Leads

lemma locate_eq_ok {path : String} : tree.locate path creating = .ok place ↔
    (0 ∉ Bytes.ofText path ∧ (Bytes.ofText path).length ≤ pathLimit ∧ path ≠ "") ∧
      Leads tree creating linkLimit (startOf (Bytes.ofText path) tree.directory)
        (names (Bytes.ofText path)) place := by
  have no_nul : (Bytes.ofText path).contains 0 = true ↔ 0 ∈ Bytes.ofText path := by simp
  have empty : (Bytes.ofText path).isEmpty = true ↔ path = "" := by
    rw [List.isEmpty_iff, ofText_eq_nil]
  unfold FileTree.locate
  simp only [no_nul, empty, ← walk_eq_ok]
  constructor
  · intro h
    split at h
    · cases h
    · split at h
      · cases h
      · split at h
        · cases h
        · exact ⟨⟨‹_›, Nat.not_lt.mp ‹_›, ‹_›⟩, h⟩
  · rintro ⟨⟨no_nul, short, present⟩, walked⟩
    rw [if_neg no_nul, if_neg (Nat.not_lt.mpr short), if_neg present, walked]

/-- A name is joined to the path of a directory by one slash. -/
lemma ofText_join {root name : String} (present : root ≠ "") (h : IsName (Bytes.ofText name)) :
    ∃ front, Bytes.ofText (Disk.join root name) = front ++ 47 :: Bytes.ofText name ∧
      (Bytes.ofText root = front ∨ Bytes.ofText root = front ++ [47]) := by
  have relative : ¬name.startsWith "/" = true := by
    intro absolute
    obtain ⟨rest, split⟩ := String.startsWith_string_iff.mp absolute
    have whole : name = "/" ++ String.ofList rest := by
      rw [← String.toList_inj, ← split, String.toList_append, @String.toList_ofList rest]
    rw [whole, ofText_append] at h
    exact h.no_slash (List.mem_append_left _ List.mem_cons_self)
  have slash : Bytes.ofText "/" = [47] := rfl
  unfold Disk.join
  rw [if_neg relative]
  by_cases closed : root.endsWith "/" = true
  · have suffix := closed
    rw [String.endsWith_eq_endsWith_toSlice, String.Slice.endsWith_string_iff] at suffix
    obtain ⟨front, split⟩ := suffix
    have whole : root = String.ofList front ++ "/" := by
      rw [← String.toList_inj, String.toList_append, String.toList_ofList, split]
      simp
    rw [if_pos (.inr closed)]
    refine ⟨Bytes.ofText (String.ofList front), ?_, .inr ?_⟩
    · rw [whole, ofText_append, ofText_append, slash, List.append_assoc]
      rfl
    · rw [whole, ofText_append, slash]
  · rw [if_neg (by tauto), ofText_append, ofText_append, slash, List.append_assoc]
    exact ⟨Bytes.ofText root, rfl, .inl rfl⟩

/-- Joining adds the name and at most a slash. -/
lemma length_join {root name : String} (present : root ≠ "") (h : IsName (Bytes.ofText name)) :
    (Bytes.ofText root).length + (Bytes.ofText name).length ≤
        (Bytes.ofText (Disk.join root name)).length ∧
      (Bytes.ofText (Disk.join root name)).length ≤
        (Bytes.ofText root).length + 1 + (Bytes.ofText name).length := by
  obtain ⟨front, joined, split⟩ := ofText_join present h
  rw [joined, List.length_append, List.length_cons]
  rcases split with same | closed
  · rw [same]
    omega
  · rw [closed, List.length_append, List.length_singleton]
    omega

lemma read_of_locate {path : String} {content : Bytes} (located : tree.locate path = .ok place)
    (file : tree.node? place = some (.file content)) : tree.read path = .ok content := by
  unfold FileTree.read
  rw [located, ok_bind, file]

lemma length_le_of_read {path : String} {content : Bytes} (h : tree.read path = .ok content) :
    (Bytes.ofText path).length ≤ pathLimit := by
  obtain ⟨place, located, -⟩ := bind_eq_ok.mp h
  exact (locate_eq_ok.mp located).1.2.1

/-- A name leads to a file of the directory that is worked in, also to one that is not there yet. -/
lemma locate_name {name : String} (isName : IsName (Bytes.ofText name))
    (free : IsFilePlace tree (tree.directory ++ [Bytes.ofText name])) :
    tree.locate name creating = .ok (tree.directory ++ [Bytes.ofText name]) := by
  have relative : startOf (Bytes.ofText name) tree.directory = tree.directory :=
    if_neg fun slash => isName.no_slash (List.mem_of_head? slash)
  have short : (Bytes.ofText name).length ≤ pathLimit := isName.short.trans (by decide)
  refine locate_eq_ok.mpr ⟨⟨isName.no_nul, short, ?_⟩, ?_⟩
  · rintro rfl
    exact isName.ne_nil rfl
  · rw [relative, names_of_no_slash isName.no_slash isName.ne_nil]
    exact .of_name isName free

lemma read_name {name : String} {content : Bytes} (isName : IsName (Bytes.ofText name))
    (file : tree.node? (tree.directory ++ [Bytes.ofText name]) = some (.file content)) :
    tree.read name = .ok content :=
  read_of_locate (locate_name isName (isFilePlace_of_file file)) file

lemma leads_pieces {path : Bytes} (leads : Leads tree false links start (names path) place) :
    Leads tree false links start (pieces path) place := by
  unfold names at leads
  split at leads
  · exact leads.of_closed
  · rwa [List.append_nil] at leads

/-- What a directory holds under a name is read by the path of the directory, joined with the name,
unless that makes the path too long. -/
lemma read_join {root name : String} {content : Bytes} (located : tree.locate root = .ok place)
    (directory : tree.node? place = some .directory) (isName : IsName (Bytes.ofText name))
    (short : (Bytes.ofText (Disk.join root name)).length ≤ pathLimit)
    (file : tree.node? (place ++ [Bytes.ofText name]) = some (.file content)) :
    tree.read (Disk.join root name) = .ok content := by
  obtain ⟨⟨root_no_nul, -, present⟩, leads⟩ := locate_eq_ok.mp located
  obtain ⟨front, joined, split⟩ := ofText_join present isName
  have same_pieces : pieces (Bytes.ofText root) = pieces front := by
    rcases split with same | closed
    · rw [same]
    · rw [closed, pieces_closed]
  have same_start : startOf (Bytes.ofText (Disk.join root name)) tree.directory =
      startOf (Bytes.ofText root) tree.directory := by
    have same_head : (Bytes.ofText (Disk.join root name)).head? = (Bytes.ofText root).head? := by
      rw [joined]
      rcases split with same | closed
      · rw [same, List.head?_append_of_ne_nil _ fun empty => present (ofText_eq_nil.mp (same.trans empty))]
      · rw [closed, List.head?_append, List.head?_append]
        rfl
    unfold FileTree.startOf
    rw [same_head]
  have no_nul : 0 ∉ Bytes.ofText (Disk.join root name) := by
    have front_no_nul : 0 ∉ front := by
      intro h
      rcases split with same | closed
      · exact root_no_nul (same ▸ h)
      · exact root_no_nul (closed ▸ List.mem_append_left _ h)
    rw [joined]
    simp [front_no_nul, isName.no_nul]
  have joined_ne : Disk.join root name ≠ "" := by
    intro empty
    rw [empty] at joined
    simp [Bytes.ofText] at joined
  obtain ⟨left, onward⟩ := (leads_pieces leads).append directory
  have arrives : tree.locate (Disk.join root name) = .ok (place ++ [Bytes.ofText name]) := by
    refine locate_eq_ok.mpr ⟨⟨no_nul, short, joined_ne⟩, ?_⟩
    rw [same_start, joined, names_slash front isName.ne_nil,
      names_of_no_slash isName.no_slash isName.ne_nil, ← same_pieces]
    exact onward (.of_name isName (isFilePlace_of_file file))
  exact read_of_locate arrives file

end Walks

/-! ### Writing a file -/

section Writes

variable {tree : FileTree} {place : List Bytes}

@[simp]
lemma put_directory (tree : FileTree) (place : List Bytes) (node : Node) :
    (tree.put place node).directory = tree.directory := by
  unfold FileTree.put
  split <;> rfl

/-- Replacing a node leaves it at its place. -/
lemma stands_replaced (place other : List Bytes) (node : Node) :
    ((·.1 == other) ∘ fun entry : List Bytes × Node =>
      if entry.1 == place then (place, node) else entry) = (·.1 == other) := by
  funext entry
  by_cases replaced : entry.1 = place
  · simp [replaced]
  · simp [replaced]

lemma node?_put (h : ¬place <+: tree.directory) (node : Node) :
    (tree.put place node).node? place = some node := by
  rw [node?_apart (by rwa [put_directory])]
  unfold FileTree.put
  by_cases taken : tree.nodes.any (·.1 == place) = true
  · obtain ⟨entry, found⟩ := Option.isSome_iff_exists.mp (List.find?_isSome.mpr (List.any_eq_true.mp taken))
    have at_place : entry.1 = place := by simpa using List.find?_some found
    rw [if_pos taken, List.find?_map, stands_replaced, found]
    simp [at_place]
  · have absent : tree.nodes.find? (·.1 == place) = none := by
      rw [Bool.not_eq_true, List.any_eq_false] at taken
      exact List.find?_eq_none.mpr taken
    rw [if_neg taken, List.find?_append, absent]
    simp

lemma node?_put_other {other : List Bytes} (h : other ≠ place) (node : Node) :
    (tree.put place node).node? other = tree.node? other := by
  by_cases around : other <+: tree.directory
  · rw [node?_around around, node?_around (by rwa [put_directory])]
  rw [node?_apart around, node?_apart (by rwa [put_directory])]
  unfold FileTree.put
  by_cases taken : tree.nodes.any (·.1 == place) = true
  · rw [if_pos taken, List.find?_map, stands_replaced]
    cases found : tree.nodes.find? (·.1 == other) with
    | none => rfl
    | some entry =>
      have at_other : entry.1 = other := by simpa using List.find?_some found
      simp [at_other, h]
  · rw [if_neg taken, List.find?_append]
    simp [Ne.symm h]

lemma IsFilePlace.put {other : List Bytes} (h : IsFilePlace tree other)
    (free : IsFilePlace tree place) (content : Bytes) :
    IsFilePlace (tree.put place (.file content)) other := by
  by_cases same : other = place
  · rw [same]
    exact isFilePlace_of_file (node?_put free.apart _)
  · intro node found
    rw [node?_put_other same] at found
    exact h node found

/-- A new file is the last entry of its directory. -/
lemma entries_put_new {name : Bytes} (missing : tree.node? (place ++ [name]) = none) (content : Bytes) :
    (tree.put (place ++ [name]) (.file content)).entries place =
      tree.entries place ++ [⟨name, .file⟩] := by
  have apart := (isFilePlace_of_missing missing).apart
  have absent : tree.nodes.any (·.1 == place ++ [name]) = false := by
    rw [node?_apart apart] at missing
    simpa using missing
  unfold FileTree.put FileTree.entries FileTree.standing
  rw [absent]
  simp [isPrefixOf_eq_false.mpr apart]

/-- What stands under a name of a directory is one of its entries. -/
lemma exists_entry {name : Bytes} {node : Node} (h : tree.node? (place ++ [name]) = some node) :
    ∃ entry ∈ tree.entries place, entry.name = name := by
  obtain ⟨⟨stands, node⟩, found, rfl⟩ := Option.map_eq_some_iff.mp h
  have same : stands = place ++ [name] := by simpa using List.find?_some found
  subst same
  have listed := List.mem_of_find?_eq_some found
  cases node with
  | file content => exact ⟨⟨name, .file⟩, List.mem_filterMap.mpr ⟨_, listed, by simp⟩, rfl⟩
  | directory => exact ⟨⟨name, .directory⟩, List.mem_filterMap.mpr ⟨_, listed, by simp⟩, rfl⟩
  | link target => exact ⟨⟨name, .link⟩, List.mem_filterMap.mpr ⟨_, listed, by simp⟩, rfl⟩

lemma write_eq_ok {next : FileTree} {path : String} {content : Bytes} :
    tree.write path content = .ok next ↔
      ∃ place, tree.locate path true = .ok place ∧ IsFilePlace tree place ∧
        next = tree.put place (.file content) := by
  unfold FileTree.write
  rw [bind_eq_ok]
  refine exists_congr fun place => and_congr_right fun located => ?_
  have noLink := (locate_eq_ok.mp located).2.ne_link (isOpen_start _)
  cases found : tree.node? place with
  | none => simp [isFilePlace_of_missing found, eq_comm]
  | some node =>
    cases node with
    | file old => simp [isFilePlace_of_file found, eq_comm]
    | directory =>
      have taken : ¬IsFilePlace tree place := fun free => free.ne_directory found
      simp [taken]
    | link target => exact absurd found (noLink target)

/-- The way to a file that has been written is the way by which it was written. -/
lemma Leads.put {creating : Bool} {links : Nat} {start rest : List Bytes} {content : Bytes}
    (leads : Leads tree creating links start rest place) (free : IsFilePlace tree place) :
    Leads (tree.put place (.file content)) false links start rest place := by
  have apart : ∀ {other : List Bytes} {node : Node}, tree.node? other = some node →
      (∀ old, node ≠ .file old) → (tree.put place (.file content)).node? other = some node := by
    intro other node found noFile
    have differs : other ≠ place := by
      rintro rfl
      obtain ⟨old, rfl⟩ := free node found
      exact noFile old rfl
    rw [node?_put_other differs, found]
  induction leads with
  | done => exact .done
  | stay blank onward ih => exact .stay blank (ih free apart)
  | up onward ih => exact .up (ih free apart)
  | link passes found onward ih =>
    exact .link (passes.reading _) (apart found (by simp)) (ih free apart)
  | directory passes found onward ih =>
    exact .directory (passes.reading _) (apart found (by simp)) (ih free apart)
  | ends passes _ =>
    exact .ends (passes.reading _) (isFilePlace_of_file (node?_put free.apart _))

end Writes

end BootstrapVoucher.Proofs
