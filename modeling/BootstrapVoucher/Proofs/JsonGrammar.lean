import BootstrapVoucher.Proofs.JsonTokens

/-!
# The texts of a value

A text is parsed to a value exactly when it is laid out as the tokens of the value and no more than
the permitted number of containers are nested in it. That the machine accepts nothing else is an
invariant of its steps: what it has read so far is what its stack stands for.
-/

namespace BootstrapVoucher.Proofs

open Json Json.Value

/-- The tokens of items that are each followed by a comma. -/
def listedItems (items : List Value) : List Token := items.flatMap fun v => tokens v ++ [.comma]

def memberHead (name : String) : List Token := [.string name, .colon]

/-- The tokens of members that are each followed by a comma. -/
def listedMembers (members : List (String × Value)) : List Token :=
  members.flatMap fun m => memberHead m.1 ++ tokens m.2 ++ [.comma]

lemma itemTokens_concat (items : List Value) (v : Value) :
    itemTokens (items ++ [v]) = .comma :: listedItems items ++ tokens v := by
  induction items with
  | nil => simp [itemTokens, listedItems]
  | cons item items ih => simp [itemTokens, ih, listedItems]

lemma memberTokens_concat (members : List (String × Value)) (name : String) (v : Value) :
    memberTokens (members ++ [(name, v)]) =
      .comma :: listedMembers members ++ memberHead name ++ tokens v := by
  induction members with
  | nil => simp [memberTokens, listedMembers, memberHead]
  | cons m members ih => simp [memberTokens, ih, listedMembers, memberHead]

lemma tokens_array_concat (items : List Value) (v : Value) :
    tokens (.array (items ++ [v])) =
      .openBracket :: (listedItems items ++ tokens v) ++ [.closeBracket] := by
  cases items with
  | nil => simp [tokens, itemTokens, listedItems]
  | cons item items => simp [tokens, itemTokens_concat, listedItems]

lemma tokens_object_concat (members : List (String × Value)) (name : String) (v : Value) :
    tokens (.object (members ++ [(name, v)])) =
      .openBrace :: (listedMembers members ++ memberHead name ++ tokens v) ++ [.closeBrace] := by
  cases members with
  | nil => simp [tokens, memberTokens, listedMembers, memberHead]
  | cons m members => simp [tokens, memberTokens_concat, listedMembers, memberHead]

lemma nestingOfItems_lt {items : List Value} {k : Nat} (hk : k < depthLimit) :
    k + nestingOfItems items < depthLimit ↔ ∀ v ∈ items, k + nesting v < depthLimit := by
  induction items with
  | nil => simpa [nestingOfItems] using hk
  | cons item items ih =>
    rw [List.forall_mem_cons, ← ih, nestingOfItems]
    omega

lemma nestingOfMembers_lt {members : List (String × Value)} {k : Nat} (hk : k < depthLimit) :
    k + nestingOfMembers members < depthLimit ↔ ∀ m ∈ members, k + nesting m.2 < depthLimit := by
  induction members with
  | nil => simpa [nestingOfMembers] using hk
  | cons m members ih =>
    rw [List.forall_mem_cons, ← ih, nestingOfMembers]
    omega

/-- What has been read while these containers are open, the innermost of which waits for a value. -/
inductive Opened : List Frame → List Token → Prop
  | nothing : Opened [] []
  | array {frames : List Frame} {items : List Value} {ts : List Token} (outer : Opened frames ts)
    (free : frames.length + 1 < depthLimit)
    (bound : ∀ v ∈ items, frames.length + 1 + nesting v < depthLimit) :
    Opened (.array items :: frames) (ts ++ .openBracket :: listedItems items.reverse)
  | object {frames : List Frame} {members : List (String × Value)} {name : String} {ts : List Token}
    (outer : Opened frames ts) (free : frames.length + 1 < depthLimit)
    (bound : ∀ m ∈ members, frames.length + 1 + nesting m.2 < depthLimit) :
    Opened (.object members name :: frames)
      (ts ++ .openBrace :: (listedMembers members.reverse ++ memberHead name))

/-- What has been read when the machine is in a state. -/
inductive Reached : State → List Token → Prop
  | value {frames : List Frame} {ts : List Token} (h : Opened frames ts) : Reached (.value frames) ts
  | firstItem {frames : List Frame} {ts : List Token} (h : Opened (.array [] :: frames) ts) :
    Reached (.firstItem frames) ts
  | nextItem {frames : List Frame} {items : List Value} {ts : List Token}
    (h : Opened (.array items :: frames) ts) : Reached (.nextItem frames items) ts
  | afterItem {frames : List Frame} {items : List Value} {v : Value} {ts : List Token}
    (h : Opened (.array items :: frames) ts) (bound : frames.length + 1 + nesting v < depthLimit) :
    Reached (.afterItem frames (v :: items)) (ts ++ tokens v)
  | firstName {frames : List Frame} {ts : List Token} (outer : Opened frames ts)
    (free : frames.length + 1 < depthLimit) : Reached (.firstName frames) (ts ++ [.openBrace])
  | nextName {frames : List Frame} {members : List (String × Value)} {ts : List Token}
    (outer : Opened frames ts) (free : frames.length + 1 < depthLimit)
    (bound : ∀ m ∈ members, frames.length + 1 + nesting m.2 < depthLimit) :
    Reached (.nextName frames members) (ts ++ .openBrace :: listedMembers members.reverse)
  | afterName {frames : List Frame} {members : List (String × Value)} {name : String}
    {ts : List Token} (outer : Opened frames ts) (free : frames.length + 1 < depthLimit)
    (bound : ∀ m ∈ members, frames.length + 1 + nesting m.2 < depthLimit) :
    Reached (.afterName frames members name)
      (ts ++ .openBrace :: (listedMembers members.reverse ++ [.string name]))
  | afterMember {frames : List Frame} {members : List (String × Value)} {name : String} {v : Value}
    {ts : List Token} (h : Opened (.object members name :: frames) ts)
    (bound : frames.length + 1 + nesting v < depthLimit) :
    Reached (.afterMember frames ((name, v) :: members)) (ts ++ tokens v)
  | done {v : Value} (bound : nesting v < depthLimit) : Reached (.done v) (tokens v)

lemma Opened.length_lt {frames : List Frame} {ts : List Token} (h : Opened frames ts) :
    frames.length < depthLimit := by
  cases h with
  | nothing => decide
  | array _ free _ => exact free
  | object _ free _ => exact free

lemma reached_finish {frames : List Frame} {ts : List Token} {v : Value} (h : Opened frames ts)
    (bound : frames.length + nesting v < depthLimit) :
    Reached (State.finish v frames) (ts ++ tokens v) := by
  cases h with
  | nothing => exact .done (by simpa using bound)
  | array outer free items => exact .afterItem (.array outer free items) bound
  | object outer free members => exact .afterMember (.object outer free members) bound

lemma reached_start {frames : List Frame} {ts : List Token} {t : Token} {next : State}
    (h : Opened frames ts) (hstep : State.start frames t = .ok next) : Reached next (ts ++ [t]) := by
  have free : frames.length + 0 < depthLimit := h.length_lt
  unfold State.start at hstep
  split at hstep
  · cases hstep
    exact reached_finish h (v := .null) free
  · cases hstep
    exact reached_finish h (v := .bool true) free
  · cases hstep
    exact reached_finish h (v := .bool false) free
  · cases hstep
    exact reached_finish h (v := .number _) free
  · cases hstep
    exact reached_finish h (v := .string _) free
  · split at hstep
    · rename_i deeper
      cases hstep
      exact .firstItem (.array h deeper (by simp))
    · cases hstep
  · split at hstep
    · rename_i deeper
      cases hstep
      exact .firstName h deeper
    · cases hstep
  · cases hstep
  · cases hstep

lemma reached_name {frames : List Frame} {members : List (String × Value)} {ts : List Token}
    {t : Token} {next : State} (outer : Opened frames ts) (free : frames.length + 1 < depthLimit)
    (bound : ∀ m ∈ members, frames.length + 1 + nesting m.2 < depthLimit)
    (hstep : State.name frames members t = .ok next) :
    Reached next (ts ++ .openBrace :: (listedMembers members.reverse ++ [t])) := by
  unfold State.name at hstep
  split at hstep
  · cases hstep
    exact .afterName outer free bound
  · cases hstep
  · cases hstep

/-- Closing an array makes a value of what was read since it was opened. -/
lemma reached_closeArray {frames : List Frame} {items : List Value} {v : Value} {ts : List Token}
    (h : Opened (.array items :: frames) ts) (bound : frames.length + 1 + nesting v < depthLimit) :
    Reached (State.finish (.array (v :: items).reverse) frames) (ts ++ tokens v ++ [.closeBracket]) := by
  cases h with
  | array outer free items_bound =>
    have all : frames.length + 1 + nestingOfItems (v :: items).reverse < depthLimit := by
      rw [nestingOfItems_lt free]
      intro w hw
      rcases List.mem_cons.mp (List.mem_reverse.mp hw) with rfl | hw
      · exact bound
      · exact items_bound w hw
    have finished := reached_finish (v := .array (v :: items).reverse) outer
      (by rw [nesting]; omega)
    rw [List.reverse_cons, tokens_array_concat] at finished
    simpa using finished

lemma reached_closeObject {frames : List Frame} {members : List (String × Value)} {name : String}
    {v : Value} {ts : List Token} (h : Opened (.object members name :: frames) ts)
    (bound : frames.length + 1 + nesting v < depthLimit) :
    Reached (State.finish (.object ((name, v) :: members).reverse) frames)
      (ts ++ tokens v ++ [.closeBrace]) := by
  cases h with
  | object outer free members_bound =>
    have all : frames.length + 1 + nestingOfMembers ((name, v) :: members).reverse < depthLimit := by
      rw [nestingOfMembers_lt free]
      intro m hm
      rcases List.mem_cons.mp (List.mem_reverse.mp hm) with rfl | hm
      · exact bound
      · exact members_bound m hm
    have finished := reached_finish (v := .object ((name, v) :: members).reverse) outer
      (by rw [nesting]; omega)
    rw [List.reverse_cons, tokens_object_concat] at finished
    simpa using finished

/-- A comma behind an item or a member keeps what was read before it. -/
lemma reached_nextItem {frames : List Frame} {items : List Value} {v : Value} {ts : List Token}
    (h : Opened (.array items :: frames) ts) (bound : frames.length + 1 + nesting v < depthLimit) :
    Reached (.nextItem frames (v :: items)) (ts ++ tokens v ++ [.comma]) := by
  cases h with
  | array outer free items_bound =>
    have opened : Opened (.array (v :: items) :: frames) _ :=
      .array outer free (List.forall_mem_cons.mpr ⟨bound, items_bound⟩)
    simpa [listedItems] using Reached.nextItem opened

lemma reached_nextName {frames : List Frame} {members : List (String × Value)} {name : String}
    {v : Value} {ts : List Token} (h : Opened (.object members name :: frames) ts)
    (bound : frames.length + 1 + nesting v < depthLimit) :
    Reached (.nextName frames ((name, v) :: members)) (ts ++ tokens v ++ [.comma]) := by
  cases h with
  | object outer free members_bound =>
    have more : Reached (.nextName frames ((name, v) :: members)) _ :=
      .nextName outer free (List.forall_mem_cons.mpr ⟨bound, members_bound⟩)
    simpa [listedMembers] using more

/-- Whatever the machine accepts in a state belongs to what it has read. -/
lemma reached_step {s next : State} {ts : List Token} {t : Token} (h : Reached s ts)
    (hstep : State.step s t = .ok next) : Reached next (ts ++ [t]) := by
  cases h with
  | value h => exact reached_start h hstep
  | firstItem h =>
    by_cases closing : t = .closeBracket
    · subst closing
      cases hstep
      cases h with
      | array outer free _ =>
        have finished := reached_finish (v := .array []) outer free
        simpa [tokens, listedItems] using finished
    · rw [State.step] at hstep
      · exact reached_start h hstep
      · exact closing
  | nextItem h =>
    by_cases closing : t = .closeBracket
    · subst closing
      cases hstep
    · rw [State.step] at hstep
      · exact reached_start h hstep
      · exact closing
  | @afterItem frames items v ts h bound =>
    by_cases comma : t = .comma
    · subst comma
      cases hstep
      exact reached_nextItem h bound
    by_cases closing : t = .closeBracket
    · subst closing
      cases hstep
      exact reached_closeArray h bound
    · rw [State.step] at hstep
      · cases hstep
      · exact comma
      · exact closing
  | @firstName frames ts outer free =>
    by_cases closing : t = .closeBrace
    · subst closing
      cases hstep
      have finished := reached_finish (v := .object []) outer free
      simpa [tokens] using finished
    · rw [State.step] at hstep
      · simpa [listedMembers] using reached_name outer free (by simp) hstep
      · exact closing
  | @nextName frames members ts outer free bound =>
    by_cases closing : t = .closeBrace
    · subst closing
      cases hstep
    · rw [State.step] at hstep
      · simpa using reached_name outer free bound hstep
      · exact closing
  | @afterName frames members name ts outer free bound =>
    by_cases colon : t = .colon
    · subst colon
      cases hstep
      have opened : Opened (.object members name :: frames) _ := .object outer free bound
      simpa [memberHead] using Reached.value opened
    · rw [State.step] at hstep
      · cases hstep
      · exact colon
  | @afterMember frames members name v ts h bound =>
    by_cases comma : t = .comma
    · subst comma
      cases hstep
      exact reached_nextName h bound
    by_cases closing : t = .closeBrace
    · subst closing
      cases hstep
      exact reached_closeObject h bound
    · rw [State.step] at hstep
      · cases hstep
      · exact comma
      · exact closing
  | done bound => cases hstep

lemma reached_run {s last : State} {before ts : List Token} (h : Reached s before)
    (hrun : ts.foldlM State.step s = .ok last) : Reached last (before ++ ts) := by
  induction ts generalizing s before with
  | nil =>
    cases hrun
    rwa [List.append_nil]
  | cons t ts ih =>
    obtain ⟨next, hstep, hrun⟩ := bind_eq_ok.mp hrun
    have reached := ih (reached_step h hstep) hrun
    rwa [List.append_assoc] at reached

/-- The machine reads a value exactly from its tokens. -/
theorem run_eq_ok {ts : List Token} {v : Value} :
    (State.value []).run ts = .ok v ↔ ts = tokens v ∧ nesting v < depthLimit := by
  constructor
  · intro h
    obtain ⟨last, hrun, hlast⟩ := bind_eq_ok.mp h
    have reached := reached_run (.value .nothing) hrun
    rw [List.nil_append] at reached
    cases reached with
    | done bound =>
      cases hlast
      exact ⟨rfl, bound⟩
    | value | firstItem | nextItem | afterItem | firstName | nextName | afterName | afterMember =>
      cases hlast
  · rintro ⟨rfl, bound⟩
    have hrun := foldlM_tokens v [] [] (by simpa using bound)
    rw [List.append_nil] at hrun
    unfold State.run
    rw [hrun]
    rfl

/-- A text of a value: its tokens in any layout, and each of them in any spelling. -/
def Written (v : Value) (s : Bytes) : Prop := Layout (tokens v) s

/-- A text of a value in which not too many containers are nested. -/
structure IsTextOf (v : Value) (s : Bytes) : Prop where
  written : Written v s
  bound : nesting v < depthLimit

/-- A broken token stops the machine in every state. -/
lemma step_broken (s : State) {t : Token} (h : IsBroken t) (next : State) :
    State.step s t ≠ .ok next := by
  obtain ⟨quoted, fault, rfl⟩ := h
  intro hstep
  cases s <;> cases quoted <;> cases hstep

lemma unbroken_of_run {s last : State} {ts : List Token} (hrun : ts.foldlM State.step s = .ok last) :
    ∀ t ∈ ts, ¬IsBroken t := by
  induction ts generalizing s with
  | nil => simp
  | cons t ts ih =>
    obtain ⟨next, hstep, hrun⟩ := bind_eq_ok.mp hrun
    exact List.forall_mem_cons.mpr ⟨fun broken => step_broken s broken next hstep, ih hrun⟩

theorem value_parse_eq_ok {s : Bytes} {v : Value} : Value.parse s = .ok v ↔ IsTextOf v s := by
  unfold Value.parse
  constructor
  · intro h
    obtain ⟨heq, bound⟩ := run_eq_ok.mp h
    obtain ⟨last, hrun, -⟩ := bind_eq_ok.mp h
    have layout := layout_of_lex (unbroken_of_run hrun)
    rw [heq] at layout
    exact ⟨layout, bound⟩
  · rintro ⟨layout, bound⟩
    exact run_eq_ok.mpr ⟨lex_of_layout layout, bound⟩

lemma getLast?_tokens_object (members : List (String × Value)) :
    (tokens (.object members)).getLast? = some .closeBrace := by
  rcases List.eq_nil_or_concat members with rfl | ⟨others, ⟨name, v⟩, rfl⟩
  · simp [tokens]
  · rw [List.concat_eq_append, tokens_object_concat, List.getLast?_concat]

/-- An object ends where its text ends: only blanks may follow. -/
theorem value_parse_append {s : Bytes} {members : List (String × Value)}
    (h : Value.parse s = .ok (.object members)) (t : Bytes) :
    Value.parse (s ++ t) =
      if t.all isBlank = true then .ok (.object members) else .error .trailingText := by
  obtain ⟨layout, bound⟩ := value_parse_eq_ok.mp h
  have last : ∀ n, (tokens (.object members)).getLast? ≠ some (.number n) := by
    intro n
    rw [getLast?_tokens_object]
    simp
  unfold Value.parse State.run
  rw [lex_append layout last t, foldlM_tokens (.object members) [] (lex t) (by simpa using bound)]
  split
  · rename_i blank
    rw [lex_eq_nil.mpr blank]
    rfl
  · rename_i more
    obtain ⟨u, us, hlex⟩ := List.exists_cons_of_ne_nil fun none => more (lex_eq_nil.mp none)
    rw [hlex]
    rfl

end BootstrapVoucher.Proofs
