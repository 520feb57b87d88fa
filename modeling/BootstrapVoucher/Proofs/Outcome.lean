import BootstrapVoucher.Log
import Mathlib

/-!
# Chained steps

A step that fails ends the chain with its own error. This file opens such chains from the outside:
what a chain answers is read off the first step that does not succeed. Log records that the steps
write have no part in the answer.
-/

namespace BootstrapVoucher.Proofs

variable {ε δ α β : Type}

lemma bind_eq_ok {x : Except ε α} {f : α → Except ε β} {b : β} :
    x >>= f = .ok b ↔ ∃ a, x = .ok a ∧ f a = .ok b := by
  cases x with
  | error e => simp [bind, Except.bind]
  | ok a => simp [bind, Except.bind]

lemma bind_eq_error {x : Except ε α} {f : α → Except ε β} {e : ε} :
    x >>= f = .error e ↔ x = .error e ∨ ∃ a, x = .ok a ∧ f a = .error e := by
  cases x with
  | error e => simp [bind, Except.bind]
  | ok a => simp [bind, Except.bind]

lemma map_eq_ok {x : Except ε α} {f : α → β} {b : β} :
    x.map f = .ok b ↔ ∃ a, x = .ok a ∧ f a = b := by
  cases x with
  | error e => simp [Except.map]
  | ok a => simp [Except.map]

lemma map_eq_error {x : Except ε α} {f : α → β} {e : ε} : x.map f = .error e ↔ x = .error e := by
  cases x with
  | error e => simp [Except.map]
  | ok a => simp [Except.map]

lemma mapError_eq_ok {x : Except ε α} {f : ε → δ} {a : α} :
    x.mapError f = .ok a ↔ x = .ok a := by
  cases x with
  | error e => simp [Except.mapError]
  | ok a => simp [Except.mapError]

lemma mapError_eq_error {x : Except ε α} {f : ε → δ} {d : δ} :
    x.mapError f = .error d ↔ ∃ e, x = .error e ∧ f e = d := by
  cases x with
  | error e => simp [Except.mapError]
  | ok a => simp [Except.mapError]

lemma exists_of_isOk {x : Except ε α} (h : x.isOk = true) : ∃ a, x = .ok a := by
  cases x with
  | error e => cases h
  | ok a => exact ⟨a, rfl⟩

lemma ok_bind (a : α) (f : α → Except ε β) : (Except.ok a : Except ε α) >>= f = f a := rfl

lemma error_bind (e : ε) (f : α → Except ε β) : (Except.error e : Except ε α) >>= f = .error e := rfl

lemma forall₂_of_mapM {f : α → Except ε β} {l : List α} {r : List β} (h : l.mapM f = .ok r) :
    List.Forall₂ (fun a b => f a = .ok b) l r := by
  induction l generalizing r with
  | nil =>
    cases h
    exact .nil
  | cons a l ih =>
    rw [List.mapM_cons] at h
    obtain ⟨b, hb, h⟩ := bind_eq_ok.mp h
    obtain ⟨bs, hbs, h⟩ := bind_eq_ok.mp h
    cases h
    exact .cons hb (ih hbs)

lemma ok_of_mem_mapM {f : α → Except ε β} {l : List α} {r : List β} (h : l.mapM f = .ok r) {b : β}
    (hb : b ∈ r) : ∃ a, f a = .ok b := by
  have pairs := forall₂_of_mapM h
  clear h
  induction pairs with
  | nil => cases hb
  | cons first _ ih =>
    rcases List.mem_cons.mp hb with rfl | hb
    · exact ⟨_, first⟩
    · exact ih hb

lemma ok_of_forM {f : α → Except ε Unit} {l : List α} (h : l.forM f = .ok ()) :
    ∀ a ∈ l, f a = .ok () := by
  induction l with
  | nil => simp
  | cons a l ih =>
    rw [List.forM] at h
    obtain ⟨_, ha, h⟩ := bind_eq_ok.mp h
    intro b hb
    rcases List.mem_cons.mp hb with rfl | hb
    · exact ha
    · exact ih h b hb

/-- Every step of a run that succeeds has succeeded. -/
lemma ok_of_foldlM {σ : Type} {step : σ → α → Except ε σ} {l : List α} {s last : σ}
    (h : l.foldlM step s = .ok last) : ∀ a ∈ l, ∃ before after, step before a = .ok after := by
  induction l generalizing s with
  | nil => simp
  | cons a l ih =>
    rw [List.foldlM_cons] at h
    obtain ⟨next, hnext, h⟩ := bind_eq_ok.mp h
    intro b hb
    rcases List.mem_cons.mp hb with rfl | hb
    · exact ⟨s, next, hnext⟩
    · exact ih h b hb

/-- What every step keeps, a run of steps keeps. -/
lemma foldlM_invariant {σ : Type} (P : σ → Prop) {step : σ → α → Except ε σ}
    (keeps : ∀ s a next, P s → step s a = .ok next → P next) {l : List α} {s last : σ} (hs : P s)
    (h : l.foldlM step s = .ok last) : P last := by
  induction l generalizing s with
  | nil =>
    cases h
    exact hs
  | cons a l ih =>
    rw [List.foldlM_cons, bind_eq_ok] at h
    obtain ⟨next, hnext, h⟩ := h
    exact ih (keeps s a next hs hnext) h

/-! ### Steps that write log records -/

lemma value_bind (x : ExceptT ε Logged α) (f : α → ExceptT ε Logged β) :
    (x >>= f).run.value = x.run.value >>= fun a => (f a).run.value := by
  change (x.run >>= ExceptT.bindCont f).value = _
  cases h : x.run.value with
  | error e => simp only [bind, ExceptT.bindCont, h, Except.bind, pure]
  | ok a =>
    simp only [bind, ExceptT.bindCont, h, Except.bind]
    rfl

lemma value_foldlM {σ : Type} (step : σ → α → ExceptT ε Logged σ) (l : List α) (s : σ) :
    (l.foldlM step s).run.value = l.foldlM (fun s a => (step s a).run.value) s := by
  induction l generalizing s with
  | nil => rfl
  | cons a l ih =>
    rw [List.foldlM_cons, List.foldlM_cons, value_bind]
    exact congrArg _ (funext ih)

end BootstrapVoucher.Proofs
