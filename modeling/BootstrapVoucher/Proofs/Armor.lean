import BootstrapVoucher.Armor
import BootstrapVoucher.Proofs.Outcome

/-!
# Armour taken off and put on

A text is stripped exactly when it is the frame of a body without faults, and the body is what is
between the frame's lines. One line feed may follow the frame; it cannot be taken for one of the
frame's own, because a frame ends with a hyphen.
-/

namespace BootstrapVoucher.Proofs

open Armor

lemma dropFront_eq_some {front text rest : List Char} :
    dropFront? front text = some rest ↔ text = front ++ rest := by
  unfold dropFront?
  constructor
  · intro h
    split at h
    · rename_i hprefix
      obtain ⟨tail, rfl⟩ := List.isPrefixOf_iff_prefix.mp hprefix
      cases h
      rw [List.drop_left]
    · cases h
  · rintro rfl
    rw [if_pos (List.isPrefixOf_iff_prefix.mpr (List.prefix_append front rest)), List.drop_left]

lemma dropBack_eq_some {back text rest : List Char} :
    dropBack? back text = some rest ↔ text = rest ++ back := by
  unfold dropBack?
  constructor
  · intro h
    split at h
    · rename_i hsuffix
      obtain ⟨front, rfl⟩ := List.isSuffixOf_iff_suffix.mp hsuffix
      cases h
      rw [List.length_append, Nat.add_sub_cancel, List.take_left]
    · cases h
  · rintro rfl
    rw [if_pos (List.isSuffixOf_iff_suffix.mpr (List.suffix_append rest back)), List.length_append,
      Nat.add_sub_cancel, List.take_left]

/-- The characters of an armoured body, up to the end of the footer line. -/
def frame (body : List Char) : List Char :=
  header.toList ++ '\n' :: body ++ '\n' :: footer.toList

lemma toList_add (body : String) : (add body).toList = frame body.toList ++ ['\n'] := by
  simp [add, frame]

lemma dropBack_lineFeed_frame (front : List Char) :
    dropBack? ['\n'] (front ++ '\n' :: footer.toList) = none := by
  cases h : dropBack? ['\n'] (front ++ '\n' :: footer.toList) with
  | none => rfl
  | some rest =>
    have hlast := congrArg List.getLast? (dropBack_eq_some.mp h)
    rw [List.getLast?_append_of_ne_nil _ (by simp)] at hlast
    simp [footer] at hlast

lemma strip_of_parts {text : String} {rest framed body : List Char}
    (hfront : dropFront? (header.toList ++ ['\n']) text.toList = some rest)
    (hback : (dropBack? ['\n'] rest).getD rest = framed)
    (htail : dropBack? ('\n' :: footer.toList) framed = some body) :
    strip text = match bodyFault? body with
      | some fault => .error fault
      | none => .ok (String.ofList body) := by
  unfold strip
  cases hfault : bodyFault? body with
  | none => simp only [hfront, hback, htail, hfault]
  | some fault => simp only [hfront, hback, htail, hfault]

/-- What becomes of a frame is decided by the body in it, with or without a line feed at the end. -/
lemma strip_framed {text : String} {body : List Char}
    (h : text.toList = frame body ∨ text.toList = frame body ++ ['\n']) :
    strip text = match bodyFault? body with
      | some fault => .error fault
      | none => .ok (String.ofList body) := by
  have htail : dropBack? ('\n' :: footer.toList) (body ++ '\n' :: footer.toList) = some body :=
    dropBack_eq_some.mpr rfl
  rcases h with h | h
  · have hfront : dropFront? (header.toList ++ ['\n']) text.toList =
        some (body ++ '\n' :: footer.toList) := by
      rw [dropFront_eq_some, h, frame]
      simp
    exact strip_of_parts hfront (by rw [dropBack_lineFeed_frame, Option.getD_none]) htail
  · have hfront : dropFront? (header.toList ++ ['\n']) text.toList =
        some (body ++ '\n' :: footer.toList ++ ['\n']) := by
      rw [dropFront_eq_some, h, frame]
      simp
    have hback : dropBack? ['\n'] (body ++ '\n' :: footer.toList ++ ['\n']) =
        some (body ++ '\n' :: footer.toList) :=
      dropBack_eq_some.mpr rfl
    exact strip_of_parts hfront (by rw [hback, Option.getD_some]) htail

/-- A text that is stripped is the frame of a faultless body. -/
lemma framed_of_strip {text body : String} (h : strip text = .ok body) :
    bodyFault? body.toList = none ∧
      (text.toList = frame body.toList ∨ text.toList = frame body.toList ++ ['\n']) := by
  unfold strip at h
  split at h
  · rename_i rest hfront
    simp only at h
    split at h
    · rename_i found hback
      split at h
      · cases h
      · rename_i faultless
        cases h
        rw [String.toList_ofList]
        refine ⟨faultless, ?_⟩
        have htext := dropFront_eq_some.mp hfront
        have hframed := dropBack_eq_some.mp hback
        cases hfeed : dropBack? ['\n'] rest with
        | none =>
          rw [hfeed, Option.getD_none] at hframed
          left
          rw [htext, hframed, frame]
          simp
        | some framed =>
          rw [hfeed, Option.getD_some] at hframed
          right
          rw [htext, dropBack_eq_some.mp hfeed, hframed, frame]
          simp
    · cases h
  · cases h

/-- Framing a body and stripping the frame gives the body back, or names its fault. -/
lemma strip_add (body : String) :
    strip (add body) = match bodyFault? body.toList with
      | some fault => .error fault
      | none => .ok body := by
  rw [strip_framed (.inr (toList_add body)), String.ofList_toList]

end BootstrapVoucher.Proofs
