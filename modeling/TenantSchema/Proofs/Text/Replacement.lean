import Mathlib.Tactic.Linarith
import Mathlib.Tactic.Ring
import TenantSchema.Proofs.Text.Trimming

namespace TenantSchema.Text

/-!
# Replacement

A replacement is put in for every occurrence, and nothing else depends on it.  If there is an
occurrence, the text that comes out of it tells what the replacement was.
-/

/-- The length of what comes out depends on the length of the replacement alone. -/
theorem exists_length_replaceFrom
    (part : Text)
    (pending : Nat)
    (text : Text) :
    ∃ kept occurrences,
      ∀ replacement,
        (replaceFrom part replacement pending text).length =
          kept + occurrences * replacement.length := by
  induction text generalizing pending with
  | nil =>
      exact ⟨0, 0, fun replacement => by cases pending <;> simp [replaceFrom]⟩
  | cons character rest inductionHypothesis =>
      cases pending with
      | succ pending =>
          obtain ⟨kept, occurrences, length⟩ := inductionHypothesis pending
          exact ⟨kept, occurrences, fun replacement => by
            rw [replaceFrom, length]⟩
      | zero =>
          by_cases starts : startsWith part (character :: rest) = true
          · obtain ⟨kept, occurrences, length⟩ :=
              inductionHypothesis (part.length - 1)
            refine ⟨kept, occurrences + 1, fun replacement => ?_⟩
            rw [replaceFrom, if_pos starts, List.length_append, length]
            ring
          · obtain ⟨kept, occurrences, length⟩ := inductionHypothesis 0
            refine ⟨kept + 1, occurrences, fun replacement => ?_⟩
            rw [replaceFrom, if_neg starts, List.length_cons, length]
            ring

/-- What comes after a replacement is determined by the length, so the replacement is. -/
theorem eq_of_append_replaceFrom_eq
    {part first second : Text}
    {pending : Nat}
    {text : Text}
    (same :
      first ++ replaceFrom part first pending text =
        second ++ replaceFrom part second pending text) :
    first = second := by
  obtain ⟨kept, occurrences, length⟩ := exists_length_replaceFrom part pending text
  have lengths := congrArg List.length same
  rw [List.length_append, List.length_append, length, length] at lengths
  have sameLength : first.length = second.length := by
    apply Nat.eq_of_mul_eq_mul_left (Nat.succ_pos occurrences)
    linarith
  exact (List.append_inj same sameLength).1

/-- If a part occurs, the text tells what it was replaced by. -/
theorem replaceAll_injective
    {part first second text : Text}
    (nonempty : part ≠ [])
    (occurs : occursIn part text = true)
    (same : replaceAll part first text = replaceAll part second text) :
    first = second := by
  induction text with
  | nil =>
      exact (nonempty (List.isEmpty_iff.mp occurs)).elim
  | cons character rest inductionHypothesis =>
      rw [replaceAll, replaceAll, replaceFrom, replaceFrom] at same
      by_cases starts : startsWith part (character :: rest) = true
      · rw [if_pos starts, if_pos starts] at same
        exact eq_of_append_replaceFrom_eq same
      · rw [if_neg starts, if_neg starts] at same
        rw [occursIn, Bool.or_eq_true] at occurs
        exact inductionHypothesis (occurs.resolve_left starts)
          (List.cons.inj same).2

section

variable {part replacement : Text}

/-- What comes out is made of the text and the replacement. -/
theorem mem_replaceFrom
    {character : Char}
    {pending : Nat}
    {text : Text}
    (member : character ∈ replaceFrom part replacement pending text) :
    character ∈ text ∨ character ∈ replacement := by
  induction text generalizing pending with
  | nil =>
      cases pending <;> cases member
  | cons first rest inductionHypothesis =>
      have ofRest {pending : Nat} (inRest : character ∈ replaceFrom part replacement pending rest) :
          character ∈ first :: rest ∨ character ∈ replacement :=
        (inductionHypothesis inRest).imp_left (List.mem_cons_of_mem first)
      cases pending with
      | succ pending =>
          exact ofRest member
      | zero =>
          rw [replaceFrom] at member
          split at member
          · rcases List.mem_append.mp member with inserted | inRest
            · exact .inr inserted
            · exact ofRest inRest
          · rcases List.mem_cons.mp member with rfl | inRest
            · exact .inl List.mem_cons_self
            · exact ofRest inRest

theorem replaceAll_ne_nil
    {text : Text}
    (inserts : replacement ≠ [])
    (nonempty : text ≠ []) :
    replaceAll part replacement text ≠ [] := by
  cases text with
  | nil =>
      exact (nonempty rfl).elim
  | cons first rest =>
      rw [replaceAll, replaceFrom]
      split
      · exact List.append_ne_nil_of_left_ne_nil inserts _
      · exact List.cons_ne_nil _ _

/-- A trimmed text stays trimmed if what is put in is trimmed as well, and not empty. -/
theorem trimRight_replaceFrom
    {pending : Nat}
    {text : Text}
    (inserts : replacement ≠ [])
    (insertsTrimmed : trimRight replacement = replacement)
    (trimmed : trimRight text = text) :
    trimRight (replaceFrom part replacement pending text) =
      replaceFrom part replacement pending text := by
  induction text generalizing pending with
  | nil =>
      cases pending <;> rfl
  | cons first rest inductionHypothesis =>
      have restTrimmed := trimmed_of_cons trimmed
      cases pending with
      | succ pending =>
          exact inductionHypothesis restTrimmed
      | zero =>
          rw [replaceFrom]
          split
          · exact trimRight_append_of_trimmed insertsTrimmed
              (inductionHypothesis restTrimmed)
          · cases rest with
            | nil =>
                exact trimmed
            | cons next others =>
                have more : replaceFrom part replacement 0 (next :: others) ≠ [] :=
                  replaceAll_ne_nil inserts (List.cons_ne_nil _ _)
                have kept :
                    trimRight (replaceFrom part replacement 0 (next :: others)) =
                      replaceFrom part replacement 0 (next :: others) :=
                  inductionHypothesis restTrimmed
                have solid := not_allBlank_of_trimmed kept more
                rw [← List.singleton_append, trimRight_append_of_not_allBlank solid, kept]

end

end TenantSchema.Text
