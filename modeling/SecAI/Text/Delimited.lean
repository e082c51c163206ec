/-
Module: SecAI.Text.Delimited
Purpose: How often a delimiter occurs in a text, when it begins with a mark
  that is nowhere else in it.
Trusted boundary: none
Main exports:
  infix_append_separator_iff, message
-/
import Mathlib.Data.List.Infix
import Mathlib.Data.List.Nodup
import Mathlib.Data.List.TakeWhile
import Mathlib.Algebra.BigOperators.Group.List.Basic

namespace Delimited

variable {α : Type} [DecidableEq α]

section Occurrences

variable {part before behind : List α} {separator : α}

omit [DecidableEq α] in
theorem prefix_append_separator_iff (absent : separator ∉ part) :
    part <+: before ++ separator :: behind ↔ part <+: before := by
  induction before generalizing part with
  | nil =>
      cases part with
      | nil => simp
      | cons head rest =>
          rw [List.mem_cons, not_or] at absent
          simp [List.cons_prefix_cons, Ne.symm absent.1]
  | cons first before ih =>
      cases part with
      | nil => simp
      | cons head rest =>
          rw [List.mem_cons, not_or] at absent
          rw [List.cons_append, List.cons_prefix_cons, List.cons_prefix_cons,
            ih absent.2]

omit [DecidableEq α] in
theorem infix_append_separator_iff (absent : separator ∉ part) :
    part <:+: before ++ separator :: behind ↔
      part <:+: before ∨ part <:+: behind := by
  induction before with
  | nil =>
      have front := @prefix_append_separator_iff α part [] behind separator
        absent
      rw [List.nil_append] at front ⊢
      rw [List.infix_cons_iff, front, List.prefix_nil, List.infix_nil]
  | cons first before ih =>
      have front := @prefix_append_separator_iff α part (first :: before)
        behind separator absent
      rw [List.cons_append] at front ⊢
      rw [List.infix_cons_iff, front, ih, ← or_assoc,
        ← List.infix_cons_iff]

end Occurrences

/-- The characters that tags are written with. -/
structure Brackets (α : Type) where
  mark : α
  slash : α
  stop : α
  mark_ne_slash : mark ≠ slash
  mark_ne_stop : mark ≠ stop
  slash_ne_stop : slash ≠ stop

/-- The name of a section. -/
structure Tag (brackets : Brackets α) where
  name : List α
  plain : ∀ character ∈ name, character ≠ brackets.mark ∧
    character ≠ brackets.slash ∧ character ≠ brackets.stop

namespace Tag

variable {brackets : Brackets α} (tag : Tag brackets)

/-- `<name>`. -/
def opening : List α := brackets.mark :: (tag.name ++ [brackets.stop])

/-- `</name>`. -/
def closing : List α :=
  brackets.mark :: brackets.slash :: (tag.name ++ [brackets.stop])

end Tag

/-- A section of a message. -/
structure Part (brackets : Brackets α) where
  tag : Tag brackets
  body : List α

/-- The parts of a message, one behind the other. -/
def message {brackets : Brackets α} (gap : List α) :
    List (Part brackets) → List α
  | [] => []
  | [part] => part.tag.opening ++ part.body ++ part.tag.closing
  | part :: rest =>
      part.tag.opening ++ part.body ++ part.tag.closing ++
        (gap ++ message gap rest)

end Delimited
