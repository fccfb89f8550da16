/-
# Cutting undoes joining

A text joined from pieces is cut into the same pieces again, provided that no piece
has a separator in it. There has to be a piece: joining none and joining one empty
piece give the same text.
-/

import CallTrace.Text.Split
import Mathlib.Data.List.Basic
import Mathlib.Data.List.DropRight
import Mathlib.Data.List.Induction

namespace CallTrace.Text

section Cut

variable {α : Type} {separates : α → Bool}

/-- A text without separators is one piece. -/
theorem splitAt_of_forall_not {piece : List α} (free : ∀ c ∈ piece, separates c = false) :
    splitAt separates piece = [piece] := by
  induction piece with
  | nil => rfl
  | cons c piece ih =>
      have whole : splitAt separates piece = [piece] := ih fun d member => free d (by simp [member])
      have first : separates c = false := free c (by simp)
      simp [splitAt, whole, first]

/-- The first piece ends at the first separator. -/
theorem splitAt_append_cons {piece : List α} (free : ∀ c ∈ piece, separates c = false)
    {separator : α} (isSeparator : separates separator) (rest : List α) :
    splitAt separates (piece ++ separator :: rest) = piece :: splitAt separates rest := by
  induction piece with
  | nil => simp [splitAt, isSeparator]
  | cons c piece ih =>
      have cut : splitAt separates (piece ++ separator :: rest) =
          piece :: splitAt separates rest :=
        ih fun d member => free d (by simp [member])
      have first : separates c = false := free c (by simp)
      simp [splitAt, cut, first]

/-- Pieces each introduced by a separator, after one that is not. -/
theorem splitAt_append_flatMap {first : List α} {others : List (List α)}
    (free : ∀ piece ∈ first :: others, ∀ c ∈ piece, separates c = false)
    {separator : α} (isSeparator : separates separator) :
    splitAt separates (first ++ others.flatMap (separator :: ·)) = first :: others := by
  induction others generalizing first with
  | nil =>
      rw [List.flatMap_nil, List.append_nil]
      exact splitAt_of_forall_not (free first (by simp))
  | cons second others ih =>
      rw [List.flatMap_cons, List.cons_append,
        splitAt_append_cons (free first (by simp)) isSeparator,
        ih fun piece member => free piece (List.mem_cons_of_mem _ member)]

/-- There is always a piece. -/
theorem splitAt_ne_nil (separates : α → Bool) (text : List α) : splitAt separates text ≠ [] := by
  cases text with
  | nil => exact List.cons_ne_nil _ _
  | cons c rest =>
      rw [splitAt]
      split
      · exact List.cons_ne_nil _ _
      · split <;> exact List.cons_ne_nil _ _

/-- No piece has a separator in it. -/
theorem forall_mem_splitAt {text : List α} :
    ∀ piece ∈ splitAt separates text, ∀ c ∈ piece, separates c = false := by
  induction text with
  | nil => simp [splitAt]
  | cons c text ih =>
      rw [splitAt]
      split
      · exact List.forall_mem_cons.mpr ⟨List.forall_mem_nil _, ih⟩
      next notHere =>
        have first : separates c = false := by simpa using notHere
        obtain ⟨piece, pieces, split⟩ := List.exists_cons_of_ne_nil (splitAt_ne_nil separates text)
        rw [split, List.forall_mem_cons] at ih
        rw [split]
        exact List.forall_mem_cons.mpr ⟨List.forall_mem_cons.mpr ⟨first, ih.1⟩, ih.2⟩

end Cut

theorem joinWith_cons (separator : Char) (first : List Char) (others : List (List Char)) :
    joinWith separator (first :: others) = first ++ others.flatMap (separator :: ·) := by
  induction others generalizing first with
  | nil => rw [joinWith, List.flatMap_nil, List.append_nil]
  | cons second others ih =>
      rw [joinWith, ih, List.flatMap_cons, List.cons_append]
      simp

theorem joinWith_concat {separator : Char} {front : List (List Char)} (some : front ≠ [])
    (last : List Char) :
    joinWith separator (front ++ [last]) = joinWith separator front ++ separator :: last := by
  cases front with
  | nil => exact absurd rfl some
  | cons first others =>
      rw [List.cons_append, joinWith_cons, joinWith_cons, List.flatMap_append,
        List.flatMap_singleton, List.append_assoc]

/-- Joined pieces are found again. -/
theorem splitAt_joinWith {separates : Char → Bool} {separator : Char} {pieces : List (List Char)}
    (nonempty : pieces ≠ []) (isSeparator : separates separator)
    (free : ∀ piece ∈ pieces, ∀ c ∈ piece, separates c = false) :
    splitAt separates (joinWith separator pieces) = pieces := by
  cases pieces with
  | nil => exact absurd rfl nonempty
  | cons first others =>
      rw [joinWith_cons]
      exact splitAt_append_flatMap free isSeparator

/-- Every character of a joined text is a separator or belongs to a piece. -/
theorem mem_joinWith {separator c : Char} {pieces : List (List Char)}
    (member : c ∈ joinWith separator pieces) : c = separator ∨ ∃ piece ∈ pieces, c ∈ piece := by
  cases pieces with
  | nil => simp [joinWith] at member
  | cons first others =>
      rw [joinWith_cons, List.mem_append, List.mem_flatMap] at member
      rcases member with inFirst | ⟨piece, among, inside⟩
      · exact .inr ⟨first, by simp, inFirst⟩
      · rcases List.mem_cons.mp inside with rfl | inPiece
        · exact .inl rfl
        · exact .inr ⟨piece, by simp [among], inPiece⟩

/-- Words joined by a blank are found again; here no words at all are allowed. -/
theorem words_joinWith {separator : Char} {items : List (List Char)}
    (blank : isBlank separator) (nonempty : ∀ item ∈ items, item ≠ [])
    (free : ∀ item ∈ items, ∀ c ∈ item, isBlank c = false) :
    words (joinWith separator items) = items := by
  by_cases none : items = []
  · rw [none]
    rfl
  · rw [words, splitAt_joinWith none blank free, List.filter_eq_self]
    intro item member
    rw [List.isEmpty_eq_false_iff.mpr (nonempty item member)]
    rfl

/-- An opening is dropped if it is there, and once. -/
theorem dropOpening_append (opening rest : List Char) :
    dropOpening opening (opening ++ rest) = rest := by
  rw [dropOpening, List.isPrefixOf?_eq_some_iff_append_eq.mpr rfl]

theorem eq_dropOpening_or_eq_append (opening text : List Char) :
    text = dropOpening opening text ∨ text = opening ++ dropOpening opening text := by
  rw [dropOpening]
  cases found : opening.isPrefixOf? text with
  | none => exact .inl rfl
  | some rest => exact .inr (List.isPrefixOf?_eq_some_iff_append_eq.mp found).symm

/-- A text that does not end in a character has none of it to trim. -/
theorem trimEnd_eq_self {c : Char} {text : List Char} (last : text.getLast? ≠ some c) :
    trimEnd c text = text := by
  cases text using List.reverseRecOn with
  | nil => rfl
  | append_singleton text d =>
      have stays : (d :: text.reverse).dropWhile (· == c) = d :: text.reverse :=
        List.dropWhile_cons_of_neg (by simpa using last)
      rw [trimEnd, List.reverse_concat, stays, List.reverse_cons, List.reverse_reverse]

/-- What is trimmed off a text does not count in a longer one that ends with it. -/
theorem trimEnd_append_trimEnd (c : Char) (front text : List Char) :
    trimEnd c (front ++ trimEnd c text) = trimEnd c (front ++ text) := by
  rw [trimEnd, trimEnd, trimEnd, List.reverse_append, List.reverse_append, List.reverse_reverse,
    List.dropWhile_append, List.dropWhile_append, List.dropWhile_idempotent]

@[simp]
theorem trimEnd_trimEnd (c : Char) (text : List Char) :
    trimEnd c (trimEnd c text) = trimEnd c text :=
  trimEnd_append_trimEnd c [] text

theorem mem_of_mem_trimEnd {c d : Char} {text : List Char} (member : d ∈ trimEnd c text) :
    d ∈ text := by
  rw [trimEnd, List.mem_reverse] at member
  exact List.mem_reverse.mp ((List.dropWhile_sublist _).subset member)

end CallTrace.Text
