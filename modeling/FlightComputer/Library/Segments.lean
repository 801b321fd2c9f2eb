import Mathlib.Data.List.Basic
import Mathlib.Data.List.Infix

/-!
# Splitting a stream at a terminator

A stream is cut into the segments that a terminator ends, each with the
terminator that ended it, and a rest that no terminator ends yet. Extending the
stream by one element extends the rest, or ends it and leaves an empty one
(`segments_concat`, `rest_concat`).

The terminator is a decidable predicate, so that the elements of the stream may
carry more than the symbol that ends a segment.
-/

set_option autoImplicit false

namespace FlightComputer.Library

universe u

variable {α : Type u} (ends : α → Bool)

/-- One more element: it joins the rest, or ends it. -/
def splitStep (split : List (List α × α) × List α) (x : α) : List (List α × α) × List α :=
  if ends x then (split.1 ++ [(split.2, x)], []) else (split.1, split.2 ++ [x])

/-- The ended segments of a stream, with their terminators, and its rest. -/
def splitStream (stream : List α) : List (List α × α) × List α :=
  stream.foldl (splitStep ends) ([], [])

/-- The segments a terminator ends, each with its terminator. -/
def segments (stream : List α) : List (List α × α) := (splitStream ends stream).1

/-- What follows the last terminator. -/
def rest (stream : List α) : List α := (splitStream ends stream).2

/-- A segment put back in front of its terminator. -/
def terminated (piece : List α × α) : List α := piece.1 ++ [piece.2]

theorem segments_concat (stream : List α) (x : α) :
    segments ends (stream ++ [x]) =
      if ends x then segments ends stream ++ [(rest ends stream, x)]
      else segments ends stream := by
  simp only [segments, rest, splitStream, List.foldl_append, List.foldl_cons, List.foldl_nil,
    splitStep]
  split <;> rfl

theorem rest_concat (stream : List α) (x : α) :
    rest ends (stream ++ [x]) = if ends x then [] else rest ends stream ++ [x] := by
  simp only [rest, splitStream, List.foldl_append, List.foldl_cons, List.foldl_nil, splitStep]
  split <;> rfl

variable {ends}

/-- A stream is its terminated segments followed by its rest. -/
theorem flatten_segments_append_rest (stream : List α) :
    ((segments ends stream).map terminated).flatten ++ rest ends stream = stream := by
  induction stream using List.reverseRecOn with
  | nil => rfl
  | append_singleton stream x ih =>
      rw [segments_concat, rest_concat]
      split
      · simp only [List.map_append, List.map_cons, List.map_nil, List.flatten_append,
          List.flatten_cons, List.flatten_nil, List.append_nil, terminated]
        rw [← List.append_assoc]
        exact congrArg (· ++ [x]) ih
      · rw [← List.append_assoc]
        exact congrArg (· ++ [x]) ih

/-- Elements that do not end a segment only extend the rest. -/
theorem split_append_of_not_ends (stream : List α) {more : List α}
    (clean : ∀ x ∈ more, ends x = false) :
    segments ends (stream ++ more) = segments ends stream ∧
      rest ends (stream ++ more) = rest ends stream ++ more := by
  induction more using List.reverseRecOn with
  | nil => simp
  | append_singleton more x ih =>
      have last : ends x = false := clean x (by simp)
      obtain ⟨segs, tail⟩ := ih fun y member => clean y (by simp [member])
      rw [← List.append_assoc, segments_concat, rest_concat, last, segs, tail]
      simp

end FlightComputer.Library
