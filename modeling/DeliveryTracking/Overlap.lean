/-
# `DeliveryTracking.Overlap` — a sequence in pieces that share their ends

`pieces n` cuts a sequence into pieces of `n` elements, the last element of each
being the first of the next.  So no two consecutive elements are separated, and
none are together twice (`flatMap_segments_pieces`).  A difference between the
ends is the sum of those between consecutive elements (`sum_segments_sub`).
-/
import Mathlib.Algebra.BigOperators.Group.List.Basic
import Mathlib.Data.List.Infix

namespace DeliveryTracking

variable {α : Type*}

/-- The pairs of consecutive elements. -/
def segments (xs : List α) : List (α × α) := xs.zip xs.tail

theorem segments_cons_cons (x y : α) (xs : List α) :
    segments (x :: y :: xs) = (x, y) :: segments (y :: xs) := rfl

/-- The pairs on both sides of an element. -/
theorem segments_take_drop : ∀ (k : Nat) (xs : List α),
    segments (xs.take (k + 1)) ++ segments (xs.drop k) = segments xs
  | _, [] => by simp [segments]
  | 0, x :: xs => rfl
  | k + 1, [x] => by simp [segments]
  | k + 1, x :: y :: xs => by
      rw [List.take_succ_cons, List.take_succ_cons, List.drop_succ_cons, segments_cons_cons,
        segments_cons_cons, ← List.take_succ_cons, List.cons_append,
        segments_take_drop k (y :: xs)]

/-- The pairs up to an element and from it on. -/
theorem segments_append_cons : ∀ (xs : List α) (y : α) (ys : List α),
    segments (xs ++ y :: ys) = segments (xs ++ [y]) ++ segments (y :: ys)
  | [], _, _ => rfl
  | [_], _, _ => rfl
  | x :: x' :: xs, y, ys => by
      rw [List.cons_append, List.cons_append, segments_cons_cons, ← List.cons_append,
        segments_append_cons (x' :: xs) y ys]
      rfl

/-- The differences between consecutive elements add up to the one between the ends. -/
theorem sum_segments_sub {G : Type*} [AddCommGroup G] (f : α → G) : ∀ (x : α) (xs : List α),
    ((segments (x :: xs)).map fun s => f s.2 - f s.1).sum
      = f ((x :: xs).getLast (List.cons_ne_nil _ _)) - f x
  | x, [] => by
      rw [List.getLast_singleton, sub_self]
      rfl
  | x, y :: ys => by
      rw [segments_cons_cons, List.map_cons, List.sum_cons, sum_segments_sub f y ys,
        List.getLast_cons_cons, add_comm, sub_add_sub_cancel]

/-- Consecutive elements of a sorted list are in order. -/
theorem forall_mem_segments {r : α → α → Prop} : ∀ {xs : List α}, xs.Pairwise r →
    ∀ s ∈ segments xs, r s.1 s.2
  | [], _, s, hs => absurd hs List.not_mem_nil
  | [_], _, s, hs => absurd hs List.not_mem_nil
  | x :: y :: xs, h, s, hs => by
      rw [segments_cons_cons] at hs
      obtain ⟨hx, hrest⟩ := List.pairwise_cons.mp h
      rcases List.mem_cons.mp hs with rfl | hs
      · exact hx y List.mem_cons_self
      · exact forall_mem_segments hrest s hs

/-- Pieces of `n` elements, at most `fuel` of them. -/
def pieces (n : Nat) : Nat → List α → List (List α)
  | 0, _ => []
  | fuel + 1, xs =>
    if xs.length ≤ 1 then []
    else if xs.length ≤ n then [xs]
    else xs.take n :: pieces n fuel (xs.drop (n - 1))

variable {n : Nat}

theorem segments_of_length_le_one : ∀ {xs : List α}, xs.length ≤ 1 → segments xs = []
  | [], _ => rfl
  | [_], _ => rfl
  | _ :: _ :: _, h => by simp at h

/-- Each pair of consecutive elements is in one piece, and in one only. -/
theorem flatMap_segments_pieces (hn : 2 ≤ n) : ∀ {fuel : Nat} {xs : List α}, xs.length ≤ fuel →
    (pieces n fuel xs).flatMap segments = segments xs
  | 0, xs, h => by
      rw [List.eq_nil_of_length_eq_zero (Nat.le_zero.mp h)]
      rfl
  | fuel + 1, xs, h => by
      rw [pieces]
      split
      · rename_i hshort
        rw [List.flatMap_nil, segments_of_length_le_one hshort]
      · split
        · rw [List.flatMap_cons, List.flatMap_nil, List.append_nil]
        · have hrest : (xs.drop (n - 1)).length ≤ fuel := by
            rw [List.length_drop]
            omega
          rw [List.flatMap_cons, flatMap_segments_pieces hn hrest]
          have hsplit := segments_take_drop (n - 1) xs
          rwa [Nat.sub_add_cancel (by omega)] at hsplit

/-- Enough fuel cuts the whole sequence. -/
theorem pieces_fuel (hn : 2 ≤ n) : ∀ {fuel fuel' : Nat} {xs : List α}, xs.length ≤ fuel →
    xs.length ≤ fuel' → pieces n fuel xs = pieces n fuel' xs
  | 0, fuel', xs, h, _ => by
      rw [List.eq_nil_of_length_eq_zero (Nat.le_zero.mp h)]
      cases fuel' <;> rfl
  | fuel + 1, 0, xs, _, h => by
      rw [List.eq_nil_of_length_eq_zero (Nat.le_zero.mp h)]
      rfl
  | fuel + 1, fuel' + 1, xs, h, h' => by
      have hrest := List.length_drop (l := xs) (i := n - 1)
      rw [pieces, pieces]
      by_cases hlong : xs.length ≤ n
      · rw [if_pos hlong, if_pos hlong]
      · rw [if_neg hlong, if_neg hlong, pieces_fuel hn (by omega : _ ≤ fuel) (by omega : _ ≤ fuel')]

/-- A piece is a slice of the sequence. -/
theorem infix_of_mem_pieces : ∀ {fuel : Nat} {xs piece : List α}, piece ∈ pieces n fuel xs →
    piece <:+: xs
  | 0, _, _, h => absurd h List.not_mem_nil
  | fuel + 1, xs, piece, h => by
      rw [pieces] at h
      by_cases hone : xs.length ≤ 1
      · rw [if_pos hone] at h
        exact absurd h List.not_mem_nil
      rw [if_neg hone] at h
      by_cases hshort : xs.length ≤ n
      · rw [if_pos hshort] at h
        rw [List.mem_singleton.mp h]
      rw [if_neg hshort] at h
      obtain rfl | h := List.mem_cons.mp h
      · exact (List.take_prefix n xs).isInfix
      · exact (infix_of_mem_pieces h).trans (List.drop_suffix (n - 1) xs).isInfix

end DeliveryTracking
