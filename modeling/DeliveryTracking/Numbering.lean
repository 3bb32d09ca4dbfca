/-
# `DeliveryTracking.Numbering` — writing the positions of a list to its elements

Going down a list, each element is given its position, counted from `k`; an
element that comes again is given the later one.  `number k l a` is what `a`
holds in the end.

Over distinct keys, the members of `l`, the numbers are `1..` as many as there
are keys exactly when nothing comes twice in `l` (`perm_number_iff`).
-/
import Mathlib.Data.List.Dedup
import Mathlib.Data.List.Nodup
import Mathlib.Data.List.Perm.Subperm
import Mathlib.Data.List.Range

namespace DeliveryTracking

variable {κ : Type*} [DecidableEq κ]

/-- The last position of `a` in `l`, counted from `k`. -/
def number : Nat → List κ → κ → Option Nat
  | _, [], _ => none
  | k, b :: l, a => (number (k + 1) l a).or (if b = a then some k else none)

theorem number_eq_none_iff : ∀ {k : Nat} {l : List κ} {a : κ}, number k l a = none ↔ a ∉ l
  | _, [], _ => by simp [number]
  | k, b :: l, a => by
      simp [number, number_eq_none_iff, eq_comm (a := b), and_comm]

/-- The last write wins. -/
theorem number_concat (a b : κ) : ∀ (k : Nat) (l : List κ),
    number k (l ++ [b]) a = if b = a then some (k + l.length) else number k l a
  | k, [] => by simp [number]
  | k, c :: l => by
      rw [List.cons_append, number, number_concat a b (k + 1) l]
      split
      · simp [Nat.add_comm, Nat.add_left_comm]
      · rfl

/-- Distinct elements hold their own positions. -/
theorem map_number : ∀ {l : List κ}, l.Nodup → ∀ k : Nat,
    l.map (number k l) = (List.range' k l.length).map some
  | [], _, _ => rfl
  | a :: l, h, k => by
      obtain ⟨ha, hl⟩ := List.nodup_cons.mp h
      have hhead : number k (a :: l) a = some k := by
        rw [number, number_eq_none_iff.mpr ha]
        simp
      have htail : l.map (number k (a :: l)) = l.map (number (k + 1) l) := by
        refine List.map_congr_left ?_
        intro b hb
        obtain ⟨i, hi⟩ := Option.ne_none_iff_exists'.mp
          (fun hnone => number_eq_none_iff.mp hnone hb : number (k + 1) l b ≠ none)
        rw [number, hi, Option.some_or]
      rw [List.map_cons, hhead, htail, map_number hl (k + 1), List.length_cons, List.range'_succ,
        List.map_cons]

/-- The list of distinct elements with their positions is the numbering. -/
theorem mem_zipIdx_iff_number : ∀ {l : List κ}, l.Nodup → ∀ {k i : Nat} {a : κ},
    (a, i) ∈ l.zipIdx k ↔ number k l a = some i
  | [], _, _, _, _ => by simp [number]
  | b :: l, h, k, i, a => by
      obtain ⟨hb, hl⟩ := List.nodup_cons.mp h
      rw [List.zipIdx_cons, List.mem_cons, mem_zipIdx_iff_number hl, number]
      by_cases hab : b = a
      · subst hab
        rw [number_eq_none_iff.mpr hb]
        simp [eq_comm]
      · simp [hab, Ne.symm hab]

/-- The keys hold `1..` their number just when none of them comes twice. -/
theorem perm_number_iff {keys l : List κ} (hkeys : keys.Nodup) (hmem : ∀ a, a ∈ keys ↔ a ∈ l) :
    (keys.map (number 1 l)).Perm ((List.range' 1 keys.length).map some) ↔ l.Nodup := by
  constructor
  · intro hperm
    by_contra hdup
    -- with a repetition, the last element holds a number above the count of the keys
    have hshort : keys.length < l.length := by
      have hsub : keys.length ≤ l.dedup.length :=
        (List.Nodup.subperm hkeys fun a ha => List.mem_dedup.mpr ((hmem a).mp ha)).length_le
      have hlt : l.dedup.length < l.length :=
        lt_of_le_of_ne l.dedup_sublist.length_le fun heq =>
          hdup (l.dedup_sublist.eq_of_length heq ▸ l.nodup_dedup)
      omega
    obtain ⟨init, a, rfl⟩ := (List.eq_nil_or_concat l).resolve_left (by rintro rfl; simp at hdup)
    rw [List.concat_eq_append] at hperm hshort
    have hlast : number 1 (init ++ [a]) a = some (init.length + 1) := by
      rw [number_concat, if_pos rfl, Nat.add_comm]
    have hin : some (init.length + 1) ∈ keys.map (number 1 (init ++ [a])) :=
      List.mem_map.mpr ⟨a, (hmem a).mpr (by simp), hlast⟩
    rw [hperm.mem_iff] at hin
    simp at hin hshort
    omega
  · intro hl
    have hperm : keys.Perm l := (List.perm_ext_iff_of_nodup hkeys hl).mpr hmem
    rw [hperm.length_eq, ← map_number hl 1]
    exact hperm.map _

end DeliveryTracking
