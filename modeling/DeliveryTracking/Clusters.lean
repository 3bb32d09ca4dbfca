/-
# `DeliveryTracking.Clusters` — groups of consecutive elements, cut off greedily

A group grows from an element over those that follow, as long as it takes the
next one.  A scan cuts a sequence into blocks from its head:

    the group of the head is kept        one block, the scan goes on after it
    it is not                            the head alone, the scan goes on after the head

`Cut` is the scan as a relation, `blocksFrom` the scan that runs.  Every group
that is kept may be replaced by a representative (`collapse`); where the
representatives settle (`Settles`), to collapse again changes nothing, not even
on a slice (`collapse_slice`).
-/
import Mathlib.Data.List.Infix
import Mathlib.Data.List.Pairwise
import Mathlib.Algebra.GroupWithZero.Nat

namespace DeliveryTracking

structure Clustering (α γ : Type*) where
  /-- The group of one element. -/
  start : α → γ
  /-- The group with one more element, if it takes it. -/
  grow : γ → α → Option γ
  keeps : γ → Bool

/-- An element alone, or a group with as many elements after its first. -/
inductive Block (α γ : Type*) where
  | single (a : α)
  | group (g : γ) (more : Nat)

/-- The element that stands for a block. -/
def Block.point {α γ : Type*} (rep : γ → α) : Block α γ → α
  | .single a => a
  | .group g _ => rep g

/-- The number of elements of a block. -/
def Block.size {α γ : Type*} : Block α γ → Nat
  | .single _ => 1
  | .group _ more => more + 1

namespace Clustering

variable {α γ : Type*} (C : Clustering α γ)

/-! ## The scan -/

/-- The group that grows over a sequence, and how many elements it took. -/
def run : γ → List α → γ × Nat
  | g, [] => (g, 0)
  | g, a :: as =>
    match C.grow g a with
    | none => (g, 0)
    | some g' => ((run g' as).1, (run g' as).2 + 1)

/-- The blocks after the first elements, which are skipped. -/
def blocksFrom : Nat → List α → List (Block α γ)
  | _, [] => []
  | skip + 1, _ :: as => blocksFrom skip as
  | 0, a :: as =>
    let r := C.run (C.start a) as
    if C.keeps r.1 then .group r.1 r.2 :: blocksFrom r.2 as else .single a :: blocksFrom 0 as

/-- A group grown over elements, each taken. -/
inductive Grows : γ → List α → γ → Prop
  | nil {g : γ} : Grows g [] g
  | cons {g g' g'' : γ} {a : α} {as : List α} (h : C.grow g a = some g') (hrest : Grows g' as g'') :
      Grows g (a :: as) g''

/-- A sequence cut into blocks. -/
inductive Cut : List α → List (Block α γ) → Prop
  | nil : Cut [] []
  | single {a : α} {as : List α} {bs : List (Block α γ)}
      (h : C.keeps (C.run (C.start a) as).1 = false) (hrest : Cut as bs) :
      Cut (a :: as) (.single a :: bs)
  | group {a : α} {as : List α} {bs : List (Block α γ)}
      (h : C.keeps (C.run (C.start a) as).1 = true)
      (hrest : Cut (as.drop (C.run (C.start a) as).2) bs) :
      Cut (a :: as) (.group (C.run (C.start a) as).1 (C.run (C.start a) as).2 :: bs)

variable {C}

theorem run_cons_none {g : γ} {a : α} (h : C.grow g a = none) (as : List α) :
    C.run g (a :: as) = (g, 0) := by
  simp only [run, h]

theorem run_cons_some {g g' : γ} {a : α} (h : C.grow g a = some g') (as : List α) :
    C.run g (a :: as) = ((C.run g' as).1, (C.run g' as).2 + 1) := by
  simp only [run, h]

/-- A run grows over the elements it took. -/
theorem grows_run : ∀ (as : List α) (g : γ), C.Grows g (as.take (C.run g as).2) (C.run g as).1
  | [], _ => .nil
  | a :: as, g => by
      cases h : C.grow g a with
      | none =>
        rw [run_cons_none h]
        exact .nil
      | some g' =>
        rw [run_cons_some h]
        exact .cons h (grows_run as g')

/-- The element after a run is one its group does not take. -/
theorem grow_after_run : ∀ {as : List α} {g : γ} {a : α} {rest : List α},
    as.drop (C.run g as).2 = a :: rest → C.grow (C.run g as).1 a = none
  | [], _, _, _, h => by simp at h
  | b :: as, g, a, rest, h => by
      cases hgrow : C.grow g b with
      | none =>
        rw [run_cons_none hgrow] at h ⊢
        obtain ⟨rfl, -⟩ := List.cons.inj h
        exact hgrow
      | some g' =>
        rw [run_cons_some hgrow] at h ⊢
        exact grow_after_run h

theorem run_le : ∀ (as : List α) (g : γ), (C.run g as).2 ≤ as.length
  | [], _ => le_rfl
  | a :: as, g => by
      cases h : C.grow g a with
      | none =>
        rw [run_cons_none h]
        exact Nat.zero_le _
      | some g' =>
        rw [run_cons_some h]
        exact Nat.succ_le_succ (run_le as g')

/-- A run ends on the last element it took. -/
theorem getElem?_run {last : γ → α} (hlast : ∀ {g g' a}, C.grow g a = some g' → last g' = a) :
    ∀ (as : List α) (g : γ), (last g :: as)[(C.run g as).2]? = some (last (C.run g as).1)
  | [], _ => rfl
  | a :: as, g => by
      cases h : C.grow g a with
      | none =>
        rw [run_cons_none h]
        rfl
      | some g' =>
        rw [run_cons_some h, List.getElem?_cons_succ, ← hlast h]
        exact getElem?_run hlast as g'

/-- A group that grows over elements and does not take the next one has run over them. -/
theorem run_of_grows {g g' : γ} {as : List α} (h : C.Grows g as g') {after : List α}
    (hafter : ∀ a, after.head? = some a → C.grow g' a = none) :
    C.run g (as ++ after) = (g', as.length) := by
  induction h with
  | @nil g =>
    cases after with
    | nil => rfl
    | cons a after => exact run_cons_none (hafter a rfl) after
  | cons hgrow _ ih => rw [List.cons_append, run_cons_some hgrow, ih hafter, List.length_cons]

/-- The scan cuts what is left after the skipped elements. -/
theorem cut_blocksFrom : ∀ (as : List α) (skip : Nat), C.Cut (as.drop skip) (C.blocksFrom skip as)
  | [], skip => by
      rw [List.drop_nil]
      cases skip <;> exact .nil
  | a :: as, skip + 1 => cut_blocksFrom as skip
  | a :: as, 0 => by
      rw [List.drop_zero, blocksFrom]
      split
      · rename_i h
        exact .group h (cut_blocksFrom as _)
      · rename_i h
        exact .single (Bool.eq_false_iff.mpr h) (cut_blocksFrom as 0)

/-- There is one way to cut a sequence. -/
theorem Cut.unique {as : List α} {bs bs' : List (Block α γ)} (h : C.Cut as bs) (h' : C.Cut as bs') :
    bs = bs' := by
  induction h generalizing bs' with
  | nil =>
    cases h'
    rfl
  | single hkeeps _ ih =>
    cases h' with
    | single _ hrest => rw [ih hrest]
    | group hkeeps' _ => rw [hkeeps] at hkeeps'; cases hkeeps'
  | group hkeeps _ ih =>
    cases h' with
    | single hkeeps' _ => rw [hkeeps] at hkeeps'; cases hkeeps'
    | group _ hrest => rw [ih hrest]

theorem Cut.eq_blocksFrom {as : List α} {bs : List (Block α γ)} (h : C.Cut as bs) :
    C.blocksFrom 0 as = bs :=
  (cut_blocksFrom as 0).unique h

/-- An element that no group takes is the head of a block. -/
theorem Cut.head {as : List α} {bs : List (Block α γ)} (h : C.Cut as bs) {before after : List α}
    {a : α} (has : as = before ++ a :: after) (hfree : ∀ g, C.grow g a = none) :
    ∃ bs₁ bs₂, bs = bs₁ ++ bs₂ ∧ (bs₁.map Block.size).sum = before.length ∧
      C.Cut (a :: after) bs₂ := by
  induction h generalizing before with
  | nil => simp at has
  | @single b as bs hkeeps hrest ih =>
    cases before with
    | nil =>
      obtain ⟨rfl, rfl⟩ := List.cons.inj has
      exact ⟨[], _, rfl, rfl, .single hkeeps hrest⟩
    | cons c before =>
      obtain ⟨rfl, rfl⟩ := List.cons.inj has
      obtain ⟨bs₁, bs₂, rfl, hsize, hcut⟩ := ih rfl
      refine ⟨.single b :: bs₁, bs₂, rfl, ?_, hcut⟩
      rw [List.map_cons, List.sum_cons, hsize, Block.size, List.length_cons, Nat.add_comm]
  | @group b as bs hkeeps hrest ih =>
    cases before with
    | nil =>
      obtain ⟨rfl, rfl⟩ := List.cons.inj has
      exact ⟨[], _, rfl, rfl, .group hkeeps hrest⟩
    | cons c before =>
      obtain ⟨rfl, rfl⟩ := List.cons.inj has
      -- the run stops before `a`, so `a` is left
      have hle : (C.run (C.start b) (before ++ a :: after)).2 ≤ before.length :=
        run_append_le hfree before _
      obtain ⟨bs₁, bs₂, rfl, hsize, hcut⟩ := ih (List.drop_append_of_le_length hle)
      refine ⟨_ :: bs₁, bs₂, rfl, ?_, hcut⟩
      rw [List.map_cons, List.sum_cons, hsize, Block.size, List.length_cons, List.length_drop,
        List.append_eq]
      omega
where
  run_append_le {a : α} {after : List α} (hfree : ∀ g, C.grow g a = none) :
      ∀ (before : List α) (g : γ), (C.run g (before ++ a :: after)).2 ≤ before.length
  | [], g => by
      rw [List.nil_append, run_cons_none (hfree g)]
      exact le_rfl
  | b :: before, g => by
      rw [List.cons_append]
      cases h : C.grow g b with
      | none =>
        rw [run_cons_none h]
        exact Nat.zero_le _
      | some g' =>
        rw [run_cons_some h]
        exact Nat.succ_le_succ (run_append_le hfree before g')

/-! ## Collapsing -/

variable (C) in
/-- A sequence with every group that is kept replaced by its representative. -/
def collapse (rep : γ → α) (as : List α) : List α :=
  (C.blocksFrom 0 as).map (Block.point rep)

theorem Cut.length_le {as : List α} {bs : List (Block α γ)} (h : C.Cut as bs) :
    bs.length ≤ as.length := by
  induction h with
  | nil => exact le_rfl
  | single _ _ ih => exact Nat.succ_le_succ ih
  | group _ _ ih =>
    rw [List.length_drop] at ih
    exact Nat.succ_le_succ (ih.trans (Nat.sub_le ..))

/-- A collapsed sequence is not longer. -/
theorem collapse_length_le (rep : γ → α) (as : List α) :
    (C.collapse rep as).length ≤ as.length := by
  rw [collapse, List.length_map]
  exact (cut_blocksFrom as 0).length_le

variable (C) in
/-- Representatives that no group takes again, in sequences ordered by `Before`: a group is
left by what its last element and its representative are left by, and what stands for a
later group comes too late for it. -/
structure Settles (rep last : γ → α) (Before : α → α → Prop) : Prop where
  last_start (a : α) : last (C.start a) = a
  last_grow {g g' : γ} {a : α} : C.grow g a = some g' → last g' = a
  alone (a : α) : C.keeps (C.start a) = false
  mono {g g' : γ} {a : α} : C.grow g a = some g' → Before (last g) a → C.keeps g = true →
    C.keeps g' = true
  leaves {g : γ} {a : α} : C.grow g a = none → C.grow (C.start (rep g)) a = none
  apart {g g' : γ} {a : α} {as : List α} : Before (last g) a → C.Grows (C.start a) as g' →
    C.keeps g' = true → C.grow g (rep g') = none

variable (C) in
/-- No group that starts in the sequence is kept, wherever the sequence stops. -/
def Loose (as : List α) : Prop :=
  ∀ a between, a :: between <:+: as → C.keeps (C.run (C.start a) between).1 = false

theorem Loose.cut : ∀ {as : List α}, C.Loose as → C.Cut as (as.map .single)
  | [], _ => .nil
  | a :: as, h =>
    .single (h a as (List.infix_refl _))
      (Loose.cut fun b between hb => h b between (hb.trans (List.suffix_cons a as).isInfix))

theorem Loose.collapse_eq {rep : γ → α} {as : List α} (h : C.Loose as) :
    C.collapse rep as = as := by
  rw [collapse, h.cut.eq_blocksFrom, List.map_map]
  exact List.map_id as

section Settles

variable {rep last : γ → α} {Before : α → α → Prop}

/-- A group that is kept is still kept after it has grown. -/
theorem Settles.keeps_run (hC : C.Settles rep last Before) :
    ∀ {as : List α} {g : γ}, (last g :: as).Pairwise Before → C.keeps g = true →
      C.keeps (C.run g as).1 = true
  | [], _, _, hkeeps => hkeeps
  | a :: as, g, horder, hkeeps => by
      obtain ⟨hlast, horder⟩ := List.pairwise_cons.mp horder
      cases h : C.grow g a with
      | none =>
        rw [run_cons_none h]
        exact hkeeps
      | some g' =>
        rw [run_cons_some h]
        rw [← hC.last_grow h] at horder
        exact hC.keeps_run horder (hC.mono h (hlast a (List.mem_cons_self ..)) hkeeps)

theorem Settles.not_keeps (hC : C.Settles rep last Before) {as : List α} {g : γ}
    (horder : (last g :: as).Pairwise Before) (h : C.keeps (C.run g as).1 = false) :
    C.keeps g = false := by
  cases hkeeps : C.keeps g with
  | false => rfl
  | true =>
    rw [hC.keeps_run horder hkeeps] at h
    exact h

/-- What a run leaves comes after the last element it took. -/
theorem Settles.order_drop (hC : C.Settles rep last Before) :
    ∀ {as : List α} {g : γ}, (last g :: as).Pairwise Before →
      (last (C.run g as).1 :: as.drop (C.run g as).2).Pairwise Before
  | [], _, horder => horder
  | a :: as, g, horder => by
      cases h : C.grow g a with
      | none =>
        rw [run_cons_none h]
        exact horder
      | some g' =>
        rw [run_cons_some h, List.drop_succ_cons]
        refine hC.order_drop ?_
        rw [hC.last_grow h]
        exact horder.of_cons

/-- A group that is not kept over a sequence is not kept over what stands for it either: it
takes the elements left alone as before, and nothing that stands for a group. -/
theorem Settles.not_keeps_points (hC : C.Settles rep last Before) {as : List α}
    {bs : List (Block α γ)} (hcut : C.Cut as bs) : ∀ {g : γ} {between : List α},
      (last g :: as).Pairwise Before → C.keeps (C.run g as).1 = false →
      between <+: bs.map (Block.point rep) → C.keeps (C.run g between).1 = false := by
  induction hcut with
  | nil =>
    intro g between _ h hbetween
    rw [List.prefix_nil.mp hbetween]
    exact h
  | @single a as bs _ _ ih =>
    intro g between horder h hbetween
    rw [List.map_cons, List.prefix_cons_iff] at hbetween
    obtain rfl | ⟨between, rfl, hbetween⟩ := hbetween
    · exact hC.not_keeps horder h
    · rw [Block.point]
      cases hgrow : C.grow g a with
      | none =>
        rw [run_cons_none hgrow] at h ⊢
        exact h
      | some g' =>
        rw [run_cons_some hgrow] at h ⊢
        refine ih ?_ h hbetween
        rw [hC.last_grow hgrow]
        exact horder.of_cons
  | @group a as bs hkeeps _ _ =>
    intro g between horder h hbetween
    have hg := hC.not_keeps horder h
    rw [List.map_cons, List.prefix_cons_iff] at hbetween
    obtain rfl | ⟨between, rfl, -⟩ := hbetween
    · exact hg
    · rw [Block.point, run_cons_none (hC.apart
        ((List.pairwise_cons.mp horder).1 a (List.mem_cons_self ..)) (grows_run as _) hkeeps)]
      exact hg

/-- What stands for a group takes nothing of what stands for the elements after it. -/
theorem Settles.run_rep (hC : C.Settles rep last Before) {as : List α} {bs : List (Block α γ)}
    (hcut : C.Cut as bs) {g : γ} {between : List α} (horder : (last g :: as).Pairwise Before)
    (hleft : ∀ a rest, as = a :: rest → C.grow g a = none)
    (hbetween : between <+: bs.map (Block.point rep)) :
    C.run (C.start (rep g)) between = (C.start (rep g), 0) := by
  cases hcut with
  | nil =>
    rw [List.prefix_nil.mp hbetween]
    rfl
  | single _ _ =>
    rw [List.map_cons, List.prefix_cons_iff] at hbetween
    obtain rfl | ⟨between, rfl, -⟩ := hbetween
    · rfl
    · exact run_cons_none (hC.leaves (hleft _ _ rfl)) between
  | group hkeeps _ =>
    rw [List.map_cons, List.prefix_cons_iff] at hbetween
    obtain rfl | ⟨between, rfl, -⟩ := hbetween
    · rfl
    · exact run_cons_none (hC.leaves (hC.apart
        ((List.pairwise_cons.mp horder).1 _ (List.mem_cons_self ..)) (grows_run _ _) hkeeps)) between

/-- What stands for the blocks of a sequence has no group left. -/
theorem Settles.loose_points (hC : C.Settles rep last Before) {as : List α}
    {bs : List (Block α γ)} (hcut : C.Cut as bs) (horder : as.Pairwise Before) :
    C.Loose (bs.map (Block.point rep)) := by
  induction hcut with
  | nil =>
    intro a between h
    cases List.infix_nil.mp h
  | @single a as bs hkeeps hrest ih =>
    intro z between h
    rw [List.map_cons, List.infix_cons_iff] at h
    obtain h | h := h
    · obtain ⟨rfl, hbetween⟩ := List.cons_prefix_cons.mp h
      refine hC.not_keeps_points hrest ?_ hkeeps hbetween
      rw [hC.last_start]
      exact horder
    · exact ih horder.of_cons z between h
  | @group a as bs hkeeps hrest ih =>
    intro z between h
    have hdrop : (last (C.run (C.start a) as).1 ::
        as.drop (C.run (C.start a) as).2).Pairwise Before :=
      hC.order_drop (by rwa [hC.last_start])
    rw [List.map_cons, List.infix_cons_iff] at h
    obtain h | h := h
    · obtain ⟨rfl, hbetween⟩ := List.cons_prefix_cons.mp h
      rw [Block.point, hC.run_rep hrest hdrop (fun _ _ => grow_after_run) hbetween]
      exact hC.alone _
    · exact ih hdrop.of_cons z between h

/-- To collapse a slice of what was collapsed changes nothing. -/
theorem Settles.collapse_slice (hC : C.Settles rep last Before) {as slice : List α}
    (horder : as.Pairwise Before) (hslice : slice <:+: C.collapse rep as) :
    C.collapse rep slice = slice := by
  refine Loose.collapse_eq fun a between h => ?_
  exact hC.loose_points (cut_blocksFrom as 0) horder a between (h.trans hslice)

end Settles

end Clustering

end DeliveryTracking
