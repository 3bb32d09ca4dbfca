/-
# `DeliveryTracking.Thinning` — greedy thinning of a sorted list

`thin w` walks a list and keeps a point unless it is within `w` of the point it
kept last.  `pass w d` first drops the points within `w` of a fixed point `d`
(if there is one) and thins the rest: what a deduplication does that compares
each point with the latest one stored before the batch and with the previous
one kept in the batch.

A second pass over the same list meets a later fixed point.  It keeps nothing
new exactly when no point that the first pass dropped near `d` survives the
second (`second_pass_iff`):

    d − w        d        d + w                 d′
    ──┼──────────┼──────────┼────────────────────┼──▶
           e  dropped first, e + w < d′: kept second

Nothing below names the repository.
-/
import Mathlib.Algebra.Order.Group.Abs
import Mathlib.Order.Bounds.Basic
import Mathlib.Data.List.Pairwise

namespace DeliveryTracking

/-- A sorted list is its part below a cut followed by the rest. -/
theorem sorted_split {α : Type*} [LinearOrder α] {ts : List α} (h : ts.Pairwise (· ≤ ·))
    {p q : α → Bool} (hp : ∀ {a b}, a ≤ b → p b = true → p a = true) (hq : ∀ t, q t = !p t) :
    ts.filter p ++ ts.filter q = ts := by
  induction ts with
  | nil => rfl
  | cons t ts ih =>
      obtain ⟨ht, hts⟩ := List.pairwise_cons.mp h
      cases hpt : p t with
      | true => simp [hpt, hq, ih hts]
      | false =>
          have hfalse : ∀ x ∈ ts, p x = false := by
            intro x hx
            cases hpx : p x with
            | true => rw [hp (ht x hx) hpx] at hpt; cases hpt
            | false => rfl
          have hnone : ts.filter p = [] := by
            rw [List.filter_eq_nil_iff]
            intro x hx
            simp [hfalse x hx]
          have hall : ts.filter q = ts := by
            rw [List.filter_eq_self]
            intro x hx
            rw [hq, hfalse x hx]; rfl
          simp [hpt, hq, hnone, hall]

theorem split_lt {α : Type*} [LinearOrder α] {ts : List α} (h : ts.Pairwise (· ≤ ·)) (c : α) :
    ts.filter (· < c) ++ ts.filter (c ≤ ·) = ts :=
  sorted_split h (fun hab hb => by simpa using hab.trans_lt (by simpa using hb))
    (fun t => by simp [← decide_not])

theorem split_le {α : Type*} [LinearOrder α] {ts : List α} (h : ts.Pairwise (· ≤ ·)) (c : α) :
    ts.filter (· ≤ c) ++ ts.filter (c < ·) = ts :=
  sorted_split h (fun hab hb => by simpa using hab.trans (by simpa using hb))
    (fun t => by simp [← decide_not])

/-- The last point kept so far. -/
def lastKept {α : Type*} (last : Option α) (kept : List α) : Option α := kept.getLast?.or last

theorem lastKept_cons {α : Type*} (last : Option α) (t : α) (kept : List α) :
    lastKept last (t :: kept) = lastKept (some t) kept := by
  cases kept with
  | nil => rfl
  | cons a as => simp [lastKept, List.getLast?_cons]

variable {α : Type*} [AddCommGroup α] [LinearOrder α]

/-- Keep a point unless it is within `w` of the last one kept. -/
def thin (w : α) : Option α → List α → List α
  | _, [] => []
  | none, t :: ts => t :: thin w (some t) ts
  | some l, t :: ts => if |t - l| ≤ w then thin w (some l) ts else t :: thin w (some t) ts

/-- The points farther than `w` from `d`. -/
def far (w : α) (d : Option α) (t : α) : Bool :=
  match d with
  | none => true
  | some d => ¬ |t - d| ≤ w

/-- Drop the points near `d`, thin the rest. -/
def pass (w : α) (d : Option α) (ts : List α) : List α := thin w none (ts.filter (far w d))

/-- `d` is the largest element of `S`, absent when there is none. -/
def IsLatest (S : Set α) : Option α → Prop
  | none => S = ∅
  | some d => IsGreatest S d

/-- No point near `d` that thinning the whole list keeps, and that is not stored, lies more
than `w` before a point kept beyond `d`. -/
def Settled (w : α) (S : Set α) (d : Option α) (ts : List α) : Prop :=
  ∀ d₀, d = some d₀ → ∀ e ∈ thin w none ts, |e - d₀| ≤ w → e ∉ S →
    ∀ t ∈ thin w none (ts.filter (d₀ + w < ·)), t ≤ e + w

variable {w : α}

/-! ## Thinning and appending -/

theorem thin_sublist (w : α) : ∀ (last : Option α) (ts : List α), (thin w last ts).Sublist ts
  | _, [] => .slnil
  | none, t :: ts => by
      rw [thin]
      exact (thin_sublist w (some t) ts).cons_cons t
  | some l, t :: ts => by
      rw [thin]
      split
      · exact (thin_sublist w (some l) ts).cons t
      · exact (thin_sublist w (some t) ts).cons_cons t

theorem mem_of_mem_thin {last : Option α} {ts : List α} {t : α} (h : t ∈ thin w last ts) :
    t ∈ ts :=
  (thin_sublist w last ts).subset h

theorem lt_of_mem_below {c x : α} {ts : List α} (hx : x ∈ thin w none (ts.filter (· < c))) : x < c := by
  simpa using (List.mem_filter.mp (mem_of_mem_thin hx)).2

theorem lt_of_mem_beyond {c x : α} {ts : List α} (hx : x ∈ thin w none (ts.filter (c < ·))) :
    c < x := by
  simpa using (List.mem_filter.mp (mem_of_mem_thin hx)).2

theorem thin_append (w : α) : ∀ (last : Option α) (xs ys : List α),
    thin w last (xs ++ ys) = thin w last xs ++ thin w (lastKept last (thin w last xs)) ys
  | last, [], ys => by simp [thin, lastKept]
  | none, t :: xs, ys => by
      simp only [List.cons_append, thin, lastKept_cons]
      rw [thin_append w (some t) xs ys]
  | some l, t :: xs, ys => by
      simp only [List.cons_append, thin]
      split
      · exact thin_append w (some l) xs ys
      · rw [lastKept_cons, thin_append w (some t) xs ys, List.cons_append]

/-- A point far from all that follow does not influence it. -/
theorem thin_fresh {l : α} : ∀ {ts : List α}, (∀ t ∈ ts, ¬ |t - l| ≤ w) →
    thin w (some l) ts = thin w none ts
  | [], _ => rfl
  | t :: ts, h => by
      rw [thin, thin, if_neg (h t (List.mem_cons_self ..))]

/-! ## Thinning sorted lists -/

/-- Thinning keeps prefixes: what it keeps below `c` depends on the points below `c`. -/
theorem thin_filter_lt {ts : List α} (h : ts.Pairwise (· ≤ ·)) (c : α) :
    (thin w none ts).filter (· < c) = thin w none (ts.filter (· < c)) := by
  conv_lhs => rw [← split_lt h c]
  rw [thin_append, List.filter_append]
  have hlow : (thin w none (ts.filter (· < c))).filter (· < c) = thin w none (ts.filter (· < c)) := by
    rw [List.filter_eq_self]
    intro x hx
    simpa using (List.mem_filter.mp (mem_of_mem_thin hx)).2
  have hhigh : ∀ last, (thin w last (ts.filter (c ≤ ·))).filter (· < c) = [] := by
    intro last
    rw [List.filter_eq_nil_iff]
    intro x hx
    simpa using (List.mem_filter.mp (mem_of_mem_thin hx)).2
  rw [hlow, hhigh, List.append_nil]

theorem pass_none (ts : List α) : pass w none ts = thin w none ts := by
  have hall : ts.filter (far w none) = ts := List.filter_eq_self.mpr fun _ _ => rfl
  rw [pass, hall]

/-! ## Spaced sets -/

/-- Different points of `S` are more than `w` apart. -/
def SpacedBy (w : α) (S : Set α) : Prop := ∀ x ∈ S, ∀ y ∈ S, x ≠ y → w < |x - y|

theorem spacedBy_union_iff {S T : Set α} : SpacedBy w (S ∪ T) ↔
    SpacedBy w S ∧ SpacedBy w T ∧ ∀ x ∈ T, ∀ y ∈ S, x ≠ y → w < |x - y| := by
  constructor
  · intro h
    exact ⟨fun x hx y hy => h x (.inl hx) y (.inl hy), fun x hx y hy => h x (.inr hx) y (.inr hy),
      fun x hx y hy => h x (.inr hx) y (.inl hy)⟩
  · rintro ⟨hS, hT, hcross⟩ x (hx | hx) y (hy | hy) hne
    · exact hS x hx y hy hne
    · rw [abs_sub_comm]
      exact hcross y hy x hx (Ne.symm hne)
    · exact hcross x hx y hy hne
    · exact hT x hx y hy hne

theorem spacedBy_insert_iff {S : Set α} {x : α} : SpacedBy w (insert x S) ↔
    SpacedBy w S ∧ ∀ y ∈ S, x ≠ y → w < |x - y| := by
  rw [Set.insert_eq, Set.union_comm, spacedBy_union_iff]
  refine and_congr_right fun _ => ⟨fun h => h.2 x rfl, fun h => ⟨?_, ?_⟩⟩
  · rintro y rfl z rfl hne
    exact absurd rfl hne
  · rintro y rfl
    exact h

section Sorted

variable [IsOrderedAddMonoid α]

theorem near_iff {l t : α} (h : l ≤ t) : |t - l| ≤ w ↔ t ≤ l + w := by
  rw [abs_of_nonneg (sub_nonneg.mpr h), sub_le_iff_le_add']

/-- What follows a kept point is more than `w` after it. -/
theorem lt_of_mem_thin {l t : α} : ∀ {ts : List α}, (∀ x ∈ ts, l ≤ x) → ts.Pairwise (· ≤ ·) →
    0 ≤ w → t ∈ thin w (some l) ts → l + w < t
  | [], _, _, _, h => by cases h
  | x :: ts, hl, hts, hw, h => by
      obtain ⟨hx, hts'⟩ := List.pairwise_cons.mp hts
      have hlx : l ≤ x := hl x (List.mem_cons_self ..)
      rw [thin] at h
      split at h
      · exact lt_of_mem_thin (fun y hy => hl y (List.mem_cons_of_mem _ hy)) hts' hw h
      · rename_i hfar
        rw [near_iff hlx, not_le] at hfar
        rcases List.mem_cons.mp h with rfl | h
        · exact hfar
        · have hxt : x + w < t := lt_of_mem_thin hx hts' hw h
          exact (hfar.trans_le (le_add_of_nonneg_right hw)).trans hxt

/-- Thinning a sorted list spaces it. -/
theorem spacedBy_thin {ts : List α} (hts : ts.Pairwise (· ≤ ·)) (hw : 0 ≤ w) :
    SpacedBy w {x | x ∈ thin w none ts} := by
  have hgap : ∀ {ts : List α} {last : Option α}, ts.Pairwise (· ≤ ·) →
      (∀ l, last = some l → ∀ x ∈ ts, l ≤ x) →
      (thin w last ts).Pairwise fun x y => x + w < y := by
    intro ts
    induction ts with
    | nil => intro last _ _; cases last <;> exact .nil
    | cons t ts ih =>
      intro last hts hlast
      obtain ⟨ht, hts'⟩ := List.pairwise_cons.mp hts
      have hkeep : (t :: thin w (some t) ts).Pairwise fun x y => x + w < y := by
        refine List.pairwise_cons.mpr ⟨fun y hy => lt_of_mem_thin ht hts' hw hy, ih hts' ?_⟩
        rintro l ⟨⟩ x hx
        exact ht x hx
      cases last with
      | none => exact hkeep
      | some l =>
        rw [thin]
        split
        · exact ih hts' fun l' hl' x hx => hlast l' hl' x (List.mem_cons_of_mem t hx)
        · exact hkeep
  have hpair : (thin w none ts).Pairwise fun x y => x ≠ y → w < |x - y| := by
    refine (hgap hts (by simp)).imp ?_
    intro x y hxy _
    rw [abs_sub_comm]
    exact (lt_sub_iff_add_lt'.mpr hxy).trans_le (le_abs_self _)
  have hsymm : Std.Symm fun x y : α => x ≠ y → w < |x - y| :=
    ⟨fun x y h hne => abs_sub_comm x y ▸ h (Ne.symm hne)⟩
  intro x hx y hy hne
  exact hpair.forall hx hy hne hne

/-- Every point is within `w` after a kept one. -/
theorem exists_mem_thin {t : α} : ∀ {ts : List α}, ts.Pairwise (· ≤ ·) → 0 ≤ w → t ∈ ts →
    ∃ k ∈ thin w none ts, t ≤ k + w := by
  have hgo : ∀ {ts : List α} {l : α}, (∀ x ∈ ts, l ≤ x) → ts.Pairwise (· ≤ ·) → 0 ≤ w → t ∈ ts →
      t ≤ l + w ∨ ∃ k ∈ thin w (some l) ts, t ≤ k + w := by
    intro ts
    induction ts with
    | nil => intro l _ _ _ h; cases h
    | cons x ts ih =>
        intro l hl hts hw h
        obtain ⟨hx, hts'⟩ := List.pairwise_cons.mp hts
        have hlx : l ≤ x := hl x (List.mem_cons_self ..)
        rw [thin]
        split
        · rename_i hnear
          rw [near_iff hlx] at hnear
          rcases List.mem_cons.mp h with rfl | h
          · exact Or.inl hnear
          · exact ih (fun y hy => hl y (List.mem_cons_of_mem _ hy)) hts' hw h
        · refine Or.inr ?_
          rcases List.mem_cons.mp h with rfl | h
          · exact ⟨t, List.mem_cons_self .., le_add_of_nonneg_right hw⟩
          · rcases ih hx hts' hw h with hle | ⟨k, hk, hle⟩
            · exact ⟨x, List.mem_cons_self .., hle⟩
            · exact ⟨k, List.mem_cons_of_mem _ hk, hle⟩
  intro ts hts hw h
  cases ts with
  | nil => cases h
  | cons x ts =>
      obtain ⟨hx, hts'⟩ := List.pairwise_cons.mp hts
      rw [thin]
      rcases List.mem_cons.mp h with rfl | h
      · exact ⟨t, List.mem_cons_self .., le_add_of_nonneg_right hw⟩
      · rcases hgo hx hts' hw h with hle | ⟨k, hk, hle⟩
        · exact ⟨x, List.mem_cons_self .., hle⟩
        · exact ⟨k, List.mem_cons_of_mem _ hk, hle⟩

/-! ## A second pass -/

/-- The first pass: what thinning keeps below `d − w`, then a fresh start beyond `d + w`. -/
theorem pass_eq_append {d : α} {ts : List α} (hts : ts.Pairwise (· ≤ ·)) (hw : 0 ≤ w) :
    pass w (some d) ts
      = thin w none (ts.filter (· < d - w)) ++ thin w none (ts.filter (d + w < ·)) := by
  have hfar : ts.filter (far w (some d)) = ts.filter (· < d - w) ++ ts.filter (d + w < ·) := by
    conv_lhs => rw [← split_lt hts (d - w)]
    rw [List.filter_append, List.filter_filter, List.filter_filter]
    congr 1
    · refine List.filter_congr fun t _ => ?_
      simp only [far, abs_le, decide_not]
      by_cases hlt : t < d - w
      · have hn : ¬ -w ≤ t - d := by
          rw [not_le, sub_lt_iff_lt_add, neg_add_eq_sub]; exact hlt
        simp [hlt, hn]
      · simp [hlt]
    · refine List.filter_congr fun t _ => ?_
      simp only [far, abs_le, decide_not]
      by_cases hlt : d + w < t
      · have hle : d - w ≤ t := (sub_le_self d hw).trans ((le_add_of_nonneg_right hw).trans hlt.le)
        have hn : ¬ t - d ≤ w := by
          rw [not_le, lt_sub_iff_add_lt']; exact hlt
        simp [hlt, hle, hn]
      · by_cases hle : d - w ≤ t
        · have h₁ : -w ≤ t - d := by
            rw [le_sub_iff_add_le, neg_add_eq_sub]; exact hle
          have h₂ : t - d ≤ w := by
            rw [sub_le_iff_le_add']; exact not_lt.mp hlt
          simp [hlt, h₁, h₂]
        · simp [hlt, hle]
  rw [pass, hfar, thin_append]
  congr 1
  cases hlast : lastKept none (thin w none (ts.filter (· < d - w))) with
  | none => rfl
  | some a =>
      refine thin_fresh fun t ht => ?_
      have ha : a < d - w := by
        have hmem : a ∈ thin w none (ts.filter (· < d - w)) := by
          rw [lastKept, Option.or_none] at hlast
          exact List.mem_of_getLast? hlast
        simpa using (List.mem_filter.mp (mem_of_mem_thin hmem)).2
      have htd : d + w < t := by simpa using (List.mem_filter.mp ht).2
      have hat : a + w < t := by
        refine lt_of_lt_of_le (add_lt_add_left ha w) ?_
        rw [sub_add_cancel]
        exact (le_add_of_nonneg_right hw).trans htd.le
      have hle : a ≤ t := (le_add_of_nonneg_right hw).trans hat.le
      rw [near_iff hle, not_le]
      exact hat

/-- A pass from a point that no point of the list is far above. -/
theorem pass_of_top {m : α} {ts : List α} (hts : ts.Pairwise (· ≤ ·)) (hw : 0 ≤ w)
    (htop : ∀ t ∈ ts, t ≤ m + w) : pass w (some m) ts = (thin w none ts).filter (· < m - w) := by
  have hnone : ts.filter (m + w < ·) = [] := by
    rw [List.filter_eq_nil_iff]
    intro t ht
    simpa using htop t ht
  rw [pass_eq_append hts hw, hnone, thin_filter_lt hts]
  exact List.append_nil _

/-- Beyond `d + w` the list thinned as a whole agrees with the fresh start there, unless a
point kept after `d` reaches over. -/
theorem mem_fresh_of_mem_thin {d x : α} {ts : List α} (hts : ts.Pairwise (· ≤ ·)) (hw : 0 ≤ w)
    (hx : x ∈ thin w none ts) (hdx : d + w < x)
    (hreach : ∀ e ∈ thin w none ts, d < e → e ≤ d + w → x ≤ e + w) :
    x ∈ thin w none (ts.filter (d + w < ·)) := by
  rw [← split_le hts (d + w), thin_append] at hx hreach
  rcases List.mem_append.mp hx with hx | hx
  · have hle : x ≤ d + w := by simpa using (List.mem_filter.mp (mem_of_mem_thin hx)).2
    exact absurd hle (not_le.mpr hdx)
  · cases hlast : lastKept none (thin w none (ts.filter (· ≤ d + w))) with
    | none => rw [hlast] at hx; exact hx
    | some e =>
      rw [hlast] at hx
      have he : e ∈ thin w none (ts.filter (· ≤ d + w)) := by
        rw [lastKept, Option.or_none] at hlast
        exact List.mem_of_getLast? hlast
      have hed : e ≤ d + w := by simpa using (List.mem_filter.mp (mem_of_mem_thin he)).2
      have hafter : ∀ t ∈ ts.filter (d + w < ·), e ≤ t := by
        intro t ht
        have hdt : d + w < t := by simpa using (List.mem_filter.mp ht).2
        exact hed.trans hdt.le
      by_cases hde : d < e
      · have hex : e + w < x := lt_of_mem_thin hafter (hts.filter _) hw hx
        exact absurd (hreach e (List.mem_append_left _ he) hde hed) (not_le.mpr hex)
      · rw [thin_fresh] at hx
        · exact hx
        · intro t ht
          have hdt : d + w < t := by simpa using (List.mem_filter.mp ht).2
          rw [near_iff (hafter t ht), not_le]
          exact (add_le_add_left (not_lt.mp hde) w).trans_lt hdt

/-- A pass keeps points below `d - w` and points beyond `d + w`. -/
theorem mem_pass_iff {d x : α} {ts : List α} (hts : ts.Pairwise (· ≤ ·)) (hw : 0 ≤ w) :
    x ∈ pass w (some d) ts ↔
      x ∈ thin w none (ts.filter (· < d - w)) ∨ x ∈ thin w none (ts.filter (d + w < ·)) := by
  rw [pass_eq_append hts hw, List.mem_append]

section SecondPass

variable {S : Set α} {d m : α} {ts : List α}

/-- A pass that starts from nothing is not repeated. -/
theorem second_pass_of_none {d' : Option α} (hts : ts.Pairwise (· ≤ ·)) (hw : 0 ≤ w)
    (hd' : IsLatest (S ∪ {x | x ∈ thin w none ts}) d') {x : α} (hx : x ∈ pass w d' ts) :
    x ∈ thin w none ts := by
  cases d' with
  | none => rwa [pass_none] at hx
  | some m =>
    have htop : ∀ t ∈ ts, t ≤ m + w := by
      intro t ht
      obtain ⟨k, hk, hle⟩ := exists_mem_thin hts hw ht
      exact hle.trans (add_le_add_left (hd'.2 (.inr hk)) w)
    rw [pass_of_top hts hw htop] at hx
    exact (List.mem_filter.mp hx).1

/-- Where nothing beyond `d` is kept, `d` stays the latest point. -/
theorem latest_of_nothing_beyond (hts : ts.Pairwise (· ≤ ·)) (hw : 0 ≤ w) (hd : IsGreatest S d)
    (hm : IsGreatest (S ∪ {x | x ∈ pass w (some d) ts}) m)
    (hempty : thin w none (ts.filter (d + w < ·)) = []) : m = d := by
  refine le_antisymm ?_ (hm.2 (.inl hd.1))
  rcases hm.1 with hS | hkept
  · exact hd.2 hS
  · rw [Set.mem_ofPred_eq, mem_pass_iff hts hw, hempty] at hkept
    rcases hkept with hbelow | hbeyond
    · exact (lt_of_mem_below hbelow).le.trans (sub_le_self d hw)
    · cases hbeyond

/-- Once a point beyond `d` is kept, the last of them is the latest point. -/
theorem latest_beyond (hts : ts.Pairwise (· ≤ ·)) (hw : 0 ≤ w) (hd : IsGreatest S d)
    (hm : IsGreatest (S ∪ {x | x ∈ pass w (some d) ts}) m)
    (hne : thin w none (ts.filter (d + w < ·)) ≠ []) :
    IsGreatest {x | x ∈ thin w none (ts.filter (d + w < ·))} m := by
  have hle : ∀ t ∈ thin w none (ts.filter (d + w < ·)), t ≤ m := fun t ht =>
    hm.2 (.inr ((mem_pass_iff hts hw).mpr (.inr ht)))
  obtain ⟨b, hb⟩ := List.exists_mem_of_ne_nil _ hne
  have hdm : d + w < m := (lt_of_mem_beyond hb).trans_le (hle b hb)
  refine ⟨?_, hle⟩
  rcases hm.1 with hS | hkept
  · exact absurd (hd.2 hS) (not_le.mpr ((le_add_of_nonneg_right hw).trans_lt hdm))
  · rcases (mem_pass_iff hts hw).mp hkept with hbelow | hbeyond
    · have hmd : m < d + w :=
        (lt_of_mem_below hbelow).trans_le ((sub_le_self d hw).trans (le_add_of_nonneg_right hw))
      exact absurd hmd hdm.asymm
    · exact hbeyond

/-- Every point of the list is then within reach of it. -/
theorem le_latest_add (hts : ts.Pairwise (· ≤ ·)) (hw : 0 ≤ w)
    (hm : IsGreatest {x | x ∈ thin w none (ts.filter (d + w < ·))} m) : ∀ t ∈ ts, t ≤ m + w := by
  intro t ht
  by_cases hdt : d + w < t
  · obtain ⟨k, hk, hle⟩ := exists_mem_thin (hts.filter (d + w < ·)) hw
      (List.mem_filter.mpr ⟨ht, by simpa using hdt⟩)
    exact hle.trans (add_le_add_left (hm.2 hk) w)
  · exact (not_lt.mp hdt).trans ((lt_of_mem_beyond hm.1).le.trans (le_add_of_nonneg_right hw))

/-- A point near `d` that the second pass keeps is new. -/
theorem settled_of_second_pass (hts : ts.Pairwise (· ≤ ·)) (hw : 0 ≤ w)
    (hm : IsGreatest {x | x ∈ thin w none (ts.filter (d + w < ·))} m)
    (h : ∀ x ∈ pass w (some m) ts, x ∈ S ∨ x ∈ pass w (some d) ts) : Settled w S (some d) ts := by
  rintro d₀ ⟨rfl⟩ e he hnear hnotS t ht
  obtain ⟨hne, hen⟩ := abs_le.mp hnear
  by_contra hlt
  have hem : e < m - w := lt_sub_iff_add_lt.mpr ((not_le.mp hlt).trans_le (hm.2 ht))
  rw [pass_of_top hts hw (le_latest_add hts hw hm)] at h
  rcases h e (List.mem_filter.mpr ⟨he, by simpa using hem⟩) with hS | hkept
  · exact hnotS hS
  · rcases (mem_pass_iff hts hw).mp hkept with hbelow | hbeyond
    · rw [neg_le_sub_iff_le_add] at hne
      exact absurd (sub_le_iff_le_add.mpr hne) (not_le.mpr (lt_of_mem_below hbelow))
    · exact absurd (sub_le_iff_le_add'.mp hen) (not_le.mpr (lt_of_mem_beyond hbeyond))

/-- In a settled list the second pass keeps points far from `d` only, which the first one kept. -/
theorem second_pass_of_settled (hts : ts.Pairwise (· ≤ ·)) (hw : 0 ≤ w) (hd : IsGreatest S d)
    (hm : IsGreatest {x | x ∈ thin w none (ts.filter (d + w < ·))} m)
    (hset : Settled w S (some d) ts) {x : α} (hx : x ∈ pass w (some m) ts) :
    x ∈ S ∨ x ∈ pass w (some d) ts := by
  rw [pass_of_top hts hw (le_latest_add hts hw hm)] at hx
  obtain ⟨hx, hxm⟩ := List.mem_filter.mp hx
  have hxm : x + w < m := lt_sub_iff_add_lt.mp (by simpa using hxm)
  by_cases hxS : x ∈ S
  · exact .inl hxS
  · refine .inr ((mem_pass_iff hts hw).mpr ?_)
    by_cases hxd : x < d - w
    · refine .inl ?_
      rw [← thin_filter_lt hts]
      exact List.mem_filter.mpr ⟨hx, by simpa using hxd⟩
    · by_cases hdx : d + w < x
      · refine .inr (mem_fresh_of_mem_thin hts hw hx hdx ?_)
        intro e he hde hed
        have hnear : |e - d| ≤ w := (near_iff hde.le).mpr hed
        have heS : e ∉ S := fun hS => absurd (hd.2 hS) (not_le.mpr hde)
        have hme : m ≤ e + w := hset d rfl e he hnear heS m hm.1
        exact ((le_add_of_nonneg_right hw).trans hxm.le).trans hme
      · have hnear : |x - d| ≤ w := by
          rw [abs_le, neg_le_sub_iff_le_add, sub_le_iff_le_add']
          exact ⟨sub_le_iff_le_add.mp (not_lt.mp hxd), not_lt.mp hdx⟩
        exact absurd (hset d rfl x hx hnear hxS m hm.1) (not_le.mpr hxm)

/-- **A second pass keeps nothing new exactly when the list is settled.** -/
theorem second_pass_iff {d d' : Option α} (hts : ts.Pairwise (· ≤ ·)) (hw : 0 ≤ w)
    (hd : IsLatest S d) (hd' : IsLatest (S ∪ {x | x ∈ pass w d ts}) d') :
    (∀ x ∈ pass w d' ts, x ∈ S ∨ x ∈ pass w d ts) ↔ Settled w S d ts := by
  cases d with
  | none =>
    rw [pass_none] at hd' ⊢
    refine iff_of_true (fun x hx => .inr (second_pass_of_none hts hw hd' hx)) ?_
    intro d₀ h
    cases h
  | some d =>
    obtain ⟨m, rfl⟩ : ∃ m, d' = some m := by
      cases d' with
      | some m => exact ⟨m, rfl⟩
      | none =>
        have hmem : d ∈ S ∪ {x | x ∈ pass w (some d) ts} := .inl hd.1
        rw [hd'] at hmem
        exact hmem.elim
    by_cases hempty : thin w none (ts.filter (d + w < ·)) = []
    · -- nothing was kept beyond `d`: the second pass is the first
      rw [latest_of_nothing_beyond hts hw hd hd' hempty]
      refine iff_of_true (fun x hx => .inr hx) ?_
      rintro d₀ ⟨rfl⟩ e - - - t ht
      rw [hempty] at ht
      cases ht
    · have hm := latest_beyond hts hw hd hd' hempty
      exact ⟨settled_of_second_pass hts hw hm,
        fun hset x hx => second_pass_of_settled hts hw hd hm hset hx⟩

end SecondPass

end Sorted

end DeliveryTracking
