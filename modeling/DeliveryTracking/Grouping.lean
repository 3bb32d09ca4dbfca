/-
# `DeliveryTracking.Grouping` — rows collected by a key

A map that keeps its insertion order is a list of entries.  `collect` runs
through a list and adds every element to the entry of its key, which starts from
`empty`:

    get_filterMap     entries may be changed or dropped one by one
    get_collect       an entry holds what the elements of its key add up to
    mem_keys_collect  the keys are those of the elements
    sum_count         entries that count their elements add up to the number of elements
    sum_by_index      elements numbered within a range are counted once
    sum_countP_key    so are elements counted under each of distinct keys

`headed` cuts a list before its heads, the elements with a property; an element that is
put at the end starts a group of its own (`headed_concat_head`) or joins the last one
(`headed_concat_last`).

Nothing below names the repository.
-/
import Mathlib.Algebra.BigOperators.Group.List.Lemmas
import Mathlib.Algebra.Order.Ring.Int
import Mathlib.Algebra.BigOperators.Group.Finset.Piecewise
import Mathlib.Data.List.Nodup

namespace DeliveryTracking.Grouping

variable {α κ γ : Type*} [DecidableEq κ]

def get (k : κ) : List (κ × γ) → Option γ
  | [] => none
  | e :: m => if e.1 = k then some e.2 else get k m

/-- Set an entry, a new one at the end. -/
def put (k : κ) (c : γ) : List (κ × γ) → List (κ × γ)
  | [] => [(k, c)]
  | e :: m => if e.1 = k then (k, c) :: m else e :: put k c m

theorem get_put_self (k : κ) (c : γ) : ∀ m : List (κ × γ), get k (put k c m) = some c
  | [] => by simp [put, get]
  | e :: m => by
    by_cases he : e.1 = k
    · simp [put, get, he]
    · simp [put, get, he, get_put_self k c m]

theorem get_put_ne {k k' : κ} (hk : k ≠ k') (c : γ) :
    ∀ m : List (κ × γ), get k' (put k c m) = get k' m
  | [] => by simp [put, get, hk]
  | e :: m => by
    by_cases he : e.1 = k
    · have hne : e.1 ≠ k' := he ▸ hk
      simp [put, get, he, hk]
    · simp [put, get, he, get_put_ne hk c m]

/-- The keys of a map. -/
def keys (m : List (κ × γ)) : List κ := m.map Prod.fst

theorem mem_keys_put (k k' : κ) (c : γ) :
    ∀ m : List (κ × γ), k' ∈ keys (put k c m) ↔ k' = k ∨ k' ∈ keys m
  | [] => by simp [put, keys]
  | e :: m => by
    by_cases he : e.1 = k
    · simp [put, keys, he]
    · have ih : k' ∈ (put k c m).map Prod.fst ↔ _ := mem_keys_put k k' c m
      simp only [put, keys, he, if_false, List.map_cons, List.mem_cons, ih]
      exact or_left_comm

theorem nodup_put (k : κ) (c : γ) :
    ∀ {m : List (κ × γ)}, (keys m).Nodup → (keys (put k c m)).Nodup
  | [], _ => by simp [put, keys]
  | e :: m, h => by
    obtain ⟨hnot, hm⟩ := List.nodup_cons.mp h
    by_cases he : e.1 = k
    · rw [put, if_pos he]
      exact List.nodup_cons.mpr ⟨he ▸ hnot, hm⟩
    · rw [put, if_neg he]
      have hmem := mem_keys_put k e.1 c m
      exact List.nodup_cons.mpr ⟨fun h' => (hmem.mp h').elim he hnot, nodup_put k c hm⟩

/-- The entry of a key among entries with different keys. -/
theorem get_eq_some_iff {k : κ} {c : γ} :
    ∀ {m : List (κ × γ)}, (keys m).Nodup → (get k m = some c ↔ (k, c) ∈ m)
  | [], _ => by simp [get]
  | e :: m, h => by
    obtain ⟨hnot, hm⟩ := List.nodup_cons.mp h
    have ih := get_eq_some_iff (k := k) (c := c) hm
    by_cases he : e.1 = k
    · have hnone : (k, c) ∉ m := fun hmem => hnot (he ▸ List.mem_map_of_mem (f := Prod.fst) hmem)
      simp [get, he, hnone, Prod.ext_iff, eq_comm]
    · have hne : (k, c) ≠ e := fun h => he (congrArg Prod.fst h).symm
      simp [get, he, ih, hne]

section Entries

variable {δ : Type*} {m : List (κ × γ)} {k : κ}

omit [DecidableEq κ] in
theorem keys_map (f : γ → δ) : keys (m.map fun e => (e.1, f e.2)) = keys m := by
  rw [keys, keys, List.map_map]
  rfl

theorem get_map (f : γ → δ) : get k (m.map fun e => (e.1, f e.2)) = (get k m).map f := by
  induction m with
  | nil => rfl
  | cons e m ih =>
    rw [List.map_cons, get, get, ih]
    split
    · rfl
    · rfl

theorem get_eq_none (hk : k ∉ keys m) : get k m = none := by
  induction m with
  | nil => rfl
  | cons e m ih =>
    have hne : e.1 ≠ k := fun he => hk (he ▸ List.mem_cons_self ..)
    rw [get, if_neg hne]
    exact ih fun hmem => hk (List.mem_cons_of_mem _ hmem)

omit [DecidableEq κ] in
theorem keys_filterMap_subset (f : γ → Option δ) :
    keys (m.filterMap fun e => (f e.2).map fun d => (e.1, d)) ⊆ keys m := by
  intro k' hk
  obtain ⟨⟨_, d⟩, he, rfl⟩ := List.mem_map.mp hk
  obtain ⟨e, hem, hd⟩ := List.mem_filterMap.mp he
  obtain ⟨d', -, hpair⟩ := Option.map_eq_some_iff.mp hd
  obtain ⟨rfl, rfl⟩ := Prod.mk.inj hpair
  exact List.mem_map_of_mem hem

/-- Entries may be changed or dropped one by one. -/
theorem get_filterMap (f : γ → Option δ) (hm : (keys m).Nodup) :
    get k (m.filterMap fun e => (f e.2).map fun d => (e.1, d)) = (get k m).bind f := by
  induction m with
  | nil => rfl
  | cons e m ih =>
    obtain ⟨hnot, hm⟩ := List.nodup_cons.mp hm
    rw [List.filterMap_cons, get]
    by_cases he : e.1 = k
    · subst he
      cases hd : f e.2 with
      | none =>
        simp only [Option.map_none, if_true, Option.bind_some, hd]
        exact get_eq_none fun hmem => hnot (keys_filterMap_subset f hmem)
      | some d => simp [get, hd]
    · rw [if_neg he, ← ih hm]
      cases f e.2 with
      | none => rfl
      | some d => simp [get, he]

end Entries

section Collect

variable (key : α → κ) (empty : γ) (add : γ → α → γ)

/-- Add every element to the entry of its key. -/
def collect (m : List (κ × γ)) (l : List α) : List (κ × γ) :=
  l.foldl (fun m a => put (key a) (add ((get (key a) m).getD empty) a) m) m

theorem get_collect (k : κ) : ∀ (l : List α) (m : List (κ × γ)),
    (get k (collect key empty add m l)).getD empty =
      (l.filter (key · = k)).foldl add ((get k m).getD empty)
  | [], _ => rfl
  | a :: l, m => by
    have ih := get_collect k l (put (key a) (add ((get (key a) m).getD empty) a) m)
    rw [collect, List.foldl_cons]
    refine ih.trans ?_
    by_cases ha : key a = k
    · subst ha
      simp [get_put_self]
    · simp [ha, get_put_ne ha]

theorem mem_keys_collect (k : κ) : ∀ (l : List α) (m : List (κ × γ)),
    k ∈ keys (collect key empty add m l) ↔ k ∈ keys m ∨ ∃ a ∈ l, key a = k
  | [], m => by simp [collect]
  | a :: l, m => by
    have ih := mem_keys_collect k l (put (key a) (add ((get (key a) m).getD empty) a) m)
    rw [collect, List.foldl_cons]
    refine ih.trans ?_
    rw [mem_keys_put, List.exists_mem_cons_iff, eq_comm, or_assoc, or_left_comm]

theorem nodup_collect : ∀ (l : List α) {m : List (κ × γ)}, (keys m).Nodup →
    (keys (collect key empty add m l)).Nodup
  | [], _, h => h
  | a :: l, m, h => by
    rw [collect, List.foldl_cons]
    exact nodup_collect l (nodup_put (key a) (add ((get (key a) m).getD empty) a) h)

/-- What an entry of a map collected from nothing holds. -/
theorem mem_collect_iff {l : List α} {k : κ} {c : γ} :
    (k, c) ∈ collect key empty add [] l ↔
      (∃ a ∈ l, key a = k) ∧ c = (l.filter (key · = k)).foldl add empty := by
  have hnodup := nodup_collect key empty add l (m := []) List.nodup_nil
  have hget := get_collect key empty add k l []
  have hkeys := mem_keys_collect key empty add k l []
  rw [← get_eq_some_iff hnodup]
  constructor
  · intro h
    rw [h] at hget
    refine ⟨?_, hget⟩
    have hmem := List.mem_map_of_mem (f := Prod.fst) ((get_eq_some_iff hnodup).mp h)
    exact (hkeys.mp hmem).resolve_left (by simp [keys])
  · rintro ⟨hex, rfl⟩
    obtain ⟨⟨k', c'⟩, hmem, rfl⟩ := List.mem_map.mp (hkeys.mpr (.inr hex))
    rw [(get_eq_some_iff hnodup).mpr hmem] at hget ⊢
    exact congrArg some hget

end Collect

theorem sum_put (k : κ) (n : Nat) : ∀ m : List (κ × Nat),
    ((put k n m).map Prod.snd).sum + (get k m).getD 0 = (m.map Prod.snd).sum + n
  | [] => by simp [put, get]
  | e :: m => by
    by_cases he : e.1 = k
    · simp [put, get, he]
      omega
    · have ih := sum_put k n m
      simp [put, get, he]
      omega

/-- A map that counts the elements of each key counts every element. -/
theorem sum_count (key : α → κ) : ∀ (l : List α) (m : List (κ × Nat)),
    ((collect key 0 (fun n _ => n + 1) m l).map Prod.snd).sum = (m.map Prod.snd).sum + l.length
  | [], _ => rfl
  | a :: l, m => by
    have ih := sum_count key l (put (key a) ((get (key a) m).getD 0 + 1) m)
    have hput := sum_put (key a) ((get (key a) m).getD 0 + 1) m
    rw [collect, List.foldl_cons]
    refine ih.trans ?_
    rw [List.length_cons]
    omega

/-- Counted key by key, the elements with one of the keys are counted once. -/
theorem sum_countP_key (key : α → κ) (p : α → Bool) (l : List α) : ∀ {ks : List κ}, ks.Nodup →
    (ks.map fun k => l.countP fun a => decide (key a = k) && p a).sum =
      l.countP fun a => decide (key a ∈ ks) && p a
  | [], _ => by simp
  | k :: ks, h => by
    obtain ⟨hk, hks⟩ := List.nodup_cons.mp h
    rw [List.map_cons, List.sum_cons, sum_countP_key key p l hks]
    induction l with
    | nil => rfl
    | cons a l ih =>
      simp only [List.countP_cons]
      rw [← ih]
      by_cases ha : key a = k
      · have hnot : key a ∉ ks := ha ▸ hk
        simp [ha, ha ▸ hnot]
        omega
      · simp [ha]
        omega

theorem sum_single {M : Type*} [AddCommMonoid M] (x : M) {j n : Nat} (hj : j < n) :
    ((List.range n).map fun i => if i = j then x else 0).sum = x := by
  have h := Finset.sum_ite_eq' (Finset.range n) j fun _ => x
  rw [if_pos (Finset.mem_range.mpr hj)] at h
  exact h

/-- Elements with numbers in `[k, k + n)` are counted once, each under its number. -/
theorem sum_by_index {M : Type*} [AddCommMonoid M] (f : α → M) (index : α → Int) (k : Int) (n : Nat)
    {l : List α} (h : ∀ a ∈ l, k ≤ index a ∧ index a < k + n) :
    ((List.range n).map fun i : Nat => ((l.filter (index · = k + i)).map f).sum).sum =
      (l.map f).sum := by
  induction l with
  | nil => simp
  | cons a l ih =>
    obtain ⟨hlo, hhi⟩ := h a List.mem_cons_self
    obtain ⟨j, hj⟩ := Int.eq_ofNat_of_zero_le (a := index a - k) (by omega)
    have hjn : j < n := by omega
    have hsplit : ∀ i : Nat, (((a :: l).filter (index · = k + i)).map f).sum =
        (if i = j then f a else 0) + ((l.filter (index · = k + i)).map f).sum := by
      intro i
      by_cases hi : i = j
      · have ha : index a = k + i := by omega
        rw [if_pos hi, List.filter_cons_of_pos (by simpa using ha), List.map_cons, List.sum_cons]
      · have ha : index a ≠ k + i := by omega
        rw [if_neg hi, List.filter_cons_of_neg (by simpa using ha), zero_add]
    simp only [hsplit, List.sum_map_add, sum_single (f a) hjn, List.map_cons, List.sum_cons]
    rw [ih fun b hb => h b (List.mem_cons_of_mem a hb)]

/-! ## Heads -/

section Headed

variable (p : α → Bool)

/-- What stands before the first head, and each head with what stands before the next one. -/
def headed : List α → List α × List (α × List α)
  | [] => ([], [])
  | a :: l =>
      if p a then ([], (a, (headed l).1) :: (headed l).2) else (a :: (headed l).1, (headed l).2)

variable {p} {a : α}

theorem headed_concat_head (ha : p a = true) (l : List α) :
    headed p (l ++ [a]) = ((headed p l).1, (headed p l).2 ++ [(a, [])]) := by
  induction l with
  | nil => simp [headed, ha]
  | cons b l ih =>
    rw [List.cons_append, headed, ih, headed]
    split <;> rfl

theorem headed_concat_lead (ha : p a = false) {l : List α} (hl : (headed p l).2 = []) :
    headed p (l ++ [a]) = ((headed p l).1 ++ [a], []) := by
  induction l with
  | nil => simp [headed, ha]
  | cons b l ih =>
    rw [headed] at hl
    split at hl
    · cases hl
    · rename_i hb
      rw [List.cons_append, headed, if_neg hb, ih hl, headed, if_neg hb]
      rfl

theorem headed_concat_last (ha : p a = false) {l : List α} {gs : List (α × List α)} {b : α}
    {bs : List α} (hl : (headed p l).2 = gs ++ [(b, bs)]) :
    headed p (l ++ [a]) = ((headed p l).1, gs ++ [(b, bs ++ [a])]) := by
  induction l generalizing gs with
  | nil => exact absurd hl.symm (List.append_ne_nil_of_right_ne_nil _ (List.cons_ne_nil _ _))
  | cons c l ih =>
    rw [List.cons_append, headed, headed]
    rw [headed] at hl
    split at hl
    · rename_i hc
      rw [if_pos hc, if_pos hc]
      cases gs with
      | nil =>
        obtain ⟨hhead, hrest⟩ := List.cons.inj hl
        cases hhead
        rw [headed_concat_lead ha hrest]
        rfl
      | cons g gs =>
        obtain ⟨rfl, hrest⟩ := List.cons.inj hl
        rw [ih hrest]
        rfl
    · rename_i hc
      rw [if_neg hc, if_neg hc, ih hl]

/-- Every element is before the first head, a head or behind one. -/
theorem sum_headed {M : Type*} [AddCommMonoid M] (f : α → M) (l : List α) :
    (l.map f).sum = ((headed p l).1.map f).sum +
      ((headed p l).2.map fun g => f g.1 + (g.2.map f).sum).sum := by
  induction l with
  | nil => simp [headed]
  | cons b l ih =>
    rw [List.map_cons, List.sum_cons, ih, headed]
    split
    · simp [add_assoc]
    · simp [add_assoc]

end Headed

end DeliveryTracking.Grouping
