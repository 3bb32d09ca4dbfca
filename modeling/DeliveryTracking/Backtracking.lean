/-
# `DeliveryTracking.Backtracking` — patterns matched by backtracking

A matcher answers, for a list, the ways it can match at its front: each with what it
takes and what it leaves, the one to try first at the head.

    one          a single element
    seq          one matcher after the other
    atMost       up to `n` times, as often as possible
    star         any number of times, as often as possible
    before       only where the rest meets a condition
    search       the first place from the left where two matchers match in turn

`Accepts` says which lists a matcher takes, whatever the order; `search_eq_some` and
`search_eq_none` are what a client needs of a search where the order does not matter.

Nothing below names the repository.
-/
import Mathlib.Data.List.Basic

namespace DeliveryTracking

/-- The ways to match at the front of a list: what is taken, and what is left. -/
abbrev Matcher (α : Type*) := List α → List (List α × List α)

namespace Matcher

variable {α : Type*}

def one (p : α → Bool) : Matcher α
  | [] => []
  | a :: l => if p a then [([a], l)] else []

def seq (m m' : Matcher α) : Matcher α :=
  fun l => (m l).flatMap fun x => (m' x.2).map fun y => (x.1 ++ y.1, y.2)

def atMost (m : Matcher α) : Nat → Matcher α
  | 0 => fun l => [([], l)]
  | n + 1 => fun l => m.seq (m.atMost n) l ++ [([], l)]

/-- For a matcher that takes something each time. -/
def star (m : Matcher α) : Matcher α := fun l => m.atMost l.length l

def before (m : Matcher α) (p : List α → Bool) : Matcher α := fun l => (m l).filter fun x => p x.2

/-! ## What is accepted -/

/-- The matcher takes `u` and leaves `r` exactly when `L u r`. -/
def Accepts (m : Matcher α) (L : List α → List α → Prop) : Prop :=
  ∀ l u r, (u, r) ∈ m l ↔ l = u ++ r ∧ L u r

variable {m m' : Matcher α} {L L' : List α → List α → Prop}

theorem accepts_one (p : α → Bool) : (one p).Accepts fun u _ => ∃ a, u = [a] ∧ p a = true := by
  intro l u r
  cases l with
  | nil =>
      constructor
      · intro h
        cases h
      · rintro ⟨h, a, rfl, -⟩
        cases h
  | cons b l =>
      simp only [one]
      split
      · rename_i hb
        simp only [List.mem_singleton, Prod.mk.injEq]
        constructor
        · rintro ⟨rfl, rfl⟩
          exact ⟨rfl, b, rfl, hb⟩
        · rintro ⟨h, a, rfl, -⟩
          cases h
          exact ⟨rfl, rfl⟩
      · rename_i hb
        constructor
        · intro h
          cases h
        · rintro ⟨h, a, rfl, ha⟩
          cases h
          exact absurd ha hb

theorem accepts_seq (h : m.Accepts L) (h' : m'.Accepts L') :
    (m.seq m').Accepts fun u r => ∃ v w, u = v ++ w ∧ L v (w ++ r) ∧ L' w r := by
  intro l u r
  simp only [seq, List.mem_flatMap, List.mem_map, Prod.mk.injEq, Prod.exists]
  constructor
  · rintro ⟨v, r', hv, w, r'', hw, rfl, rfl⟩
    obtain ⟨rfl, hL⟩ := (h _ _ _).mp hv
    obtain ⟨rfl, hL'⟩ := (h' _ _ _).mp hw
    exact ⟨(List.append_assoc ..).symm, v, w, rfl, hL, hL'⟩
  · rintro ⟨rfl, v, w, rfl, hL, hL'⟩
    exact ⟨v, w ++ r, (h _ _ _).mpr ⟨List.append_assoc .., hL⟩, w, r, (h' _ _ _).mpr ⟨rfl, hL'⟩, rfl,
      rfl⟩

theorem accepts_atMost {L : List α → Prop} (h : m.Accepts fun u _ => L u) (n : Nat) :
    (m.atMost n).Accepts fun u _ => ∃ vs : List (List α), vs.length ≤ n ∧ (∀ v ∈ vs, L v) ∧
      u = vs.flatten := by
  induction n with
  | zero =>
      intro l u r
      simp only [atMost, List.mem_singleton, Prod.mk.injEq]
      constructor
      · rintro ⟨rfl, rfl⟩
        exact ⟨rfl, [], Nat.le_refl 0, by simp, rfl⟩
      · rintro ⟨rfl, vs, hlen, -, rfl⟩
        rw [List.length_eq_zero_iff.mp (Nat.le_zero.mp hlen)]
        exact ⟨rfl, rfl⟩
  | succ n ih =>
      intro l u r
      simp only [atMost, List.mem_append, List.mem_singleton, Prod.mk.injEq,
        accepts_seq h ih l u r]
      constructor
      · rintro (⟨rfl, v, w, rfl, hv, vs, hlen, hvs, rfl⟩ | ⟨rfl, rfl⟩)
        · refine ⟨rfl, v :: vs, Nat.succ_le_succ hlen, ?_, rfl⟩
          intro x hx
          rcases List.mem_cons.mp hx with rfl | hx
          · exact hv
          · exact hvs x hx
        · exact ⟨rfl, [], Nat.zero_le _, by simp, rfl⟩
      · rintro ⟨rfl, vs, hlen, hvs, rfl⟩
        cases vs with
        | nil => exact .inr ⟨rfl, rfl⟩
        | cons v vs =>
            refine .inl ⟨rfl, v, vs.flatten, rfl, hvs v (List.mem_cons_self ..), vs,
              Nat.le_of_succ_le_succ hlen, ?_, rfl⟩
            intro x hx
            exact hvs x (List.mem_cons_of_mem _ hx)

theorem length_le_flatten {vs : List (List α)} (h : ∀ v ∈ vs, v ≠ []) :
    vs.length ≤ vs.flatten.length := by
  induction vs with
  | nil => exact Nat.le_refl 0
  | cons v vs ih =>
      have hv := List.length_pos_iff.mpr (h v (List.mem_cons_self ..))
      have hvs := ih fun x hx => h x (List.mem_cons_of_mem _ hx)
      simp only [List.length_cons, List.flatten_cons, List.length_append]
      omega

theorem accepts_star {L : List α → Prop} (h : m.Accepts fun u _ => L u) (hne : ∀ u, L u → u ≠ []) :
    m.star.Accepts fun u _ => ∃ vs : List (List α), (∀ v ∈ vs, L v) ∧ u = vs.flatten := by
  intro l u r
  simp only [star, accepts_atMost h l.length l u r]
  constructor
  · rintro ⟨rfl, vs, -, hvs, rfl⟩
    exact ⟨rfl, vs, hvs, rfl⟩
  · rintro ⟨rfl, vs, hvs, rfl⟩
    refine ⟨rfl, vs, ?_, hvs, rfl⟩
    have hlen := length_le_flatten fun v hv => hne v (hvs v hv)
    rw [List.length_append]
    omega

theorem accepts_before (h : m.Accepts L) (p : List α → Bool) :
    (m.before p).Accepts fun u r => L u r ∧ p r = true := by
  intro l u r
  simp only [before, List.mem_filter, h l u r, and_assoc]

/-! ## Searching -/

/-- A match of `m` and then `m'`: the list is `before ++ captured ++ tail ++ rest`. -/
structure Found (α : Type*) where
  before : List α
  captured : List α
  tail : List α
  rest : List α
  deriving DecidableEq

def Found.cons (a : α) (f : Found α) : Found α := { f with before := a :: f.before }

/-- The matches at the front. -/
def front (m m' : Matcher α) (l : List α) : List (Found α) :=
  (m l).flatMap fun x => (m' x.2).map fun y => ⟨[], x.1, y.1, y.2⟩

def search (m m' : Matcher α) : List α → Option (Found α)
  | [] => (front m m' []).head?
  | a :: l => (front m m' (a :: l)).head?.or ((search m m' l).map (.cons a))

/-- A match of `L` and then `L'`. -/
structure Match (L L' : List α → List α → Prop) (l : List α) (f : Found α) : Prop where
  eq : l = f.before ++ (f.captured ++ (f.tail ++ f.rest))
  captured : L f.captured (f.tail ++ f.rest)
  tail : L' f.tail f.rest

theorem mem_front (h : m.Accepts L) (h' : m'.Accepts L') {l : List α} {f : Found α} :
    f ∈ front m m' l ↔ f.before = [] ∧ Match L L' l f := by
  simp only [front, List.mem_flatMap, List.mem_map, Prod.exists]
  constructor
  · rintro ⟨u, r, hu, v, r', hv, rfl⟩
    obtain ⟨rfl, hL⟩ := (h _ _ _).mp hu
    obtain ⟨rfl, hL'⟩ := (h' _ _ _).mp hv
    exact ⟨rfl, rfl, hL, hL'⟩
  · rintro ⟨hnil, heq, hL, hL'⟩
    obtain ⟨b, u, v, r⟩ := f
    obtain rfl : b = [] := hnil
    exact ⟨u, v ++ r, (h _ _ _).mpr ⟨heq, hL⟩, v, r, (h' _ _ _).mpr ⟨rfl, hL'⟩, rfl⟩

theorem Match.cons {l : List α} {f : Found α} (h : Match L L' l f) (a : α) :
    Match L L' (a :: l) (f.cons a) :=
  ⟨by rw [h.eq]; rfl, h.captured, h.tail⟩

/-- A match that is not at the front is one of the list without its first element. -/
theorem Match.of_cons {l : List α} {a b : α} {f : Found α} (h : Match L L' (a :: l) (f.cons b)) :
    Match L L' l f := by
  have heq := h.eq
  obtain ⟨-, hl⟩ := List.cons.inj heq
  exact ⟨hl, h.captured, h.tail⟩

theorem search_eq_none (h : m.Accepts L) (h' : m'.Accepts L') {l : List α} :
    search m m' l = none ↔ ∀ f, ¬Match L L' l f := by
  induction l with
  | nil =>
      rw [search, List.head?_eq_none_iff, List.eq_nil_iff_forall_not_mem]
      refine forall_congr' fun f => not_congr ?_
      rw [mem_front h h']
      constructor
      · exact And.right
      · intro hmatch
        exact ⟨(List.append_eq_nil_iff.mp hmatch.eq.symm).1, hmatch⟩
  | cons a l ih =>
      rw [search, Option.or_eq_none_iff, Option.map_eq_none_iff, ih, List.head?_eq_none_iff,
        List.eq_nil_iff_forall_not_mem]
      constructor
      · rintro ⟨hfront, hlater⟩ ⟨_ | ⟨b, before⟩, u, v, r⟩ hmatch
        · exact hfront _ ((mem_front h h').mpr ⟨rfl, hmatch⟩)
        · exact hlater ⟨before, u, v, r⟩ hmatch.of_cons
      · intro hnone
        refine ⟨fun f hf => hnone f ((mem_front h h').mp hf).2, fun f hf => hnone _ (hf.cons a)⟩

/-- The match that is found is one of those furthest to the left. -/
theorem search_eq_some (h : m.Accepts L) (h' : m'.Accepts L') {l : List α} {f : Found α}
    (hsearch : search m m' l = some f) :
    Match L L' l f ∧ ∀ g, Match L L' l g → f.before.length ≤ g.before.length := by
  induction l generalizing f with
  | nil =>
      have hmem := List.mem_of_mem_head? (Option.mem_def.mpr hsearch)
      obtain ⟨hnil, hmatch⟩ := (mem_front h h').mp hmem
      exact ⟨hmatch, fun g _ => by simp [hnil]⟩
  | cons a l ih =>
      rw [search] at hsearch
      rcases Option.or_eq_some_iff.mp hsearch with hfront | ⟨hnone, hlater⟩
      · have hmem := List.mem_of_mem_head? (Option.mem_def.mpr hfront)
        obtain ⟨hnil, hmatch⟩ := (mem_front h h').mp hmem
        exact ⟨hmatch, fun g _ => by simp [hnil]⟩
      · obtain ⟨f', hf', rfl⟩ := Option.map_eq_some_iff.mp hlater
        obtain ⟨hmatch, hleast⟩ := ih hf'
        refine ⟨hmatch.cons a, ?_⟩
        rintro ⟨_ | ⟨b, before⟩, u, v, r⟩ hg
        · have hmem : (⟨[], u, v, r⟩ : Found α) ∈ front m m' (a :: l) :=
            (mem_front h h').mpr ⟨rfl, hg⟩
          rw [List.head?_eq_none_iff.mp hnone] at hmem
          cases hmem
        · exact Nat.succ_le_succ (hleast ⟨before, u, v, r⟩ hg.of_cons)

/-- Where there is a match, one is found. -/
theorem exists_search (h : m.Accepts L) (h' : m'.Accepts L') {l : List α} {g : Found α}
    (hg : Match L L' l g) : ∃ f, search m m' l = some f := by
  refine Option.ne_none_iff_exists'.mp ?_
  intro hnone
  exact (search_eq_none h h').mp hnone g hg

end Matcher

end DeliveryTracking
