/-
# `DeliveryTracking.Buckets` — one representative of each bucket

`firstOfEach key mark seen l` walks a list.  An element without a key stays; of
the elements with one key the first stays, marked, and the others go; of a key
that was seen before all go.

    mem_firstOfEach      the first of a key stays
    of_mem_firstOfEach   nothing else stays of a key
    filter_firstOfEach   the elements without a key stay as they are
    firstOfEach_twice    a second walk changes nothing

Nothing below names the repository.
-/
import Mathlib.Data.List.Nodup

namespace DeliveryTracking

variable {α κ : Type*} [DecidableEq κ] (key : α → Option κ) (mark : α → α)

def firstOfEach : List κ → List α → List α
  | _, [] => []
  | seen, a :: as =>
    match key a with
    | none => a :: firstOfEach seen as
    | some k => if k ∈ seen then firstOfEach seen as else mark a :: firstOfEach (k :: seen) as

variable {key mark} {seen : List κ} {a : α} {as : List α} {k : κ}

theorem firstOfEach_none (h : key a = none) :
    firstOfEach key mark seen (a :: as) = a :: firstOfEach key mark seen as := by
  rw [firstOfEach, h]

theorem firstOfEach_seen (h : key a = some k) (hk : k ∈ seen) :
    firstOfEach key mark seen (a :: as) = firstOfEach key mark seen as := by
  rw [firstOfEach, h]
  exact if_pos hk

theorem firstOfEach_new (h : key a = some k) (hk : k ∉ seen) :
    firstOfEach key mark seen (a :: as) = mark a :: firstOfEach key mark (k :: seen) as := by
  rw [firstOfEach, h]
  exact if_neg hk

/-- The first element of a key stays. -/
theorem mem_firstOfEach : ∀ {as : List α} {seen : List κ}, k ∉ seen →
    as.find? (fun b => key b == some k) = some a → mark a ∈ firstOfEach key mark seen as
  | [], _, _, h => by cases h
  | b :: as, seen, hk, h => by
    rw [List.find?_cons] at h
    cases hb : key b with
    | none =>
      rw [hb] at h
      rw [firstOfEach_none hb]
      exact List.mem_cons_of_mem _ (mem_firstOfEach hk h)
    | some k' =>
      rw [hb] at h
      by_cases hkk : k' = k
      · subst hkk
        simp only [BEq.rfl] at h
        rw [firstOfEach_new hb hk, Option.some.inj h]
        exact List.mem_cons_self
      · have hne : (some k' == some k) = false := by simpa using hkk
        rw [hne] at h
        by_cases hseen : k' ∈ seen
        · rw [firstOfEach_seen hb hseen]
          exact mem_firstOfEach hk h
        · rw [firstOfEach_new hb hseen]
          refine List.mem_cons_of_mem _ (mem_firstOfEach ?_ h)
          rintro (_ | ⟨_, hmem⟩)
          · exact hkk rfl
          · exact hk hmem

/-- What stays has no key, or is the first of its key. -/
theorem of_mem_firstOfEach : ∀ {as : List α} {seen : List κ} {b : α},
    b ∈ firstOfEach key mark seen as → (b ∈ as ∧ key b = none) ∨
      ∃ a ∈ as, ∃ k, key a = some k ∧ k ∉ seen ∧
        as.find? (fun c => key c == some k) = some a ∧ b = mark a
  | [], _, _, h => by cases h
  | c :: as, seen, b, h => by
    cases hc : key c with
    | none =>
      rw [firstOfEach_none hc] at h
      rcases List.mem_cons.mp h with rfl | h
      · exact Or.inl ⟨List.mem_cons_self, hc⟩
      · rcases of_mem_firstOfEach h with ⟨hb, hnone⟩ | ⟨a, ha, k, hk, hseen, hfirst, heq⟩
        · exact Or.inl ⟨List.mem_cons_of_mem _ hb, hnone⟩
        · refine Or.inr ⟨a, List.mem_cons_of_mem _ ha, k, hk, hseen, ?_, heq⟩
          rw [List.find?_cons, hc]
          exact hfirst
    | some k' =>
      by_cases hmem : k' ∈ seen
      · rw [firstOfEach_seen hc hmem] at h
        rcases of_mem_firstOfEach h with ⟨hb, hnone⟩ | ⟨a, ha, k, hk, hseen, hfirst, heq⟩
        · exact Or.inl ⟨List.mem_cons_of_mem _ hb, hnone⟩
        · refine Or.inr ⟨a, List.mem_cons_of_mem _ ha, k, hk, hseen, ?_, heq⟩
          have hne : (key c == some k) = false := by
            rw [hc]
            simpa using fun heq : k' = k => hseen (heq ▸ hmem)
          rw [List.find?_cons, hne]
          exact hfirst
      · rw [firstOfEach_new hc hmem] at h
        rcases List.mem_cons.mp h with rfl | h
        · refine Or.inr ⟨c, List.mem_cons_self, k', hc, hmem, ?_, rfl⟩
          rw [List.find?_cons, hc, BEq.rfl]
        · rcases of_mem_firstOfEach h with ⟨hb, hnone⟩ | ⟨a, ha, k, hk, hseen, hfirst, heq⟩
          · exact Or.inl ⟨List.mem_cons_of_mem _ hb, hnone⟩
          · obtain ⟨hkk, hseen⟩ : k ≠ k' ∧ k ∉ seen := by simpa using hseen
            refine Or.inr ⟨a, List.mem_cons_of_mem _ ha, k, hk, hseen, ?_, heq⟩
            have hne : (key c == some k) = false := by
              rw [hc]
              simpa using Ne.symm hkk
            rw [List.find?_cons, hne]
            exact hfirst

section

variable (hmark : ∀ a, key (mark a) = key a)

include hmark

/-- The elements without a key stay as they are. -/
theorem filter_firstOfEach : ∀ (as : List α) (seen : List κ),
    (firstOfEach key mark seen as).filter (fun a => (key a).isNone)
      = as.filter (fun a => (key a).isNone)
  | [], _ => rfl
  | a :: as, seen => by
    cases ha : key a with
    | none =>
      rw [firstOfEach_none ha]
      simp [ha, filter_firstOfEach as seen]
    | some k =>
      have hdrop : (a :: as).filter (fun a => (key a).isNone)
          = as.filter (fun a => (key a).isNone) := by simp [ha]
      rw [hdrop]
      by_cases hk : k ∈ seen
      · rw [firstOfEach_seen ha hk]
        exact filter_firstOfEach as seen
      · rw [firstOfEach_new ha hk]
        simp [hmark, ha, filter_firstOfEach as (k :: seen)]

/-- A walk over what a walk has left changes nothing. -/
theorem firstOfEach_twice (htwice : ∀ a, mark (mark a) = mark a) : ∀ (as : List α) (seen : List κ),
    firstOfEach key mark seen (firstOfEach key mark seen as) = firstOfEach key mark seen as
  | [], _ => rfl
  | a :: as, seen => by
    cases ha : key a with
    | none =>
      rw [firstOfEach_none ha, firstOfEach_none ha, firstOfEach_twice htwice as seen]
    | some k =>
      by_cases hk : k ∈ seen
      · rw [firstOfEach_seen ha hk]
        exact firstOfEach_twice htwice as seen
      · have hka : key (mark a) = some k := (hmark a).trans ha
        rw [firstOfEach_new ha hk, firstOfEach_new hka hk, htwice,
          firstOfEach_twice htwice as (k :: seen)]

end

end DeliveryTracking
