/-
# `DeliveryTracking.Cooldown` — acting once in a while, by a key that expires

A program reads a key and acts where it is missing; then it sets the key, which expires
after a lifetime of its own.  Other runs of the program come between the two, and the
key is in any of several stores.

    look    the key is read; where it is missing the run goes on
    mark    a run that goes on sets the key, in the stores that take it, and acts
    drop    a run ends without

    two marks of a key are a lifetime apart, or the later run had looked before
    the earlier one marked                                              (`spaced`)
    a key is found only within a lifetime of a mark of it                (`found`)

The first is all there is: looking and marking are two steps.

Nothing below names the repository.
-/
import DeliveryTracking.Lease
import DeliveryTracking.Runs

namespace DeliveryTracking

/-- A run that found no key, with the number of marks there were. -/
structure Look (κ σ : Type*) where
  key : κ
  store : σ
  lookedAt : Nat
  seen : Nat
  deriving DecidableEq

/-- What became of a look, and the stores that took the key. -/
structure Mark (κ σ : Type*) where
  look : Look κ σ
  markedAt : Nat
  stores : List σ
  deriving DecidableEq

structure Cooldown (κ σ : Type*) where
  now : Nat
  keys : σ → Keys κ Unit
  looks : List (Look κ σ)
  marks : List (Mark κ σ)

namespace Cooldown

variable {κ σ : Type*}

inductive Event (κ σ : Type*) where
  | elapse (ms : Nat)
  | look (key : κ) (store : σ)
  | mark (i : Nat) (stores : List σ)
  | drop (i : Nat)

def start (now : Nat) : Cooldown κ σ := ⟨now, fun _ _ => none, [], []⟩

/-- The key is in the store. -/
def found (s : Cooldown κ σ) (key : κ) (store : σ) : Bool :=
  (Lease.alive s.now (s.keys store key)).isSome

def look (s : Cooldown κ σ) (key : κ) (store : σ) : Cooldown κ σ :=
  if s.found key store then s
  else { s with looks := s.looks ++ [⟨key, store, s.now, s.marks.length⟩] }

variable [DecidableEq κ] [DecidableEq σ]

def mark (lifetime : κ → Nat) (s : Cooldown κ σ) (l : Look κ σ) (stores : List σ) :
    Cooldown κ σ :=
  { s with
    keys := fun store =>
      if store ∈ stores then Keys.set s.now (lifetime l.key) l.key () (s.keys store)
      else s.keys store
    marks := s.marks ++ [⟨l, s.now, stores⟩] }

def without (s : Cooldown κ σ) (i : Nat) : Cooldown κ σ := { s with looks := s.looks.eraseIdx i }

def step (lifetime : κ → Nat) (s : Cooldown κ σ) : Event κ σ → Option (Cooldown κ σ)
  | .elapse ms => some { s with now := s.now + ms }
  | .look key store => some (s.look key store)
  | .mark i stores => (s.looks[i]?).map fun l => mark lifetime (s.without i) l stores
  | .drop i => (s.looks[i]?).map fun _ => s.without i

/-! ## The invariant -/

variable {lifetime : κ → Nat} {s t : Cooldown κ σ} {l : Look κ σ} {m : Mark κ σ} {marks : List (Mark κ σ)}

omit [DecidableEq κ] [DecidableEq σ] in
/-- The marks that the look knew of had expired. -/
def Clear (lifetime : κ → Nat) (marks : List (Mark κ σ)) (l : Look κ σ) : Prop :=
  l.seen ≤ marks.length ∧ ∀ m ∈ marks.take l.seen, m.look.key = l.key → l.store ∈ m.stores →
    m.markedAt + lifetime l.key ≤ l.lookedAt

omit [DecidableEq κ] [DecidableEq σ] in
theorem Clear.append (h : Clear lifetime marks l) (m : Mark κ σ) :
    Clear lifetime (marks ++ [m]) l := by
  refine ⟨?_, ?_⟩
  · rw [List.length_append]
    exact Nat.le_add_right_of_le h.1
  · rw [List.take_append_of_le_length h.1]
    exact h.2

/-- Each key is of the last mark of it; each look and each mark was in its right. -/
structure Sound (lifetime : κ → Nat) (s : Cooldown κ σ) : Prop where
  marked : ∀ m ∈ s.marks, m.markedAt ≤ s.now
  holds : ∀ m ∈ s.marks, ∀ store ∈ m.stores, ∃ e, s.keys store m.look.key = some e ∧
    m.markedAt + lifetime m.look.key ≤ e.expiresAt
  origin : ∀ store key e, s.keys store key = some e → ∃ m ∈ s.marks, m.look.key = key ∧
    store ∈ m.stores ∧ e.expiresAt = m.markedAt + lifetime key
  looks : ∀ l ∈ s.looks, Clear lifetime s.marks l
  marks : ∀ m ∈ s.marks, Clear lifetime s.marks m.look

omit [DecidableEq κ] [DecidableEq σ] in
theorem sound_start (now : Nat) : Sound lifetime (start now : Cooldown κ σ) where
  marked m hm := by cases hm
  holds m hm := by cases hm
  origin store key e he := by cases he
  looks l hl := by cases hl
  marks m hm := by cases hm

/-- A key after a mark: the one it sets, or the one there was. -/
theorem keys_mark (s : Cooldown κ σ) (l : Look κ σ) (stores : List σ) (store : σ) (key : κ) :
    (s.mark lifetime l stores).keys store key =
      if store ∈ stores ∧ key = l.key then some ⟨(), s.now + lifetime l.key⟩
      else s.keys store key := by
  show (if store ∈ stores then Keys.set s.now (lifetime l.key) l.key () (s.keys store)
    else s.keys store) key = _
  by_cases hstore : store ∈ stores
  · rw [if_pos hstore, Keys.set, Function.update_apply]
    simp only [hstore, true_and]
  · rw [if_neg hstore, if_neg fun h => hstore h.1]

namespace Sound

omit [DecidableEq κ] [DecidableEq σ] in
/-- A key that is missing is one whose marks have all expired. -/
theorem expired (h : Sound lifetime s) {key : κ} {store : σ} (hmissing : s.found key store = false)
    (hm : m ∈ s.marks) (hkey : m.look.key = key) (hstore : store ∈ m.stores) :
    m.markedAt + lifetime key ≤ s.now := by
  obtain ⟨e, he, hle⟩ := h.holds m hm store hstore
  rw [hkey] at he hle
  by_contra hlater
  have halive : Lease.alive s.now (s.keys store key) = some e :=
    Lease.alive_eq_some_iff.mpr ⟨he, by omega⟩
  rw [found, halive] at hmissing
  cases hmissing

omit [DecidableEq κ] [DecidableEq σ] in
theorem look (h : Sound lifetime s) (key : κ) (store : σ) : Sound lifetime (s.look key store) := by
  rw [Cooldown.look]
  split
  · exact h
  · rename_i hmissing
    refine ⟨h.marked, h.holds, h.origin, fun l hl => ?_, h.marks⟩
    rcases List.mem_append.mp hl with hl | hl
    · exact h.looks l hl
    · obtain rfl := List.mem_singleton.mp hl
      refine ⟨Nat.le_refl _, fun m hm hkey hstore => ?_⟩
      rw [List.take_length] at hm
      exact h.expired (Bool.not_eq_true _ ▸ hmissing) hm hkey hstore

omit [DecidableEq κ] [DecidableEq σ] in
theorem without (h : Sound lifetime s) (i : Nat) : Sound lifetime (s.without i) :=
  ⟨h.marked, h.holds, h.origin, fun l hl => h.looks l (List.mem_of_mem_eraseIdx hl), h.marks⟩

theorem mark (h : Sound lifetime s) (hl : Clear lifetime s.marks l) (stores : List σ) :
    Sound lifetime (s.mark lifetime l stores) where
  marked m hm := by
    rcases List.mem_append.mp hm with hm | hm
    · exact h.marked m hm
    · rw [List.mem_singleton.mp hm]
      exact Nat.le_refl _
  holds m hm store hstore := by
    rw [keys_mark]
    split
    · rename_i hset
      refine ⟨_, rfl, ?_⟩
      rw [hset.2]
      -- a later mark puts the expiry off
      rcases List.mem_append.mp hm with hm | hm
      · exact Nat.add_le_add_right (h.marked m hm) _
      · obtain rfl := List.mem_singleton.mp hm
        exact Nat.le_refl _
    · rename_i hkept
      rcases List.mem_append.mp hm with hm | hm
      · exact h.holds m hm store hstore
      · obtain rfl := List.mem_singleton.mp hm
        exact absurd ⟨hstore, rfl⟩ hkept
  origin store key e he := by
    rw [keys_mark] at he
    split at he
    · rename_i hset
      obtain rfl := Option.some.inj he
      exact ⟨_, List.mem_append_right _ (List.mem_singleton_self _), hset.2.symm, hset.1,
        congrArg (fun k => s.now + lifetime k) hset.2.symm⟩
    · obtain ⟨m, hm, hrest⟩ := h.origin store key e he
      exact ⟨m, List.mem_append_left _ hm, hrest⟩
  looks l' hl' := (h.looks l' hl').append _
  marks m hm := by
    rcases List.mem_append.mp hm with hm | hm
    · exact (h.marks m hm).append _
    · rw [List.mem_singleton.mp hm]
      exact hl.append _

theorem step {e : Event κ σ} (h : Sound lifetime s) (hstep : Steps (step lifetime) s e t) :
    Sound lifetime t := by
  cases e with
  | elapse ms =>
    obtain rfl := Option.some.inj hstep
    exact ⟨fun m hm => Nat.le_add_right_of_le (h.marked m hm), h.holds, h.origin, h.looks, h.marks⟩
  | look key store =>
    obtain rfl := Option.some.inj hstep
    exact h.look key store
  | mark i stores =>
    obtain ⟨l, hl, rfl⟩ := Option.map_eq_some_iff.mp hstep
    exact (h.without i).mark (h.looks l (List.mem_of_getElem? hl)) stores
  | drop i =>
    obtain ⟨l, -, rfl⟩ := Option.map_eq_some_iff.mp hstep
    exact h.without i

theorem run {es : List (Event κ σ)} {now : Nat} (h : Run (Steps (Cooldown.step lifetime)) (start now) es s) :
    Sound lifetime s :=
  h.invariant (fun h hstep => Sound.step h hstep) (sound_start now)

end Sound

/-! ## Runs -/

variable {es : List (Event κ σ)} {now : Nat}

/-- A mark is a lifetime after those of its key that had been made when it looked. -/
theorem spaced (h : Run (Steps (step lifetime)) (start now) es s) {a b : Mark κ σ} (hb : b ∈ s.marks)
    (ha : a ∈ s.marks.take b.look.seen) (hkey : a.look.key = b.look.key)
    (hstore : b.look.store ∈ a.stores) : a.markedAt + lifetime b.look.key ≤ b.look.lookedAt :=
  ((Sound.run h).marks b hb).2 a ha hkey hstore

/-- A key is found within a lifetime of a mark of it. -/
theorem mark_of_found (h : Run (Steps (step lifetime)) (start now) es s) {key : κ} {store : σ}
    (hfound : s.found key store = true) : ∃ m ∈ s.marks, m.look.key = key ∧ store ∈ m.stores ∧
      m.markedAt ≤ s.now ∧ s.now < m.markedAt + lifetime key := by
  obtain ⟨e, he⟩ := Option.isSome_iff_exists.mp hfound
  obtain ⟨hkey, hlive⟩ := Lease.alive_eq_some_iff.mp he
  obtain ⟨m, hm, hsame, hstore, hexpires⟩ := (Sound.run h).origin store key e hkey
  exact ⟨m, hm, hsame, hstore, (Sound.run h).marked m hm, by omega⟩

end Cooldown

end DeliveryTracking
