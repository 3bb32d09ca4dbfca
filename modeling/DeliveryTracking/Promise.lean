/-
# `DeliveryTracking.Promise` — promises and their job queue

The promises of the language, over arbitrary names `ι`, handlers `η` and values
`V`.  A cell is pending with the reactions registered on it, or settled for good.
Registering a reaction on a settled promise, and settling a promise that has
reactions, put jobs in a queue; resolving a promise with another one puts the job
that adopts it:

    thenDo   p.then(…): register a reaction on `p`
    settle   fulfil or reject `p`, unless it is settled already
    adopt    resolve `target` with the promise `source`

What a handler does when its job runs is the client's.  The queue is first in, first
out; a client that lets the first job of every owner run next covers that order.  An
operation on the promises of one owner leaves those of the others alone (`SameOf`).

Nothing below names the repository.
-/
import Mathlib.Logic.Function.Basic
import Mathlib.Data.List.Basic

namespace DeliveryTracking

/-- How a promise settled. -/
inductive Outcome (V : Type*) where
  | fulfilled (v : V)
  | rejected (e : V)
  deriving DecidableEq, Repr

/-- What waits on a promise: a handler whose result goes to a derived promise, or
a promise that has adopted this one. -/
inductive Reaction (ι η : Type*) where
  | call (handler : η) (derived : ι)
  | forward (target : ι)
  deriving DecidableEq, Repr

inductive Cell (ι η V : Type*) where
  | pending (reactions : List (Reaction ι η))
  | settled (o : Outcome V)
  deriving DecidableEq, Repr

inductive Job (ι η V : Type*) where
  | react (r : Reaction ι η) (o : Outcome V)
  | adopt (source target : ι)
  deriving DecidableEq, Repr

/-- The promises and the queue of jobs. -/
structure Loop (ι η V : Type*) where
  cells : ι → Cell ι η V
  jobs : List (Job ι η V)

namespace Loop

variable {ι η V : Type*}

/-- No promise has been made yet. -/
def start : Loop ι η V := ⟨fun _ => .pending [], []⟩

/-- A job joins the queue. -/
def enqueue (m : Loop ι η V) (js : List (Job ι η V)) : Loop ι η V :=
  { m with jobs := m.jobs ++ js }

/-- Resolve `target` with the promise `source`. -/
def adopt (m : Loop ι η V) (source target : ι) : Loop ι η V := m.enqueue [.adopt source target]

@[simp] theorem cells_enqueue (m : Loop ι η V) (js : List (Job ι η V)) :
    (m.enqueue js).cells = m.cells := rfl

section Cells

variable [DecidableEq ι]

/-- Overwrite one cell. -/
def put (m : Loop ι η V) (p : ι) (x : Cell ι η V) : Loop ι η V :=
  { m with cells := Function.update m.cells p x }

/-- Register a reaction on `p`. -/
def thenDo (m : Loop ι η V) (p : ι) (r : Reaction ι η) : Loop ι η V :=
  match m.cells p with
  | .pending rs => m.put p (.pending (rs ++ [r]))
  | .settled o => m.enqueue [.react r o]

/-- Fulfil or reject `p`, unless it is settled already. -/
def settle (m : Loop ι η V) (p : ι) (o : Outcome V) : Loop ι η V :=
  match m.cells p with
  | .pending rs => (m.put p (.settled o)).enqueue (rs.map (.react · o))
  | .settled _ => m

@[simp] theorem cells_put (m : Loop ι η V) (p : ι) (x : Cell ι η V) :
    (m.put p x).cells = Function.update m.cells p x := rfl

theorem thenDo_of_pending {m : Loop ι η V} {p : ι} {rs : List (Reaction ι η)}
    (h : m.cells p = .pending rs) (r : Reaction ι η) :
    m.thenDo p r = m.put p (.pending (rs ++ [r])) := by
  simp [thenDo, h]

theorem thenDo_of_settled {m : Loop ι η V} {p : ι} {o : Outcome V} (h : m.cells p = .settled o)
    (r : Reaction ι η) : m.thenDo p r = m.enqueue [.react r o] := by
  simp [thenDo, h]

theorem settle_of_pending {m : Loop ι η V} {p : ι} {rs : List (Reaction ι η)}
    (h : m.cells p = .pending rs) (o : Outcome V) :
    m.settle p o = (m.put p (.settled o)).enqueue (rs.map (.react · o)) := by
  simp [settle, h]

/-- Reactions wait in the order they were registered. -/
theorem thenDo_thenDo_of_pending {m : Loop ι η V} {p : ι} {l : List (Reaction ι η)}
    (h : m.cells p = .pending l) (r r' : Reaction ι η) :
    (m.thenDo p r).thenDo p r' = m.put p (.pending (l ++ [r, r'])) := by
  have hnext : (m.put p (.pending (l ++ [r]))).cells p = .pending (l ++ [r]) := by simp
  rw [thenDo_of_pending h, thenDo_of_pending hnext]
  simp [put]

end Cells

end Loop

/-! ## Taking the first job of an owner -/

section Take

variable {α : Type*} {p q : α → Bool}

/-- Removing the first element of one kind leaves the later ones of that kind. -/
theorem filter_eraseP_self (l : List α) : (l.eraseP p).filter p = (l.filter p).tail := by
  induction l with
  | nil => rfl
  | cons a l ih =>
      by_cases h : p a = true
      · simp [h]
      · simp [h, ih]

/-- Removing an element of one kind leaves the elements of another. -/
theorem filter_eraseP_of_disjoint (hpq : ∀ a, p a = true → q a = false) (l : List α) :
    (l.eraseP p).filter q = l.filter q := by
  induction l with
  | nil => rfl
  | cons a l ih =>
      by_cases h : p a = true
      · simp [h, hpq a h]
      · by_cases hq : q a = true
        · simp [h, hq, ih]
        · simp [h, hq, ih]

end Take

/-! ## Owners -/

namespace Loop

variable {ι η V κ : Type*}

@[simp] theorem jobs_enqueue (m : Loop ι η V) (js : List (Job ι η V)) :
    (m.enqueue js).jobs = m.jobs ++ js := rfl

@[simp] theorem jobs_put [DecidableEq ι] (m : Loop ι η V) (p : ι) (x : Cell ι η V) :
    (m.put p x).jobs = m.jobs := rfl

/-- The queue without the first job that `q` picks. -/
def dequeue (m : Loop ι η V) (q : Job ι η V → Bool) : Loop ι η V :=
  { m with jobs := m.jobs.eraseP q }

@[simp] theorem cells_dequeue (m : Loop ι η V) (q : Job ι η V → Bool) :
    (m.dequeue q).cells = m.cells := rfl

@[simp] theorem jobs_dequeue (m : Loop ι η V) (q : Job ι η V → Bool) :
    (m.dequeue q).jobs = m.jobs.eraseP q := rfl

section Owners

variable [DecidableEq κ] {owner : ι → κ} {jobOwner : Job ι η V → κ} {k : κ} {m m' m'' : Loop ι η V}

/-- The promises and the jobs of the owner `k` are the same. -/
structure SameOf (owner : ι → κ) (jobOwner : Job ι η V → κ) (k : κ) (m m' : Loop ι η V) : Prop where
  cells : ∀ p, owner p = k → m'.cells p = m.cells p
  jobs : m'.jobs.filter (jobOwner · = k) = m.jobs.filter (jobOwner · = k)

namespace SameOf

theorem refl (m : Loop ι η V) : SameOf owner jobOwner k m m := ⟨fun _ _ => rfl, rfl⟩

theorem trans (h : SameOf owner jobOwner k m m') (h' : SameOf owner jobOwner k m' m'') :
    SameOf owner jobOwner k m m'' where
  cells p hp := (h'.cells p hp).trans (h.cells p hp)
  jobs := h'.jobs.trans h.jobs

theorem enqueue (h : SameOf owner jobOwner k m m') {js : List (Job ι η V)}
    (hjs : ∀ j ∈ js, jobOwner j ≠ k) : SameOf owner jobOwner k m (m'.enqueue js) where
  cells := h.cells
  jobs := by
    have hnone : js.filter (jobOwner · = k) = [] := by
      refine List.filter_eq_nil_iff.mpr ?_
      intro j hj hk
      exact hjs j hj (of_decide_eq_true hk)
    rw [jobs_enqueue, List.filter_append, hnone, List.append_nil, h.jobs]

theorem adopt (h : SameOf owner jobOwner k m m') {source target : ι}
    (hj : jobOwner (.adopt source target) ≠ k) :
    SameOf owner jobOwner k m (m'.adopt source target) := by
  refine h.enqueue ?_
  intro j hmem
  rw [List.mem_singleton.mp hmem]
  exact hj

theorem dequeue (h : SameOf owner jobOwner k m m') {l : κ} (hl : l ≠ k) :
    SameOf owner jobOwner k m (m'.dequeue (jobOwner · = l)) where
  cells := h.cells
  jobs := by
    rw [jobs_dequeue, filter_eraseP_of_disjoint, h.jobs]
    intro j hj
    rw [of_decide_eq_true hj]
    exact decide_eq_false hl

section Cells

variable [DecidableEq ι]

theorem put (h : SameOf owner jobOwner k m m') {p : ι} (hp : owner p ≠ k) (x : Cell ι η V) :
    SameOf owner jobOwner k m (m'.put p x) where
  cells q hq := by
    rw [cells_put, Function.update_of_ne, h.cells q hq]
    rintro rfl
    exact hp hq
  jobs := h.jobs

theorem thenDo (h : SameOf owner jobOwner k m m') {p : ι} (hp : owner p ≠ k) {r : Reaction ι η}
    (hr : ∀ o, jobOwner (.react r o) ≠ k) : SameOf owner jobOwner k m (m'.thenDo p r) := by
  unfold Loop.thenDo
  split
  · exact h.put hp _
  · rename_i o _
    refine h.enqueue ?_
    intro j hj
    rw [List.mem_singleton.mp hj]
    exact hr o

theorem settle (h : SameOf owner jobOwner k m m') {p : ι} (hp : owner p ≠ k) {o : Outcome V}
    {rs : List (Reaction ι η)} (hcell : m'.cells p = .pending rs)
    (hr : ∀ r ∈ rs, jobOwner (.react r o) ≠ k) : SameOf owner jobOwner k m (m'.settle p o) := by
  rw [settle_of_pending hcell]
  refine (h.put hp _).enqueue ?_
  intro j hj
  obtain ⟨r, hmem, rfl⟩ := List.mem_map.mp hj
  exact hr r hmem

end Cells

end SameOf

end Owners

end Loop

end DeliveryTracking
