/-
# `DeliveryTracking.Runs` — labelled transition systems and their runs

A system is a relation `step s e t`: from state `s`, the event `e` can lead to
`t`.  A `Run` is a list of events with the states it passes through.  The three
rules every later module uses are stated once here:

    Run.invariant   what every step keeps, every run keeps
    Guarded         the steps of a system that meet a condition on (state, event)
    Run.always_iff_guarded, Run.always_iff_guarded_of
                    an exact condition on steps is an exact condition on runs
    Run.each_iff_guarded
                    the same for what a step does
    Run.split       a run of `es ++ fs` passes through a middle state
    Run.append      two runs, one after the other

A deterministic system is a function `step s i = (output, next state)`; its runs
are lists of inputs, and `trace` records each step with the state it started in.

Nothing below names the repository.
-/
import Mathlib.Data.List.Nodup
import Mathlib.Data.List.Perm.Basic
import Mathlib.Data.List.Forall2

namespace DeliveryTracking

/-- `Run step s es t`: the events `es`, taken in order, lead from `s` to `t`. -/
inductive Run {σ ε : Type*} (step : σ → ε → σ → Prop) : σ → List ε → σ → Prop
  | nil (s : σ) : Run step s [] s
  | cons {s t u : σ} {e : ε} {es : List ε} :
      step s e t → Run step t es u → Run step s (e :: es) u

/-- The steps of a system whose state and event meet `G`. -/
def Guarded {σ ε : Type*} (step : σ → ε → σ → Prop) (G : σ → ε → Prop) : σ → ε → σ → Prop :=
  fun s e t => step s e t ∧ G s e

namespace Run

variable {σ ε : Type*} {step step' : σ → ε → σ → Prop}

theorem single {s t : σ} {e : ε} (h : step s e t) : Run step s [e] t :=
  .cons h (.nil t)

theorem split {s u : σ} : ∀ {es fs : List ε}, Run step s (es ++ fs) u →
    ∃ t, Run step s es t ∧ Run step t fs u := by
  intro es
  induction es generalizing s with
  | nil => intro fs h; exact ⟨s, .nil s, h⟩
  | cons e es ih =>
      intro fs h
      cases h with
      | cons hstep hrest =>
          obtain ⟨t, h₁, h₂⟩ := ih hrest
          exact ⟨t, .cons hstep h₁, h₂⟩

theorem append {s t u : σ} {es fs : List ε} (h : Run step s es t) (h' : Run step t fs u) :
    Run step s (es ++ fs) u := by
  induction h with
  | nil => exact h'
  | cons hstep _ ih => exact .cons hstep (ih h')

theorem mono (hsub : ∀ {s e t}, step s e t → step' s e t) {s t : σ} {es : List ε}
    (h : Run step s es t) : Run step' s es t := by
  induction h with
  | nil s => exact .nil s
  | cons hstep _ ih => exact .cons (hsub hstep) ih

/-- What every step keeps, every run keeps. -/
theorem invariant {I : σ → Prop} (hI : ∀ {s e t}, I s → step s e t → I t) {s t : σ} {es : List ε}
    (h : Run step s es t) (hs : I s) : I t := by
  induction h with
  | nil => exact hs
  | cons hstep _ ih => exact ih (hI hs hstep)

/-- A relation every step is in, reflexive and transitive, relates the ends of a run. -/
theorem rel {R : σ → σ → Prop} (hrefl : ∀ s, R s s) (htrans : ∀ {s t u}, R s t → R t u → R s u)
    (hR : ∀ {s e t}, step s e t → R s t) {s t : σ} {es : List ε} (h : Run step s es t) : R s t := by
  induction h with
  | nil s => exact hrefl s
  | cons hstep _ ih => exact htrans (hR hstep) ih

/-- A guarded run is a run. -/
theorem of_guarded {G : σ → ε → Prop} {s t : σ} {es : List ε}
    (h : Run (Guarded step G) s es t) : Run step s es t :=
  h.mono And.left

/-- Runs of a deterministic system are determined by their events. -/
theorem functional (hdet : ∀ {s e t t'}, step s e t → step s e t' → t = t') {s t t' : σ}
    {es : List ε} (h : Run step s es t) (h' : Run step s es t') : t = t' := by
  induction h with
  | nil => cases h'; rfl
  | cons hstep _ ih =>
      cases h' with
      | cons hstep' hrest' =>
          cases hdet hstep hstep'
          exact ih hrest'

/-- Where a step keeps `I` exactly when it meets `G`, and keeps `J` anyway, a run keeps `I`
throughout exactly when all its steps meet `G`. -/
theorem always_iff_guarded_of {I J : σ → Prop} {G : σ → ε → Prop}
    (hdet : ∀ {s e t t'}, step s e t → step s e t' → t = t')
    (hJ : ∀ {s e t}, I s → J s → step s e t → J t)
    (hI : ∀ {s e t}, I s → J s → step s e t → (I t ↔ G s e)) {s t : σ} {es : List ε}
    (h : Run step s es t) (hs : I s) (hj : J s) :
    (∀ es₁ es₂ u, es = es₁ ++ es₂ → Run step s es₁ u → I u) ↔ Run (Guarded step G) s es t := by
  constructor
  · intro hall
    induction h with
    | nil s => exact .nil s
    | @cons s₀ s₁ t e es hstep hrest ih =>
      have hnext : I s₁ := hall [e] es s₁ rfl (.single hstep)
      refine .cons ⟨hstep, (hI hs hj hstep).mp hnext⟩ (ih hnext (hJ hs hj hstep) ?_)
      intro es₁ es₂ u hes hrun
      exact hall (e :: es₁) es₂ u (by rw [hes]; rfl) (.cons hstep hrun)
  · intro hguarded es₁ es₂ u hes hrun
    subst hes
    obtain ⟨v, hfirst, -⟩ := hguarded.split
    obtain rfl : v = u := by
      refine functional ?_ hfirst.of_guarded hrun
      exact hdet
    refine (hfirst.invariant (I := fun s => I s ∧ J s) ?_ ⟨hs, hj⟩).1
    intro s e t hi hstep
    exact ⟨(hI hi.1 hi.2 hstep.1).mpr hstep.2, hJ hi.1 hi.2 hstep.1⟩

theorem always_iff_guarded {I : σ → Prop} {G : σ → ε → Prop}
    (hdet : ∀ {s e t t'}, step s e t → step s e t' → t = t')
    (hI : ∀ {s e t}, I s → step s e t → (I t ↔ G s e)) {s t : σ} {es : List ε}
    (h : Run step s es t) (hs : I s) :
    (∀ es₁ es₂ u, es = es₁ ++ es₂ → Run step s es₁ u → I u) ↔ Run (Guarded step G) s es t := by
  refine always_iff_guarded_of (J := fun _ => True) ?_ ?_ ?_ h hs trivial
  · exact hdet
  · intro s e t _ _ _
    trivial
  · intro s e t hi _ hstep
    exact hI hi hstep

/-- The run of a function. -/
theorem of_foldl (f : σ → ε → σ) : ∀ (es : List ε) (s : σ),
    Run (fun s e t => f s e = t) s es (es.foldl f s)
  | [], s => .nil s
  | e :: es, s => .cons rfl (of_foldl f es (f s e))

/-- Where a step from `I` meets `Q` exactly when it meets `G`, the steps of a run all meet `Q`
exactly when they all meet `G`. -/
theorem each_iff_guarded {I : σ → Prop} {Q : σ → ε → σ → Prop} {G : σ → ε → Prop}
    (hI : ∀ {s e t}, I s → step s e t → I t)
    (hQ : ∀ {s e t}, I s → step s e t → (Q s e t ↔ G s e)) {s t : σ} {es : List ε} (hs : I s) :
    Run (fun s e t => step s e t ∧ Q s e t) s es t ↔ Run (Guarded step G) s es t := by
  constructor
  · intro h
    induction h with
    | nil s => exact .nil s
    | cons hstep _ ih =>
      exact .cons ⟨hstep.1, (hQ hs hstep.1).mp hstep.2⟩ (ih (hI hs hstep.1))
  · intro h
    induction h with
    | nil s => exact .nil s
    | cons hstep _ ih =>
      exact .cons ⟨hstep.1, (hQ hs hstep.1).mpr hstep.2⟩ (ih (hI hs hstep.1))

end Run

/-! ## Systems given by a function -/

/-- The relation of a step function that may refuse an event. -/
def Steps {σ ε : Type*} (f : σ → ε → Option σ) : σ → ε → σ → Prop :=
  fun s e t => f s e = some t

section Executable

variable {σ ε : Type*} {f : σ → ε → Option σ}

/-- Executing the events one after the other is a run. -/
theorem Run.of_foldlM : ∀ {es : List ε} {s t : σ}, es.foldlM f s = some t → Run (Steps f) s es t
  | [], s, t, h => by
      obtain rfl : s = t := Option.some.inj h
      exact .nil s
  | e :: es, s, t, h => by
      rw [List.foldlM_cons] at h
      obtain ⟨u, hstep, hrest⟩ := Option.bind_eq_some_iff.mp h
      exact .cons hstep (Run.of_foldlM hrest)

/-- A run found by executing it, with what a test says of its end. -/
theorem Run.of_foldlM_any {es : List ε} {s : σ} {p : σ → Bool}
    (h : (es.foldlM f s).any p = true) : ∃ t, Run (Steps f) s es t ∧ p t = true := by
  cases hs : es.foldlM f s with
  | none => simp [hs] at h
  | some t => exact ⟨t, Run.of_foldlM hs, by simpa [hs] using h⟩

/-- What a run promises of each step holds of one found by executing the events before it. -/
theorem Run.of_step {Q : σ → σ → Prop} {es fs : List ε} {e : ε} {s t u : σ}
    (h : Run (fun s e t => Steps f s e t ∧ Q s t) s (es ++ e :: fs) t)
    (hu : es.foldlM f s = some u) : ∃ v, f u e = some v ∧ Q u v := by
  obtain ⟨u', hfirst, hrest⟩ := h.split
  obtain rfl : u = u' := by
    refine functional ?_ (Run.of_foldlM hu) (hfirst.mono And.left)
    intro s e t t' h h'
    exact Option.some.inj (h.symm.trans h')
  cases hrest with
  | cons hstep _ => exact ⟨_, hstep.1, hstep.2⟩

/-- The step function that refuses what a guard excludes. -/
def guardStep (f : σ → ε → Option σ) (G : σ → ε → Prop) [∀ s e, Decidable (G s e)] (s : σ) (e : ε) :
    Option σ :=
  if G s e then f s e else none

theorem Run.of_guardStep {G : σ → ε → Prop} [∀ s e, Decidable (G s e)] {es : List ε} {s t : σ}
    (h : es.foldlM (guardStep f G) s = some t) : Run (Guarded (Steps f) G) s es t := by
  refine (Run.of_foldlM h).mono ?_
  intro s e t hstep
  unfold Steps guardStep at hstep
  split at hstep
  · rename_i hguard
    exact ⟨hstep, hguard⟩
  · cases hstep

end Executable

/-! ## Deterministic systems -/

/-- One step of a deterministic system, as a trace records it. -/
structure Tick (σ ι ο : Type*) where
  before : σ
  input : ι
  output : ο

/-- The steps taken on a list of inputs, in order. -/
def trace {σ ι ο : Type*} (step : σ → ι → ο × σ) : σ → List ι → List (Tick σ ι ο)
  | _, [] => []
  | s, i :: is => ⟨s, i, (step s i).1⟩ :: trace step (step s i).2 is

/-- The state a list of inputs ends in. -/
def final {σ ι ο : Type*} (step : σ → ι → ο × σ) : σ → List ι → σ
  | s, [] => s
  | s, i :: is => final step (step s i).2 is

section Deterministic

variable {σ ι ο : Type*} {step : σ → ι → ο × σ}

/-- What every step keeps holds before each step of a trace. -/
theorem trace_invariant {I : σ → Prop} (hI : ∀ s i, I s → I (step s i).2) :
    ∀ {is : List ι} {s : σ}, I s → ∀ x ∈ trace step s is, I x.before
  | [], _, _ => by simp [trace]
  | i :: is, s, hs => by
      intro x hx
      rcases List.mem_cons.mp hx with rfl | hx
      · exact hs
      · exact trace_invariant hI (hI s i hs) x hx

/-- The recorded output is the one the step gives. -/
theorem trace_output : ∀ {is : List ι} {s : σ}, ∀ x ∈ trace step s is,
    x.output = (step x.before x.input).1
  | [], _ => by simp [trace]
  | _ :: _, _ => by
      intro x hx
      rcases List.mem_cons.mp hx with rfl | hx
      · rfl
      · exact trace_output x hx

theorem final_invariant {I : σ → Prop} (hI : ∀ s i, I s → I (step s i).2) :
    ∀ {is : List ι} {s : σ}, I s → I (final step s is)
  | [], _, hs => hs
  | i :: is, s, hs => by
      have h : I (final step (step s i).2 is) := final_invariant hI (hI s i hs)
      exact h

theorem trace_append : ∀ (is js : List ι) (s : σ),
    trace step s (is ++ js) = trace step s is ++ trace step (final step s is) js
  | [], _, _ => rfl
  | i :: is, js, s => congrArg (_ :: ·) (trace_append is js (step s i).2)

theorem final_append : ∀ (is js : List ι) (s : σ),
    final step s (is ++ js) = final step (final step s is) js
  | [], _, _ => rfl
  | i :: is, js, s => final_append is js (step s i).2

/-- What every step of a trace keeps holds at its end. -/
theorem final_invariant_of_trace {I : σ → Prop} : ∀ {is : List ι} {s : σ},
    (∀ x ∈ trace step s is, I x.before → I (step x.before x.input).2) → I s →
      I (final step s is)
  | [], _, _, hs => hs
  | i :: is, s, h, hs => by
      have hhead : I (step s i).2 := h ⟨s, i, _⟩ (List.mem_cons_self ..) hs
      have hrest : I (final step (step s i).2 is) :=
        final_invariant_of_trace (fun x hx => h x (List.mem_cons_of_mem _ hx)) hhead
      exact hrest

end Deterministic

/-- Two systems whose steps answer alike and keep a relation answer alike throughout. -/
theorem trace_outputs_eq {σ τ ι ο : Type*} {step : σ → ι → ο × σ} {step' : τ → ι → ο × τ}
    {R : σ → τ → Prop}
    (h : ∀ s t i, R s t → (step s i).1 = (step' t i).1 ∧ R (step s i).2 (step' t i).2) :
    ∀ {is : List ι} {s : σ} {t : τ}, R s t →
      (trace step s is).map Tick.output = (trace step' t is).map Tick.output
  | [], _, _, _ => rfl
  | i :: is, s, t, hst => by
      obtain ⟨houtput, hnext⟩ := h s t i hst
      have hrest : (trace step (step s i).2 is).map Tick.output
          = (trace step' (step' t i).2 is).map Tick.output := trace_outputs_eq h hnext
      simp only [trace, List.map_cons, houtput, hrest]

/-- A loop whose steps only append to a log has appended what its inputs account for. -/
theorem foldl_appends {σ ι α : Type*} {step : σ → ι → σ} (log : σ → List α) (P : ι → α → Prop)
    (h : ∀ s i, ∃ added, log (step s i) = log s ++ added ∧ ∀ a ∈ added, P i a) :
    ∀ (is : List ι) (s : σ), ∃ added, log (is.foldl step s) = log s ++ added ∧
      ∀ a ∈ added, ∃ i ∈ is, P i a
  | [], s => ⟨[], (List.append_nil _).symm, by simp⟩
  | i :: is, s => by
      obtain ⟨first, hfirst, hPfirst⟩ := h s i
      obtain ⟨added, hadded, hPadded⟩ := foldl_appends log P h is (step s i)
      refine ⟨first ++ added, ?_, ?_⟩
      · rw [List.foldl_cons, hadded, hfirst, List.append_assoc]
      · intro a ha
        rcases List.mem_append.mp ha with ha | ha
        · exact ⟨i, List.mem_cons_self .., hPfirst a ha⟩
        · obtain ⟨j, hj, hP⟩ := hPadded a ha
          exact ⟨j, List.mem_cons_of_mem _ hj, hP⟩

/-! ## Calls under way

A state keeps the calls under way in a list; one of them moves or ends, the others stay. -/

section Calls

variable {α : Type*} {l : List α} {i : Nat} {old new a : α}

theorem mem_set_of_ne (hi : l[i]? = some old) (ha : a ∈ l) (hne : a ≠ old) : a ∈ l.set i new := by
  obtain ⟨j, hj⟩ := List.mem_iff_getElem?.mp ha
  refine List.mem_iff_getElem?.mpr ⟨j, ?_⟩
  rw [List.getElem?_set_ne]
  · exact hj
  · rintro rfl
    exact hne (Option.some.inj (hj.symm.trans hi))

theorem mem_eraseIdx_of_ne (hi : l[i]? = some old) (ha : a ∈ l) (hne : a ≠ old) :
    a ∈ l.eraseIdx i := by
  obtain ⟨j, hj⟩ := List.mem_iff_getElem?.mp ha
  refine List.mem_eraseIdx_iff_getElem?.mpr ⟨j, ?_, hj⟩
  rintro rfl
  exact hne (Option.some.inj (hj.symm.trans hi))

theorem mem_set_self (hi : l[i]? = some old) : new ∈ l.set i new := by
  obtain ⟨hlt, -⟩ := List.getElem?_eq_some_iff.mp hi
  exact List.mem_set hlt new

/-- What holds of every call, and of the one that starts. -/
theorem forall_mem_concat {P : α → Prop} (hold : ∀ b ∈ l, P b) (hnew : P new) :
    ∀ b ∈ l ++ [new], P b := by
  intro b hb
  rcases List.mem_append.mp hb with hb | hb
  · exact hold b hb
  · rw [List.mem_singleton.mp hb]
    exact hnew

/-- What holds of every call, and of where one moves to. -/
theorem forall_mem_set {P : α → Prop} (hold : ∀ b ∈ l, P b) (hnew : P new) :
    ∀ b ∈ l.set i new, P b := by
  intro b hb
  rcases List.mem_or_eq_of_mem_set hb with hb | rfl
  · exact hold b hb
  · exact hnew

/-- A new call leaves the others where they are. -/
theorem getElem?_concat_of_some {k : Nat} (h : l[k]? = some a) (new : α) :
    (l ++ [new])[k]? = some a := by
  obtain ⟨hk, -⟩ := List.getElem?_eq_some_iff.mp h
  rw [List.getElem?_append_left hk]
  exact h

/-- A new call has a name of its own. -/
theorem nodup_map_concat {β : Type*} {f : α → β} (h : (l.map f).Nodup) (hnew : f new ∉ l.map f) :
    ((l ++ [new]).map f).Nodup := by
  rw [List.map_append, List.map_singleton, ← List.concat_eq_append]
  exact List.Nodup.concat hnew h

/-- A call that ends is one of the calls before. -/
theorem cons_eraseIdx_perm (hi : l[i]? = some old) : (old :: l.eraseIdx i).Perm l := by
  obtain ⟨hlt, rfl⟩ := List.getElem?_eq_some_iff.mp hi
  exact List.getElem_cons_eraseIdx_perm hlt

/-- A call that moves counts where it was, and then where it is. -/
theorem countP_set_add (new : α) (p : α → Bool) (hi : l[i]? = some old) :
    (l.set i new).countP p + (if p old then 1 else 0) = l.countP p + (if p new then 1 else 0) := by
  obtain ⟨hlt, hold⟩ := List.getElem?_eq_some_iff.mp hi
  have hpos : (if p old then 1 else 0) ≤ l.countP p := by
    split
    · rename_i hp
      exact List.countP_pos_iff.mpr ⟨old, List.mem_of_getElem? hi, hp⟩
    · exact Nat.zero_le _
  rw [List.countP_set hlt, hold]
  omega

theorem countP_eraseIdx_add (p : α → Bool) (hi : l[i]? = some old) :
    (l.eraseIdx i).countP p + (if p old then 1 else 0) = l.countP p := by
  rw [← (cons_eraseIdx_perm hi).countP_eq p, List.countP_cons]

/-- A call that moves keeps its name. -/
theorem map_set_of_eq {β : Type*} {f : α → β} (hi : l[i]? = some old) (h : f new = f old) :
    (l.set i new).map f = l.map f := by
  obtain ⟨hlt, rfl⟩ := List.getElem?_eq_some_iff.mp hi
  rw [List.map_set, h]
  refine List.ext_getElem (by simp) ?_
  intro j hj _
  rw [List.getElem_set]
  split
  · rename_i hij
    simp [hij]
  · rfl

/-- A call that has not ended has another name than the one that did. -/
theorem ne_of_mem_eraseIdx {β : Type*} {f : α → β} (h : (l.map f).Nodup) (hi : l[i]? = some old)
    (ha : a ∈ l.eraseIdx i) : f a ≠ f old := by
  have hperm : (f old :: (l.eraseIdx i).map f).Nodup :=
    ((cons_eraseIdx_perm hi).map f).nodup_iff.mpr h
  intro heq
  exact (List.nodup_cons.mp hperm).1 (heq ▸ List.mem_map_of_mem ha)

/-- A call is the one that moved, or has another name. -/
theorem eq_or_ne_of_mem_set {β : Type*} {f : α → β} (h : (l.map f).Nodup) (hi : l[i]? = some old)
    (ha : a ∈ l.set i new) : a = new ∨ a ∈ l ∧ f a ≠ f old := by
  obtain ⟨j, hj⟩ := List.mem_iff_getElem?.mp ha
  by_cases hij : i = j
  · subst hij
    obtain ⟨hlt, -⟩ := List.getElem?_eq_some_iff.mp hi
    rw [List.getElem?_set_self hlt] at hj
    exact Or.inl (Option.some.inj hj).symm
  · rw [List.getElem?_set_ne hij] at hj
    refine Or.inr ⟨List.mem_of_getElem? hj, ?_⟩
    exact ne_of_mem_eraseIdx h hi (List.mem_eraseIdx_iff_getElem?.mpr ⟨j, Ne.symm hij, hj⟩)

end Calls

/-! ### What each call waits for, in a second list -/

section Forall₂

open List (Forall₂)

variable {γ δ : Type*} {r : γ → δ → Prop} {l : List γ} {m : List δ} {c : γ} {d : δ}

theorem forall₂_concat (h : Forall₂ r l m) (hnew : r c d) : Forall₂ r (l ++ [c]) (m ++ [d]) := by
  induction h with
  | nil => exact .cons hnew .nil
  | cons hhead _ ih => exact .cons hhead ih

theorem forall₂_set (h : Forall₂ r l m) (hnew : r c d) (i : Nat) :
    Forall₂ r (l.set i c) (m.set i d) := by
  induction h generalizing i with
  | nil => exact .nil
  | cons hhead htail ih =>
      cases i with
      | zero => exact .cons hnew htail
      | succ i => exact .cons hhead (ih i)

theorem forall₂_set_left (h : Forall₂ r l m) {i : Nat} (hnew : ∀ d, m[i]? = some d → r c d) :
    Forall₂ r (l.set i c) m := by
  induction h generalizing i with
  | nil => exact .nil
  | cons hhead htail ih =>
      cases i with
      | zero => exact .cons (hnew _ rfl) htail
      | succ i => exact .cons hhead (ih hnew)

theorem forall₂_eraseIdx (h : Forall₂ r l m) (i : Nat) :
    Forall₂ r (l.eraseIdx i) (m.eraseIdx i) := by
  induction h generalizing i with
  | nil => exact .nil
  | cons hhead htail ih =>
      cases i with
      | zero => exact htail
      | succ i => exact .cons hhead (ih i)

theorem rel_of_forall₂ (h : Forall₂ r l m) {i : Nat} (hc : l[i]? = some c) (hd : m[i]? = some d) :
    r c d := by
  obtain ⟨hi, rfl⟩ := List.getElem?_eq_some_iff.mp hc
  obtain ⟨hj, rfl⟩ := List.getElem?_eq_some_iff.mp hd
  exact h.get hi hj

end Forall₂

end DeliveryTracking
