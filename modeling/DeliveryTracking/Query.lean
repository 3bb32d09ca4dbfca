/-
# `DeliveryTracking.Query` — filters over rows, and the rows an operation touches

A filter is an object of conditions with further filters under `AND`, `OR` and
`NOT`.  A condition on a row is true, false or unknown, as in SQL, and a filter
matches the rows it is true of.  An entry that is set in a filter replaces the one
under its key, and a row that matches meets it, whatever else the filter says
(`meets_of_matches_set`).

An operation edits the rows it picks, all of them or the first.  Where it picks
only rows of a part of the table, it is local to the part: the other rows stay as
they are, and the part after it depends on the part before it alone
(`local_editAll`, `local_editFirst`).
-/
import Mathlib.Data.List.Basic

namespace DeliveryTracking.Query

/-! ## Truth values -/

/-- True, false, or unknown. -/
abbrev Truth := Option Bool

namespace Truth

def and : Truth → Truth → Truth
  | some false, _ => some false
  | _, some false => some false
  | some true, some true => some true
  | _, _ => none

def or : Truth → Truth → Truth
  | some true, _ => some true
  | _, some true => some true
  | some false, some false => some false
  | _, _ => none

def not : Truth → Truth := Option.map (! ·)

theorem and_eq_true_iff {a b : Truth} : a.and b = some true ↔ a = some true ∧ b = some true := by
  rcases a with _ | _ | _ <;> rcases b with _ | _ | _ <;> simp [and]

/-- All of them. -/
def all (ts : List Truth) : Truth := ts.foldr and (some true)

theorem all_eq_true_iff {ts : List Truth} : all ts = some true ↔ ∀ t ∈ ts, t = some true := by
  induction ts with
  | nil => simp [all]
  | cons t ts ih =>
      have hcons : all (t :: ts) = t.and (all ts) := rfl
      rw [hcons, and_eq_true_iff, ih, List.forall_mem_cons]

end Truth

/-! ## Filters -/

/-- An object of conditions, each under its key, with what stands under `AND`, `OR` (if there is one)
and `NOT`. -/
inductive Filter (α : Type*) where
  | mk (conditions : List (String × (α → Truth))) (conjuncts : List (Filter α))
    (disjuncts : Option (List (Filter α))) (negated : List (Filter α))

namespace Filter

variable {α : Type*}

mutual

def eval : Filter α → α → Truth
  | .mk conditions conjuncts disjuncts negated, row =>
    ((Truth.all (conditions.map fun c => c.2 row)).and (evalAll conjuncts row)).and
      ((evalOr disjuncts row).and (evalNone negated row))

def evalAll : List (Filter α) → α → Truth
  | [], _ => some true
  | f :: fs, row => (eval f row).and (evalAll fs row)

def evalOr : Option (List (Filter α)) → α → Truth
  | none, _ => some true
  | some fs, row => evalAny fs row

def evalAny : List (Filter α) → α → Truth
  | [], _ => some false
  | f :: fs, row => (eval f row).or (evalAny fs row)

def evalNone : List (Filter α) → α → Truth
  | [], _ => some true
  | f :: fs, row => (eval f row).not.and (evalNone fs row)

end

/-- The row is selected. -/
def isMatch (f : Filter α) (row : α) : Bool := f.eval row == some true

/-- `{ ...f, [key]: condition }` -/
def set (key : String) (condition : α → Truth) : Filter α → Filter α
  | .mk conditions conjuncts disjuncts negated =>
    .mk (conditions.filter (·.1 ≠ key) ++ [(key, condition)]) conjuncts disjuncts negated

/-- `{ [key]: condition }` -/
def only (key : String) (condition : α → Truth) : Filter α := .mk [(key, condition)] [] none []

/-- A row that matches meets every condition of the object. -/
theorem condition_of_isMatch {conditions : List (String × (α → Truth))}
    {conjuncts : List (Filter α)} {disjuncts : Option (List (Filter α))} {negated : List (Filter α)}
    {row : α} (h : (Filter.mk conditions conjuncts disjuncts negated).isMatch row = true) :
    ∀ c ∈ conditions, c.2 row = some true := by
  have htrue := eq_of_beq h
  rw [eval, Truth.and_eq_true_iff, Truth.and_eq_true_iff, Truth.all_eq_true_iff] at htrue
  intro c hc
  exact htrue.1.1 _ (List.mem_map_of_mem hc)

theorem meets_of_isMatch_set {f : Filter α} {key : String} {condition : α → Truth} {row : α}
    (h : (f.set key condition).isMatch row = true) : condition row = some true := by
  cases f with
  | mk conditions conjuncts disjuncts negated =>
      refine condition_of_isMatch h (key, condition) ?_
      exact List.mem_append_right _ (List.mem_singleton_self _)

theorem meets_of_isMatch_only {key : String} {condition : α → Truth} {row : α}
    (h : (only key condition).isMatch row = true) : condition row = some true :=
  condition_of_isMatch h (key, condition) (List.mem_singleton_self _)

end Filter

/-! ## Edits -/

section Edits

variable {α : Type*}

/-- Every picked row becomes the rows `e` makes of it. -/
def editAll (pick : α → Bool) (e : α → List α) (rows : List α) : List α :=
  rows.flatMap fun r => if pick r then e r else [r]

/-- The first picked row does. -/
def editFirst (pick : α → Bool) (e : α → List α) : List α → List α
  | [] => []
  | r :: rows => if pick r then e r ++ rows else r :: editFirst pick e rows

/-- An edit leaves the rows outside a part of the table, and the part after it depends on the part
before it. -/
structure Local (part : α → Bool) (edit : List α → List α) : Prop where
  foreign : ∀ rows : List α, (rows.filter fun r => !part r).Sublist (edit rows)
  own : ∀ rows : List α, (edit rows).filter part = (edit (rows.filter part)).filter part

variable {part pick : α → Bool} {e : α → List α} {rows rows' : List α}

/-- What is picked in the part is the same in two tables that agree on it. -/
theorem filter_of_part (hpick : ∀ r, pick r = true → part r = true) :
    (rows.filter part).filter pick = rows.filter pick := by
  rw [List.filter_filter]
  refine List.filter_congr fun r _ => ?_
  cases hr : pick r with
  | false => rfl
  | true => rw [hpick r hr, Bool.and_self]

theorem find?_of_part (hpick : ∀ r, pick r = true → part r = true) :
    (rows.filter part).find? pick = rows.find? pick := by
  rw [← List.head?_filter, ← List.head?_filter, filter_of_part hpick]

theorem Local.of_agree {edit : List α → List α} (h : Local part edit)
    (hagree : rows.filter part = rows'.filter part) :
    (edit rows).filter part = (edit rows').filter part := by
  rw [h.own rows, h.own rows', hagree]

theorem local_id : Local part (id : List α → List α) where
  foreign _ := List.filter_sublist
  own rows := by simp only [id, List.filter_filter, Bool.and_self]

theorem local_editAll (hpick : ∀ r, pick r = true → part r = true) :
    Local part (editAll pick e) where
  foreign rows := by
    induction rows with
    | nil => exact List.Sublist.refl _
    | cons r rows ih =>
        have hcons : editAll pick e (r :: rows) =
            (if pick r then e r else [r]) ++ editAll pick e rows := rfl
        rw [hcons]
        cases hpart : part r with
        | true =>
          rw [List.filter_cons_of_neg (by simp [hpart])]
          exact ih.trans (List.sublist_append_right _ _)
        | false =>
          have hkept : pick r = false := Bool.eq_false_iff.mpr fun h => by
            rw [hpick r h] at hpart
            cases hpart
          rw [List.filter_cons_of_pos (by simp [hpart]), hkept]
          exact ih.cons_cons r
  own rows := by
    induction rows with
    | nil => rfl
    | cons r rows ih =>
        have hcons : ∀ rows, editAll pick e (r :: rows) =
            (if pick r then e r else [r]) ++ editAll pick e rows := fun _ => rfl
        cases hpart : part r with
        | true =>
          rw [List.filter_cons_of_pos hpart, hcons, hcons, List.filter_append, List.filter_append, ih]
        | false =>
          have hkept : pick r = false := Bool.eq_false_iff.mpr fun h => by
            rw [hpick r h] at hpart
            cases hpart
          rw [List.filter_cons_of_neg (by simp [hpart]), hcons, hkept, List.filter_append, ih]
          simp [hpart]

theorem local_editFirst (hpick : ∀ r, pick r = true → part r = true) :
    Local part (editFirst pick e) where
  foreign rows := by
    induction rows with
    | nil => exact List.Sublist.refl _
    | cons r rows ih =>
        cases hpart : part r with
        | true =>
          rw [List.filter_cons_of_neg (by simp [hpart]), editFirst]
          split
          · exact List.filter_sublist.trans (List.sublist_append_right _ _)
          · exact ih.trans (List.sublist_cons_self r _)
        | false =>
          have hkept : ¬ pick r = true := fun h => by
            rw [hpick r h] at hpart
            cases hpart
          rw [List.filter_cons_of_pos (by simp [hpart]), editFirst, if_neg hkept]
          exact ih.cons_cons r
  own rows := by
    induction rows with
    | nil => rfl
    | cons r rows ih =>
        cases hpart : part r with
        | true =>
          rw [List.filter_cons_of_pos hpart, editFirst, editFirst]
          by_cases hpicked : pick r = true
          · rw [if_pos hpicked, if_pos hpicked, List.filter_append, List.filter_append,
              List.filter_filter]
            simp only [Bool.and_self]
          · rw [if_neg hpicked, if_neg hpicked, List.filter_cons_of_pos hpart,
              List.filter_cons_of_pos hpart, ih]
        | false =>
          have hkept : ¬ pick r = true := fun h => by
            rw [hpick r h] at hpart
            cases hpart
          rw [List.filter_cons_of_neg (by simp [hpart]), editFirst, if_neg hkept,
            List.filter_cons_of_neg (by simp [hpart]), ih]

end Edits

end DeliveryTracking.Query
