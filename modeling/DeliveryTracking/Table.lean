/-
# `DeliveryTracking.Table` — tables with unique constraints

A table is a list of rows no two of which clash.  What a clash is, is read off
the key of a row (`key : α → κ`, the columns in some unique constraint) by a
relation on keys, so one `Table` covers a primary key, a compound key, and
several constraints at once.  The operations, as an ORM has them:

    create      adds a row, or fails on a clash
    createMany  adds the rows that do not clash, in order, and returns them
    upsert      adds a row, or rewrites the one with its key
    update      rewrites the rows a predicate picks, keys untouched
    release     the same, where the new keys clash with no more than the old ones
    modify      the same with any keys, or fails on a clash
    remove      deletes the rows a predicate picks
    findFirst   the first row a predicate picks, in table order
    lastBy      the row with the greatest time of a list

`findFirst_update` and `findFirst_create` say what a later read sees, and `isSome_modify_iff` when
one value may be written to several rows.

Nothing below names the repository.
-/
import Mathlib.Data.List.MinMax
import Mathlib.Data.List.Nodup
import Mathlib.Data.List.Pairwise

namespace DeliveryTracking

/-! ## Ordered by time -/

section LastBy

variable {α : Type*} {time : α → Int} {l : List α}

/-- `orderBy: { time: 'desc' }`: the element with the greatest time, the first of equals.  The
order on `Int` is the one of its definition, whatever other instances are in scope. -/
def lastBy (time : α → Int) (l : List α) : Option α :=
  @List.argmax α Int Int.instLinearOrder.toPreorder (fun a b => Int.decLt a b) time l

@[simp] theorem lastBy_nil : lastBy time ([] : List α) = none := rfl

theorem lastBy_eq_none_iff : lastBy time l = none ↔ l = [] := List.argmax_eq_none

theorem mem_of_lastBy {a : α} (h : lastBy time l = some a) : a ∈ l := List.argmax_mem h

theorem le_of_lastBy {a b : α} (h : lastBy time l = some b) (ha : a ∈ l) : time a ≤ time b :=
  Int.not_lt.mp (List.not_lt_of_mem_argmax ha h)

/-- A list with an element has a last one, which is not before it. -/
theorem exists_lastBy {a : α} (ha : a ∈ l) : ∃ b, lastBy time l = some b ∧ time a ≤ time b := by
  cases hlast : lastBy time l with
  | none =>
    rw [lastBy_eq_none_iff.mp hlast] at ha
    cases ha
  | some b => exact ⟨b, rfl, le_of_lastBy hlast ha⟩

theorem lastBy_concat (l : List α) (a : α) :
    lastBy time (l ++ [a])
      = (lastBy time l).elim (some a) fun b => if time b < time a then some a else some b := by
  unfold lastBy
  rw [List.argmax_concat]
  generalize List.argmax time l = last
  cases last <;> rfl

end LastBy

/-- Two values of a column in a unique index clash; nulls do not. -/
def Taken {α : Type*} (a b : Option α) : Prop := a.isSome ∧ a = b

instance {α : Type*} [DecidableEq α] : DecidableRel (@Taken α) :=
  fun _ _ => inferInstanceAs (Decidable (_ ∧ _))

@[simp] theorem taken_some_some {α : Type*} {a b : α} : Taken (some a) (some b) ↔ a = b := by
  simp [Taken]

@[simp] theorem not_taken_none {α : Type*} (b : Option α) : ¬Taken none b := by
  simp [Taken]

theorem Taken.symm {α : Type*} {a b : Option α} (h : Taken a b) : Taken b a :=
  ⟨h.2 ▸ h.1, h.2.symm⟩

/-- Rows no two of which clash. -/
structure Table {α κ : Type*} (key : α → κ) (clash : κ → κ → Prop) where
  rows : List α
  unique : rows.Pairwise fun a b => ¬ clash (key a) (key b)

namespace Table

variable {α κ : Type*} {key : α → κ} {clash : κ → κ → Prop}

def empty : Table key clash := ⟨[], .nil⟩

def findFirst (t : Table key clash) (q : α → Bool) : Option α := t.rows.find? q

def findMany (t : Table key clash) (q : α → Bool) : List α := t.rows.filter q

/-- Add a row; `none` when it clashes with one that is there. -/
def create [DecidableRel clash] (t : Table key clash) (a : α) : Option (Table key clash) :=
  if h : ∀ b ∈ t.rows, ¬ clash (key b) (key a) then
    some ⟨t.rows ++ [a], List.pairwise_append.mpr
      ⟨t.unique, List.pairwise_singleton _ _, by
        intro b hb a' ha'
        rw [List.mem_singleton.mp ha']
        exact h b hb⟩⟩
  else none

/-- `createMany` with `skipDuplicates`. -/
def createMany [DecidableRel clash] (t : Table key clash) : List α → List α × Table key clash
  | [] => ([], t)
  | a :: as =>
    match t.create a with
    | some t' => (a :: (t'.createMany as).1, (t'.createMany as).2)
    | none => t.createMany as

/-- Rewrite the rows `p` picks; the key columns keep their values. -/
def update (t : Table key clash) (p : α → Bool) (f : α → α) (hf : ∀ a, key (f a) = key a) :
    Table key clash where
  rows := t.rows.map fun a => if p a then f a else a
  unique := by
    have hkey : ∀ a, key (if p a then f a else a) = key a := by
      intro a
      split
      · exact hf a
      · rfl
    rw [List.pairwise_map]
    refine t.unique.imp ?_
    intro a b hab
    rw [hkey, hkey]
    exact hab

/-- Rewrite the rows `p` picks; the new keys clash with no more than the old ones. -/
def release (t : Table key clash) (p : α → Bool) (f : α → α)
    (hleft : ∀ a k, clash (key (f a)) k → clash (key a) k)
    (hright : ∀ a k, clash k (key (f a)) → clash k (key a)) : Table key clash where
  rows := t.rows.map fun a => if p a then f a else a
  unique := by
    rw [List.pairwise_map]
    refine t.unique.imp ?_
    intro a b hab hclash
    refine hab ?_
    split at hclash <;> split at hclash
    · exact hleft a _ (hright b _ hclash)
    · exact hleft a _ hclash
    · exact hright b _ hclash
    · exact hclash

/-- Rewrite the rows `p` picks; `none` when two rows of the result clash. -/
def modify [DecidableRel clash] (t : Table key clash) (p : α → Bool) (f : α → α) :
    Option (Table key clash) :=
  if h : (t.rows.map fun a => if p a then f a else a).Pairwise fun a b => ¬clash (key a) (key b) then
    some ⟨_, h⟩
  else none

/-- Delete the rows `p` picks. -/
def remove (t : Table key clash) (p : α → Bool) : Table key clash where
  rows := t.rows.filter fun a => !p a
  unique := t.unique.sublist List.filter_sublist

theorem rows_of_modify [DecidableRel clash] {t t' : Table key clash} {p : α → Bool} {f : α → α}
    (h : t.modify p f = some t') : t'.rows = t.rows.map fun a => if p a then f a else a := by
  unfold modify at h
  split_ifs at h with hclash
  cases h
  rfl

/-- A table is its rows. -/
theorem eq_of_rows {s t : Table key clash} (h : s.rows = t.rows) : s = t := by
  cases s
  cases t
  cases h
  rfl

/-- A predicate no two rows share holds of one row at most. -/
theorem countP_le_one {p : α → Bool} {l : List α}
    (h : l.Pairwise fun a b => p a = true → p b = false) : l.countP p ≤ 1 := by
  induction l with
  | nil => exact Nat.zero_le 1
  | cons a l ih =>
    obtain ⟨hhead, hrest⟩ := List.pairwise_cons.mp h
    cases hp : p a with
    | false =>
      rw [List.countP_cons_of_neg (by simp [hp])]
      exact ih hrest
    | true =>
      have hnone : l.countP p = 0 :=
        List.countP_eq_zero.mpr fun b hb => by simp [hhead b hb hp]
      rw [List.countP_cons_of_pos hp, hnone]

theorem countP_le_one_iff {p : α → Bool} {l : List α} :
    l.countP p ≤ 1 ↔ l.Pairwise fun a b => ¬(p a = true ∧ p b = true) := by
  constructor
  · induction l with
    | nil => exact fun _ => .nil
    | cons a l ih =>
      intro hle
      refine List.pairwise_cons.mpr ⟨?_, ih ?_⟩
      · rintro b hb ⟨ha, hb'⟩
        rw [List.countP_cons_of_pos ha] at hle
        have hpos : 0 < l.countP p := List.countP_pos_iff.mpr ⟨b, hb, hb'⟩
        omega
      · rw [List.countP_cons] at hle
        omega
  · intro h
    refine countP_le_one (h.imp fun {a b} hab ha => ?_)
    cases hb : p b with
    | false => rfl
    | true => exact absurd ⟨ha, hb⟩ hab

/-- Two rows that clash are one row. -/
theorem eq_of_clash (hsymm : ∀ k l, clash k l → clash l k) {t : Table key clash} {a b : α}
    (ha : a ∈ t.rows) (hb : b ∈ t.rows) (h : clash (key a) (key b)) : a = b := by
  have : Std.Symm fun a b => ¬clash (key a) (key b) := ⟨fun a b hab hba => hab (hsymm _ _ hba)⟩
  by_contra hne
  exact t.unique.forall ha hb hne h

/-- A `modify` that gives one value to all the rows it picks.  Two of them clash exactly where both
are in the index of that value (`q`), and one of them clashes with another row exactly where that
row has the value (`r`). -/
theorem isSome_modify_iff [DecidableRel clash] (hsymm : ∀ k l, clash k l → clash l k)
    {t : Table key clash} {p q r : α → Bool} {f : α → α}
    (hboth : ∀ a b, ¬clash (key a) (key b) → p a = true → p b = true →
      (clash (key (f a)) (key (f b)) ↔ q a = true ∧ q b = true))
    (hone : ∀ a b, ¬clash (key a) (key b) → p a = true → p b = false →
      (clash (key (f a)) (key b) ↔ r b = true)) :
    (t.modify p f).isSome = true ↔ t.rows.countP (fun a => p a && q a) ≤ 1 ∧
      ∀ a ∈ t.rows, p a = true → ∀ b ∈ t.rows, p b = false → r b = false := by
  have hdef : (t.modify p f).isSome = true ↔
      t.rows.Pairwise fun a b => ¬clash (key (if p a then f a else a)) (key (if p b then f b else b)) := by
    rw [← List.pairwise_map (R := fun a b => ¬clash (key a) (key b))
      (f := fun a => if p a then f a else a)]
    unfold modify
    split_ifs with h
    · exact iff_of_true rfl h
    · exact iff_of_false (by simp) h
  have hpair : ∀ a b, ¬clash (key a) (key b) →
      (¬clash (key (if p a then f a else a)) (key (if p b then f b else b)) ↔
        ¬((p a && q a) = true ∧ (p b && q b) = true) ∧
          ((p a = true → p b = false → r b = false) ∧ (p b = true → p a = false → r a = false))) := by
    intro a b hab
    have hba : ¬clash (key b) (key a) := fun h => hab (hsymm _ _ h)
    cases ha : p a with
    | false =>
      cases hb : p b with
      | false => simp [hab]
      | true =>
        have hclash : clash (key a) (key (f b)) ↔ r a = true :=
          ⟨fun h => (hone b a hba hb ha).mp (hsymm _ _ h),
            fun h => hsymm _ _ ((hone b a hba hb ha).mpr h)⟩
        simp [hclash]
    | true =>
      cases hb : p b with
      | false => simp [hone a b hab ha hb]
      | true => simp [hboth a b hab ha hb]
  have hall : t.rows.Pairwise (fun a b => ¬clash (key (if p a then f a else a))
      (key (if p b then f b else b))) ↔
      t.rows.Pairwise fun a b => ¬((p a && q a) = true ∧ (p b && q b) = true) ∧
        ((p a = true → p b = false → r b = false) ∧ (p b = true → p a = false → r a = false)) :=
    ⟨fun h => t.unique.imp₂ (fun a b hab => (hpair a b hab).mp) h,
      fun h => t.unique.imp₂ (fun a b hab => (hpair a b hab).mpr) h⟩
  rw [hdef, hall, List.pairwise_and_iff, ← countP_le_one_iff (p := fun a => p a && q a)]
  refine and_congr_right fun _ => ⟨fun h a ha hpa b hb => ?_, fun h => ?_⟩
  · have : Std.Symm fun a b => (p a = true → p b = false → r b = false) ∧
        (p b = true → p a = false → r a = false) := ⟨fun _ _ hab => ⟨hab.2, hab.1⟩⟩
    refine (h.forall_of_forall ?_ ha hb).1 hpa
    intro a _
    exact ⟨fun h h' => by simp [h] at h', fun h h' => by simp [h] at h'⟩
  · exact List.pairwise_of_forall_mem_list fun a ha b hb =>
      ⟨fun hpa => h a ha hpa b hb, fun hpb => h b hb hpb a ha⟩

/-- A `modify` that has been made changes nothing the next time. -/
theorem modify_modify [DecidableRel clash] {t t' : Table key clash} {p : α → Bool} {f : α → α}
    (h : t.modify p f = some t') (hp : ∀ a, p a = true → p (f a) = true)
    (hf : ∀ a, p a = true → f (f a) = f a) : t'.modify p f = some t' := by
  have hrows : (t'.rows.map fun a => if p a then f a else a) = t'.rows := by
    refine (List.map_congr_left fun b hb => ?_).trans (List.map_id _)
    rw [rows_of_modify h] at hb
    obtain ⟨a, -, rfl⟩ := List.mem_map.mp hb
    cases ha : p a with
    | false => simp [ha]
    | true => simp [hp a ha, hf a ha]
  have hunique : (t'.rows.map fun a => if p a then f a else a).Pairwise
      fun a b => ¬clash (key a) (key b) := by
    rw [hrows]
    exact t'.unique
  rw [modify, dif_pos hunique]
  exact congrArg some (eq_of_rows hrows)

/-- A predicate under which any two rows clash holds of one row at most. -/
theorem countP_eq_one_iff {t : Table key clash} {p : α → Bool}
    (h : ∀ a b, p a = true → p b = true → clash (key a) (key b)) :
    t.rows.countP p = 1 ↔ ∃ a ∈ t.rows, p a = true := by
  constructor
  · intro hone
    exact List.countP_pos_iff.mp (by omega)
  · intro hex
    have hpos : 0 < t.rows.countP p := List.countP_pos_iff.mpr hex
    have hle : t.rows.countP p ≤ 1 := by
      have hunique : (t.rows.filter p).Pairwise fun a b => ¬clash (key a) (key b) :=
        t.unique.sublist List.filter_sublist
      rw [List.countP_eq_length_filter]
      match hfilter : t.rows.filter p with
      | [] => simp
      | [a] => simp
      | a :: b :: rest =>
        rw [hfilter] at hunique
        have hall : ∀ c ∈ a :: b :: rest, p c = true := fun c hc =>
          (List.mem_filter.mp (hfilter ▸ hc)).2
        exact absurd (h a b (hall a (by simp)) (hall b (by simp)))
          ((List.pairwise_cons.mp hunique).1 b (by simp))
    omega

theorem mem_of_findFirst {t : Table key clash} {q : α → Bool} {a : α}
    (h : t.findFirst q = some a) : a ∈ t.rows ∧ q a = true :=
  ⟨List.mem_of_find?_eq_some h, List.find?_some h⟩

/-- A read that only one row answers returns it. -/
theorem findFirst_of_unique {t : Table key clash} {q : α → Bool} {a : α} (ha : a ∈ t.rows)
    (hq : q a = true) (hone : ∀ b, t.findFirst q = some b → b = a) : t.findFirst q = some a := by
  have hex : ∃ b ∈ t.rows, q b = true := ⟨a, ha, hq⟩
  obtain ⟨b, hb⟩ := Option.isSome_iff_exists.mp (List.find?_isSome.mpr hex)
  have hfound : t.findFirst q = some b := hb
  rw [hfound, hone b hfound]

/-- What a read sees after an update that does not touch the columns it asks for. -/
theorem findFirst_update (t : Table key clash) (p : α → Bool) (f : α → α)
    (hf : ∀ a, key (f a) = key a) {q : α → Bool} (hq : ∀ a, q (f a) = q a) :
    (t.update p f hf).findFirst q = (t.findFirst q).map fun a => if p a then f a else a := by
  have hq' : (q ∘ fun a => if p a then f a else a) = q := by
    funext a
    show q (if p a then f a else a) = q a
    split
    · exact hq a
    · rfl
  show (t.rows.map _).find? q = _
  rw [List.find?_map, hq']
  rfl

/-- What a read sees after a row is added. -/
theorem findFirst_create [DecidableRel clash] {t t' : Table key clash} {a : α}
    (h : t.create a = some t') (q : α → Bool) :
    t'.findFirst q = (t.findFirst q).or (if q a then some a else none) := by
  unfold create at h
  split_ifs at h with hclash
  cases h
  show (t.rows ++ [a]).find? q = _
  rw [List.find?_append]
  cases hq : q a with
  | true => simp [findFirst, hq]
  | false => simp [findFirst, hq]

theorem rows_of_create [DecidableRel clash] {t t' : Table key clash} {a : α}
    (h : t.create a = some t') : t'.rows = t.rows ++ [a] := by
  unfold create at h
  split_ifs at h with hclash
  cases h
  rfl

theorem create_eq_none_iff [DecidableRel clash] {t : Table key clash} {a : α} :
    t.create a = none ↔ ∃ b ∈ t.rows, clash (key b) (key a) := by
  unfold create
  split_ifs with h
  · simpa using h
  · simpa using h

/-- The rows after a `createMany` are the old ones and the ones it returns. -/
theorem rows_createMany [DecidableRel clash] : ∀ (as : List α) (t : Table key clash),
    (t.createMany as).2.rows = t.rows ++ (t.createMany as).1
  | [], t => (List.append_nil _).symm
  | a :: as, t => by
      rw [createMany]
      split
      · rename_i t' h
        rw [rows_createMany as t', rows_of_create h, List.append_assoc]
        rfl
      · exact rows_createMany as t

/-- A `createMany` returns some of the rows it is offered. -/
theorem createMany_sublist [DecidableRel clash] : ∀ (as : List α) (t : Table key clash),
    List.Sublist (t.createMany as).1 as
  | [], _ => List.Sublist.refl []
  | a :: as, t => by
      rw [createMany]
      split
      · exact (createMany_sublist as _).cons_cons a
      · exact (createMany_sublist as t).cons a

/-- A `createMany` whose rows all clash with the table adds none and leaves it as it was. -/
theorem createMany_eq_nil_iff [DecidableRel clash] : ∀ (as : List α) (t : Table key clash),
    (t.createMany as).1 = [] ↔ ∀ a ∈ as, ∃ b ∈ t.rows, clash (key b) (key a)
  | [], _ => by simp [createMany]
  | a :: as, t => by
      rw [createMany, List.forall_mem_cons]
      split
      · rename_i t' h
        have hnot : ¬ ∃ b ∈ t.rows, clash (key b) (key a) := by
          rw [← create_eq_none_iff, h]; exact Option.some_ne_none _
        simp [hnot]
      · rename_i h
        rw [createMany_eq_nil_iff as t]
        exact (and_iff_right (create_eq_none_iff.mp h)).symm

theorem eq_of_createMany_eq_nil [DecidableRel clash] : ∀ (as : List α) (t : Table key clash),
    (t.createMany as).1 = [] → (t.createMany as).2 = t
  | [], _, _ => rfl
  | a :: as, t, h => by
      rw [createMany] at h ⊢
      split at h
      · cases h
      · exact eq_of_createMany_eq_nil as t h

/-- With the key itself unique, a read by key after a `createMany` sees the old row if there
is one, else the first one offered. -/
theorem findFirst_createMany [DecidableEq κ] (k : κ) : ∀ (as : List α) (t : Table key (@Eq κ)),
    (t.createMany as).2.findFirst (key · = k)
      = (t.findFirst (key · = k)).or (as.find? (key · = k))
  | [], t => (Option.or_none).symm
  | a :: as, t => by
      rw [createMany]
      split
      · rename_i t' h
        rw [findFirst_createMany k as t', findFirst_create h, Option.or_assoc, List.find?_cons]
        cases hk : decide (key a = k) <;> rfl
      · rename_i h
        rw [findFirst_createMany k as t, List.find?_cons]
        cases hk : decide (key a = k) with
        | false => rfl
        | true =>
          obtain ⟨b, hb, hab⟩ := create_eq_none_iff.mp h
          have hfound : (t.findFirst (key · = k)).isSome := by
            refine List.find?_isSome.mpr ⟨b, hb, ?_⟩
            rw [hab]
            exact hk
          obtain ⟨c, hc⟩ := Option.isSome_iff_exists.mp hfound
          rw [hc]
          rfl

/-- With the key itself unique, the keys after a `createMany` are the old and the offered ones. -/
theorem mem_keys_createMany [DecidableEq κ] : ∀ (as : List α) (t : Table key (@Eq κ)) (k : κ),
    k ∈ (t.createMany as).2.rows.map key ↔ k ∈ t.rows.map key ∨ k ∈ as.map key
  | [], t, k => by simp [createMany]
  | a :: as, t, k => by
      rw [createMany]
      split
      · rename_i t' h
        rw [mem_keys_createMany as t' k, rows_of_create h]
        simp [or_assoc, eq_comm]
      · rename_i h
        obtain ⟨b, hb, hab⟩ := create_eq_none_iff.mp h
        rw [mem_keys_createMany as t k, List.map_cons, List.mem_cons]
        constructor
        · exact Or.imp_right Or.inr
        · rintro (hk | rfl | hk)
          · exact Or.inl hk
          · exact Or.inl (List.mem_map.mpr ⟨b, hb, hab⟩)
          · exact Or.inr hk

/-! ### Insert or update -/

section Upsert

variable [DecidableEq κ] {t : Table key (@Eq κ)}

/-- The row with a key. -/
def lookup (t : Table key (@Eq κ)) (k : κ) : Option α := t.findFirst (key · = k)

theorem mem_rows_iff {a : α} : a ∈ t.rows ↔ t.lookup (key a) = some a := by
  constructor
  · intro ha
    refine findFirst_of_unique ha (decide_eq_true rfl) fun b hb => ?_
    obtain ⟨hmem, hkey⟩ := mem_of_findFirst hb
    exact eq_of_clash (fun _ _ => Eq.symm) hmem ha (of_decide_eq_true hkey)
  · intro h
    exact (mem_of_findFirst h).1

/-- A table is its lookups. -/
theorem rows_iff_lookup {s t : Table key (@Eq κ)} :
    (∀ a, a ∈ s.rows ↔ a ∈ t.rows) ↔ ∀ k, s.lookup k = t.lookup k := by
  constructor
  · intro h k
    have hof : ∀ (u : Table key (@Eq κ)) (a : α), u.lookup k = some a ↔ a ∈ u.rows ∧ key a = k := by
      intro u a
      constructor
      · intro hu
        obtain ⟨hmem, hkey⟩ := mem_of_findFirst hu
        exact ⟨hmem, of_decide_eq_true hkey⟩
      · rintro ⟨hmem, rfl⟩
        exact mem_rows_iff.mp hmem
    refine Option.ext fun a => ?_
    rw [hof, hof, h a]
  · intro h a
    rw [mem_rows_iff, mem_rows_iff, h]

theorem key_of_lookup {k : κ} {a : α} (h : t.lookup k = some a) : key a = k :=
  of_decide_eq_true (mem_of_findFirst h).2

/-- What a read by key sees after the row with a key is rewritten. -/
theorem lookup_update (t : Table key (@Eq κ)) (k : κ) (f : α → α) (hf : ∀ a, key (f a) = key a)
    (k' : κ) :
    (t.update (fun a => decide (key a = k)) f hf).lookup k' =
      if k' = k then (t.lookup k').map f else t.lookup k' := by
  rw [lookup, findFirst_update t _ f hf (q := (key · = k')) (fun b => by rw [hf]), ← lookup]
  by_cases hk : k' = k
  · subst hk
    rw [if_pos rfl]
    exact Option.map_congr fun a ha => if_pos (decide_eq_true (key_of_lookup ha))
  · rw [if_neg hk]
    refine (Option.map_congr fun a ha => ?_).trans Option.map_id'
    exact if_neg (by rw [key_of_lookup ha]; simpa using hk)

/-- Rewriting one row changes a count by what it changes of that row. -/
theorem countP_update {k : κ} {a : α} (h : t.lookup k = some a) (p : α → Bool) (f : α → α)
    (hf : ∀ a, key (f a) = key a) :
    (t.update (fun a => decide (key a = k)) f hf).rows.countP p + (if p a then 1 else 0) =
      t.rows.countP p + if p (f a) then 1 else 0 := by
  have hk : key a = k := key_of_lookup h
  obtain ⟨before, after, hrows⟩ := List.append_of_mem (mem_of_findFirst h).1
  have hunique : (before ++ a :: after).Pairwise fun a b => ¬key a = key b := hrows ▸ t.unique
  obtain ⟨-, hafter, hcross⟩ := List.pairwise_append.mp hunique
  have hsame : ∀ {l : List α}, (∀ b ∈ l, key b ≠ k) →
      l.map (fun b => if decide (key b = k) then f b else b) = l := by
    intro l hl
    refine (List.map_congr_left fun b hb => ?_).trans (List.map_id l)
    exact if_neg (by simpa using hl b hb)
  have hbefore : ∀ b ∈ before, key b ≠ k := fun b hb heq =>
    hcross b hb a List.mem_cons_self (heq.trans hk.symm)
  have hrest : ∀ b ∈ after, key b ≠ k := fun b hb heq =>
    (List.pairwise_cons.mp hafter).1 b hb (hk.trans heq.symm)
  have hmap : (t.update (fun a => decide (key a = k)) f hf).rows = before ++ f a :: after := by
    show t.rows.map (fun b => if decide (key b = k) then f b else b) = _
    rw [hrows, List.map_append, List.map_cons, hsame hbefore, hsame hrest,
      if_pos (decide_eq_true hk)]
  rw [hmap, hrows, List.countP_append, List.countP_append, List.countP_cons, List.countP_cons]
  omega

/-- Add a row, or rewrite the one with its key. -/
def upsert (t : Table key (@Eq κ)) (a : α) (f : α → α) (hf : ∀ b, key (f b) = key b) :
    Table key (@Eq κ) :=
  match t.create a with
  | some t' => t'
  | none => t.update (fun b => key b = key a) f hf

theorem lookup_upsert (t : Table key (@Eq κ)) (a : α) (f : α → α) (hf : ∀ b, key (f b) = key b)
    (k : κ) :
    (t.upsert a f hf).lookup k =
      if k = key a then some ((t.lookup k).elim a f) else t.lookup k := by
  unfold upsert
  split
  · rename_i t' h
    rw [lookup, findFirst_create h]
    by_cases hk : k = key a
    · have hnone : t.lookup k = none := by
        refine List.find?_eq_none.mpr fun b hb hkey => ?_
        have hex := create_eq_none_iff.mpr ⟨b, hb, (of_decide_eq_true hkey).trans hk⟩
        rw [h] at hex
        cases hex
      rw [if_pos hk, ← lookup, hnone, if_pos (decide_eq_true hk.symm)]
      rfl
    · rw [if_neg hk, if_neg (by simpa using Ne.symm hk), Option.or_none]
      rfl
  · rename_i h
    rw [lookup, findFirst_update t _ f hf (q := (key · = k)) (fun b => by rw [hf]), ← lookup]
    by_cases hk : k = key a
    · obtain ⟨b, hb, hab⟩ := create_eq_none_iff.mp h
      have hsome : t.lookup k = some b := by
        rw [hk, ← hab]
        exact mem_rows_iff.mp hb
      rw [if_pos hk, hsome, Option.map_some, if_pos (decide_eq_true hab)]
      rfl
    · rw [if_neg hk]
      cases hfound : t.lookup k with
      | none => rfl
      | some b =>
        have hkey : key b = k := of_decide_eq_true (mem_of_findFirst hfound).2
        have hne : key b ≠ key a := hkey ▸ hk
        rw [Option.map_some, if_neg (by simpa using hne)]

variable {ω : Type*} {row : ω → α} {set : ω → α → α}

/-- A run of upserts. -/
def upserts (row : ω → α) (set : ω → α → α) (hset : ∀ w b, key (set w b) = key b) (ws : List ω)
    (t : Table key (@Eq κ)) : Table key (@Eq κ) :=
  ws.foldl (fun t w => t.upsert (row w) (set w) (hset w)) t

/-- The last upsert of a key decides its row, if none looks at what an earlier one wrote. -/
theorem lookup_upserts (hset : ∀ w b, key (set w b) = key b)
    (hover : ∀ w w' b, set w' (set w b) = set w' b)
    (hrow : ∀ w w', key (row w) = key (row w') → set w' (row w) = row w') (k : κ) (ws : List ω)
    (t : Table key (@Eq κ)) :
    (upserts row set hset ws t).lookup k =
      match (ws.filter fun w => key (row w) = k).getLast? with
      | none => t.lookup k
      | some w => some ((t.lookup k).elim (row w) (set w)) := by
  induction ws generalizing t with
  | nil => rfl
  | cons w ws ih =>
    have hstep := lookup_upsert t (row w) (set w) (hset w) k
    rw [upserts, List.foldl_cons]
    refine (ih (t.upsert (row w) (set w) (hset w))).trans ?_
    by_cases hk : key (row w) = k
    · rw [List.filter_cons_of_pos (by simpa using hk), List.getLast?_cons]
      rw [if_pos hk.symm] at hstep
      cases hlast : (ws.filter fun w => key (row w) = k).getLast? with
      | none => exact hstep
      | some w' =>
        have hk' : key (row w') = k := by
          have hmem := (List.mem_filter.mp (List.mem_of_getLast? hlast)).2
          simpa using hmem
        rw [Option.getD_some, hstep]
        cases t.lookup k with
        | none => exact congrArg some (hrow w w' (hk.trans hk'.symm))
        | some b => exact congrArg some (hover w w' b)
    · rw [List.filter_cons_of_neg (by simpa using hk)]
      rw [if_neg (Ne.symm hk)] at hstep
      rw [hstep]

/-- A run without an upsert of a key leaves its row. -/
theorem lookup_upserts_of_ne (row : ω → α) (set : ω → α → α)
    (hset : ∀ w b, key (set w b) = key b) {k : κ} {ws : List ω} (h : ∀ w ∈ ws, key (row w) ≠ k) (t : Table key (@Eq κ)) :
    (upserts row set hset ws t).lookup k = t.lookup k := by
  induction ws generalizing t with
  | nil => rfl
  | cons w ws ih =>
    rw [List.forall_mem_cons] at h
    refine (ih h.2 (t.upsert (row w) (set w) (hset w))).trans ?_
    rw [lookup_upsert, if_neg (Ne.symm h.1)]

/-- A run whose upserts of a key are all one, which is not changed by doing it again. -/
theorem lookup_upserts_of_unique (row : ω → α) (set : ω → α → α)
    (hset : ∀ w b, key (set w b) = key b) {w : ω} {ws : List ω} (hmem : w ∈ ws)
    (hone : ∀ w' ∈ ws, key (row w') = key (row w) → w' = w)
    (hagain : ∀ b, set w (set w b) = set w b) (hrow : set w (row w) = row w)
    (t : Table key (@Eq κ)) :
    (upserts row set hset ws t).lookup (key (row w)) =
      some ((t.lookup (key (row w))).elim (row w) (set w)) := by
  induction ws generalizing t with
  | nil => cases hmem
  | cons w' ws ih =>
    rw [List.forall_mem_cons] at hone
    have hstep := lookup_upsert t (row w') (set w') (hset w') (key (row w))
    by_cases hkey : key (row w') = key (row w)
    · obtain rfl : w' = w := hone.1 hkey
      rw [if_pos rfl] at hstep
      by_cases hlater : w' ∈ ws
      · refine (ih hlater hone.2 (t.upsert (row w') (set w') (hset w'))).trans ?_
        rw [hstep, Option.elim_some]
        cases t.lookup (key (row w')) with
        | none => exact congrArg some hrow
        | some b => exact congrArg some (hagain b)
      · have hothers : ∀ w ∈ ws, key (row w) ≠ key (row w') := by
          intro w hw hsame
          exact hlater (hone.2 w hw hsame ▸ hw)
        exact (lookup_upserts_of_ne row set hset hothers (t.upsert (row w') (set w') (hset w'))).trans hstep
    · rw [if_neg (Ne.symm hkey)] at hstep
      have hmem' : w ∈ ws := (List.mem_cons.mp hmem).resolve_left fun h => hkey (by rw [h])
      refine (ih hmem' hone.2 (t.upsert (row w') (set w') (hset w'))).trans ?_
      rw [hstep]

omit [DecidableEq κ] in
/-- The last upsert of a key, when there is at most one. -/
theorem getLast?_filter_eq {p : ω → Bool} {ws : List ω} {o : Option ω}
    (hall : ∀ w ∈ ws, p w = true → o = some w) (hmem : ∀ w, o = some w → w ∈ ws ∧ p w = true) :
    (ws.filter p).getLast? = o := by
  cases o with
  | none =>
    have hempty : ws.filter p = [] :=
      List.filter_eq_nil_iff.mpr fun w hw hp => Option.some_ne_none w (hall w hw hp).symm
    rw [hempty, List.getLast?_nil]
  | some w =>
    have hw : w ∈ ws.filter p := List.mem_filter.mpr (hmem w rfl)
    rw [List.getLast?_eq_some_getLast (List.ne_nil_of_mem hw)]
    have hlast := List.mem_filter.mp (List.getLast_mem (List.ne_nil_of_mem hw))
    exact (hall _ hlast.1 hlast.2).symm

end Upsert

end Table

end DeliveryTracking
