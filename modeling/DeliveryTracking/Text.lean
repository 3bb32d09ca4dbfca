/-
# `DeliveryTracking.Text` — strings as lists of characters

The string operations of the language on lists of characters, and what of a text they
keep: its letters, the characters that are not blank.

    trim, collapse   take blanks away
    indexOf          the first place of a text in another one, or -1
    slice            between two places, which count from the end if negative
    spans            a line of a table, cut at the places of its columns
    join             the parts that are not empty, a blank between them

Nothing below names the repository.
-/
import Mathlib.Data.List.DropRight
import Mathlib.Algebra.GroupWithZero.Nat

namespace DeliveryTracking

abbrev Text := List Char

namespace Text

/-! ## Digits -/

theorem toLower_of_isDigit {c : Char} (h : c.isDigit = true) : c.toLower = c := by
  simp only [Char.isDigit, Bool.and_eq_true, decide_eq_true_eq] at h
  delta Char.toLower
  rw [dif_neg]
  rintro ⟨hupper, -⟩
  have hle : ('A' : Char).val ≤ 57 := UInt32.le_trans hupper h.2
  exact absurd hle (by decide)

/-! ## Blanks -/

/-- White space and line terminators. -/
def isSpace (c : Char) : Bool :=
  let n := c.toNat
  (9 ≤ n && n ≤ 13) || n == 32 || n == 160 || n == 5760 || (8192 ≤ n && n ≤ 8202) || n == 8232 ||
    n == 8233 || n == 8239 || n == 8287 || n == 12288 || n == 65279

/-- The characters of a text that are not blank. -/
def letters (t : Text) : Text := t.filter fun c => !isSpace c

/-- How many there are. -/
def weight (t : Text) : Nat := (letters t).length

def Blank (t : Text) : Prop := ∀ c ∈ t, isSpace c = true

def trim (t : Text) : Text := (t.dropWhile isSpace).rdropWhile isSpace

/-- `replace(/\s+/g, ' ')` -/
def collapse : Text → Text
  | [] => []
  | c :: t =>
      if isSpace c then
        if t.head?.any isSpace then collapse t else ' ' :: collapse t
      else c :: collapse t

@[simp] theorem letters_nil : letters [] = [] := rfl

@[simp] theorem letters_append (t u : Text) : letters (t ++ u) = letters t ++ letters u :=
  List.filter_append ..

@[simp] theorem weight_nil : weight [] = 0 := rfl

@[simp] theorem weight_append (t u : Text) : weight (t ++ u) = weight t + weight u := by
  simp [weight]

theorem letters_eq_nil_iff {t : Text} : letters t = [] ↔ Blank t := by
  simp [letters, Blank, List.filter_eq_nil_iff]

theorem weight_eq_zero_iff {t : Text} : weight t = 0 ↔ Blank t := by
  rw [weight, List.length_eq_zero_iff, letters_eq_nil_iff]

theorem Blank.append {t u : Text} (h : Blank t) (h' : Blank u) : Blank (t ++ u) := by
  intro c hc
  rcases List.mem_append.mp hc with hc | hc
  · exact h c hc
  · exact h' c hc

/-- A text is its leading blanks, what is left of them, and the trailing ones. -/
theorem exists_trim (t : Text) : ∃ left right, Blank left ∧ Blank right ∧
    t = left ++ trim t ++ right := by
  refine ⟨t.takeWhile isSpace, (t.dropWhile isSpace).rtakeWhile isSpace, ?_, ?_, ?_⟩
  · intro c hc
    exact List.mem_takeWhile_imp hc
  · intro c hc
    exact List.mem_rtakeWhile_imp hc
  · rw [trim, List.append_assoc, List.rdropWhile_append_rtakeWhile, List.takeWhile_append_dropWhile]

@[simp] theorem letters_trim (t : Text) : letters (trim t) = letters t := by
  obtain ⟨left, right, hleft, hright, heq⟩ := exists_trim t
  conv_rhs => rw [heq]
  rw [letters_append, letters_append, letters_eq_nil_iff.mpr hleft, letters_eq_nil_iff.mpr hright,
    List.nil_append, List.append_nil]

@[simp] theorem weight_trim (t : Text) : weight (trim t) = weight t := by
  rw [weight, letters_trim, weight]

theorem trim_eq_nil_iff {t : Text} : trim t = [] ↔ Blank t := by
  constructor
  · intro h
    rw [← letters_eq_nil_iff, ← letters_trim, h]
    rfl
  · intro h
    rw [trim, List.dropWhile_eq_nil_iff.mpr h]
    rfl

/-- A text without blanks at its ends. -/
theorem dropWhile_of_trim {cell : Text} (h : trim cell = cell) :
    cell.dropWhile isSpace = cell ∧ cell.rdropWhile isSpace = cell := by
  have hsuffix : cell.dropWhile isSpace <:+ cell := List.dropWhile_suffix _
  have hprefix : trim cell <+: cell.dropWhile isSpace := List.rdropWhile_prefix ..
  have hstart : cell.dropWhile isSpace = cell := by
    refine hsuffix.eq_of_length_le ?_
    have hle := hprefix.length_le
    rwa [h] at hle
  refine ⟨hstart, ?_⟩
  rw [trim, hstart] at h
  exact h

theorem rdropWhile_append_blank {t right : Text} (h : Blank right) :
    (t ++ right).rdropWhile isSpace = t.rdropWhile isSpace := by
  have hnil : right.reverse.dropWhile isSpace = [] := by
    refine List.dropWhile_eq_nil_iff.mpr ?_
    intro c hc
    exact h c (List.mem_reverse.mp hc)
  rw [List.rdropWhile, List.reverse_append, List.dropWhile_append, hnil, if_pos List.isEmpty_nil,
    List.rdropWhile]

/-- Blanks around a text that has none at its ends are trimmed away. -/
theorem trim_padded {left cell right : Text} (hleft : Blank left) (hright : Blank right)
    (hcell : trim cell = cell) : trim (left ++ cell ++ right) = cell := by
  by_cases hblank : Blank cell
  · have hnil : cell = [] := hcell.symm.trans (trim_eq_nil_iff.mpr hblank)
    rw [hnil]
    exact trim_eq_nil_iff.mpr ((hleft.append fun _ h => by cases h).append hright)
  · obtain ⟨hstart, hstop⟩ := dropWhile_of_trim hcell
    have hnil : left.dropWhile isSpace = [] := List.dropWhile_eq_nil_iff.mpr hleft
    have hne : (cell.dropWhile isSpace).isEmpty = false := by
      rw [hstart, List.isEmpty_eq_false_iff]
      rintro rfl
      exact hblank fun _ h => by cases h
    rw [trim, List.append_assoc, List.dropWhile_append, hnil, if_pos List.isEmpty_nil,
      List.dropWhile_append, hne, if_neg Bool.false_ne_true, hstart, rdropWhile_append_blank hright,
      hstop]

@[simp] theorem letters_collapse (t : Text) : letters (collapse t) = letters t := by
  have hblank : isSpace ' ' = true := by decide
  induction t with
  | nil => rfl
  | cons c t ih =>
      rw [collapse]
      split
      · rename_i hc
        have hdrop : letters (c :: t) = letters t := by simp [letters, hc]
        rw [hdrop]
        split
        · exact ih
        · rw [← ih]
          simp [letters, hblank]
      · rename_i hc
        have hkeep : ∀ u, letters (c :: u) = c :: letters u := by
          intro u
          simp [letters, hc]
        rw [hkeep, hkeep, ih]

/-! ## Places -/

def indexOf (sub : Text) : Text → Int
  | [] => if sub = [] then 0 else -1
  | c :: t => if sub.isPrefixOf (c :: t) then 0 else
      match indexOf sub t with
      | .ofNat i => i + 1
      | .negSucc _ => -1

def includes (sub t : Text) : Bool := indexOf sub t != -1

/-- A place of a text of length `n`. -/
def place (n : Nat) (i : Int) : Nat := if i < 0 then (n + i).toNat else min i.toNat n

def slice (t : Text) (start stop : Int) : Text :=
  (t.take (place t.length stop)).drop (place t.length start)

theorem neg_one_le_indexOf (sub t : Text) : -1 ≤ indexOf sub t := by
  induction t with
  | nil =>
      rw [indexOf]
      split <;> omega
  | cons c t ih =>
      rw [indexOf]
      split
      · omega
      · split <;> omega

/-- What is found is there. -/
theorem isPrefixOf_drop_indexOf {sub t : Text} {i : Nat} (h : indexOf sub t = i) :
    sub <+: t.drop i := by
  induction t generalizing i with
  | nil =>
      rw [indexOf] at h
      split at h
      · rename_i hsub
        rw [hsub]
        exact List.nil_prefix
      · omega
  | cons c t ih =>
      rw [indexOf] at h
      split at h
      · rename_i hprefix
        obtain rfl : i = 0 := by omega
        exact List.isPrefixOf_iff_prefix.mp hprefix
      · split at h
        · rename_i j hj
          obtain rfl : i = j + 1 := by omega
          rw [List.drop_succ_cons]
          exact ih hj
        · omega

/-- A text that includes one that is not blank is not blank. -/
theorem weight_pos_of_includes {sub t : Text} (h : includes sub t = true) (hsub : ¬Blank sub) :
    0 < weight t := by
  rw [includes, bne_iff_ne] at h
  have hle := neg_one_le_indexOf sub t
  obtain ⟨i, hi⟩ : ∃ i : Nat, indexOf sub t = i := ⟨(indexOf sub t).toNat, by omega⟩
  obtain ⟨rest, hrest⟩ := isPrefixOf_drop_indexOf hi
  refine Nat.pos_of_ne_zero ?_
  intro hzero
  refine hsub ?_
  intro c hc
  refine weight_eq_zero_iff.mp hzero c (List.mem_of_mem_drop (i := i) ?_)
  rw [← hrest]
  exact List.mem_append_left _ hc

/-! ## Columns -/

section Columns

variable {κ : Type*} (pos : κ → Int) (t : Text)

/-- A text cut at the places of the keys: each has what stands between its place and the next. -/
def spans : List κ → List (κ × Text)
  | [] => []
  | [k] => [(k, slice t (pos k) t.length)]
  | k :: k' :: ks => (k, slice t (pos k) (pos k')) :: spans (k' :: ks)

@[simp] theorem map_fst_spans (ks : List κ) : (spans pos t ks).map Prod.fst = ks := by
  induction ks with
  | nil => rfl
  | cons k ks ih =>
      cases ks with
      | nil => rfl
      | cons k' ks => rw [spans, List.map_cons, ih]

variable {pos t}

theorem slice_of_nonneg {start stop : Int} (hstart : 0 ≤ start) (hstop : 0 ≤ stop) :
    slice t start stop = (t.take stop.toNat).drop start.toNat := by
  rw [slice, place, place, if_neg (Int.not_lt.mpr hstart), if_neg (Int.not_lt.mpr hstop)]
  rcases Nat.le_total stop.toNat t.length with h | h
  · rw [Nat.min_eq_left h]
    rcases Nat.le_total start.toNat t.length with h' | h'
    · rw [Nat.min_eq_left h']
    · rw [Nat.min_eq_right h', List.drop_eq_nil_of_le, List.drop_eq_nil_of_le]
      · rw [List.length_take]
        omega
      · rw [List.length_take]
        omega
  · rw [Nat.min_eq_right h, List.take_of_length_le (Nat.le_refl _), List.take_of_length_le h]
    rcases Nat.le_total start.toNat t.length with h' | h'
    · rw [Nat.min_eq_left h']
    · rw [Nat.min_eq_right h', List.drop_eq_nil_of_le (Nat.le_refl _), List.drop_eq_nil_of_le h']

/-- What is cut off, and the rest. -/
theorem weight_slice {start stop : Int} (hstart : 0 ≤ start) (hle : start ≤ stop) :
    weight (slice t start stop) + weight (t.drop stop.toNat) = weight (t.drop start.toNat) := by
  have hsplit : t.drop start.toNat = (t.take stop.toNat).drop start.toNat ++ t.drop stop.toNat := by
    conv_lhs => rw [← List.take_append_drop stop.toNat t]
    rw [List.drop_append]
    rcases Nat.le_total stop.toNat t.length with h | h
    · have hzero : start.toNat - (t.take stop.toNat).length = 0 := by
        rw [List.length_take]
        omega
      rw [hzero, List.drop_zero]
    · rw [List.drop_eq_nil_of_le h, List.drop_nil]
  rw [slice_of_nonneg hstart (Int.le_trans hstart hle), hsplit, weight_append]

theorem slice_length {start : Int} (hstart : 0 ≤ start) :
    slice t start t.length = t.drop start.toNat := by
  rw [slice_of_nonneg hstart (Int.natCast_nonneg _), Int.toNat_natCast, List.take_length]

/-- The spans from the first place on lose no letter. -/
theorem weight_spans {k : κ} {ks : List κ} (hsorted : (k :: ks).Pairwise fun a b => pos a ≤ pos b)
    (hpos : ∀ a ∈ k :: ks, 0 ≤ pos a) :
    ((spans pos t (k :: ks)).map fun x => weight x.2).sum = weight (t.drop (pos k).toNat) := by
  induction ks generalizing k with
  | nil =>
      have hk := hpos k (List.mem_singleton_self k)
      simp [spans, slice_length hk]
  | cons k' ks ih =>
      have hrest := ih (List.pairwise_cons.mp hsorted).2
        fun a ha => hpos a (List.mem_cons_of_mem _ ha)
      have hle : pos k ≤ pos k' := (List.pairwise_cons.mp hsorted).1 k' (List.mem_cons_self ..)
      rw [spans, List.map_cons, List.sum_cons, hrest]
      exact weight_slice (hpos k (List.mem_cons_self ..)) hle

/-- Nor do they find one twice, wherever the places are. -/
theorem weight_spans_le {ks : List κ} (hsorted : ks.Pairwise fun a b => pos a ≤ pos b)
    (hpos : ∀ a ∈ ks, -1 ≤ pos a) :
    ((spans pos t ks).map fun x => weight x.2).sum ≤ weight t := by
  have hdrop : ∀ n, weight (t.drop n) ≤ weight t := by
    intro n
    conv_rhs => rw [← List.take_append_drop n t]
    rw [weight_append]
    exact Nat.le_add_left ..
  induction ks with
  | nil => exact Nat.zero_le _
  | cons k ks ih =>
      have hsorted' := List.pairwise_cons.mp hsorted
      rcases Int.lt_or_le (pos k) 0 with hneg | hnonneg
      · have hk : pos k = -1 := by
          have hge := hpos k (List.mem_cons_self ..)
          omega
        have hlast : place t.length (-1) = t.length - 1 := by
          rw [place, if_pos (by decide)]
          omega
        have hrest := ih hsorted'.2 fun a ha => hpos a (List.mem_cons_of_mem _ ha)
        cases ks with
        | nil =>
            have hfull : t.take (place t.length t.length) = t := by
              refine List.take_of_length_le ?_
              rw [place, if_neg (Int.not_lt.mpr (Int.natCast_nonneg _))]
              omega
            simp only [spans, List.map_cons, List.map_nil, List.sum_cons, List.sum_nil, hk, slice,
              hlast, hfull, Nat.add_zero]
            exact hdrop _
        | cons k' ks =>
            rw [spans, List.map_cons, List.sum_cons]
            simp only
            rcases Int.lt_or_le (pos k') 0 with hneg' | hnonneg'
            · have hk' : pos k' = -1 := by
                have hge := hpos k' (List.mem_cons_of_mem _ (List.mem_cons_self ..))
                omega
              have hempty : slice t (pos k) (pos k') = [] := by
                rw [slice, hk, hk', hlast, List.drop_eq_nil_iff, List.length_take]
                exact Nat.min_le_left ..
              rw [hempty, weight_nil, Nat.zero_add]
              exact hrest
            · have hpos' : ∀ a ∈ k' :: ks, 0 ≤ pos a := by
                intro a ha
                rcases List.mem_cons.mp ha with rfl | ha
                · exact hnonneg'
                · exact Int.le_trans hnonneg' ((List.pairwise_cons.mp hsorted'.2).1 a ha)
              rw [weight_spans hsorted'.2 hpos']
              rcases Nat.lt_or_ge (pos k').toNat t.length with hlt | hge
              · have hempty : slice t (pos k) (pos k') = [] := by
                  rw [slice, hk, hlast, place, if_neg (Int.not_lt.mpr hnonneg'),
                    List.drop_eq_nil_iff, List.length_take]
                  omega
                rw [hempty, weight_nil, Nat.zero_add]
                exact hdrop _
              · rw [List.drop_eq_nil_of_le hge, weight_nil, Nat.add_zero, slice]
                have hfull : t.take (place t.length (pos k')) = t := by
                  refine List.take_of_length_le ?_
                  rw [place, if_neg (Int.not_lt.mpr hnonneg')]
                  omega
                rw [hfull]
                exact hdrop _
      · have hnonneg' : ∀ a ∈ k :: ks, 0 ≤ pos a := by
          intro a ha
          rcases List.mem_cons.mp ha with rfl | ha
          · exact hnonneg
          · exact Int.le_trans hnonneg (hsorted'.1 a ha)
        rw [weight_spans hsorted hnonneg']
        exact hdrop _

/-- Where a span ends: no place is between its two ends, and a place or the end of the text is
there. -/
theorem mem_spans {ks : List κ} (hsorted : ks.Pairwise fun a b => pos a ≤ pos b) (hnodup : ks.Nodup)
    {k : κ} {s : Text} (h : (k, s) ∈ spans pos t ks) : ∃ stop, s = slice t (pos k) stop ∧
      (∀ a ∈ ks, pos a ≤ pos k ∨ stop ≤ pos a) ∧
      (stop = t.length ∨ ∃ a ∈ ks, a ≠ k ∧ pos k ≤ pos a ∧ stop = pos a) := by
  induction ks with
  | nil => cases h
  | cons k₀ ks ih =>
      have hsorted' := List.pairwise_cons.mp hsorted
      have hnodup' := List.nodup_cons.mp hnodup
      cases ks with
      | nil =>
          rw [spans, List.mem_singleton] at h
          cases h
          refine ⟨t.length, rfl, ?_, .inl rfl⟩
          intro a ha
          rw [List.mem_singleton.mp ha]
          exact .inl (Int.le_refl _)
      | cons k₁ ks =>
          rw [spans] at h
          rcases List.mem_cons.mp h with h | h
          · cases h
            have hk₁ : k₁ ∈ k₁ :: ks := List.mem_cons_self ..
            refine ⟨pos k₁, rfl, ?_, .inr ⟨k₁, List.mem_cons_of_mem _ hk₁, ?_, hsorted'.1 k₁ hk₁, rfl⟩⟩
            · intro a ha
              rcases List.mem_cons.mp ha with rfl | ha
              · exact .inl (Int.le_refl _)
              · rcases List.mem_cons.mp ha with rfl | ha
                · exact .inr (Int.le_refl _)
                · exact .inr ((List.pairwise_cons.mp hsorted'.2).1 a ha)
            · rintro rfl
              exact hnodup'.1 hk₁
          · obtain ⟨stop, hs, hbetween, hstop⟩ := ih hsorted'.2 hnodup'.2 h
            have hk : k ∈ k₁ :: ks := by
              rw [← map_fst_spans pos t (k₁ :: ks)]
              exact List.mem_map_of_mem h
            refine ⟨stop, hs, ?_, hstop.imp_right ?_⟩
            · intro a ha
              rcases List.mem_cons.mp ha with rfl | ha
              · exact .inl (hsorted'.1 k hk)
              · exact hbetween a ha
            · rintro ⟨a, ha, hne, hle, heq⟩
              exact ⟨a, List.mem_cons_of_mem _ ha, hne, hle, heq⟩

theorem mem_drop_take {c : Char} {i j : Nat} (h : c ∈ (t.take j).drop i) :
    ∃ n, i ≤ n ∧ n < j ∧ t[n]? = some c := by
  obtain ⟨n, hn⟩ := List.mem_iff_getElem?.mp h
  rw [List.getElem?_drop, List.getElem?_take] at hn
  split at hn
  · rename_i hlt
    exact ⟨i + n, Nat.le_add_right .., hlt, hn⟩
  · cases hn

/-- A text that stands in another one, and what is around it. -/
theorem drop_take_around {cell rest : Text} {c : Nat} (h : cell ++ rest = t.drop c) (hne : cell ≠ [])
    {i j : Nat} (hi : i ≤ c) (hj : c + cell.length ≤ j) :
    (t.take j).drop i = (t.take c).drop i ++ cell ++ (t.take j).drop (c + cell.length) := by
  have hlen := congrArg List.length h
  have hcell := List.length_pos_iff.mpr hne
  rw [List.length_append, List.length_drop] at hlen
  have ht : t = t.take c ++ (cell ++ rest) := by
    rw [h, List.take_append_drop]
  have hc : (t.take c).length = c := by
    rw [List.length_take]
    omega
  generalize t.take c = l at ht hc
  subst hc
  rw [ht, List.take_append, List.take_of_length_le (by omega : l.length ≤ j), List.take_append,
    List.take_of_length_le (by omega : cell.length ≤ j - l.length),
    List.drop_append_of_le_length hi, ← List.append_assoc l, ← List.length_append, List.drop_left,
    List.append_assoc]

end Columns

/-! ## Lines of a table -/

/-- The cells stand in the line, each from a column of its own on: not before the place of its key,
and not beyond any place further right.  Nothing else stands in the line. -/
structure Laid {κ : Type*} (pos : κ → Int) (t : Text) (cells : κ → Text) where
  column : κ → Nat
  stands : ∀ k, cells k <+: t.drop (column k)
  only : ∀ i c, t[i]? = some c →
    isSpace c = true ∨ ∃ k, column k ≤ i ∧ i < column k + (cells k).length
  left : ∀ k, pos k ≤ column k
  right : ∀ k k', pos k < pos k' → column k + (cells k).length ≤ pos k'
  trimmed : ∀ k, trim (cells k) = cells k

namespace Laid

variable {κ : Type*} {pos : κ → Int} {t : Text} {cells : κ → Text} {ks : List κ}

/-- Between its place and the next one, a cell has only blanks around it. -/
theorem isSpace_of_ne (h : Laid pos t cells) (hinj : Function.Injective pos) {k : κ} {stop : Int}
    (hbetween : ∀ k', pos k' ≤ pos k ∨ stop ≤ pos k') {i : Nat} {c : Char} (hc : t[i]? = some c)
    (hstart : pos k ≤ i) (hstop : i < stop)
    (hout : i < h.column k ∨ h.column k + (cells k).length ≤ i) : isSpace c = true := by
  rcases h.only i c hc with hspace | ⟨k', hle, hlt⟩
  · exact hspace
  · have hleft := h.left k'
    have hne : k' ≠ k := by
      rintro rfl
      omega
    rcases hbetween k' with hk' | hk'
    · have hpos : pos k' ≠ pos k := hinj.ne hne
      have hright := h.right k' k (by omega)
      omega
    · omega

/-- Cutting the line at the places gives the cells. -/
theorem trim_slice (h : Laid pos t cells) (hinj : Function.Injective pos) {k : κ} {stop : Int}
    (hpos : 0 ≤ pos k) (hbetween : ∀ k', pos k' ≤ pos k ∨ stop ≤ pos k')
    (hstop : stop = t.length ∨ ∃ k', pos k < pos k' ∧ stop = pos k') :
    trim (slice t (pos k) stop) = cells k := by
  have hnonneg : 0 ≤ stop := by
    rcases hstop with rfl | ⟨k', hlt, rfl⟩ <;> omega
  rw [slice_of_nonneg hpos hnonneg]
  have hblank : ∀ {i j : Nat}, pos k ≤ i → j ≤ stop →
      (∀ n, i ≤ n → n < j → n < h.column k ∨ h.column k + (cells k).length ≤ n) →
        Blank ((t.take j).drop i) := by
    intro i j hi hj hout c hc
    obtain ⟨n, hin, hnj, hn⟩ := mem_drop_take hc
    exact h.isSpace_of_ne hinj hbetween hn (by omega) (by omega) (hout n hin hnj)
  by_cases hcell : cells k = []
  · rw [hcell]
    refine trim_eq_nil_iff.mpr (hblank (by omega) (by omega) ?_)
    intro n _ _
    rw [hcell, List.length_nil]
    omega
  · obtain ⟨rest, hrest⟩ := h.stands k
    have hlen := congrArg List.length hrest
    have hcells := List.length_pos_iff.mpr hcell
    rw [List.length_append, List.length_drop] at hlen
    have hend : h.column k + (cells k).length ≤ stop.toNat := by
      rcases hstop with rfl | ⟨k', hlt, rfl⟩
      · omega
      · have hright := h.right k k' hlt
        omega
    have hleft := h.left k
    rw [drop_take_around hrest hcell (by omega) hend]
    refine trim_padded (hblank (by omega) (by omega) ?_) (hblank (by omega) (by omega) ?_) (h.trimmed k)
    · intro n _ hn
      exact .inl hn
    · intro n hn _
      exact .inr hn

/-- Each key's span has its cell. -/
theorem trim_of_mem_spans (h : Laid pos t cells) (hinj : Function.Injective pos)
    (hpos : ∀ k, 0 ≤ pos k) (hsorted : ks.Pairwise fun a b => pos a ≤ pos b) (hnodup : ks.Nodup)
    (hall : ∀ k, k ∈ ks) {k : κ} {s : Text} (hs : (k, s) ∈ spans pos t ks) : trim s = cells k := by
  obtain ⟨stop, rfl, hbetween, hstop⟩ := mem_spans hsorted hnodup hs
  refine h.trim_slice hinj (hpos k) (fun k' => hbetween k' (hall k')) (hstop.imp_right ?_)
  rintro ⟨a, -, hne, hle, heq⟩
  have hne' : pos a ≠ pos k := hinj.ne hne
  exact ⟨a, by omega, heq⟩

/-- The letters of the line are those of its cells. -/
theorem weight_eq (h : Laid pos t cells) (hinj : Function.Injective pos) (hpos : ∀ k, 0 ≤ pos k)
    (hsorted : ks.Pairwise fun a b => pos a ≤ pos b) (hnodup : ks.Nodup) (hall : ∀ k, k ∈ ks)
    (hne : ks ≠ []) : weight t = (ks.map fun k => weight (cells k)).sum := by
  have hspans : (spans pos t ks).map (fun x => weight x.2) = ks.map fun k => weight (cells k) := by
    conv_rhs => rw [← map_fst_spans pos t ks, List.map_map]
    refine List.map_congr_left ?_
    rintro ⟨k, s⟩ hs
    rw [Function.comp_apply, ← h.trim_of_mem_spans hinj hpos hsorted hnodup hall hs, weight_trim]
  cases ks with
  | nil => exact absurd rfl hne
  | cons k₀ ks =>
      rw [← hspans, weight_spans hsorted fun a _ => hpos a]
      have hmargin : Blank (t.take (pos k₀).toNat) := by
        intro c hc
        obtain ⟨i, -, hi, hci⟩ := mem_drop_take (i := 0) hc
        rcases h.only i c hci with hspace | ⟨k, hle, -⟩
        · exact hspace
        · have hleft := h.left k
          have hk₀ : pos k₀ ≤ pos k := by
            rcases List.mem_cons.mp (hall k) with rfl | hk
            · exact Int.le_refl _
            · exact (List.pairwise_cons.mp hsorted).1 k hk
          have hnonneg := hpos k₀
          omega
      conv_lhs => rw [← List.take_append_drop (pos k₀).toNat t]
      rw [weight_append, weight_eq_zero_iff.mpr hmargin, Nat.zero_add]

end Laid

/-! ## Joining -/

/-- The parts that are not empty, with a blank between them. -/
def join (parts : List Text) : Text := [' '].intercalate (parts.filter (· ≠ []))

theorem intercalate_concat (sep c : Text) {ts : List Text} (h : ts ≠ []) :
    sep.intercalate (ts ++ [c]) = sep.intercalate ts ++ (sep ++ c) := by
  induction ts with
  | nil => exact absurd rfl h
  | cons t ts ih =>
      cases ts with
      | nil => simp [List.intercalate]
      | cons t' ts =>
          have hrest := ih (List.cons_ne_nil _ _)
          simp only [List.intercalate, List.cons_append, List.intersperse_cons_cons, List.flatten_cons,
            List.append_assoc] at hrest ⊢
          rw [hrest]

theorem intercalate_eq_nil {sep : Text} {ts : List Text} (hts : ∀ t ∈ ts, t ≠ [])
    (h : sep.intercalate ts = []) : ts = [] := by
  cases ts with
  | nil => rfl
  | cons t ts =>
      have ht := hts t (List.mem_cons_self ..)
      cases ts with
      | nil => simp [List.intercalate, ht] at h
      | cons t' ts => simp [List.intercalate, ht] at h

/-- One part more: it comes after a blank, unless it is the first one that is not empty. -/
theorem join_concat (parts : List Text) (c : Text) :
    join (parts ++ [c]) = if c = [] then join parts
      else if join parts = [] then c else join parts ++ ' ' :: c := by
  by_cases hc : c = []
  · simp [join, hc]
  · have hone : [c].filter (· ≠ []) = [c] := List.filter_eq_self.mpr (by simp [hc])
    rw [if_neg hc, join, join, List.filter_append, hone]
    split
    · rename_i hnil
      have hnone : parts.filter (· ≠ []) = [] := by
        refine intercalate_eq_nil ?_ hnil
        intro t ht
        exact of_decide_eq_true (List.mem_filter.mp ht).2
      rw [hnone]
      simp [List.intercalate]
    · rename_i hne
      rw [intercalate_concat]
      · rfl
      · intro hnone
        rw [hnone] at hne
        exact hne rfl

theorem weight_join (parts : List Text) : weight (join parts) = (parts.map weight).sum := by
  have hblank : weight [' '] = 0 := by decide
  induction parts using List.reverseRecOn with
  | nil => rfl
  | append_singleton parts c ih =>
      rw [join_concat, List.map_append, List.sum_append, ← ih]
      split
      · rename_i hc
        simp [hc]
      · split
        · rename_i hnil
          simp [hnil]
        · rw [← List.singleton_append, weight_append, weight_append, hblank]
          simp

end Text

end DeliveryTracking
