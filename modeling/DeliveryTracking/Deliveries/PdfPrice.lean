/-
# `DeliveryTracking.Deliveries.PdfPrice` — the amount in a products cell

`PRICE_RE` of the PDF import, `(\d{1,3}(?: \d{3})*)\s*Ar\b`, and what the parser makes
of its match.  A person reads in the cell the number before the first `Ar` (`Reads`):
written plainly, or with its digits grouped in threes by a blank.  The match captures
an end of that number, the whole of it exactly when it is below 1000 or grouped by
plain spaces (`prix_eq_iff`).
-/
import DeliveryTracking.Backtracking
import DeliveryTracking.Text

namespace DeliveryTracking.Deliveries

open Matcher
open Text

/-! ## The pattern -/

/-- `\w` -/
def isWordChar (c : Char) : Bool := c.isAlphanum || c == '_'

/-- `\b`, after a letter. -/
def wordEnd (rest : Text) : Bool := !rest.head?.any isWordChar

/-- `\d{1,3}(?: \d{3})*` -/
def amountDigits : Matcher Char :=
  ((one Char.isDigit).seq ((one Char.isDigit).atMost 2)).seq
    ((one (· == ' ')).seq
      ((one Char.isDigit).seq ((one Char.isDigit).seq (one Char.isDigit)))).star

/-- `\s*Ar\b` -/
def ariary : Matcher Char :=
  ((one isSpace).star.seq ((one (· == 'A')).seq (one (· == 'r')))).before wordEnd

/-- `PRICE_RE.exec` -/
def priceRe (produitsPrix : Text) : Option (Found Char) := search amountDigits ariary produitsPrix

/-- `t || undefined` -/
def orUndefined (t : Text) : Option Text := if t = [] then none else some t

@[simp] theorem getD_orUndefined (t : Text) : (orUndefined t).getD [] = t := by
  rw [orUndefined]
  split
  · rename_i ht
    rw [ht]
    rfl
  · rfl

def prix (produitsPrix : Text) : Option Text :=
  (priceRe produitsPrix).bind fun m => orUndefined (m.captured.filter (· != ' '))

def produits (produitsPrix : Text) : Option Text :=
  orUndefined <|
    match priceRe produitsPrix with
    | some m => trim (collapse (m.before ++ m.rest))
    | none => trim produitsPrix

/-! ## What it matches -/

/-- A group of thousands: a space and three digits. -/
def IsGroup (g : Text) : Prop :=
  ∃ a b c : Char, a.isDigit = true ∧ b.isDigit = true ∧ c.isDigit = true ∧ g = [' ', a, b, c]

def IsAmount (u : Text) : Prop :=
  ∃ (d : Char) (ds : Text) (gs : List Text), d.isDigit = true ∧ (∀ c ∈ ds, c.isDigit = true) ∧
    ds.length ≤ 2 ∧ (∀ g ∈ gs, IsGroup g) ∧ u = d :: (ds ++ gs.flatten)

def IsAriary (v rest : Text) : Prop :=
  ∃ blanks, Blank blanks ∧ v = blanks ++ ['A', 'r'] ∧ wordEnd rest = true

theorem flatten_singletons {p : Char → Prop} {vs : List Text} (h : ∀ v ∈ vs, ∃ a, v = [a] ∧ p a) :
    vs.flatten.length = vs.length ∧ ∀ c ∈ vs.flatten, p c := by
  induction vs with
  | nil => simp
  | cons v vs ih =>
      obtain ⟨a, rfl, ha⟩ := h v (List.mem_cons_self ..)
      obtain ⟨hlen, hall⟩ := ih fun x hx => h x (List.mem_cons_of_mem _ hx)
      refine ⟨by simp [hlen], ?_⟩
      intro c hc
      rcases List.mem_cons.mp hc with rfl | hc
      · exact ha
      · exact hall c hc

/-- Every list is the one of its singletons. -/
theorem exists_singletons {p : Char → Prop} {u : Text} (h : ∀ c ∈ u, p c) :
    ∃ vs : List Text, vs.length = u.length ∧ (∀ v ∈ vs, ∃ a, v = [a] ∧ p a) ∧ u = vs.flatten := by
  refine ⟨u.map fun c => [c], List.length_map .., ?_, ?_⟩
  · intro v hv
    obtain ⟨c, hc, rfl⟩ := List.mem_map.mp hv
    exact ⟨c, rfl, h c hc⟩
  · induction u with
    | nil => rfl
    | cons c u ih =>
        rw [List.map_cons, List.flatten_cons, ← ih fun x hx => h x (List.mem_cons_of_mem _ hx)]
        rfl

theorem accepts_amountDigits : amountDigits.Accepts fun u _ => IsAmount u := by
  have hdigit := accepts_one Char.isDigit
  have hgroup := accepts_seq (accepts_one (· == ' '))
    (accepts_seq hdigit (accepts_seq hdigit hdigit))
  have hgroup' : ((one (· == ' ')).seq ((one Char.isDigit).seq
      ((one Char.isDigit).seq (one Char.isDigit)))).Accepts fun u _ => IsGroup u := by
    intro l u r
    rw [hgroup l u r]
    refine and_congr_right fun _ => ?_
    constructor
    · rintro ⟨_, _, rfl, ⟨s, rfl, hs⟩, _, _, rfl, ⟨a, rfl, ha⟩, _, _, rfl, ⟨b, rfl, hb⟩, c, rfl, hc⟩
      rw [eq_of_beq hs]
      exact ⟨a, b, c, ha, hb, hc, rfl⟩
    · rintro ⟨a, b, c, ha, hb, hc, rfl⟩
      exact ⟨[' '], [a, b, c], rfl, ⟨' ', rfl, rfl⟩, [a], [b, c], rfl, ⟨a, rfl, ha⟩, [b], [c], rfl,
        ⟨b, rfl, hb⟩, c, rfl, hc⟩
  have hall := accepts_seq (accepts_seq hdigit (accepts_atMost hdigit 2)) (accepts_star hgroup' (by
    rintro u ⟨a, b, c, -, -, -, rfl⟩
    exact List.cons_ne_nil _ _))
  intro l u r
  rw [amountDigits, hall l u r]
  refine and_congr_right fun _ => ?_
  constructor
  · rintro ⟨_, _, rfl, ⟨_, _, rfl, ⟨d, rfl, hd⟩, vs, hlen, hvs, rfl⟩, gs, hgs, rfl⟩
    obtain ⟨hlen', hdigits⟩ := flatten_singletons hvs
    exact ⟨d, vs.flatten, gs, hd, hdigits, hlen' ▸ hlen, hgs, by simp⟩
  · rintro ⟨d, ds, gs, hd, hds, hlen, hgs, rfl⟩
    obtain ⟨vs, hlen', hvs, rfl⟩ := exists_singletons hds
    exact ⟨d :: vs.flatten, gs.flatten, by simp, ⟨[d], vs.flatten, rfl, ⟨d, rfl, hd⟩, vs,
      hlen' ▸ hlen, hvs, rfl⟩, gs, hgs, rfl⟩

theorem accepts_ariary : ariary.Accepts IsAriary := by
  have hblank := accepts_star (accepts_one isSpace) (by
    rintro u ⟨a, rfl, -⟩
    exact List.cons_ne_nil _ _)
  have hall := accepts_before (accepts_seq hblank
    (accepts_seq (accepts_one (· == 'A')) (accepts_one (· == 'r')))) wordEnd
  intro l u r
  rw [ariary, hall l u r]
  refine and_congr_right fun _ => ?_
  constructor
  · rintro ⟨⟨_, _, rfl, ⟨vs, hvs, rfl⟩, _, _, rfl, ⟨a, rfl, ha⟩, b, rfl, hb⟩, hend⟩
    rw [eq_of_beq ha, eq_of_beq hb]
    exact ⟨vs.flatten, (flatten_singletons hvs).2, rfl, hend⟩
  · rintro ⟨blanks, hblanks, rfl, hend⟩
    obtain ⟨vs, -, hvs, rfl⟩ := exists_singletons hblanks
    exact ⟨⟨vs.flatten, ['A', 'r'], rfl, ⟨vs, hvs, rfl⟩, ['A'], ['r'], rfl, ⟨'A', rfl, rfl⟩, 'r', rfl,
      rfl⟩, hend⟩

/-- The match the parser works with. -/
theorem priceRe_eq_some {p : Text} {m : Found Char} (h : priceRe p = some m) :
    Match (fun u _ => IsAmount u) IsAriary p m ∧
      ∀ g, Match (fun u _ => IsAmount u) IsAriary p g → m.before.length ≤ g.before.length :=
  search_eq_some accepts_amountDigits accepts_ariary h

namespace IsGroup

variable {g : Text}

theorem mem (h : IsGroup g) : ∀ c ∈ g, c = ' ' ∨ c.isDigit = true := by
  obtain ⟨a, b, c, ha, hb, hc, rfl⟩ := h
  simp [ha, hb, hc]

end IsGroup

namespace IsAmount

variable {u : Text}

theorem mem (h : IsAmount u) : ∀ c ∈ u, c = ' ' ∨ c.isDigit = true := by
  obtain ⟨d, ds, gs, hd, hds, -, hgs, rfl⟩ := h
  intro c hc
  rcases List.mem_cons.mp hc with rfl | hc
  · exact .inr hd
  · rcases List.mem_append.mp hc with hc | hc
    · exact .inr (hds c hc)
    · obtain ⟨g, hg, hcg⟩ := List.mem_flatten.mp hc
      exact (hgs g hg).mem c hcg

/-- It ends with a digit, and a space in it stands behind one. -/
theorem ends (h : IsAmount u) : (∃ a d, u = a ++ [d] ∧ d.isDigit = true) ∧
    ∀ a b, u = a ++ ' ' :: b → ∃ a' d, a = a' ++ [d] ∧ d.isDigit = true := by
  obtain ⟨d, ds, gs, hd, hds, -, hgs, rfl⟩ := h
  -- the digits before the groups, and then group by group from the left
  have hfirst : (∃ a c, d :: ds = a ++ [c] ∧ c.isDigit = true) ∧
      ∀ a b, d :: ds = a ++ ' ' :: b → ∃ a' c, a = a' ++ [c] ∧ c.isDigit = true := by
    have hall : ∀ c ∈ d :: ds, c.isDigit = true := by
      intro c hc
      rcases List.mem_cons.mp hc with rfl | hc
      · exact hd
      · exact hds c hc
    refine ⟨⟨(d :: ds).dropLast, (d :: ds).getLast (List.cons_ne_nil _ _),
      (List.dropLast_concat_getLast _).symm, hall _ (List.getLast_mem _)⟩, ?_⟩
    intro a b heq
    exact absurd (hall ' ' (heq ▸ List.mem_append_right _ (List.mem_cons_self ..))) (by decide)
  rw [← List.cons_append]
  generalize d :: ds = first at hfirst
  induction gs generalizing first with
  | nil => simpa using hfirst
  | cons g gs ih =>
      rw [List.flatten_cons, ← List.append_assoc]
      refine ih (fun x hx => hgs x (List.mem_cons_of_mem _ hx)) (first ++ g) ?_
      obtain ⟨x, y, z, hx, hy, hz, rfl⟩ := hgs g (List.mem_cons_self ..)
      refine ⟨⟨first ++ [' ', x, y], z, by simp, hz⟩, ?_⟩
      intro a b heq
      rcases List.append_eq_append_iff.mp heq with ⟨c, rfl, hc⟩ | ⟨c, rfl, hc⟩
      · -- the space is in the group
        cases c with
        | nil =>
            rw [List.append_nil]
            exact hfirst.1
        | cons c₀ c =>
            obtain ⟨-, hc⟩ := List.cons.inj hc
            have hspace : ' ' ∈ [x, y, z] := hc ▸ List.mem_append_right _ (List.mem_cons_self ..)
            rcases List.mem_cons.mp hspace with rfl | hspace
            · exact absurd hx (by decide)
            · rcases List.mem_cons.mp hspace with rfl | hspace
              · exact absurd hy (by decide)
              · rw [List.mem_singleton] at hspace
                subst hspace
                exact absurd hz (by decide)
      · -- it is before the group
        cases c with
        | nil =>
            rw [List.append_nil] at hfirst
            exact hfirst.1
        | cons c₀ c =>
            obtain ⟨rfl, -⟩ := List.cons.inj hc
            exact hfirst.2 a c rfl

/-- Without a space it has three digits at most. -/
theorem length_le (h : IsAmount u) (hspace : ' ' ∉ u) : u.length ≤ 3 := by
  obtain ⟨d, ds, gs, -, -, hlen, hgs, rfl⟩ := h
  cases gs with
  | nil =>
      rw [List.flatten_nil, List.append_nil, List.length_cons]
      omega
  | cons g gs =>
      obtain ⟨a, b, c, -, -, -, rfl⟩ := hgs g (List.mem_cons_self ..)
      simp at hspace

/-- One group more. -/
theorem concat (h : IsAmount u) {g : Text} (hg : IsGroup g) : IsAmount (u ++ g) := by
  obtain ⟨d, ds, gs, hd, hds, hlen, hgs, rfl⟩ := h
  refine ⟨d, ds, gs ++ [g], hd, hds, hlen, ?_, by simp⟩
  intro x hx
  rcases List.mem_append.mp hx with hx | hx
  · exact hgs x hx
  · rw [List.mem_singleton.mp hx]
    exact hg

end IsAmount

/-! ## Written numbers -/

def plain (n : Nat) : Text := Nat.toDigits 10 n

/-- Three digits. -/
def thousands (m : Nat) : Text := [(m / 100).digitChar, (m / 10 % 10).digitChar, (m % 10).digitChar]

/-- The digits grouped in threes by `sep`. -/
def grouped (sep : Char) (n : Nat) : Text :=
  if n < 1000 then plain n else grouped sep (n / 1000) ++ sep :: thousands (n % 1000)

theorem isDigit_plain {n : Nat} {c : Char} (h : c ∈ plain n) : c.isDigit = true :=
  Nat.isDigit_of_mem_toDigits (by decide) (by decide) h

theorem isDigit_digitChar {n : Nat} (h : n < 10) : n.digitChar.isDigit = true := by
  refine isDigit_plain (n := n) ?_
  rw [plain, Nat.toDigits_of_lt_base h]
  exact List.mem_singleton_self _

theorem isDigit_thousands {n : Nat} {c : Char} (h : c ∈ thousands (n % 1000)) : c.isDigit = true := by
  rcases List.mem_cons.mp h with rfl | h
  · exact isDigit_digitChar (by omega)
  · rcases List.mem_cons.mp h with rfl | h
    · exact isDigit_digitChar (by omega)
    · rw [List.mem_singleton.mp h]
      exact isDigit_digitChar (by omega)

theorem plain_thousands {n : Nat} (h : 1000 ≤ n) :
    plain n = plain (n / 1000) ++ thousands (n % 1000) := by
  have hlast : Nat.toDigits 10 n = Nat.toDigits 10 (n / 10) ++ [(n % 10).digitChar] :=
    Nat.toDigits_of_base_le (by decide) (by omega)
  have hmiddle : Nat.toDigits 10 (n / 10) =
      Nat.toDigits 10 (n / 10 / 10) ++ [(n / 10 % 10).digitChar] :=
    Nat.toDigits_of_base_le (by decide) (by omega)
  have hfirst : Nat.toDigits 10 (n / 10 / 10) =
      Nat.toDigits 10 (n / 10 / 10 / 10) ++ [(n / 10 / 10 % 10).digitChar] :=
    Nat.toDigits_of_base_le (by decide) (by omega)
  rw [plain, hlast, hmiddle, hfirst, plain, thousands, show n / 10 / 10 / 10 = n / 1000 by omega,
    show n / 10 / 10 % 10 = n % 1000 / 100 by omega, show n / 10 % 10 = n % 1000 / 10 % 10 by omega,
    show n % 10 = n % 1000 % 10 by omega]
  simp

theorem plain_isAmount {n : Nat} (h : n < 1000) : IsAmount (plain n) := by
  have hlen : (plain n).length ≤ 3 := (Nat.length_toDigits_le_iff (by decide) (by decide)).mpr h
  cases hp : plain n with
  | nil => exact absurd hp Nat.toDigits_ne_nil
  | cons d ds =>
      have hall : ∀ c ∈ d :: ds, c.isDigit = true := by
        intro c hc
        exact isDigit_plain (n := n) (hp ▸ hc)
      refine ⟨d, ds, [], hall d (List.mem_cons_self ..),
        fun c hc => hall c (List.mem_cons_of_mem _ hc), ?_, by simp, by simp⟩
      rw [hp, List.length_cons] at hlen
      omega

theorem isGroup_thousands (n : Nat) : IsGroup (' ' :: thousands (n % 1000)) :=
  ⟨_, _, _, isDigit_digitChar (by omega), isDigit_digitChar (by omega), isDigit_digitChar (by omega),
    rfl⟩

/-- Grouped by spaces, a number is what the pattern captures. -/
theorem grouped_isAmount (n : Nat) : IsAmount (grouped ' ' n) := by
  induction n using Nat.strongRecOn with
  | ind n ih =>
      rw [grouped]
      split
      · rename_i hlt
        exact plain_isAmount hlt
      · exact (ih (n / 1000) (by omega)).concat (isGroup_thousands n)

def digits (t : Text) : Text := t.filter Char.isDigit

@[simp] theorem digits_append (t u : Text) : digits (t ++ u) = digits t ++ digits u :=
  List.filter_append ..

theorem not_isDigit_of_isSpace {c : Char} (h : isSpace c = true) : c.isDigit = false := by
  by_contra hdigit
  rw [Bool.not_eq_false, Char.isDigit, Bool.and_eq_true, decide_eq_true_eq, decide_eq_true_eq] at hdigit
  have hlow : 48 ≤ c.toNat := UInt32.le_iff_toNat_le.mp hdigit.1
  have hhigh : c.toNat ≤ 57 := UInt32.le_iff_toNat_le.mp hdigit.2
  simp only [isSpace, Bool.or_eq_true, Bool.and_eq_true, decide_eq_true_eq, beq_iff_eq] at h
  omega

theorem digits_plain (n : Nat) : digits (plain n) = plain n :=
  List.filter_eq_self.mpr fun _ h => isDigit_plain h

/-- What the parser takes out of an amount are its spaces. -/
theorem IsAmount.filter_eq {u : Text} (h : IsAmount u) : u.filter (· != ' ') = digits u := by
  refine List.filter_congr ?_
  intro c hc
  rcases h.mem c hc with rfl | hdigit
  · rfl
  · rw [hdigit, bne_iff_ne]
    rintro rfl
    exact absurd hdigit (by decide)

/-- The number is written plainly, or with a blank before every three digits. -/
def IsWritten (num : Text) (n : Nat) : Prop :=
  num = plain n ∨ ∃ sep, isSpace sep = true ∧ num = grouped sep n

namespace IsWritten

variable {num : Text} {n : Nat}

theorem digits_grouped {sep : Char} (hsep : isSpace sep = true) (n : Nat) :
    digits (grouped sep n) = plain n := by
  induction n using Nat.strongRecOn with
  | ind n ih =>
      rw [grouped]
      split
      · exact digits_plain n
      · rename_i hle
        have hthousands : digits (sep :: thousands (n % 1000)) = thousands (n % 1000) := by
          rw [digits, List.filter_cons, not_isDigit_of_isSpace hsep, if_neg Bool.false_ne_true]
          exact List.filter_eq_self.mpr fun _ h => isDigit_thousands h
        rw [digits_append, ih (n / 1000) (by omega), hthousands, ← plain_thousands (by omega)]

theorem digits_eq (h : IsWritten num n) : digits num = plain n := by
  rcases h with rfl | ⟨sep, hsep, rfl⟩
  · exact digits_plain n
  · exact digits_grouped hsep n

/-- It starts with a digit. -/
theorem starts (h : IsWritten num n) : ∃ d t, num = d :: t ∧ d.isDigit = true := by
  have hplain : ∀ n, ∃ d t, plain n = d :: t ∧ d.isDigit = true := by
    intro n
    cases hp : plain n with
    | nil => exact absurd hp Nat.toDigits_ne_nil
    | cons d t => exact ⟨d, t, rfl, isDigit_plain (n := n) (hp ▸ List.mem_cons_self ..)⟩
  rcases h with rfl | ⟨sep, -, rfl⟩
  · exact hplain n
  · induction n using Nat.strongRecOn with
    | ind n ih =>
        rw [grouped]
        split
        · exact hplain n
        · obtain ⟨d, t, heq, hd⟩ := ih (n / 1000) (by omega)
          exact ⟨d, t ++ sep :: thousands (n % 1000), by rw [heq]; rfl, hd⟩

/-- It ends with an amount, of which it is the whole below 1000. -/
theorem ends (h : IsWritten num n) : ∃ a u, num = a ++ u ∧ IsAmount u ∧ ' ' ∉ u ∧
    (n < 1000 → a = []) := by
  have hspace : ∀ {t : Text}, (∀ c ∈ t, c.isDigit = true) → ' ' ∉ t := by
    intro t ht hmem
    exact absurd (ht ' ' hmem) (by decide)
  by_cases hlt : n < 1000
  · have hnum : num = plain n := by
      rcases h with rfl | ⟨sep, -, rfl⟩
      · rfl
      · rw [grouped, if_pos hlt]
    exact ⟨[], num, rfl, hnum ▸ plain_isAmount hlt,
      hnum ▸ hspace fun _ hc => isDigit_plain hc, fun _ => rfl⟩
  · have hthousands : IsAmount (thousands (n % 1000)) := by
      refine ⟨_, [_, _], [], isDigit_digitChar (by omega), ?_, Nat.le_refl 2, by simp, rfl⟩
      intro c hc
      exact isDigit_thousands (n := n) (List.mem_cons_of_mem _ hc)
    have hend : ∃ a, num = a ++ thousands (n % 1000) := by
      rcases h with rfl | ⟨sep, -, rfl⟩
      · exact ⟨_, plain_thousands (by omega)⟩
      · rw [grouped, if_neg hlt]
        exact ⟨grouped sep (n / 1000) ++ [sep], by simp⟩
    obtain ⟨a, ha⟩ := hend
    exact ⟨a, _, ha, hthousands, hspace fun _ hc => isDigit_thousands hc, fun h => absurd h hlt⟩

/-- The pattern captures all of it exactly when it is below 1000 or grouped by spaces. -/
theorem isAmount_iff (h : IsWritten num n) : IsAmount num ↔ n < 1000 ∨ num = grouped ' ' n := by
  constructor
  · intro hamount
    by_cases hlt : n < 1000
    · exact .inl hlt
    · refine .inr ?_
      rcases h with rfl | ⟨sep, hsep, rfl⟩
      · -- four digits in a row
        have hspace : ' ' ∉ plain n := by
          intro hmem
          exact absurd (isDigit_plain hmem) (by decide)
        have hlen := hamount.length_le hspace
        exact absurd ((Nat.length_toDigits_le_iff (by decide) (by decide)).mp hlen) hlt
      · have hmem : sep ∈ grouped sep n := by
          rw [grouped, if_neg hlt]
          exact List.mem_append_right _ (List.mem_cons_self ..)
        rcases hamount.mem sep hmem with rfl | hdigit
        · rfl
        · rw [not_isDigit_of_isSpace hsep] at hdigit
          cases hdigit
  · rintro (hlt | rfl)
    · have hnum : num = plain n := by
        rcases h with rfl | ⟨sep, -, rfl⟩
        · rfl
        · rw [grouped, if_pos hlt]
      exact hnum ▸ plain_isAmount hlt
    · exact grouped_isAmount n

end IsWritten

/-! ## Reading an amount -/

/-- The text ends with a number, blanks behind it or not. -/
def AfterNumber (a : Text) : Prop :=
  ∃ a' d blanks, a = a' ++ d :: blanks ∧ d.isDigit = true ∧ Blank blanks

/-- The number `n`, written as `num`, stands before the first `Ar` behind a number, and no digit of
it stands before `num`. -/
structure Reads (p before num blanks after : Text) (n : Nat) : Prop where
  eq : p = before ++ (num ++ (blanks ++ 'A' :: 'r' :: after))
  written : IsWritten num n
  blank : Blank blanks
  stop : wordEnd after = true
  whole : ∀ a d, d.isDigit = true → before ≠ a ++ [d] ∧ ∀ s, isSpace s = true → before ≠ a ++ [d, s]
  first : ∀ a b, p = a ++ 'A' :: 'r' :: b → wordEnd b = true → AfterNumber a →
    (before ++ (num ++ blanks)).length ≤ a.length

/-- A text that ends with a digit has no blanks at its end. -/
theorem rdropWhile_digit {a : Text} {d : Char} (h : d.isDigit = true) :
    (a ++ [d]).rdropWhile isSpace = a ++ [d] := by
  refine List.rdropWhile_concat_neg isSpace a d ?_
  intro hspace
  rw [not_isDigit_of_isSpace hspace] at h
  cases h

namespace Reads

variable {p before num blanks after : Text} {n : Nat}

/-- Where an end of the number can be captured. -/
theorem match_of_ends (h : Reads p before num blanks after n) {a u : Text} (hnum : num = a ++ u)
    (hu : IsAmount u) : Match (fun u _ => IsAmount u) IsAriary p
      ⟨before ++ a, u, blanks ++ ['A', 'r'], after⟩ := by
  refine ⟨?_, hu, blanks, h.blank, rfl, h.stop⟩
  rw [h.eq, hnum]
  simp

/-- A match that starts before the end of the number ends at the same `Ar`. -/
theorem sign_eq (h : Reads p before num blanks after n) {m : Found Char}
    (hmatch : Match (fun u _ => IsAmount u) IsAriary p m)
    (hle : m.before.length ≤ (before ++ (num ++ blanks)).length) :
    m.tail = blanks ++ ['A', 'r'] ∧ m.rest = after ∧ m.before ++ m.captured = before ++ num := by
  obtain ⟨b, u, v, r⟩ := m
  obtain ⟨heq, hu, bl, hbl, rfl, hend⟩ := hmatch
  simp only at heq hu hle hend ⊢
  obtain ⟨⟨w, d, rfl, hd⟩, -⟩ := hu.ends
  have hsign : p = (b ++ (w ++ [d] ++ bl)) ++ 'A' :: 'r' :: r := by
    rw [heq]
    simp
  have hread : p = (before ++ (num ++ blanks)) ++ 'A' :: 'r' :: after := by
    rw [h.eq]
    simp
  have hfirst : (before ++ (num ++ blanks)).length ≤ (b ++ (w ++ [d] ++ bl)).length := by
    refine h.first _ _ hsign hend ⟨b ++ w, d, bl, ?_, hd, hbl⟩
    simp
  -- no `A` stands between the start of the match and its `Ar`
  have hA : 'A' ∉ w ++ [d] ++ bl := by
    intro hmem
    rcases List.mem_append.mp hmem with hmem | hmem
    · rcases hu.mem 'A' hmem with h | h <;> exact absurd h (by decide)
    · exact absurd (hbl 'A' hmem) (by decide)
  have hsame : b ++ (w ++ [d] ++ bl) = before ++ (num ++ blanks) := by
    rcases List.append_eq_append_iff.mp (hsign.symm.trans hread) with ⟨c, hc, -⟩ | ⟨c, hc, hrest⟩
    · have hlen := congrArg List.length hc
      simp only [List.length_append] at hlen hfirst
      obtain rfl : c = [] := List.length_eq_zero_iff.mp (by omega)
      rw [hc, List.append_nil]
    · cases c with
      | nil => rw [hc, List.append_nil]
      | cons a c =>
          obtain ⟨rfl, -⟩ := List.cons.inj hrest
          rcases List.append_eq_append_iff.mp hc with ⟨e, -, he⟩ | ⟨e, he, -⟩
          · exact absurd (he ▸ List.mem_append_right _ (List.mem_cons_self ..)) hA
          · have hlen := congrArg List.length he
            rw [List.length_append] at hlen
            obtain rfl : e = [] := List.length_eq_zero_iff.mp (by omega)
            rw [List.append_nil] at he
            rw [he] at hc
            have hcut := List.append_cancel_left hc
            exact absurd (hcut ▸ List.mem_cons_self ..) hA
  rw [hsame] at hsign
  have hafter := List.append_cancel_left (hsign.symm.trans hread)
  obtain ⟨-, hafter⟩ := List.cons.inj hafter
  obtain ⟨-, hafter⟩ := List.cons.inj hafter
  -- the blanks before it are the same, since a digit stands before them on both sides
  obtain ⟨x, e, hnum, he⟩ : ∃ x e, num = x ++ [e] ∧ e.isDigit = true := by
    obtain ⟨a, u, hnum, hu, -⟩ := h.written.ends
    obtain ⟨⟨x, e, rfl, he⟩, -⟩ := hu.ends
    exact ⟨a ++ x, e, by rw [hnum, List.append_assoc], he⟩
  have hcut : b ++ (w ++ [d]) = before ++ num := by
    have hboth : (b ++ w ++ [d]) ++ bl = (before ++ x ++ [e]) ++ blanks := by
      rw [hnum] at hsame
      simpa using hsame
    have hdrop := congrArg (List.rdropWhile isSpace) hboth
    rw [rdropWhile_append_blank hbl, rdropWhile_append_blank h.blank, rdropWhile_digit hd,
      rdropWhile_digit he] at hdrop
    rw [hnum]
    simpa using hdrop
  refine ⟨?_, hafter, hcut⟩
  rw [← List.append_assoc, hcut, ← List.append_assoc] at hsame
  rw [List.append_cancel_left hsame]

/-- The match captures an end of the number, and all of it if it can. -/
theorem priceRe_eq (h : Reads p before num blanks after n) : ∃ skipped u, num = skipped ++ u ∧
    IsAmount u ∧ priceRe p = some ⟨before ++ skipped, u, blanks ++ ['A', 'r'], after⟩ ∧
      (IsAmount num → skipped = []) := by
  obtain ⟨a, u₀, hnum, hu₀, -⟩ := h.written.ends
  obtain ⟨m, hm⟩ : ∃ m, priceRe p = some m :=
    exists_search accepts_amountDigits accepts_ariary (h.match_of_ends hnum hu₀)
  obtain ⟨hmatch, hleast⟩ := priceRe_eq_some hm
  have hstart := hleast _ (h.match_of_ends hnum hu₀)
  have hle : m.before.length ≤ (before ++ (num ++ blanks)).length := by
    refine hstart.trans ?_
    rw [hnum]
    simp only [List.length_append]
    omega
  obtain ⟨htail, hrest, hcut⟩ := h.sign_eq hmatch hle
  have hu : IsAmount m.captured := hmatch.captured
  have hskipped : ∃ skipped, m.before = before ++ skipped ∧ num = skipped ++ m.captured := by
    rcases List.append_eq_append_iff.mp hcut with ⟨c, hbefore, hcaptured⟩ | ⟨c, hbefore, hnum'⟩
    · -- the match cannot start before the number
      cases c using List.reverseRecOn with
      | nil => exact ⟨[], by rw [hbefore]; simp, by simpa using hcaptured.symm⟩
      | append_singleton c x =>
          have hsplit : m.captured = c ++ x :: num := by
            rw [hcaptured]
            simp
          rcases hu.mem x (hsplit ▸ List.mem_append_right _ (List.mem_cons_self ..)) with rfl | hdigit
          · obtain ⟨c', d, rfl, hd⟩ := hu.ends.2 c num hsplit
            refine absurd ?_ ((h.whole (m.before ++ c') d hd).2 ' ' (by decide))
            rw [hbefore]
            simp
          · refine absurd ?_ (h.whole (m.before ++ c) x hdigit).1
            rw [hbefore]
            simp
    · exact ⟨c, hbefore, hnum'⟩
  obtain ⟨skipped, hbefore, hnum'⟩ := hskipped
  refine ⟨skipped, m.captured, hnum', hu, ?_, ?_⟩
  · rw [hm, ← hbefore, ← htail, ← hrest]
  · intro hamount
    have hwhole := hleast _ (h.match_of_ends (a := []) rfl hamount)
    rw [hbefore] at hwhole
    simp only [List.append_nil, List.length_append] at hwhole
    exact List.length_eq_zero_iff.mp (by omega)

/-- **The price is the number that is read exactly when it is below 1000 or grouped by spaces.** -/
theorem prix_eq_iff (h : Reads p before num blanks after n) :
    prix p = some (plain n) ↔ n < 1000 ∨ num = grouped ' ' n := by
  obtain ⟨skipped, u, hnum, hu, hprice, hall⟩ := h.priceRe_eq
  have hprix : prix p = orUndefined (digits u) := by
    rw [prix, hprice, Option.bind_some, hu.filter_eq]
  rw [hprix, ← h.written.isAmount_iff]
  constructor
  · intro heq
    have hdigits : digits u = plain n := by
      unfold orUndefined at heq
      split at heq
      · cases heq
      · exact Option.some.inj heq
    -- all digits are captured, so nothing is skipped
    have hnone : digits skipped = [] := by
      have hboth := h.written.digits_eq
      rw [hnum, digits_append, hdigits] at hboth
      exact List.append_left_eq_self.mp hboth
    cases skipped with
    | nil =>
        rw [hnum]
        exact hu
    | cons c skipped =>
        obtain ⟨d, t, hstarts, hd⟩ := h.written.starts
        rw [hnum] at hstarts
        obtain ⟨rfl, -⟩ := List.cons.inj hstarts
        rw [digits, List.filter_cons, hd, if_pos rfl] at hnone
        cases hnone
  · intro hamount
    obtain rfl := hall hamount
    rw [List.nil_append] at hnum
    rw [← hnum, h.written.digits_eq, orUndefined, if_neg]
    exact Nat.toDigits_ne_nil

end Reads

/-- The amount and the other text have the letters of the cell: all but those of the `Ar` behind the
amount. -/
def KeepsLetters (p : Text) (prix produits : Option Text) : Prop :=
  (prix = none ∧ letters (produits.getD []) = letters p) ∨
    ∃ before num blanks after, p = before ++ (num ++ (blanks ++ 'A' :: 'r' :: after)) ∧
      prix = some (letters num) ∧ Blank blanks ∧
      letters (produits.getD []) = letters before ++ letters after

theorem keepsLetters (p : Text) : KeepsLetters p (prix p) (produits p) := by
  cases hm : priceRe p with
  | none =>
      refine .inl ⟨?_, ?_⟩
      · rw [prix, hm]
        rfl
      · rw [produits, hm, getD_orUndefined, letters_trim]
  | some m =>
      obtain ⟨⟨heq, hu, blanks, hblanks, htail, -⟩, -⟩ := priceRe_eq_some hm
      have hdigits : ∀ c ∈ m.captured, (c != ' ') = !isSpace c := by
        intro c hc
        rcases hu.mem c hc with rfl | hdigit
        · rfl
        · cases hspace : isSpace c with
          | true =>
              rw [not_isDigit_of_isSpace hspace] at hdigit
              cases hdigit
          | false =>
              rw [bne_iff_ne.mpr]
              · rfl
              · rintro rfl
                exact absurd hdigit (by decide)
      have hletters : m.captured.filter (· != ' ') = letters m.captured := List.filter_congr hdigits
      refine .inr ⟨m.before, m.captured, blanks, m.rest, ?_, ?_, hblanks, ?_⟩
      · rw [heq, htail]
        simp
      · rw [prix, hm, Option.bind_some, hletters, orUndefined, if_neg]
        obtain ⟨⟨w, d, hw, hd⟩, -⟩ := hu.ends
        intro hnil
        have hblank := letters_eq_nil_iff.mp hnil d (by rw [hw]; simp)
        rw [not_isDigit_of_isSpace hblank] at hd
        cases hd
      · rw [produits, hm, getD_orUndefined, letters_trim, letters_collapse, letters_append]

/-- The letters of the `Ar` behind a price. -/
def ariaryWeight (prix : Option Text) : Nat := if prix.isSome then 2 else 0

theorem KeepsLetters.weight_eq {p : Text} {prix produits : Option Text}
    (h : KeepsLetters p prix produits) :
    weight (prix.getD []) + ariaryWeight prix + weight (produits.getD []) = weight p := by
  rcases h with ⟨rfl, hletters⟩ | ⟨before, num, blanks, after, rfl, rfl, hblanks, hletters⟩
  · rw [weight, weight, hletters]
    simp [ariaryWeight, weight]
  · have hsign : weight ['A', 'r'] = 2 := by decide
    have hprix : weight (letters num) = weight num := by
      simp [weight, letters]
    have hproduits : weight (produits.getD []) = weight before + weight after := by
      rw [weight, hletters, List.length_append, weight, weight]
    have hp : before ++ (num ++ (blanks ++ 'A' :: 'r' :: after)) =
        before ++ (num ++ (blanks ++ (['A', 'r'] ++ after))) := rfl
    rw [hp, hproduits, Option.getD_some, hprix, weight_append, weight_append, weight_append,
      weight_append, hsign, weight_eq_zero_iff.mpr hblanks, ariaryWeight, if_pos Option.isSome_some]
    omega

end DeliveryTracking.Deliveries
