/-
# `DeliveryTracking.Deliveries.Amount` — amounts read from a cell

`parseAmount` of the import: every character that is not a digit is taken out, and the
digits left are read as a number.

    "54 000 Ar"   54000    the digits of a grouped number are those of the number
    "1234.5"      12345    the dot goes, its digits stay

So a number with a fraction is read a power of ten too large: `parseAmount` keeps it
exactly when it has no fraction, or is zero (`parseAmount_exact_iff`).
-/
import DeliveryTracking.Doubles
import DeliveryTracking.Deliveries.PdfPrice

namespace DeliveryTracking.Deliveries

open Text

/-- `replace(/Ar$/i, '')` -/
def dropAriary (t : Text) : Text :=
  match t.reverse with
  | r :: a :: t' => if a.toLower == 'a' && r.toLower == 'r' then t'.reverse else t
  | _ => t

/-- `none` is `null` or `undefined`; another value is the text that `String` makes of it. -/
def parseAmount : Option Text → Option (WithTop Nat)
  | none => none
  | some value =>
      if value = [] then none
      else
        let str := digits (dropAriary ((value.filter (· != '\u202f')).filter fun c => !isSpace c))
        if str.length = 0 then none else some (toDouble (Nat.ofDigitChars 10 str 0))

/-! ## Only the digits matter -/

theorem digits_filter {p : Char → Bool} (hp : ∀ c, c.isDigit = true → p c = true) (t : Text) :
    digits (t.filter p) = digits t := by
  rw [digits, digits, List.filter_filter]
  refine List.filter_congr ?_
  intro c _
  cases hc : c.isDigit with
  | true => simp [hp c hc]
  | false => simp

theorem digits_dropAriary (t : Text) : digits (dropAriary t) = digits t := by
  rw [dropAriary]
  split
  · rename_i r a t' hrev
    split
    · rename_i hAr
      rw [Bool.and_eq_true, beq_iff_eq, beq_iff_eq] at hAr
      have hletter : ∀ c d : Char, c.toLower = d → d.isDigit = false → digits [c] = [] := by
        intro c d hlower hd
        rw [digits, List.filter_cons, if_neg, List.filter_nil]
        intro hc
        rw [← hlower, toLower_of_isDigit hc, hc] at hd
        cases hd
      have heq : t = t'.reverse ++ [a] ++ [r] := by
        rw [← List.reverse_reverse t, hrev]
        simp
      rw [heq, digits_append, digits_append, hletter a 'a' hAr.1 (by decide),
        hletter r 'r' hAr.2 (by decide), List.append_nil, List.append_nil]
    · rfl
  · rfl

/-- The steps before the last one take out no digit. -/
theorem parseAmount_some (value : Text) : parseAmount (some value) =
    if digits value = [] then none else some (toDouble (Nat.ofDigitChars 10 (digits value) 0)) := by
  have hstr : digits (dropAriary ((value.filter (· != '\u202f')).filter fun c => !isSpace c)) =
      digits value := by
    rw [digits_dropAriary, digits_filter, digits_filter]
    · intro c hc
      rw [bne_iff_ne]
      rintro rfl
      exact absurd hc (by decide)
    · intro c hc
      cases hspace : isSpace c with
      | true =>
          rw [not_isDigit_of_isSpace hspace] at hc
          cases hc
      | false => rfl
  rw [parseAmount]
  split
  · rename_i hnil
    rw [hnil]
    rfl
  · simp only [hstr, List.length_eq_zero_iff]

/-! ## Numbers with a fraction -/

/-- A number as it is written in a cell: its whole part, a dot, the digits of its fraction; without a
fraction no dot. -/
structure CellNumber where
  whole : Nat
  fraction : Text
  isDigit : ∀ c ∈ fraction, c.isDigit = true

namespace CellNumber

variable (v : CellNumber)

def text : Text := plain v.whole ++ if v.fraction = [] then [] else '.' :: v.fraction

/-- The fraction in units of its last place. -/
def units : Nat := Nat.ofDigitChars 10 v.fraction 0

/-- The nearest whole number, the upper one of two. -/
def rounded : Nat := if 10 ^ v.fraction.length ≤ 2 * v.units then v.whole + 1 else v.whole

/-- A number without a fraction is the double that is nearest to what is written. -/
def Preserved (r : WithTop Nat) : Prop :=
  if v.fraction = [] then r = toDouble v.whole else r = v.whole ∨ r = v.rounded

theorem digits_text : digits v.text = plain v.whole ++ v.fraction := by
  have hfraction : digits v.fraction = v.fraction := List.filter_eq_self.mpr v.isDigit
  rw [text, digits_append, digits_plain]
  split
  · rename_i hnil
    rw [hnil]
    rfl
  · rw [digits, List.filter_cons, if_neg (by decide)]
    exact congrArg _ hfraction

/-- The digits of the fraction move the whole part up. -/
theorem parseAmount_text : parseAmount (some v.text) =
    some (toDouble (10 ^ v.fraction.length * v.whole + v.units)) := by
  rw [parseAmount_some, digits_text, if_neg, Nat.ofDigitChars_append, plain,
    Nat.ofDigitChars_ten_toDigits, Nat.ofDigitChars_eq_ofDigitChars_zero, units]
  rw [List.append_eq_nil_iff]
  rintro ⟨hnil, -⟩
  exact Nat.toDigits_ne_nil hnil

/-- **The amount is the number, rounded or cut off, exactly when it has no fraction or is zero.** -/
theorem preserved_iff : (∃ r, parseAmount (some v.text) = some r ∧ v.Preserved r) ↔
    v.fraction = [] ∨ (v.whole = 0 ∧ v.units = 0) := by
  simp only [parseAmount_text, Option.some.injEq, exists_eq_left', Preserved]
  by_cases hnil : v.fraction = []
  · simp [hnil, units]
  · have hten : 10 ≤ 10 ^ v.fraction.length :=
      Nat.le_self_pow (List.length_pos_iff.mpr hnil).ne' 10
    have hmul := Nat.mul_le_mul_right v.whole hten
    rw [if_neg hnil, or_iff_right hnil]
    constructor
    · intro h
      by_contra hzero
      have hpos : 0 < 10 ^ v.fraction.length * v.whole + v.units := by omega
      -- a double is more than half of its number, and this number is ten times too large
      rcases h with h | h
      · have hhalf := lt_two_mul hpos h
        omega
      · have hhalf := lt_two_mul hpos h
        rw [rounded] at hhalf
        split at hhalf <;> omega
    · rintro ⟨hwhole, hunits⟩
      rw [hwhole, hunits, Nat.mul_zero]
      exact .inl (toDouble_of_isDouble (isDouble_of_lt (by decide)))

end CellNumber

/-- `n` with any of its digits set apart by spaces and narrow no-break spaces, `Ar` behind it or
not. -/
def IsGrouped (t : Text) (n : Nat) : Prop :=
  ∃ sign, (sign = [] ∨ sign = ['A', 'r']) ∧
    t.filter (fun c => c != ' ' && c != '\u202f') = plain n ++ sign

theorem IsGrouped.parseAmount_eq {t : Text} {n : Nat} (h : IsGrouped t n) :
    parseAmount (some t) = some (toDouble n) := by
  obtain ⟨sign, hsign, heq⟩ := h
  have hdigits : digits t = plain n := by
    rw [← digits_filter (p := fun c => c != ' ' && c != '\u202f'), heq, digits_append, digits_plain]
    · rcases hsign with rfl | rfl
      · exact List.append_nil _
      · exact List.append_nil _
    · intro c hc
      rw [Bool.and_eq_true, bne_iff_ne, bne_iff_ne]
      constructor
      · rintro rfl
        exact absurd hc (by decide)
      · rintro rfl
        exact absurd hc (by decide)
  rw [parseAmount_some, hdigits, plain, if_neg Nat.toDigits_ne_nil, Nat.ofDigitChars_ten_toDigits]

/-- **A number from a cell is kept exactly when it has no fraction or is zero, a grouped one exactly
when it is a double.** -/
theorem parseAmount_exact_iff (v : CellNumber) (t : Text) (n : Nat) :
    ((∃ r, parseAmount (some v.text) = some r ∧ v.Preserved r) ↔
      v.fraction = [] ∨ (v.whole = 0 ∧ v.units = 0)) ∧
    (IsGrouped t n → (parseAmount (some t) = some ↑n ↔ IsDouble n)) := by
  refine ⟨v.preserved_iff, ?_⟩
  intro h
  rw [h.parseAmount_eq, Option.some_inj, toDouble_eq_iff]

theorem parseAmount_exact_iff_thousands :
    parseAmount (some "50 000 Ar".toList) = some ↑(50000 : Nat) :=
  ((parseAmount_exact_iff ⟨50000, [], nofun⟩ _ 50000).2 ⟨['A', 'r'], .inr rfl, by decide⟩).mpr
    (isDouble_of_lt (by decide))

/-- 1234.5 becomes 12345. -/
theorem parseAmount_dot : ∃ v : CellNumber, v.text = "1234.5".toList ∧
    parseAmount (some v.text) = some ↑(12345 : Nat) ∧
    ¬ ∃ r, parseAmount (some v.text) = some r ∧ v.Preserved r := by
  refine ⟨⟨1234, ['5'], List.forall_mem_singleton.mpr rfl⟩, by decide, ?_, ?_⟩
  · rw [CellNumber.parseAmount_text]
    have hdouble : toDouble 12345 = ↑(12345 : Nat) :=
      toDouble_of_isDouble (isDouble_of_lt (by decide))
    rw [← hdouble]
    refine congrArg (fun n => some (toDouble n)) ?_
    decide
  · rw [CellNumber.preserved_iff]
    decide

end DeliveryTracking.Deliveries
