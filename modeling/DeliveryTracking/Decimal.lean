/-
# `DeliveryTracking.Decimal` — numbers in fixed notation, and read back

A rational number with `n` decimals, rounded half away from zero, and the number that
a decimal literal stands for.

    fixed n x    `%.nf`:  sign, whole part, a point and `n` digits
    read         sign, digits, and digits after a point if there is one

    read (fixed n x) = some (rounded n x)     and     |rounded n x - x| ≤ ½ · 10⁻ⁿ

Nothing below names the repository.
-/
import DeliveryTracking.Text
import Mathlib.Algebra.Order.Floor.Ring
import Mathlib.Algebra.Order.Floor.Semiring
import Mathlib.Data.Rat.Floor
import Mathlib.Tactic.Linarith
import Mathlib.Tactic.Ring
import Mathlib.Tactic.Positivity
import Mathlib.Tactic.FieldSimp

namespace DeliveryTracking.Decimal

/-- The nearest number of units of `10⁻ⁿ`, halves away from zero. -/
def units (n : Nat) (x : ℚ) : Nat := ⌊|x| * 10 ^ n + 1 / 2⌋₊

def rounded (n : Nat) (x : ℚ) : ℚ := (if x < 0 then -1 else 1) * (units n x / 10 ^ n)

/-- `k` in `n` digits, if it has no more. -/
def padded (n k : Nat) : Text :=
  List.replicate (n - (Nat.toDigits 10 k).length) '0' ++ Nat.toDigits 10 k

/-- `%.nf` -/
def fixed (n : Nat) (x : ℚ) : Text :=
  (if x < 0 then ['-'] else []) ++ (Nat.toDigits 10 (units n x / 10 ^ n) ++
    '.' :: padded n (units n x % 10 ^ n))

/-- The digits before a point and, where there is one, those after it. -/
def readUnsigned (t : Text) : Option ℚ :=
  match t.dropWhile Char.isDigit with
  | [] => if t = [] then none else some (Nat.ofDigitChars 10 t 0)
  | c :: fraction =>
      if c = '.' ∧ fraction.all Char.isDigit ∧ (t.takeWhile Char.isDigit ++ fraction ≠ []) then
        some (Nat.ofDigitChars 10 (t.takeWhile Char.isDigit ++ fraction) 0 / 10 ^ fraction.length)
      else none

def read : Text → Option ℚ
  | '-' :: t => (readUnsigned t).map Neg.neg
  | '+' :: t => readUnsigned t
  | t => readUnsigned t

/-- A sign and digits. -/
def readInt : Text → Option Int
  | '-' :: t => if t ≠ [] ∧ t.all Char.isDigit then some (-(Nat.ofDigitChars 10 t 0 : Int)) else none
  | '+' :: t => if t ≠ [] ∧ t.all Char.isDigit then some (Nat.ofDigitChars 10 t 0) else none
  | t => if t ≠ [] ∧ t.all Char.isDigit then some (Nat.ofDigitChars 10 t 0) else none

/-- `%d` -/
def plain (k : Int) : Text := (if k < 0 then ['-'] else []) ++ Nat.toDigits 10 k.natAbs

variable {n k : Nat} {x : ℚ}

/-! ## Digits -/

theorem isDigit_toDigits {c : Char} (hc : c ∈ Nat.toDigits 10 k) : c.isDigit = true :=
  Nat.isDigit_of_mem_toDigits (by omega) (by omega) hc

theorem isDigit_padded {c : Char} (hc : c ∈ padded n k) : c.isDigit = true := by
  rcases List.mem_append.mp hc with hc | hc
  · rw [List.eq_of_mem_replicate hc]
    rfl
  · exact isDigit_toDigits hc

theorem length_padded (hn : 0 < n) (hk : k < 10 ^ n) : (padded n k).length = n := by
  have hle : (Nat.toDigits 10 k).length ≤ n := (Nat.length_toDigits_le_iff (by omega) hn).mpr hk
  rw [padded, List.length_append, List.length_replicate]
  omega

/-- The leading zeros stand for nothing. -/
theorem ofDigitChars_padded (init : Nat) (hn : 0 < n) (hk : k < 10 ^ n) :
    Nat.ofDigitChars 10 (padded n k) init = 10 ^ n * init + k := by
  have hlen : (padded n k).length = n := length_padded hn hk
  have hzero : Nat.ofDigitChars 10 (padded n k) 0 = k := by
    rw [padded, Nat.ofDigitChars_append, Nat.ofDigitChars_replicate_zero, Nat.mul_zero,
      Nat.ofDigitChars_ten_toDigits]
  rw [Nat.ofDigitChars_eq_ofDigitChars_zero, hlen, hzero]

/-- A text of digits begins with no sign. -/
theorem read_of_isDigit {c : Char} {t : Text} (hc : c.isDigit = true) :
    read (c :: t) = readUnsigned (c :: t) := by
  unfold read
  split
  · rename_i heq
    obtain ⟨rfl, -⟩ := List.cons.inj heq
    cases hc
  · rename_i heq
    obtain ⟨rfl, -⟩ := List.cons.inj heq
    cases hc
  · rfl

theorem readInt_of_isDigit {c : Char} {t : Text} (hc : c.isDigit = true) :
    readInt (c :: t) =
      if c :: t ≠ [] ∧ (c :: t).all Char.isDigit then some (Nat.ofDigitChars 10 (c :: t) 0 : Int)
      else none := by
  unfold readInt
  split
  · rename_i heq
    obtain ⟨rfl, -⟩ := List.cons.inj heq
    cases hc
  · rename_i heq
    obtain ⟨rfl, -⟩ := List.cons.inj heq
    cases hc
  · rfl

theorem exists_cons_toDigits (k : Nat) : ∃ c t, Nat.toDigits 10 k = c :: t ∧ c.isDigit = true := by
  obtain ⟨c, t, heq⟩ := List.exists_cons_of_ne_nil (Nat.toDigits_ne_nil (n := k) (b := 10))
  exact ⟨c, t, heq, isDigit_toDigits (heq ▸ List.mem_cons_self ..)⟩

/-! ## Round trips -/

/-- The whole part and `n` digits after the point are the units. -/
theorem readUnsigned_point (hn : 0 < n) (m : Nat) :
    readUnsigned (Nat.toDigits 10 (m / 10 ^ n) ++ '.' :: padded n (m % 10 ^ n)) =
      some ((m : ℚ) / 10 ^ n) := by
  have hk : m % 10 ^ n < 10 ^ n := Nat.mod_lt _ (Nat.pow_pos (by omega))
  have hwhole : ∀ c ∈ Nat.toDigits 10 (m / 10 ^ n), c.isDigit = true := fun c hc =>
    isDigit_toDigits hc
  have hdrop : (Nat.toDigits 10 (m / 10 ^ n) ++ '.' :: padded n (m % 10 ^ n)).dropWhile
      Char.isDigit = '.' :: padded n (m % 10 ^ n) := by
    rw [List.dropWhile_append_of_pos hwhole]
    rfl
  have htake : (Nat.toDigits 10 (m / 10 ^ n) ++ '.' :: padded n (m % 10 ^ n)).takeWhile
      Char.isDigit = Nat.toDigits 10 (m / 10 ^ n) := by
    rw [List.takeWhile_append_of_pos hwhole, List.takeWhile_cons_of_neg (by decide),
      List.append_nil]
  have hfraction : (padded n (m % 10 ^ n)).all Char.isDigit = true :=
    List.all_eq_true.mpr fun c hc => isDigit_padded hc
  have hne : Nat.toDigits 10 (m / 10 ^ n) ++ padded n (m % 10 ^ n) ≠ [] :=
    fun h => Nat.toDigits_ne_nil (List.append_eq_nil_iff.mp h).1
  have hvalue : Nat.ofDigitChars 10
      (Nat.toDigits 10 (m / 10 ^ n) ++ padded n (m % 10 ^ n)) 0 = m := by
    rw [Nat.ofDigitChars_append, Nat.ofDigitChars_ten_toDigits, ofDigitChars_padded _ hn hk]
    exact Nat.div_add_mod m (10 ^ n)
  unfold readUnsigned
  rw [hdrop, htake]
  show (if _ then some _ else none) = _
  rw [if_pos ⟨rfl, hfraction, hne⟩, hvalue, length_padded hn hk]

/-- What is written is read back, rounded. -/
theorem read_fixed (hn : 0 < n) (x : ℚ) : read (fixed n x) = some (rounded n x) := by
  have hpoint := readUnsigned_point hn (units n x)
  unfold fixed rounded
  split
  · rw [List.cons_append, List.nil_append]
    show (readUnsigned _).map Neg.neg = _
    rw [hpoint, Option.map_some, neg_one_mul]
  · obtain ⟨c, t, heq, hc⟩ := exists_cons_toDigits (units n x / 10 ^ n)
    rw [heq] at hpoint ⊢
    rw [List.nil_append, List.cons_append, read_of_isDigit hc, one_mul]
    exact hpoint

theorem readInt_plain (k : Int) : readInt (plain k) = some k := by
  have hall : (Nat.toDigits 10 k.natAbs).all Char.isDigit = true :=
    List.all_eq_true.mpr fun c hc => isDigit_toDigits hc
  unfold plain
  split
  · rw [List.cons_append, List.nil_append]
    show (if _ then some (-(_ : Int)) else none) = _
    rw [if_pos ⟨Nat.toDigits_ne_nil, hall⟩, Nat.ofDigitChars_ten_toDigits]
    rw [show -((k.natAbs : Nat) : Int) = k by omega]
  · obtain ⟨c, t, heq, hc⟩ := exists_cons_toDigits k.natAbs
    rw [heq] at hall
    rw [List.nil_append, heq, readInt_of_isDigit hc, if_pos ⟨List.cons_ne_nil _ _, hall⟩, ← heq,
      Nat.ofDigitChars_ten_toDigits]
    rw [show ((k.natAbs : Nat) : Int) = k by omega]

/-! ## How far the written number is from the number -/

theorem abs_units_sub (n : Nat) (x : ℚ) : |(units n x : ℚ) / 10 ^ n - abs x| ≤ 1 / 2 / 10 ^ n := by
  have hpos : (0 : ℚ) < 10 ^ n := by positivity
  have hnonneg : (0 : ℚ) ≤ |x| * 10 ^ n + 1 / 2 := by positivity
  have hle : (units n x : ℚ) ≤ |x| * 10 ^ n + 1 / 2 := Nat.floor_le hnonneg
  have hlt : |x| * 10 ^ n + 1 / 2 < units n x + 1 := Nat.lt_floor_add_one _
  have hscaled : |(units n x : ℚ) - abs x * 10 ^ n| ≤ 1 / 2 := abs_le.mpr ⟨by linarith, by linarith⟩
  calc |(units n x : ℚ) / 10 ^ n - abs x|
      = |(units n x - abs x * 10 ^ n) / 10 ^ n| := by rw [sub_div, mul_div_cancel_right₀ _ hpos.ne']
    _ = |(units n x : ℚ) - abs x * 10 ^ n| / 10 ^ n := by rw [abs_div, abs_of_pos hpos]
    _ ≤ 1 / 2 / 10 ^ n := div_le_div_of_nonneg_right hscaled hpos.le

/-- Half a unit at most. -/
theorem abs_rounded_sub (n : Nat) (x : ℚ) : |rounded n x - x| ≤ 1 / 2 / 10 ^ n := by
  have habs := abs_units_sub n x
  unfold rounded
  split
  · rename_i hneg
    rw [abs_of_neg hneg] at habs
    rw [← abs_neg]
    convert habs using 2
    ring
  · rename_i hpos
    rw [abs_of_nonneg (not_lt.mp hpos)] at habs
    rw [one_mul]
    exact habs

theorem abs_rounded (n : Nat) (x : ℚ) : |rounded n x| = units n x / 10 ^ n := by
  have hnonneg : (0 : ℚ) ≤ units n x / 10 ^ n := by positivity
  unfold rounded
  split
  · rw [neg_one_mul, abs_neg, abs_of_nonneg hnonneg]
  · rw [one_mul, abs_of_nonneg hnonneg]

/-- Rounding goes past no whole number. -/
theorem abs_rounded_le {m : Nat} (h : |x| ≤ m) : |rounded n x| ≤ m := by
  have hpos : (0 : ℚ) < 10 ^ n := by positivity
  have hunits : units n x ≤ m * 10 ^ n := by
    refine Nat.lt_succ_iff.mp ((Nat.floor_lt (by positivity)).mpr ?_)
    have hscaled : |x| * 10 ^ n ≤ m * 10 ^ n := mul_le_mul_of_nonneg_right h hpos.le
    push_cast
    linarith
  rw [abs_rounded, div_le_iff₀ hpos]
  exact_mod_cast hunits

theorem rounded_nonneg (h : 0 ≤ x) : 0 ≤ rounded n x := by
  unfold rounded
  rw [if_neg (not_lt.mpr h), one_mul]
  positivity

/-! ## What stands in the text -/

/-- A number in fixed notation has digits, a point, and a sign at most. -/
theorem not_mem_fixed {c : Char} (hdigit : c.isDigit = false) (hpoint : c ≠ '.') (hsign : c ≠ '-') :
    c ∉ fixed n x := by
  intro hc
  have hnot : c.isDigit ≠ true := by rw [hdigit]; exact Bool.false_ne_true
  rcases List.mem_append.mp hc with hc | hc
  · split at hc
    · exact hsign (List.mem_singleton.mp hc)
    · cases hc
  · rcases List.mem_append.mp hc with hc | hc
    · exact hnot (isDigit_toDigits hc)
    · rcases List.mem_cons.mp hc with hc | hc
      · exact hpoint hc
      · exact hnot (isDigit_padded hc)

theorem not_mem_plain {c : Char} {k : Int} (hdigit : c.isDigit = false) (hsign : c ≠ '-') :
    c ∉ plain k := by
  intro hc
  rcases List.mem_append.mp hc with hc | hc
  · split at hc
    · exact hsign (List.mem_singleton.mp hc)
    · cases hc
  · rw [isDigit_toDigits hc] at hdigit
    cases hdigit

end DeliveryTracking.Decimal
