/-
# `DeliveryTracking.Fuel.Prices` — fuel types, and the price of a litre on a date

A vehicle carries the label its form was filled in with; `normalizeFuelType`
makes it one of the five types prices are kept for.  The price in force at an
instant comes from the history, else from the defaults of the company, else from
`DEFAULT_FUEL_PRICES`.
-/
import Mathlib.Data.List.Infix
import DeliveryTracking.Grouping
import DeliveryTracking.Table
import DeliveryTracking.Geo.Math

namespace DeliveryTracking.Fuel

open Grouping

/-! ## Fuel types -/

/-- A letter in lower case, without its accents.  Letters beyond Latin-1 are left alone. -/
def foldLetter (c : Char) : List Char :=
  let n := c.toNat
  if 0x300 ≤ n ∧ n ≤ 0x36f then []
  else if 0x41 ≤ n ∧ n ≤ 0x5a then [Char.ofNat (n + 32)]
  else if n < 0xc0 ∨ 0xff < n ∨ n = 0xd7 ∨ n = 0xf7 ∨ n = 0xdf then [c]
  else
    let m := if n < 0xe0 then n + 32 else n
    if m ≤ 0xe5 then ['a']
    else if m = 0xe7 then ['c']
    else if 0xe8 ≤ m ∧ m ≤ 0xeb then ['e']
    else if 0xec ≤ m ∧ m ≤ 0xef then ['i']
    else if m = 0xf1 then ['n']
    else if 0xf2 ≤ m ∧ m ≤ 0xf6 then ['o']
    else if 0xf9 ≤ m ∧ m ≤ 0xfc then ['u']
    else if m = 0xfd ∨ n = 0xff then ['y']
    else [Char.ofNat m]

/-- `toLowerCase().normalize('NFD')` without the marks U+0300 to U+036F. -/
def foldText (s : String) : String := String.ofList (s.toList.flatMap foldLetter)

def includes (s part : String) : Bool := part.toList <:+: s.toList

def normalizeFuelType (raw : Option String) : String :=
  let s := foldText (raw.getD "essence")
  if includes s "elect" then "electric"
  else if includes s "gasoil" || includes s "gazoil" then "gasoil"
  else if includes s "diesel" then "diesel"
  else if includes s "essence" then "essence"
  else if includes s "hybr" then "hybrid"
  else "essence"

example : ["Électrique", "Hybride Diesel", "Hybride", "?"].map (normalizeFuelType ∘ some) =
    ["electric", "diesel", "hybrid", "essence"] := by decide +kernel

/-- Normalizing twice is normalizing once. -/
theorem normalizeFuelType_idem (raw : Option String) :
    normalizeFuelType (some (normalizeFuelType raw)) = normalizeFuelType raw := by
  have hfix : ∀ token ∈ ["electric", "gasoil", "diesel", "essence", "hybrid"],
      normalizeFuelType (some token) = token := by
    decide +kernel
  refine hfix (normalizeFuelType raw) ?_
  unfold normalizeFuelType
  dsimp only
  split_ifs <;> simp

/-! ## Prices -/

variable {R : Type}

/-- A row of `fuel_price_history`. -/
structure FuelPrice (R : Type) where
  companyId : String
  fuelType : String
  pricePerLiter : R
  effectiveFrom : Int
  effectiveUntil : Option Int
  deriving DecidableEq, Repr

/-- The price history, and the default prices of the companies that have set them. -/
structure PriceTables (R : Type) where
  history : List (FuelPrice R)
  defaultFuelPrices : String → Option (List (String × R))

/-- `DEFAULT_FUEL_PRICES`. -/
def defaultPrices [Field R] : List (String × R) :=
  [("essence", 5000), ("gasoil", 4900), ("diesel", 4900), ("electric", 0), ("hybrid", 3000)]

/-- The price in force is the one that took effect last; an electric vehicle without a price has
none. -/
def getFuelPriceForDate [Field R] [DecidableEq R] (prices : PriceTables R)
    (companyId fuelType : String) (date : Int) : Option R :=
  let canonical := normalizeFuelType (some fuelType)
  let inForce := prices.history.filter fun p =>
    p.companyId == companyId && p.fuelType == canonical && p.effectiveFrom ≤ date &&
      p.effectiveUntil.all (date ≤ ·)
  match lastBy FuelPrice.effectiveFrom inForce with
  | some p => some p.pricePerLiter
  | none =>
    let resolved := (get canonical ((prices.defaultFuelPrices companyId).getD defaultPrices)).getD 0
    if canonical = "electric" ∧ resolved = 0 then none else some resolved

end DeliveryTracking.Fuel
