/-
# `DeliveryTracking.Numerals` — the numbers that a program writes down

A field has a literal for each natural number of which it is known that it is at least
two.  For the numbers below this is a fact with a name, so that a definition does not
carry a proof of its own for each literal in it.

Nothing below names the repository.
-/
import Mathlib.Data.Nat.Init

namespace DeliveryTracking.Numerals

instance atLeastTwo_2 : Nat.AtLeastTwo 2 := ⟨by decide⟩

instance atLeastTwo_3 : Nat.AtLeastTwo 3 := ⟨by decide⟩

instance atLeastTwo_4 : Nat.AtLeastTwo 4 := ⟨by decide⟩

instance atLeastTwo_5 : Nat.AtLeastTwo 5 := ⟨by decide⟩

instance atLeastTwo_8 : Nat.AtLeastTwo 8 := ⟨by decide⟩

instance atLeastTwo_10 : Nat.AtLeastTwo 10 := ⟨by decide⟩

instance atLeastTwo_15 : Nat.AtLeastTwo 15 := ⟨by decide⟩

instance atLeastTwo_20 : Nat.AtLeastTwo 20 := ⟨by decide⟩

instance atLeastTwo_30 : Nat.AtLeastTwo 30 := ⟨by decide⟩

instance atLeastTwo_35 : Nat.AtLeastTwo 35 := ⟨by decide⟩

instance atLeastTwo_50 : Nat.AtLeastTwo 50 := ⟨by decide⟩

instance atLeastTwo_60 : Nat.AtLeastTwo 60 := ⟨by decide⟩

instance atLeastTwo_80 : Nat.AtLeastTwo 80 := ⟨by decide⟩

instance atLeastTwo_90 : Nat.AtLeastTwo 90 := ⟨by decide⟩

instance atLeastTwo_100 : Nat.AtLeastTwo 100 := ⟨by decide⟩

instance atLeastTwo_150 : Nat.AtLeastTwo 150 := ⟨by decide⟩

instance atLeastTwo_180 : Nat.AtLeastTwo 180 := ⟨by decide⟩

instance atLeastTwo_360 : Nat.AtLeastTwo 360 := ⟨by decide⟩

instance atLeastTwo_1000 : Nat.AtLeastTwo 1000 := ⟨by decide⟩

instance atLeastTwo_5000 : Nat.AtLeastTwo 5000 := ⟨by decide⟩

instance atLeastTwo_6371000 : Nat.AtLeastTwo 6371000 := ⟨by decide⟩

end DeliveryTracking.Numerals
