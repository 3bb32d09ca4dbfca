/-
# `DeliveryTracking.Fuel.PriceHistory` — the calls that write the price history

A date string that passes the DTO may still be none JavaScript can read, and then
the database refuses the query it stands in.

    createFuelPrice   closes the open price before the new one, looks for an overlap, inserts
    updateFuelPrice   looks for an overlap of the result, writes
    deleteFuelPrice   deletes

The test for an overlap finds every row that shares a date with the new one, so
the ranges of a company and a fuel type stay disjoint in every run
(`PriceHistory.Apart`).  A creation closes before it looks.  What it looks for is
never there once it has closed a price (`no_overlap_of_closed`), but the look
itself may be refused, and then the price stays closed.
-/
import DeliveryTracking.Deliveries.Writers
import DeliveryTracking.Fuel.Prices
import DeliveryTracking.Runs

namespace DeliveryTracking.Fuel

open Deliveries (JsonField)

variable {R : Type}

/-! ## Rows and requests -/

/-- A row of `fuel_price_history` with its id. -/
structure FuelPriceRow (R : Type) extends FuelPrice R where
  id : String
  deriving DecidableEq, Repr

abbrev PriceHistory (R : Type) := Table (FuelPriceRow.id (R := R)) Eq

/-- `new Date(text)`: milliseconds, or the Invalid Date. -/
inductive JsDate where
  | invalid
  | at (ms : Int)
  deriving DecidableEq, Repr

structure CreateFuelPriceDto (R : Type) where
  fuelType : String
  pricePerLiter : R
  effectiveFrom : JsDate
  effectiveUntil : Option JsDate
  deriving DecidableEq, Repr

structure UpdateFuelPriceDto (R : Type) where
  fuelType : JsonField String
  pricePerLiter : JsonField R
  effectiveFrom : JsonField JsDate
  effectiveUntil : JsonField JsDate
  deriving DecidableEq, Repr

/-- What a call throws. -/
inductive FuelPriceError where
  /-- `Unrecognized fuel type`, a 400. -/
  | unrecognized (raw : String)
  /-- `A price of 0 is only valid for fuelType "electric"`, a 400. -/
  | zeroPrice (fuelType : String)
  /-- `overlaps the existing range`, a 400. -/
  | overlaps (fuelType : String) (effectiveFrom : Int) (effectiveUntil : Option Int)
  /-- `Fuel price not found`, a 404. -/
  | notFound
  /-- `null.toLowerCase()`. -/
  | typeError
  /-- A query with a value the column cannot hold. -/
  | validation
  /-- A row id that is taken (code P2002). -/
  | unique
  deriving DecidableEq, Repr

/-! ## The calls -/

def recognizedFuelTypes : List String :=
  ["elect", "gasoil", "gazoil", "diesel", "essence", "hybr"]

def normalizeFuelTypeStrict (raw : String) : Except FuelPriceError String :=
  if recognizedFuelTypes.any (includes (foldText raw)) then .ok (normalizeFuelType (some raw))
  else .error (.unrecognized raw)

namespace FuelPriceRow

/-- The row is of the company and the fuel type. -/
def scope (companyId fuelType : String) (p : FuelPriceRow R) : Bool :=
  p.companyId == companyId && p.fuelType == fuelType

/-- The range of the row and the one from `start` to `stop` overlap; no end is the infinite one. -/
def overlaps (start : Int) (stop : Option Int) (p : FuelPriceRow R) : Bool :=
  stop.all (p.effectiveFrom ≤ ·) && p.effectiveUntil.all (start ≤ ·)

/-- The open price that a new one from `start` closes. -/
def closedBy (companyId fuelType : String) (start : Int) (p : FuelPriceRow R) : Bool :=
  p.scope companyId fuelType && p.effectiveUntil.isNone && p.effectiveFrom < start

end FuelPriceRow

namespace PriceHistory

open FuelPriceRow

/-- Close the open price before `start`, a millisecond before it. -/
def closeBefore (t : PriceHistory R) (companyId fuelType : String) (start : Int) :
    PriceHistory R :=
  t.update (closedBy companyId fuelType start)
    (fun p => { p with effectiveUntil := some (start - 1) }) fun _ => rfl

/-- Look for an overlap, and insert. -/
def insertPrice (t : PriceHistory R) (row : FuelPriceRow R) :
    Except FuelPriceError (FuelPriceRow R) × PriceHistory R :=
  match t.findFirst fun p => p.scope row.companyId row.fuelType &&
      p.overlaps row.effectiveFrom row.effectiveUntil with
  | some p => (.error (.overlaps row.fuelType p.effectiveFrom p.effectiveUntil), t)
  | none =>
    match t.create row with
    | some t' => (.ok row, t')
    | none => (.error .unique, t)

/-- `createFuelPrice`, from the fuel type on. -/
def createFuelPriceOf [Field R] [DecidableEq R] (t : PriceHistory R) (companyId fuelType : String)
    (dto : CreateFuelPriceDto R) (rowId : String) :
    Except FuelPriceError (FuelPriceRow R) × PriceHistory R :=
  if fuelType ≠ "electric" ∧ dto.pricePerLiter = 0 then (.error (.zeroPrice fuelType), t)
  else
    match dto.effectiveFrom with
    | .invalid => (.error .validation, t)
    | .at start =>
      let closed := t.closeBefore companyId fuelType start
      match dto.effectiveUntil with
      | some .invalid => (.error .validation, closed)
      | some (.at stop) =>
        closed.insertPrice ⟨⟨companyId, fuelType, dto.pricePerLiter, start, some stop⟩, rowId⟩
      | none => closed.insertPrice ⟨⟨companyId, fuelType, dto.pricePerLiter, start, none⟩, rowId⟩

def createFuelPrice [Field R] [DecidableEq R] (t : PriceHistory R) (companyId : String)
    (dto : CreateFuelPriceDto R) (rowId : String) :
    Except FuelPriceError (FuelPriceRow R) × PriceHistory R :=
  match normalizeFuelTypeStrict dto.fuelType with
  | .error e => (.error e, t)
  | .ok fuelType => t.createFuelPriceOf companyId fuelType dto rowId

/-- `resultingFuelType`. -/
def resultingFuelType (existing : FuelPriceRow R) : JsonField String → Except FuelPriceError String
  | .undefined => .ok existing.fuelType
  | .null => .error .typeError
  | .value raw => normalizeFuelTypeStrict raw

/-- `resultingFrom`; `new Date(null)` is the epoch. -/
def resultingFrom (existing : FuelPriceRow R) : JsonField JsDate → JsDate
  | .undefined => .at existing.effectiveFrom
  | .null => .at 0
  | .value date => date

/-- `resultingUntil`. -/
def resultingUntil (existing : FuelPriceRow R) : JsonField JsDate → Option JsDate
  | .undefined => existing.effectiveUntil.map .at
  | .null => none
  | .value date => some date

/-- `resultingPricePerLiter`. -/
def resultingPricePerLiter (existing : FuelPriceRow R) : JsonField R → R
  | .value price => price
  | _ => existing.pricePerLiter

/-- The dates of a query, when it holds no Invalid Date. -/
def queryDates : JsDate → Option JsDate → Option (Int × Option Int)
  | .at start, none => some (start, none)
  | .at start, some (.at stop) => some (start, some stop)
  | _, _ => none

/-- `updateFuelPrice`, from the resulting fuel type on. -/
def updateFuelPriceOf [Field R] [DecidableEq R] (t : PriceHistory R) (companyId fuelType : String)
    (existing : FuelPriceRow R) (dto : UpdateFuelPriceDto R) :
    Except FuelPriceError (FuelPriceRow R) × PriceHistory R :=
  let pricePerLiter := resultingPricePerLiter existing dto.pricePerLiter
  if fuelType ≠ "electric" ∧ pricePerLiter = 0 then (.error (.zeroPrice fuelType), t)
  else
    match queryDates (resultingFrom existing dto.effectiveFrom)
        (resultingUntil existing dto.effectiveUntil) with
    | none => (.error .validation, t)
    | some (start, stop) =>
      match t.findFirst fun p => p.id != existing.id && p.scope companyId fuelType &&
          p.overlaps start stop with
      | some p => (.error (.overlaps fuelType p.effectiveFrom p.effectiveUntil), t)
      | none =>
        if dto.pricePerLiter = .null then (.error .validation, t)
        else
          let row : FuelPriceRow R :=
            ⟨⟨companyId, fuelType, pricePerLiter, start, stop⟩, existing.id⟩
          (.ok row, t.update (·.id == existing.id)
            (fun p => { row with id := p.id, companyId := p.companyId }) fun _ => rfl)

def updateFuelPrice [Field R] [DecidableEq R] (t : PriceHistory R) (companyId id : String)
    (dto : UpdateFuelPriceDto R) : Except FuelPriceError (FuelPriceRow R) × PriceHistory R :=
  match t.findFirst fun p => p.id == id && p.companyId == companyId with
  | none => (.error .notFound, t)
  | some existing =>
    match resultingFuelType existing dto.fuelType with
    | .error e => (.error e, t)
    | .ok fuelType => t.updateFuelPriceOf companyId fuelType existing dto

def deleteFuelPrice (t : PriceHistory R) (companyId id : String) :
    Except FuelPriceError (FuelPriceRow R) × PriceHistory R :=
  match t.findFirst fun p => p.id == id && p.companyId == companyId with
  | none => (.error .notFound, t)
  | some existing => (.ok existing, t.remove (·.id == id))

end PriceHistory

/-! ## Ranges that do not overlap -/

namespace FuelPriceRow

variable {a b p : FuelPriceRow R} {companyId fuelType : String} {start date : Int}

theorem scope_iff :
    p.scope companyId fuelType = true ↔ p.companyId = companyId ∧ p.fuelType = fuelType := by
  simp [scope]

theorem overlaps_iff {stop : Option Int} :
    p.overlaps start stop = true ↔
      (∀ u ∈ stop, p.effectiveFrom ≤ u) ∧ ∀ u ∈ p.effectiveUntil, start ≤ u := by
  simp [overlaps, Option.all_eq_true]

theorem closedBy_iff :
    p.closedBy companyId fuelType start = true ↔
      p.scope companyId fuelType = true ∧ p.effectiveUntil = none ∧ p.effectiveFrom < start := by
  simp [closedBy, and_assoc]

/-- The price is in force on the date. -/
def InForce (date : Int) (p : FuelPriceRow R) : Prop :=
  p.effectiveFrom ≤ date ∧ ∀ u ∈ p.effectiveUntil, date ≤ u

/-- Two prices are of one company and fuel type, and the test for an overlap finds the one from
the other. -/
def Clashes (a b : FuelPriceRow R) : Prop :=
  a.scope b.companyId b.fuelType = true ∧ a.overlaps b.effectiveFrom b.effectiveUntil = true

theorem Clashes.symm (h : a.Clashes b) : b.Clashes a := by
  obtain ⟨hscope, hoverlaps⟩ := h
  rw [scope_iff] at hscope
  rw [overlaps_iff] at hoverlaps
  exact ⟨scope_iff.mpr ⟨hscope.1.symm, hscope.2.symm⟩, overlaps_iff.mpr ⟨hoverlaps.2, hoverlaps.1⟩⟩

/-- The test finds every row that shares a date. -/
theorem Clashes.of_inForce (hscope : a.scope b.companyId b.fuelType = true) (ha : a.InForce date)
    (hb : b.InForce date) : a.Clashes b := by
  refine ⟨hscope, overlaps_iff.mpr ⟨?_, ?_⟩⟩
  · intro u hu
    exact ha.1.trans (hb.2 u hu)
  · intro u hu
    exact hb.1.trans (ha.2 u hu)

/-- Two open prices clash. -/
theorem Clashes.of_open (hscope : a.scope b.companyId b.fuelType = true)
    (ha : a.effectiveUntil = none) (hb : b.effectiveUntil = none) : a.Clashes b := by
  refine ⟨hscope, overlaps_iff.mpr ⟨?_, ?_⟩⟩
  · rw [hb]
    nofun
  · rw [ha]
    nofun

/-- The row as a closing before `start` leaves it. -/
def afterClose (companyId fuelType : String) (start : Int) (p : FuelPriceRow R) : FuelPriceRow R :=
  if p.closedBy companyId fuelType start then { p with effectiveUntil := some (start - 1) } else p

theorem afterClose_cases (companyId fuelType : String) (start : Int) (p : FuelPriceRow R) :
    p.closedBy companyId fuelType start = true ∧
        p.afterClose companyId fuelType start = { p with effectiveUntil := some (start - 1) } ∨
      p.closedBy companyId fuelType start = false ∧ p.afterClose companyId fuelType start = p := by
  unfold afterClose
  cases hclosed : p.closedBy companyId fuelType start with
  | true => exact .inl ⟨rfl, rfl⟩
  | false => exact .inr ⟨rfl, rfl⟩

/-- A price that is closed clashes with no more prices. -/
theorem Clashes.of_afterClose (h : (a.afterClose companyId fuelType start).Clashes b) :
    a.Clashes b := by
  rcases afterClose_cases companyId fuelType start a with ⟨hclosed, heq⟩ | ⟨-, heq⟩
  · rw [heq] at h
    refine ⟨h.1, overlaps_iff.mpr ⟨(overlaps_iff.mp h.2).1, ?_⟩⟩
    rw [(closedBy_iff.mp hclosed).2.1]
    nofun
  · rwa [heq] at h

end FuelPriceRow

namespace PriceHistory

open FuelPriceRow

variable {t t' : PriceHistory R} {a b p row : FuelPriceRow R} {companyId fuelType : String}
  {start date : Int}

/-- No two prices clash. -/
def Apart (t : PriceHistory R) : Prop := t.rows.Pairwise fun a b => ¬a.Clashes b

theorem Apart.eq_of_clashes (h : t.Apart) (ha : a ∈ t.rows) (hb : b ∈ t.rows)
    (hclash : a.Clashes b) : a = b := by
  have : Std.Symm fun a b : FuelPriceRow R => ¬a.Clashes b :=
    ⟨fun a b hab hba => hab hba.symm⟩
  by_contra hne
  exact List.Pairwise.forall h ha hb hne hclash

theorem Apart.closeBefore (h : t.Apart) (companyId fuelType : String) (start : Int) :
    (t.closeBefore companyId fuelType start).Apart := by
  show (t.rows.map (afterClose companyId fuelType start)).Pairwise _
  rw [List.pairwise_map]
  refine List.Pairwise.imp ?_ h
  intro a b hab hclash
  exact hab (Clashes.of_afterClose hclash.of_afterClose.symm).symm

/-- A closing changes nothing exactly when there is no open price before it. -/
theorem closeBefore_eq_self_iff : t.closeBefore companyId fuelType start = t ↔
    ∀ p ∈ t.rows, p.closedBy companyId fuelType start = false := by
  constructor
  · intro h p hp
    have hmap : t.rows.map (afterClose companyId fuelType start) = t.rows.map fun p => p :=
      (congrArg Table.rows h).trans (List.map_id' t.rows).symm
    have hsame : p.afterClose companyId fuelType start = p := List.map_inj_left.mp hmap p hp
    rcases afterClose_cases companyId fuelType start p with ⟨hclosed, heq⟩ | ⟨hkept, -⟩
    · have huntil : some (start - 1) = p.effectiveUntil :=
        congrArg (fun p : FuelPriceRow R => p.effectiveUntil) (heq.symm.trans hsame)
      rw [(closedBy_iff.mp hclosed).2.1] at huntil
      cases huntil
    · exact hkept
  · intro h
    refine Table.eq_of_rows ((List.map_congr_left fun p hp => ?_).trans (List.map_id t.rows))
    rw [if_neg (by simp [h p hp])]
    rfl

theorem ids_closeBefore :
    (t.closeBefore companyId fuelType start).rows.map (·.id) = t.rows.map (·.id) := by
  show (t.rows.map _).map _ = _
  rw [List.map_map]
  refine List.map_congr_left fun p _ => ?_
  show (if p.closedBy companyId fuelType start = true then _ else p).id = p.id
  split <;> rfl

/-- A price that is closed leaves nothing for the new one to overlap: what lies in its way would
have overlapped the open price. -/
theorem Apart.no_overlap_of_closed (h : t.Apart) (row : FuelPriceRow R) (hp : p ∈ t.rows)
    (hclosed : p.closedBy row.companyId row.fuelType row.effectiveFrom = true) :
    ∀ b ∈ (t.closeBefore row.companyId row.fuelType row.effectiveFrom).rows, ¬b.Clashes row := by
  obtain ⟨hpscope, hopen, hbefore⟩ := closedBy_iff.mp hclosed
  rw [scope_iff] at hpscope
  intro b hb hclash
  obtain ⟨a, ha, rfl⟩ := List.mem_map.mp hb
  have hclash' : (a.afterClose row.companyId row.fuelType row.effectiveFrom).Clashes row := hclash
  rcases afterClose_cases row.companyId row.fuelType row.effectiveFrom a with
    ⟨-, heq⟩ | ⟨hkept, heq⟩
  · -- a closed price ends before the new one
    rw [heq] at hclash'
    have hlate := (overlaps_iff.mp hclash'.2).2 (row.effectiveFrom - 1) rfl
    omega
  · rw [heq] at hclash'
    obtain ⟨hscope, hoverlaps⟩ := hclash'
    rw [scope_iff] at hscope
    have hsame : a.scope p.companyId p.fuelType = true :=
      scope_iff.mpr ⟨hscope.1.trans hpscope.1.symm, hscope.2.trans hpscope.2.symm⟩
    have hap : a.Clashes p := by
      refine ⟨hsame, overlaps_iff.mpr ⟨?_, ?_⟩⟩
      · rw [hopen]
        nofun
      · intro u hu
        exact hbefore.le.trans ((overlaps_iff.mp hoverlaps).2 u hu)
    rw [h.eq_of_clashes ha hp hap, hclosed] at hkept
    cases hkept

/-- What an insertion does: a row in its way, a row id that is taken, or a new row. -/
theorem insertPrice_cases (t : PriceHistory R) (row : FuelPriceRow R) :
    (∃ p ∈ t.rows, p.Clashes row ∧ t.insertPrice row =
        (.error (.overlaps row.fuelType p.effectiveFrom p.effectiveUntil), t)) ∨
      (row.id ∈ t.rows.map (·.id) ∧ t.insertPrice row = (.error .unique, t)) ∨
      ∃ t' : PriceHistory R, t.insertPrice row = (.ok row, t') ∧ t'.rows = t.rows ++ [row] ∧
        ∀ p ∈ t.rows, ¬p.Clashes row := by
  unfold insertPrice
  split
  · rename_i p hfound
    obtain ⟨hp, hq⟩ := Table.mem_of_findFirst hfound
    rw [Bool.and_eq_true] at hq
    exact .inl ⟨p, hp, hq, rfl⟩
  · rename_i hnone
    have hclear : ∀ p ∈ t.rows, ¬p.Clashes row := by
      intro p hp hclash
      exact List.find?_eq_none.mp hnone p hp (Bool.and_eq_true _ _ ▸ hclash)
    split
    · rename_i t' hcreate
      exact .inr (.inr ⟨t', rfl, Table.rows_of_create hcreate, hclear⟩)
    · rename_i hfull
      obtain ⟨b, hb, hid⟩ := Table.create_eq_none_iff.mp hfull
      exact .inr (.inl ⟨List.mem_map.mpr ⟨b, hb, hid⟩, rfl⟩)

theorem Apart.append (h : t.Apart) (hrows : t'.rows = t.rows ++ [row])
    (hclear : ∀ p ∈ t.rows, ¬p.Clashes row) : t'.Apart := by
  rw [Apart, hrows, List.pairwise_append]
  refine ⟨h, List.pairwise_singleton _ _, ?_⟩
  intro p hp b hb
  rw [List.mem_singleton.mp hb]
  exact hclear p hp

theorem Apart.insertPrice (h : t.Apart) (row : FuelPriceRow R) : (t.insertPrice row).2.Apart := by
  rcases insertPrice_cases t row with ⟨p, -, -, heq⟩ | ⟨-, heq⟩ | ⟨t', heq, hrows, hclear⟩
  · rw [heq]
    exact h
  · rw [heq]
    exact h
  · rw [heq]
    exact h.append hrows hclear

end PriceHistory

/-! ## What the calls do -/

section Calls

variable [Field R] [DecidableEq R]

/-- A creation gets as far as the closing, with this fuel type and start. -/
structure CreateFuelPriceDto.Reaches (dto : CreateFuelPriceDto R) (fuelType : String)
    (start : Int) : Prop where
  recognized : normalizeFuelTypeStrict dto.fuelType = .ok fuelType
  price : ¬(fuelType ≠ "electric" ∧ dto.pricePerLiter = 0)
  date : dto.effectiveFrom = .at start

namespace CreateFuelPriceDto.Reaches

variable {dto : CreateFuelPriceDto R} {fuelType fuelType' : String} {start start' : Int}

omit [DecidableEq R] in
theorem fuelType_eq (h : dto.Reaches fuelType start) (h' : dto.Reaches fuelType' start') :
    fuelType = fuelType' :=
  Except.ok.inj (h.recognized.symm.trans h'.recognized)

omit [DecidableEq R] in
theorem start_eq (h : dto.Reaches fuelType start) (h' : dto.Reaches fuelType' start') :
    start = start' :=
  JsDate.at.inj (h.date.symm.trans h'.date)

end CreateFuelPriceDto.Reaches

namespace PriceHistory

variable {t t' : PriceHistory R} {companyId id rowId : String} {dto : CreateFuelPriceDto R}

/-- What `createFuelPrice` does: nothing, a closing whose look for an overlap is refused, or a
closing and an insertion. -/
inductive Creates (t : PriceHistory R) (companyId : String) (dto : CreateFuelPriceDto R)
    (rowId : String) : Except FuelPriceError (FuelPriceRow R) × PriceHistory R → Prop
  | refused {e : FuelPriceError} : (∀ fuelType start, ¬dto.Reaches fuelType start) →
      Creates t companyId dto rowId (.error e, t)
  | unread {fuelType : String} {start : Int} : dto.Reaches fuelType start →
      dto.effectiveUntil = some .invalid →
      Creates t companyId dto rowId (.error .validation, t.closeBefore companyId fuelType start)
  | insert {fuelType : String} {start : Int} {stop : Option Int} : dto.Reaches fuelType start →
      dto.effectiveUntil = stop.map .at →
      Creates t companyId dto rowId ((t.closeBefore companyId fuelType start).insertPrice
        ⟨⟨companyId, fuelType, dto.pricePerLiter, start, stop⟩, rowId⟩)

theorem creates (t : PriceHistory R) (companyId : String) (dto : CreateFuelPriceDto R)
    (rowId : String) : Creates t companyId dto rowId (t.createFuelPrice companyId dto rowId) := by
  unfold createFuelPrice
  split
  · rename_i e herror
    refine .refused fun fuelType start h => ?_
    rw [h.recognized] at herror
    cases herror
  · rename_i fuelType hok
    unfold createFuelPriceOf
    split
    · rename_i hzero
      refine .refused fun fuelType' start h => ?_
      obtain rfl : fuelType = fuelType' := Except.ok.inj (hok.symm.trans h.recognized)
      exact h.price hzero
    · rename_i hprice
      split
      · rename_i hinvalid
        refine .refused fun fuelType' start h => ?_
        rw [h.date] at hinvalid
        cases hinvalid
      · rename_i start hstart
        have hreach : dto.Reaches fuelType start := ⟨hok, hprice, hstart⟩
        dsimp only
        split
        · rename_i huntil
          exact .unread hreach huntil
        · rename_i stop huntil
          exact .insert hreach (show dto.effectiveUntil = (some stop).map .at from huntil)
        · rename_i huntil
          exact .insert hreach (show dto.effectiveUntil = none.map .at from huntil)

/-- What `updateFuelPrice` does: it throws and leaves the rows, or puts a row that clashes with no
other in the place of one. -/
theorem updateFuelPrice_cases (t : PriceHistory R) (companyId id : String)
    (dto : UpdateFuelPriceDto R) :
    (∃ e, t.updateFuelPrice companyId id dto = (.error e, t)) ∨
      ∃ row : FuelPriceRow R, (t.updateFuelPrice companyId id dto).1 = .ok row ∧
        (t.updateFuelPrice companyId id dto).2.rows =
          t.rows.map (fun p => if p.id == row.id then row else p) ∧
        ∀ p ∈ t.rows, p.id ≠ row.id → ¬p.Clashes row := by
  unfold updateFuelPrice
  split
  · exact .inl ⟨_, rfl⟩
  · rename_i existing hfound
    obtain ⟨hmem, hq⟩ := Table.mem_of_findFirst hfound
    rw [Bool.and_eq_true, beq_iff_eq, beq_iff_eq] at hq
    split
    · exact .inl ⟨_, rfl⟩
    · rename_i fuelType hok
      unfold updateFuelPriceOf
      dsimp only
      split
      · exact .inl ⟨_, rfl⟩
      · split
        · exact .inl ⟨_, rfl⟩
        · rename_i start stop hdates
          split
          · exact .inl ⟨_, rfl⟩
          · rename_i hnone
            split
            · exact .inl ⟨_, rfl⟩
            · refine .inr ⟨_, rfl, ?_, ?_⟩
              · refine List.map_congr_left fun p hp => ?_
                split
                · rename_i hid
                  obtain rfl : p = existing := Table.eq_of_clash (fun _ _ => Eq.symm) hp hmem
                    (beq_iff_eq.mp hid)
                  rw [← hq.2]
                · rfl
              · intro p hp hid hclash
                refine List.find?_eq_none.mp hnone p hp ?_
                rw [Bool.and_eq_true, Bool.and_eq_true, bne_iff_ne]
                exact ⟨⟨hid, hclash.1⟩, hclash.2⟩

omit [Field R] [DecidableEq R] in
/-- What `deleteFuelPrice` does. -/
theorem deleteFuelPrice_cases (t : PriceHistory R) (companyId id : String) :
    (∃ e, t.deleteFuelPrice companyId id = (.error e, t)) ∨
      ∃ row, t.deleteFuelPrice companyId id = (.ok row, t.remove (·.id == id)) := by
  unfold deleteFuelPrice
  split
  · exact .inl ⟨_, rfl⟩
  · exact .inr ⟨_, rfl⟩

omit [DecidableEq R] in
theorem Creates.apart {r : Except FuelPriceError (FuelPriceRow R) × PriceHistory R}
    (hcreates : Creates t companyId dto rowId r) (h : t.Apart) : r.2.Apart := by
  cases hcreates with
  | refused _ => exact h
  | unread _ _ => exact h.closeBefore ..
  | insert _ _ => exact (h.closeBefore ..).insertPrice _

theorem Apart.updateFuelPrice (h : t.Apart) {dto : UpdateFuelPriceDto R} :
    (t.updateFuelPrice companyId id dto).2.Apart := by
  rcases updateFuelPrice_cases t companyId id dto with ⟨e, heq⟩ | ⟨row, -, hrows, hclear⟩
  · rw [heq]
    exact h
  · rw [Apart, hrows, List.pairwise_map]
    refine List.Pairwise.imp_of_mem ?_ (List.Pairwise.and t.unique h)
    rintro a b ha hb ⟨hids, hab⟩
    split <;> split
    · rename_i hida hidb
      exact absurd ((beq_iff_eq.mp hida).trans (beq_iff_eq.mp hidb).symm) hids
    · rename_i hida hidb
      exact fun hclash => hclear b hb (by simpa using hidb) hclash.symm
    · rename_i hida hidb
      exact hclear a ha (by simpa using hida)
    · exact hab

omit [Field R] [DecidableEq R] in
theorem Apart.deleteFuelPrice (h : t.Apart) : (t.deleteFuelPrice companyId id).2.Apart := by
  rcases deleteFuelPrice_cases t companyId id with ⟨e, heq⟩ | ⟨row, heq⟩
  · rw [heq]
    exact h
  · rw [heq]
    exact List.Pairwise.sublist List.filter_sublist h

omit [DecidableEq R] in
/-- Once a price is closed, only the refused look leaves it closed: an insertion of a new id goes
through. -/
theorem Creates.kept_iff {r : Except FuelPriceError (FuelPriceRow R) × PriceHistory R}
    (hcreates : Creates t companyId dto rowId r) (h : t.Apart) (hfresh : rowId ∉ t.rows.map (·.id)) :
    ((∃ e, r.1 = .error e) → r.2 = t) ↔
      (dto.effectiveUntil = some .invalid → ∀ fuelType start, dto.Reaches fuelType start →
        ∀ p ∈ t.rows, p.closedBy companyId fuelType start = false) := by
  cases hcreates with
  | refused hnot =>
    constructor
    · intro _ _ fuelType start hreach
      exact absurd hreach (hnot fuelType start)
    · intro _ _
      rfl
  | @unread fuelType start hreach huntil =>
    constructor
    · intro hkept _ fuelType' start' hreach'
      obtain rfl := hreach.fuelType_eq hreach'
      obtain rfl := hreach.start_eq hreach'
      exact closeBefore_eq_self_iff.mp (hkept ⟨_, rfl⟩)
    · intro hnone _
      exact closeBefore_eq_self_iff.mpr (hnone huntil fuelType start hreach)
  | @insert fuelType start stop hreach huntil =>
    constructor
    · intro _ hinvalid
      rw [hinvalid] at huntil
      cases stop <;> cases huntil
    · rintro - ⟨e, herror⟩
      rcases insertPrice_cases (t.closeBefore companyId fuelType start)
          ⟨⟨companyId, fuelType, dto.pricePerLiter, start, stop⟩, rowId⟩ with
        ⟨p, hp, hclash, heq⟩ | ⟨hid, -⟩ | ⟨t', heq, -⟩
      · rw [heq]
        refine closeBefore_eq_self_iff.mpr fun a ha => ?_
        by_contra hclosed
        exact h.no_overlap_of_closed ⟨⟨companyId, fuelType, _, start, stop⟩, rowId⟩ ha
          (Bool.not_eq_false _ ▸ hclosed) p hp hclash
      · rw [ids_closeBefore] at hid
        exact absurd hid hfresh
      · rw [heq] at herror
        cases herror

end PriceHistory

/-! ## Runs -/

inductive PriceCall (R : Type) where
  | create (companyId : String) (dto : CreateFuelPriceDto R) (rowId : String)
  | update (companyId id : String) (dto : UpdateFuelPriceDto R)
  | delete (companyId id : String)
  deriving DecidableEq, Repr

namespace PriceCall

def run (t : PriceHistory R) :
    PriceCall R → Except FuelPriceError (FuelPriceRow R) × PriceHistory R
  | .create companyId dto rowId => t.createFuelPrice companyId dto rowId
  | .update companyId id dto => t.updateFuelPrice companyId id dto
  | .delete companyId id => t.deleteFuelPrice companyId id

def Throws (t : PriceHistory R) (c : PriceCall R) : Prop := ∃ e, (c.run t).1 = .error e

/-- The id the database makes for a new row is one no row has. -/
def Fresh (t : PriceHistory R) : PriceCall R → Prop
  | .create _ _ rowId => rowId ∉ t.rows.map (·.id)
  | _ => True

/-- A creation that ends on an Invalid Date finds no open price to close. -/
def Reads (t : PriceHistory R) : PriceCall R → Prop
  | .create companyId dto _ => dto.effectiveUntil = some .invalid →
      ∀ fuelType start, dto.Reaches fuelType start →
        ∀ p ∈ t.rows, p.closedBy companyId fuelType start = false
  | _ => True

end PriceCall

/-- One call after the other. -/
def PriceStep (t : PriceHistory R) (c : PriceCall R) (t' : PriceHistory R) : Prop :=
  c.Fresh t ∧ (c.run t).2 = t'

namespace PriceHistory

variable {t t' : PriceHistory R} {c : PriceCall R} {cs : List (PriceCall R)}

theorem Apart.of_step (h : t.Apart) (hstep : PriceStep t c t') : t'.Apart := by
  obtain ⟨-, rfl⟩ := hstep
  cases c with
  | create companyId dto rowId => exact (creates t companyId dto rowId).apart h
  | update companyId id dto => exact h.updateFuelPrice
  | delete companyId id => exact h.deleteFuelPrice

/-- A call that throws leaves the history as it was exactly when it does not end on an Invalid Date
with a price closed. -/
theorem kept_iff (h : t.Apart) (hstep : PriceStep t c t') : (c.Throws t → t' = t) ↔ c.Reads t := by
  obtain ⟨hfresh, rfl⟩ := hstep
  cases c with
  | create companyId dto rowId => exact (creates t companyId dto rowId).kept_iff h hfresh
  | update companyId id dto =>
    refine iff_of_true ?_ trivial
    rintro ⟨e, herror⟩
    rcases updateFuelPrice_cases t companyId id dto with ⟨e', heq⟩ | ⟨row, hok, -⟩
    · exact congrArg Prod.snd heq
    · exact absurd (hok.symm.trans herror) (by simp)
  | delete companyId id =>
    refine iff_of_true ?_ trivial
    rintro ⟨e, herror⟩
    rcases deleteFuelPrice_cases t companyId id with ⟨e', heq⟩ | ⟨row, heq⟩
    · exact congrArg Prod.snd heq
    · exact absurd ((congrArg Prod.fst heq).symm.trans herror) (by simp)

end PriceHistory

/-- The prices `getFuelPriceForDate` chooses from. -/
def inForceOn (history : List (FuelPrice R)) (companyId canonical : String) (date : Int) :
    List (FuelPrice R) :=
  history.filter fun p => p.companyId == companyId && p.fuelType == canonical &&
    p.effectiveFrom ≤ date && p.effectiveUntil.all (date ≤ ·)

theorem getFuelPriceForDate_eq (prices : PriceTables R) (companyId fuelType : String)
    (date : Int) : getFuelPriceForDate prices companyId fuelType date =
      match lastBy FuelPrice.effectiveFrom
        (inForceOn prices.history companyId (normalizeFuelType (some fuelType)) date) with
      | some p => some p.pricePerLiter
      | none =>
        let resolved := (Grouping.get (normalizeFuelType (some fuelType))
          ((prices.defaultFuelPrices companyId).getD defaultPrices)).getD 0
        if normalizeFuelType (some fuelType) = "electric" ∧ resolved = 0 then none
        else some resolved := rfl

/-- The ranges of a company and a fuel type are disjoint, one is open at most, and a date has one
price at most. -/
structure PriceHistory.Partition (t : PriceHistory R) : Prop where
  disjoint : ∀ a ∈ t.rows, ∀ b ∈ t.rows, a ≠ b → a.companyId = b.companyId →
    a.fuelType = b.fuelType → ∀ date, ¬(a.InForce date ∧ b.InForce date)
  oneOpen : ∀ companyId fuelType,
    t.rows.countP (fun p => p.scope companyId fuelType && p.effectiveUntil.isNone) ≤ 1
  onePrice : ∀ companyId fuelType date,
    (inForceOn (t.rows.map FuelPriceRow.toFuelPrice) companyId
      (normalizeFuelType (some fuelType)) date).length ≤ 1

omit [Field R] [DecidableEq R] in
theorem PriceHistory.Apart.partition {t : PriceHistory R} (h : t.Apart) : t.Partition where
  disjoint a ha b hb hne hcompany hfuel date := by
    rintro ⟨hina, hinb⟩
    have hscope : a.scope b.companyId b.fuelType = true :=
      FuelPriceRow.scope_iff.mpr ⟨hcompany, hfuel⟩
    exact hne (h.eq_of_clashes ha hb (FuelPriceRow.Clashes.of_inForce hscope hina hinb))
  oneOpen companyId fuelType := by
    refine Table.countP_le_one (List.Pairwise.imp ?_ h)
    intro a b hab ha
    by_contra hb
    rw [Bool.not_eq_false, Bool.and_eq_true, FuelPriceRow.scope_iff] at hb
    rw [Bool.and_eq_true, FuelPriceRow.scope_iff] at ha
    refine hab (FuelPriceRow.Clashes.of_open (FuelPriceRow.scope_iff.mpr ?_) ?_ ?_)
    · exact ⟨ha.1.1.trans hb.1.1.symm, ha.1.2.trans hb.1.2.symm⟩
    · exact Option.isNone_iff_eq_none.mp ha.2
    · exact Option.isNone_iff_eq_none.mp hb.2
  onePrice companyId fuelType date := by
    rw [inForceOn, ← List.countP_eq_length_filter, List.countP_map]
    refine Table.countP_le_one (List.Pairwise.imp ?_ h)
    intro a b hab ha
    by_contra hb
    simp only [Function.comp_apply, Bool.and_eq_true, beq_iff_eq, decide_eq_true_eq,
      Option.all_eq_true, Bool.not_eq_false] at ha hb
    obtain ⟨⟨⟨hca, hfa⟩, hstarta⟩, hstopa⟩ := ha
    obtain ⟨⟨⟨hcb, hfb⟩, hstartb⟩, hstopb⟩ := hb
    have hscope : a.scope b.companyId b.fuelType = true :=
      FuelPriceRow.scope_iff.mpr ⟨hca.trans hcb.symm, hfa.trans hfb.symm⟩
    exact hab (FuelPriceRow.Clashes.of_inForce hscope ⟨hstarta, hstopa⟩ ⟨hstartb, hstopb⟩)

/-- Where the ranges are a partition, the price in force on a date is the price that is found. -/
theorem PriceHistory.Partition.found_of_inForce {t : PriceHistory R} (h : t.Partition)
    {prices : PriceTables R} (hprices : prices.history = t.rows.map FuelPriceRow.toFuelPrice)
    {p : FuelPriceRow R} (hp : p ∈ t.rows) {fuelType : String}
    (hfuel : p.fuelType = normalizeFuelType (some fuelType)) {date : Int} (hdate : p.InForce date) :
    getFuelPriceForDate prices p.companyId fuelType date = some p.pricePerLiter := by
  have hmem : p.toFuelPrice ∈
      inForceOn prices.history p.companyId (normalizeFuelType (some fuelType)) date := by
    rw [hprices]
    refine List.mem_filter.mpr ⟨List.mem_map_of_mem hp, ?_⟩
    simp only [Bool.and_eq_true, beq_iff_eq, decide_eq_true_eq, Option.all_eq_true]
    exact ⟨⟨⟨trivial, hfuel⟩, hdate.1⟩, hdate.2⟩
  have hone := h.onePrice p.companyId fuelType date
  rw [← hprices] at hone
  rw [getFuelPriceForDate_eq]
  cases hfound : inForceOn prices.history p.companyId (normalizeFuelType (some fuelType)) date with
  | nil =>
    rw [hfound] at hmem
    cases hmem
  | cons q qs =>
    rw [hfound] at hmem hone
    obtain rfl : qs = [] := List.eq_nil_of_length_eq_zero (by simpa using hone)
    rw [← List.mem_singleton.mp hmem]
    rfl

/-- In every run the ranges stay a partition, and the calls that throw all leave the history as it
was exactly when no creation closes a price and then ends on an Invalid Date. -/
theorem prices_partition_and_kept_iff {cs : List (PriceCall R)} {t : PriceHistory R}
    (h : Run PriceStep .empty cs t) :
    t.Partition ∧
      (Run (fun s c u => PriceStep s c u ∧ (c.Throws s → u = s)) .empty cs t ↔
        Run (Guarded PriceStep fun s c => c.Reads s) .empty cs t) := by
  have hempty : PriceHistory.Apart (.empty : PriceHistory R) := .nil
  constructor
  · exact (h.invariant (I := PriceHistory.Apart) PriceHistory.Apart.of_step hempty).partition
  · exact Run.each_iff_guarded (I := PriceHistory.Apart) (Q := fun s c u => PriceCall.Throws s c → u = s)
      PriceHistory.Apart.of_step PriceHistory.kept_iff hempty

/-- An open price of diesel. -/
def openPrice : PriceCall ℚ := .create "c1" ⟨"diesel", 5000, .at 0, none⟩ "p1"

/-- The next price, with the week date `2026-W05` for its end. -/
def weekDatePrice : PriceCall ℚ :=
  .create "c1" ⟨"diesel", 5300, .at 86400000, some .invalid⟩ "p2"

/-- It throws, and the open price is closed. -/
theorem weekDatePrice_closes :
    ¬∀ (cs : List (PriceCall ℚ)) (t : PriceHistory ℚ), Run PriceStep .empty cs t →
      ∀ c t', PriceStep t c t' → c.Throws t → t' = t := by
  intro hclaim
  have hfirst : openPrice.Fresh .empty := by
    simp [openPrice, PriceCall.Fresh, Table.empty]
  have hopen : (openPrice.run .empty).2.rows.map (fun p => (p.id, p.effectiveUntil))
      = [("p1", none)] := by
    decide +kernel
  have hclosed : (weekDatePrice.run (openPrice.run .empty).2).2.rows.map
      (fun p => (p.id, p.effectiveUntil)) = [("p1", some 86399999)] := by
    decide +kernel
  have hthrows : (weekDatePrice.run (openPrice.run .empty).2).1.toOption = none := by
    decide +kernel
  have hfresh : weekDatePrice.Fresh (openPrice.run .empty).2 := by
    show "p2" ∉ (openPrice.run .empty).2.rows.map (fun p => p.id)
    decide +kernel
  have hkept := hclaim [openPrice] _ (.single ⟨hfirst, rfl⟩) weekDatePrice _ ⟨hfresh, rfl⟩ ?_
  · rw [hkept, hopen] at hclosed
    cases hclosed
  · cases hresult : (weekDatePrice.run (openPrice.run .empty).2).1 with
    | error e => exact ⟨e, hresult⟩
    | ok row =>
      rw [hresult] at hthrows
      cases hthrows

theorem prices_partition_and_kept_iff_openPrice :
    ∃ t : PriceHistory ℚ, Run PriceStep .empty [openPrice] t ∧ t.Partition ∧
      Run (fun s c u => PriceStep s c u ∧ (c.Throws s → u = s)) .empty [openPrice] t := by
  have hfresh : openPrice.Fresh .empty := by
    simp [openPrice, PriceCall.Fresh, Table.empty]
  have hstep : PriceStep .empty openPrice (openPrice.run .empty).2 := ⟨hfresh, rfl⟩
  have h := prices_partition_and_kept_iff (.single hstep)
  refine ⟨_, .single hstep, h.1, h.2.mpr (.single ⟨hstep, ?_⟩)⟩
  intro hinvalid
  cases hinvalid

end Calls

end DeliveryTracking.Fuel
