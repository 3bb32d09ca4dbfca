/-
# `DeliveryTracking.Deliveries.PdfRows` — the rows of a PDF delivery sheet

The parser goes through the lines of all pages.  A line with `Commande` and
`Montant` is a header: it gives the places of the columns and ends the pending row.
Every other line is cut at these places; one whose first column is a reference
starts a row, and one without adds what it has to the pending row.

A sheet (`Page`) repeats its header on every page and has its cells inside their
columns.  Its orders are what a person reads: each reference with the lines up to
the next one, across pages.  The parser keeps an order (`KeepsOrder`) if every cell
is in the row and the price is the number in front of `Ar`.  It keeps all of them
exactly when (`keeps_iff_fits`)

    no line of the table has both words of the header,
    a line without a reference has text only below one on its own page, and
      none in the columns of the reference and the amount,
    every price from 1000 on is grouped by plain spaces.

One way the pending row and the rows before it are the orders so far (`Follows`);
the other way every line adds at most its letters to the rows, and the first line
that does not fit adds fewer (`step_loses`).
-/
import DeliveryTracking.Deliveries.PdfPrice
import DeliveryTracking.Grouping
import Mathlib.Algebra.Order.BigOperators.Group.List
import Mathlib.Algebra.Order.Ring.Nat
import Mathlib.Data.List.Sort

namespace DeliveryTracking.Deliveries

open Grouping (headed)
open Text

/-! ## The parser -/

inductive ColumnKey where
  | orderRef
  | montant
  | lieu
  | telephone
  | observation
  | produitsPrix
  deriving DecidableEq

/-- `Record<ColumnKey, string>` -/
abbrev Cells := ColumnKey → Text

abbrev Bounds := ColumnKey → Int

open ColumnKey in
def columnOrder : List ColumnKey := [orderRef, montant, lieu, telephone, observation, produitsPrix]

def headerMarkers : Cells
  | .orderRef => "N°".toList
  | .montant => "Montant".toList
  | .lieu => "Lieu".toList
  | .telephone => "Téléphone".toList
  | .observation => "Observation".toList
  | .produitsPrix => "Produits".toList

/-- `ORDER_REF_RE.test`: `^\d{6}-\d{5}$` -/
def orderRefRe (t : Text) : Bool :=
  t.length == 12 && (t.take 6).all Char.isDigit && t[6]? == some '-' && (t.drop 7).all Char.isDigit

/-- A row under construction; an absent text is the empty one, as every reader of it takes it. -/
@[ext] structure PartialRow where
  vals : Cells
  adresse : Text

structure RawImportRow where
  row : Nat
  orderRef : Option Text
  lieu : Option Text
  adresse : Option Text
  telephone : Option Text
  montant : Option Text
  prix : Option Text
  produits : Option Text
  observation : Option Text
  deriving DecidableEq

structure ParserState where
  rows : List PartialRow := []
  bounds : Option Bounds := none
  current : Option PartialRow := none

def isHeader (line : Text) : Bool :=
  includes "Commande".toList line && includes "Montant".toList line

def headerBounds (line : Text) : Bounds := fun key => indexOf (headerMarkers key) line

def colOrder (bounds : Bounds) : List ColumnKey :=
  columnOrder.insertionSort fun a b => bounds a ≤ bounds b

def sliceColumns (bounds : Bounds) (line : Text) : Cells := fun key =>
  if bounds key < line.length then
    trim ((Grouping.get key (spans bounds line (colOrder bounds))).getD [])
  else []

/-- `if (val) old = old ? old + ' ' + val : val` -/
def attached (old val : Text) : Text :=
  if val = [] then old else if old = [] then val else old ++ ' ' :: val

/-- A continuation line. -/
def PartialRow.attach (current : PartialRow) (vals : Cells) : PartialRow where
  vals := fun key =>
    match key with
    | .telephone | .observation | .produitsPrix => attached (current.vals key) (vals key)
    | _ => current.vals key
  adresse := attached current.adresse (vals .lieu)

def ParserState.flush (s : ParserState) : ParserState :=
  { s with rows := s.rows ++ s.current.toList, current := none }

def step (s : ParserState) (line : Text) : ParserState :=
  if isHeader line then { s.flush with bounds := some (headerBounds line) }
  else
    match s.bounds with
    | none => s
    | some bounds =>
        if trim line = [] then s
        else if orderRefRe (sliceColumns bounds line .orderRef) then
          { s.flush with current := some ⟨sliceColumns bounds line, []⟩ }
        else { s with current := s.current.map (·.attach (sliceColumns bounds line)) }

def PartialRow.toRaw (idx : Nat) (r : PartialRow) : RawImportRow where
  row := idx + 1
  orderRef := orUndefined (r.vals .orderRef)
  lieu := orUndefined (r.vals .lieu)
  adresse := orUndefined r.adresse
  telephone := orUndefined (r.vals .telephone)
  montant := orUndefined (r.vals .montant)
  prix := prix (r.vals .produitsPrix)
  produits := produits (r.vals .produitsPrix)
  observation := orUndefined (r.vals .observation)

/-- `parsePdfImportRows`, from the lines of the pages on. -/
def parsePdfImportRows (pages : List (List Text)) : List RawImportRow :=
  (pages.flatten.foldl step {}).flush.rows.mapIdx PartialRow.toRaw

/-! ## Sheets -/

/-- A line of the table. -/
structure Line (bounds : Bounds) where
  text : Text
  cells : Cells
  laid : Laid bounds text cells

structure Page where
  header : Text
  commande : includes "Commande".toList header = true
  marked : ∀ key, includes (headerMarkers key) header = true
  lines : List (Line (headerBounds header))

namespace Page

def text (page : Page) : List Text := page.header :: page.lines.map (·.text)

def cells (page : Page) : List Cells := page.lines.map (·.cells)

end Page

def hasRef (cells : Cells) : Bool := orderRefRe (cells .orderRef)

/-- The lines of the table, over all pages. -/
def tableCells (table : List Page) : List Cells := table.flatMap Page.cells

abbrev Order := Cells × List Cells

/-- Each line with a reference, with the lines up to the next one. -/
def orders (table : List Page) : List Order := (headed hasRef (tableCells table)).2

/-- The lines before the first reference. -/
def lead (table : List Page) : List Cells := (headed hasRef (tableCells table)).1

/-- What belongs in the row of an order: every column from top to bottom, and as the address what
the lines below the first one have for the place. -/
def rowOf (order : Order) : PartialRow where
  vals := fun key =>
    match key with
    | .lieu => order.1 .lieu
    | _ => join ((order.1 :: order.2).map (· key))
  adresse := join (order.2.map (· .lieu))

structure KeepsOrder (order : Order) (row : RawImportRow) : Prop where
  orderRef : row.orderRef.getD [] = (rowOf order).vals .orderRef
  lieu : row.lieu.getD [] = (rowOf order).vals .lieu
  adresse : row.adresse.getD [] = (rowOf order).adresse
  telephone : row.telephone.getD [] = (rowOf order).vals .telephone
  montant : row.montant.getD [] = (rowOf order).vals .montant
  observation : row.observation.getD [] = (rowOf order).vals .observation
  letters : KeepsLetters ((rowOf order).vals .produitsPrix) row.prix row.produits
  prix : ∀ before num blanks after n,
    Reads ((rowOf order).vals .produitsPrix) before num blanks after n → row.prix = some (plain n)

/-- Each order has its row, in order, and no text stands outside the orders. -/
structure Keeps (table : List Page) (rows : List RawImportRow) : Prop where
  lead : ∀ cells ∈ lead table, ∀ key, cells key = []
  orders : List.Forall₂ KeepsOrder (orders table) rows

/-- `seen`: a line with a reference is above on the page. -/
structure LineFits {bounds : Bounds} (seen : Bool) (line : Line bounds) : Prop where
  notHeader : isHeader line.text = false
  below : hasRef line.cells = false → ¬Blank line.text → seen = true
  orderRef : hasRef line.cells = false → line.cells .orderRef = []
  montant : hasRef line.cells = false → line.cells .montant = []

def LinesFit {bounds : Bounds} : Bool → List (Line bounds) → Prop
  | _, [] => True
  | seen, line :: lines => LineFits seen line ∧ LinesFit (seen || hasRef line.cells) lines

/-- Every price is one the parser reads. -/
def PriceFits (order : Order) : Prop := ∀ before num blanks after n,
  Reads ((rowOf order).vals .produitsPrix) before num blanks after n →
    n < 1000 ∨ num = grouped ' ' n

structure Fits (table : List Page) : Prop where
  lines : ∀ page ∈ table, LinesFit false page.lines
  prices : ∀ order ∈ orders table, PriceFits order

/-! ## The columns of a header -/

theorem mem_columnOrder (key : ColumnKey) : key ∈ columnOrder := by
  cases key <;> decide

theorem mem_colOrder (bounds : Bounds) (key : ColumnKey) : key ∈ colOrder bounds :=
  (List.mem_insertionSort _).mpr (mem_columnOrder key)

theorem nodup_colOrder (bounds : Bounds) : (colOrder bounds).Nodup :=
  (List.perm_insertionSort _ _).nodup_iff.mpr (by decide)

theorem pairwise_colOrder (bounds : Bounds) :
    (colOrder bounds).Pairwise fun a b => bounds a ≤ bounds b := by
  have : Std.Total fun a b : ColumnKey => bounds a ≤ bounds b := ⟨fun a b => Int.le_total _ _⟩
  have : IsTrans ColumnKey fun a b => bounds a ≤ bounds b := ⟨fun _ _ _ => Int.le_trans⟩
  exact List.pairwise_insertionSort _ _

theorem neg_one_le_headerBounds (line : Text) (key : ColumnKey) : -1 ≤ headerBounds line key :=
  neg_one_le_indexOf ..

namespace Page

variable (page : Page)

theorem isHeader_header : isHeader page.header = true := by
  rw [isHeader, page.commande, Bool.true_and]
  exact page.marked .montant

theorem zero_le_headerBounds (key : ColumnKey) : 0 ≤ headerBounds page.header key := by
  have hge := neg_one_le_headerBounds page.header key
  have hmarked := page.marked key
  rw [includes, bne_iff_ne] at hmarked
  change headerBounds page.header key ≠ -1 at hmarked
  omega

/-- No two markers start with the same letter. -/
theorem headerBounds_injective : Function.Injective (headerBounds page.header) := by
  intro a b hab
  have hhead : ∀ key, (page.header.drop (headerBounds page.header key).toNat).head? =
      (headerMarkers key).head? := by
    intro key
    have hfound : indexOf (headerMarkers key) page.header =
        ((headerBounds page.header key).toNat : Nat) :=
      (Int.toNat_of_nonneg (page.zero_le_headerBounds key)).symm
    obtain ⟨rest, hrest⟩ := isPrefixOf_drop_indexOf hfound
    rw [← hrest]
    cases key <;> rfl
  have hboth := hhead a
  rw [hab, hhead b] at hboth
  revert hboth
  cases a <;> cases b <;> decide

end Page

/-! ## Letters -/

def cellsWeight (cells : Cells) : Nat := (columnOrder.map fun key => weight (cells key)).sum

theorem cellsWeight_eq (bounds : Bounds) (cells : Cells) :
    cellsWeight cells = ((colOrder bounds).map fun key => weight (cells key)).sum :=
  ((List.perm_insertionSort _ _).map _).sum_eq.symm

theorem get_of_mem_spans {bounds : Bounds} {line : Text} {key : ColumnKey} {s : Text}
    (h : (key, s) ∈ spans bounds line (colOrder bounds)) :
    Grouping.get key (spans bounds line (colOrder bounds)) = some s := by
  refine (Grouping.get_eq_some_iff ?_).mpr h
  rw [Grouping.keys, map_fst_spans]
  exact nodup_colOrder bounds

/-- Whatever the places are, a line is cut into no more than it has. -/
theorem cellsWeight_sliceColumns_le {bounds : Bounds} (hbounds : ∀ key, -1 ≤ bounds key)
    (line : Text) : cellsWeight (sliceColumns bounds line) ≤ weight line := by
  refine Nat.le_trans ?_ (weight_spans_le (pairwise_colOrder bounds) fun key _ => hbounds key)
  rw [cellsWeight_eq bounds]
  conv_lhs => rw [← map_fst_spans bounds line (colOrder bounds), List.map_map]
  refine List.sum_le_sum ?_
  rintro ⟨key, s⟩ hs
  rw [Function.comp_apply, sliceColumns]
  split
  · rw [get_of_mem_spans hs, Option.getD_some, weight_trim]
  · exact Nat.zero_le _

namespace Line

variable {page : Page} (line : Line (headerBounds page.header))

/-- The parser cuts a line of the table into its cells. -/
theorem sliceColumns_eq : sliceColumns (headerBounds page.header) line.text = line.cells := by
  funext key
  rw [sliceColumns]
  split
  · have hkey := mem_colOrder (headerBounds page.header) key
    rw [← map_fst_spans (headerBounds page.header) line.text (colOrder _)] at hkey
    obtain ⟨⟨_, s⟩, hs, rfl⟩ := List.mem_map.mp hkey
    rw [get_of_mem_spans hs, Option.getD_some]
    exact line.laid.trim_of_mem_spans page.headerBounds_injective page.zero_le_headerBounds
      (pairwise_colOrder _) (nodup_colOrder _) (mem_colOrder _) hs
  · rename_i hlen
    have hleft := line.laid.left key
    have hdrop : line.text.drop (line.laid.column key) = [] := List.drop_eq_nil_of_le (by omega)
    exact (List.prefix_nil.mp (hdrop ▸ line.laid.stands key)).symm

theorem weight_eq : weight line.text = cellsWeight line.cells := by
  rw [cellsWeight_eq (headerBounds page.header)]
  refine line.laid.weight_eq page.headerBounds_injective page.zero_le_headerBounds
    (pairwise_colOrder _) (nodup_colOrder _) (mem_colOrder _) ?_
  exact List.ne_nil_of_mem (mem_colOrder _ .orderRef)

theorem cell_eq_nil_iff (key : ColumnKey) : line.cells key = [] ↔ weight (line.cells key) = 0 := by
  rw [weight_eq_zero_iff, ← trim_eq_nil_iff, line.laid.trimmed]

theorem blank_iff : Blank line.text ↔ ∀ key, line.cells key = [] := by
  rw [← weight_eq_zero_iff, line.weight_eq, cellsWeight, List.sum_eq_zero_iff_forall_eq_nat]
  constructor
  · intro h key
    exact (line.cell_eq_nil_iff key).mpr (h _ (List.mem_map_of_mem (mem_columnOrder key)))
  · intro h w hw
    obtain ⟨key, -, rfl⟩ := List.mem_map.mp hw
    exact (line.cell_eq_nil_iff key).mp (h key)

theorem not_blank_of_hasRef (h : hasRef line.cells = true) : ¬Blank line.text := by
  intro hblank
  rw [hasRef, line.blank_iff.mp hblank] at h
  exact absurd h (by decide)

end Line

theorem attached_eq_join (parts : List Text) (val : Text) :
    attached (join parts) val = join (parts ++ [val]) := (join_concat ..).symm

theorem weight_attached (old val : Text) : weight (attached old val) = weight old + weight val := by
  have hblank : weight [' '] = 0 := by decide
  rw [attached]
  split
  · rename_i hval
    simp [hval]
  · split
    · rename_i hold
      simp [hold]
    · rw [← List.singleton_append, weight_append, weight_append, hblank, Nat.zero_add]

namespace PartialRow

def weight (r : PartialRow) : Nat := cellsWeight r.vals + Text.weight r.adresse

/-- A continuation line adds the letters of four columns. -/
theorem weight_attach (r : PartialRow) (vals : Cells) :
    (r.attach vals).weight + Text.weight (vals .orderRef) + Text.weight (vals .montant) =
      r.weight + cellsWeight vals := by
  simp only [weight, attach, cellsWeight, columnOrder, List.map_cons, List.map_nil, List.sum_cons,
    List.sum_nil, weight_attached]
  omega

theorem attach_of_empty (r : PartialRow) {vals : Cells} (h : ∀ key, vals key = []) :
    r.attach vals = r := by
  have hattached : ∀ old, attached old [] = old := fun old => if_pos rfl
  refine PartialRow.ext (funext fun key => ?_) ?_
  · cases key <;> simp [attach, h, hattached]
  · simp [attach, h, hattached]

end PartialRow

/-- A line more in an order, without text in the columns of the reference and the amount. -/
theorem rowOf_concat (r : Cells) (ls : List Cells) {cells : Cells} (href : cells .orderRef = [])
    (hmontant : cells .montant = []) :
    rowOf (r, ls ++ [cells]) = (rowOf (r, ls)).attach cells := by
  have hjoin : ∀ f : Cells → Text, join ((r :: (ls ++ [cells])).map f) =
      attached (join ((r :: ls).map f)) (f cells) := by
    intro f
    rw [attached_eq_join, ← List.cons_append, List.map_append]
    rfl
  refine PartialRow.ext (funext fun key => ?_) ?_
  · have hempty : ∀ old, attached old [] = old := fun old => if_pos rfl
    cases key with
    | lieu => rfl
    | orderRef => exact (hjoin (· .orderRef)).trans (href ▸ hempty _)
    | montant => exact (hjoin (· .montant)).trans (hmontant ▸ hempty _)
    | telephone => exact hjoin (· .telephone)
    | observation => exact hjoin (· .observation)
    | produitsPrix => exact hjoin (· .produitsPrix)
  · rw [PartialRow.attach, rowOf, rowOf, attached_eq_join, List.map_append]
    rfl

theorem rowOf_singleton (r : Cells) : rowOf (r, []) = ⟨r, []⟩ := by
  have hjoin : ∀ t : Text, join [t] = t := by
    intro t
    rw [join, List.filter_cons]
    split
    · simp [List.intercalate]
    · rename_i ht
      simpa [List.intercalate] using Eq.symm (by simpa using ht : t = [])
  refine PartialRow.ext (funext fun key => ?_) rfl
  cases key with
  | lieu => rfl
  | orderRef | montant | telephone | observation | produitsPrix => exact hjoin _

theorem weight_rowOf (order : Order) :
    (rowOf order).weight = cellsWeight order.1 + (order.2.map cellsWeight).sum := by
  obtain ⟨r, ls⟩ := order
  have hcells : cellsWeight = fun cells => Text.weight (cells .orderRef) +
      (Text.weight (cells .montant) + (Text.weight (cells .lieu) + (Text.weight (cells .telephone) +
        (Text.weight (cells .observation) + Text.weight (cells .produitsPrix))))) := rfl
  simp only [PartialRow.weight, rowOf, hcells, List.map_cons, List.sum_cons, weight_join,
    List.map_map, Function.comp_def, List.sum_map_add]
  omega

/-! ## Steps -/

namespace ParserState

variable (s : ParserState)

/-- All rows, the pending one at the end. -/
def allRows : List PartialRow := s.rows ++ s.current.toList

def filled : Nat := (s.allRows.map PartialRow.weight).sum

def Placed : Prop := ∀ bounds, s.bounds = some bounds → ∀ key, -1 ≤ bounds key

@[simp] theorem allRows_flush : s.flush.allRows = s.allRows := List.append_nil _

end ParserState

section Steps

variable {s : ParserState} {line : Text} {bounds : Bounds}

theorem step_header (h : isHeader line = true) :
    step s line = { s.flush with bounds := some (headerBounds line) } := if_pos h

theorem allRows_step_header (h : isHeader line = true) : (step s line).allRows = s.allRows := by
  rw [step_header h]
  exact s.allRows_flush

theorem step_blank (h : isHeader line = false) (hblank : Blank line) : step s line = s := by
  rw [step, h, if_neg Bool.false_ne_true]
  split
  · rfl
  · rw [if_pos (trim_eq_nil_iff.mpr hblank)]

theorem step_ref (h : isHeader line = false) (hbounds : s.bounds = some bounds)
    (hblank : ¬Blank line) (href : orderRefRe (sliceColumns bounds line .orderRef) = true) :
    step s line = { s.flush with current := some ⟨sliceColumns bounds line, []⟩ } := by
  rw [step, h, if_neg Bool.false_ne_true, hbounds]
  simp only
  rw [if_neg fun ht => hblank (trim_eq_nil_iff.mp ht), if_pos href]

theorem step_rest (h : isHeader line = false) (hbounds : s.bounds = some bounds)
    (hblank : ¬Blank line) (href : orderRefRe (sliceColumns bounds line .orderRef) = false) :
    step s line = { s with current := s.current.map (·.attach (sliceColumns bounds line)) } := by
  rw [step, h, if_neg Bool.false_ne_true, hbounds]
  simp only
  rw [if_neg fun ht => hblank (trim_eq_nil_iff.mp ht), href, if_neg Bool.false_ne_true]

/-- What a line does to the letters of the rows, wherever the columns are. -/
theorem filled_step_le (hs : s.Placed) (line : Text) :
    (step s line).Placed ∧ (step s line).filled ≤ s.filled + weight line := by
  cases hheader : isHeader line with
  | true =>
      refine ⟨?_, ?_⟩
      · rw [step_header hheader]
        rintro _ ⟨⟩
        exact neg_one_le_headerBounds line
      · rw [ParserState.filled, allRows_step_header hheader]
        exact Nat.le_add_right ..
  | false =>
      cases hbounds : s.bounds with
      | none =>
          rw [step, hheader, if_neg Bool.false_ne_true, hbounds]
          exact ⟨hs, Nat.le_add_right ..⟩
      | some bounds =>
          have hle := cellsWeight_sliceColumns_le (hs bounds hbounds) line
          by_cases hblank : Blank line
          · rw [step_blank hheader hblank]
            exact ⟨hs, Nat.le_add_right ..⟩
          · cases href : orderRefRe (sliceColumns bounds line .orderRef) with
            | true =>
                rw [step_ref hheader hbounds hblank href]
                refine ⟨hs, ?_⟩
                simp [ParserState.filled, ParserState.allRows, ParserState.flush, PartialRow.weight]
                omega
            | false =>
                rw [step_rest hheader hbounds hblank href]
                refine ⟨hs, ?_⟩
                cases hcurrent : s.current with
                | none => simp [ParserState.filled, ParserState.allRows, hcurrent]
                | some current =>
                    have hattach := current.weight_attach (sliceColumns bounds line)
                    simp [ParserState.filled, ParserState.allRows, hcurrent]
                    omega

theorem filled_foldl_le (hs : s.Placed) (lines : List Text) :
    (lines.foldl step s).Placed ∧
      (lines.foldl step s).filled ≤ s.filled + (lines.map weight).sum := by
  induction lines generalizing s with
  | nil => exact ⟨hs, Nat.le_refl _⟩
  | cons line lines ih =>
      obtain ⟨hplaced, hle⟩ := filled_step_le hs line
      obtain ⟨hplaced', hle'⟩ := ih hplaced
      rw [List.foldl_cons, List.map_cons, List.sum_cons]
      exact ⟨hplaced', by omega⟩

end Steps

/-! ## Keeping the orders -/

/-- The rows are the orders of the lines `done`. -/
structure Matches (done : List Cells) (s : ParserState) : Prop where
  rows : s.allRows = (headed hasRef done).2.map rowOf
  lead : ∀ cells ∈ (headed hasRef done).1, ∀ key, cells key = []
  placed : s.Placed

/-- So are they within a page, where the pending row is that of a line above. -/
structure Follows (page : Page) (seen : Bool) (done : List Cells) (s : ParserState) : Prop
    extends Matches done s where
  bounds : s.bounds = some (headerBounds page.header)
  pending : s.current.isSome = seen

section Follows

variable {page : Page} {seen : Bool} {done : List Cells} {s : ParserState}
  {line : Line (headerBounds page.header)}

theorem Matches.header (h : Matches done s) : Follows page false done (step s page.header) := by
  refine ⟨⟨?_, h.lead, ?_⟩, ?_, ?_⟩
  · rw [allRows_step_header page.isHeader_header, h.rows]
  · exact (filled_step_le h.placed _).1
  · rw [step_header page.isHeader_header]
  · rw [step_header page.isHeader_header]
    rfl

/-- A line that fits keeps the rows the orders. -/
theorem step_follows (h : Follows page seen done s) (hfit : LineFits seen line) :
    Follows page (seen || hasRef line.cells) (done ++ [line.cells]) (step s line.text) := by
  have hplaced := (filled_step_le h.placed line.text).1
  have hslice := line.sliceColumns_eq
  cases href : hasRef line.cells with
  | true =>
      have hblank := line.not_blank_of_hasRef href
      have hstep := step_ref hfit.notHeader h.bounds hblank (by rw [hslice]; exact href)
      rw [hslice] at hstep
      have hhead := Grouping.headed_concat_head href done
      refine ⟨⟨?_, ?_, hplaced⟩, ?_, ?_⟩
      · rw [hhead, List.map_append, ← h.rows, List.map_singleton, rowOf_singleton, hstep]
        rfl
      · rw [hhead]
        exact h.lead
      · rw [hstep]
        exact h.bounds
      · rw [hstep, Bool.or_true]
        rfl
  | false =>
      rw [Bool.or_false]
      have hrow := fun r ls => rowOf_concat r ls (hfit.orderRef href) (hfit.montant href)
      by_cases hblank : Blank line.text
      · -- nothing happens, and nothing should
        have hempty := line.blank_iff.mp hblank
        rw [step_blank hfit.notHeader hblank]
        rcases List.eq_nil_or_concat (headed hasRef done).2 with hnil | ⟨gs, ⟨r, ls⟩, hgs⟩
        · have hhead := Grouping.headed_concat_lead href hnil
          refine ⟨⟨?_, ?_, h.placed⟩, h.bounds, h.pending⟩
          · rw [hhead, h.rows, hnil]
          · rw [hhead]
            intro cells hcells
            rcases List.mem_append.mp hcells with hcells | hcells
            · exact h.lead cells hcells
            · rw [List.mem_singleton.mp hcells]
              exact hempty
        · rw [List.concat_eq_append] at hgs
          have hhead := Grouping.headed_concat_last href hgs
          refine ⟨⟨?_, ?_, h.placed⟩, h.bounds, h.pending⟩
          · rw [hhead, h.rows, hgs, List.map_append, List.map_append, List.map_singleton,
              List.map_singleton, hrow, PartialRow.attach_of_empty _ hempty]
          · rw [hhead]
            exact h.lead
      · -- the pending row is the one of the last order
        have hseen := hfit.below href hblank
        obtain ⟨current, hcurrent⟩ := Option.isSome_iff_exists.mp (h.pending.trans hseen)
        have hstep := step_rest hfit.notHeader h.bounds hblank (by rw [hslice]; exact href)
        rw [hslice, hcurrent, Option.map_some] at hstep
        have hrows := h.rows
        rw [ParserState.allRows, hcurrent, Option.toList_some] at hrows
        rcases List.eq_nil_or_concat (headed hasRef done).2 with hnil | ⟨gs, ⟨r, ls⟩, hgs⟩
        · rw [hnil] at hrows
          exact absurd hrows (List.append_ne_nil_of_right_ne_nil _ (List.cons_ne_nil _ _))
        · rw [List.concat_eq_append] at hgs
          have hhead := Grouping.headed_concat_last href hgs
          rw [hgs, List.map_append, List.map_singleton] at hrows
          obtain ⟨hbefore, hlast⟩ := List.append_inj' hrows rfl
          obtain rfl := List.head_eq_of_cons_eq hlast
          refine ⟨⟨?_, ?_, hplaced⟩, ?_, ?_⟩
          · rw [hhead, hstep, List.map_append, List.map_singleton, hrow, ← hbefore]
            rfl
          · rw [hhead]
            exact h.lead
          · rw [hstep]
            exact h.bounds
          · rw [hstep, hseen]
            rfl

/-- A line that does not fit loses letters. -/
theorem step_loses (h : Follows page seen done s) (hfit : ¬LineFits seen line) :
    (step s line.text).filled < s.filled + weight line.text := by
  cases hheader : isHeader line.text with
  | true =>
      rw [ParserState.filled, allRows_step_header hheader]
      have hpos : 0 < weight line.text := by
        refine weight_pos_of_includes (Bool.and_eq_true_iff.mp hheader).1 ?_
        intro hblank
        exact absurd (hblank 'C' (by decide)) (by decide)
      exact Nat.lt_add_of_pos_right hpos
  | false =>
      cases href : hasRef line.cells with
      | true => exact absurd ⟨hheader, by simp [href], by simp [href], by simp [href]⟩ hfit
      | false =>
          have hslice := line.sliceColumns_eq
          by_cases hblank : Blank line.text
          · have hempty := line.blank_iff.mp hblank
            refine absurd ⟨hheader, ?_, fun _ => hempty _, fun _ => hempty _⟩ hfit
            intro _ hnot
            exact absurd hblank hnot
          · have hpos : 0 < weight line.text :=
              Nat.pos_of_ne_zero fun hzero => hblank (weight_eq_zero_iff.mp hzero)
            have hstep := step_rest hheader h.bounds hblank (by rw [hslice]; exact href)
            rw [hslice] at hstep
            rw [hstep]
            cases hcurrent : s.current with
            | none => simpa [ParserState.filled, ParserState.allRows, hcurrent] using hpos
            | some current =>
                have hseen : seen = true := by rw [← h.pending, hcurrent]; rfl
                have hlost : 0 < weight (line.cells .orderRef) + weight (line.cells .montant) := by
                  refine Nat.pos_of_ne_zero fun hzero => hfit ⟨hheader, fun _ _ => hseen, ?_, ?_⟩
                  · intro _
                    exact (line.cell_eq_nil_iff _).mpr (by omega)
                  · intro _
                    exact (line.cell_eq_nil_iff _).mpr (by omega)
                have hattach := current.weight_attach line.cells
                have hline := line.weight_eq
                simp [ParserState.filled, ParserState.allRows, hcurrent]
                omega

theorem foldl_follows {lines : List (Line (headerBounds page.header))}
    (h : Follows page seen done s) (hfit : LinesFit seen lines) :
    ∃ seen', Follows page seen' (done ++ lines.map (·.cells))
      ((lines.map (·.text)).foldl step s) := by
  induction lines generalizing seen done s with
  | nil => exact ⟨seen, by simpa using h⟩
  | cons line lines ih =>
      obtain ⟨seen', hrest⟩ := ih (step_follows h hfit.1) hfit.2
      refine ⟨seen', ?_⟩
      rw [List.append_assoc] at hrest
      exact hrest

theorem foldl_loses {lines : List (Line (headerBounds page.header))}
    (h : Follows page seen done s) (hfit : ¬LinesFit seen lines) :
    ((lines.map (·.text)).foldl step s).filled <
      s.filled + ((lines.map (·.text)).map weight).sum := by
  induction lines generalizing seen done s with
  | nil => exact absurd trivial hfit
  | cons line lines ih =>
      rw [List.map_cons, List.foldl_cons, List.map_cons, List.sum_cons]
      by_cases hline : LineFits seen line
      · have hrest := ih (step_follows h hline) fun hrest => hfit ⟨hline, hrest⟩
        have hle := (filled_step_le h.placed line.text).2
        omega
      · have hlost := step_loses h hline
        have hplaced := (filled_step_le h.placed line.text).1
        have hle := (filled_foldl_le hplaced (lines.map (·.text))).2
        omega

end Follows

/-- The parser's state after the lines of a table. -/
def parsed (s : ParserState) (table : List Page) : ParserState :=
  (table.map Page.text).flatten.foldl step s

/-- How many letters the lines of a table have. -/
def tableWeight (table : List Page) : Nat := ((tableCells table).map cellsWeight).sum

section Tables

variable {page : Page} {table : List Page} {done : List Cells} {s : ParserState}

theorem parsed_cons : parsed s (page :: table) =
    parsed ((page.lines.map (·.text)).foldl step (step s page.header)) table := by
  rw [parsed, List.map_cons, List.flatten_cons, List.foldl_append]
  rfl

theorem tableWeight_cons : tableWeight (page :: table) =
    ((page.lines.map (·.text)).map weight).sum + tableWeight table := by
  have hpage : ((page.lines.map (·.text)).map weight).sum = (page.cells.map cellsWeight).sum := by
    rw [Page.cells, List.map_map, List.map_map]
    refine congrArg List.sum (List.map_congr_left ?_)
    intro line _
    exact line.weight_eq
  rw [hpage, tableWeight, tableCells, List.flatMap_cons, List.map_append, List.sum_append]
  rfl

theorem filled_header : (step s page.header).filled = s.filled := by
  rw [ParserState.filled, allRows_step_header page.isHeader_header, ParserState.filled]

theorem filled_parsed_le (hs : s.Placed) : (parsed s table).filled ≤ s.filled + tableWeight table := by
  induction table generalizing s with
  | nil => exact Nat.le_refl _
  | cons page table ih =>
      have hheader := (filled_step_le hs page.header).1
      obtain ⟨hplaced, hle⟩ := filled_foldl_le hheader (page.lines.map (·.text))
      have hrest := ih hplaced
      rw [filled_header] at hle
      rw [parsed_cons, tableWeight_cons]
      omega

theorem parsed_matches (h : Matches done s) (hfit : ∀ page ∈ table, LinesFit false page.lines) :
    Matches (done ++ tableCells table) (parsed s table) := by
  induction table generalizing done s with
  | nil => simpa [parsed, tableCells] using h
  | cons page table ih =>
      obtain ⟨seen, hpage⟩ := foldl_follows h.header (hfit page (List.mem_cons_self ..))
      have hrest := ih hpage.toMatches fun p hp => hfit p (List.mem_cons_of_mem _ hp)
      rw [List.append_assoc] at hrest
      rw [parsed_cons]
      exact hrest

theorem parsed_loses (h : Matches done s) (hfit : ¬∀ page ∈ table, LinesFit false page.lines) :
    (parsed s table).filled < s.filled + tableWeight table := by
  induction table generalizing done s with
  | nil => exact absurd (fun _ h => nomatch h) hfit
  | cons page table ih =>
      have hpage : Follows page false done (step s page.header) := h.header
      rw [parsed_cons, tableWeight_cons]
      by_cases hlines : LinesFit false page.lines
      · obtain ⟨seen, hfollows⟩ := foldl_follows hpage hlines
        have hrest := ih hfollows.toMatches fun hrest => hfit (by
          intro p hp
          rcases List.mem_cons.mp hp with rfl | hp
          · exact hlines
          · exact hrest p hp)
        have hle := (filled_foldl_le hpage.placed (page.lines.map (·.text))).2
        rw [filled_header] at hle
        omega
      · have hlost := foldl_loses hpage hlines
        have hplaced := (filled_foldl_le hpage.placed (page.lines.map (·.text))).1
        have hle : _ ≤ _ + tableWeight table := filled_parsed_le hplaced
        rw [filled_header] at hlost
        omega

end Tables

/-! ## The imported rows -/

def RawImportRow.weight (row : RawImportRow) : Nat :=
  Text.weight (row.orderRef.getD []) + Text.weight (row.montant.getD []) +
    Text.weight (row.lieu.getD []) + Text.weight (row.telephone.getD []) +
    Text.weight (row.observation.getD []) + Text.weight (row.adresse.getD []) +
    (Text.weight (row.prix.getD []) + ariaryWeight row.prix + Text.weight (row.produits.getD []))

theorem weight_toRaw (idx : Nat) (r : PartialRow) : (r.toRaw idx).weight = r.weight := by
  have hproduits := (keepsLetters (r.vals .produitsPrix)).weight_eq
  simp only [RawImportRow.weight, PartialRow.toRaw, getD_orUndefined, PartialRow.weight, cellsWeight,
    columnOrder, List.map_cons, List.map_nil, List.sum_cons, List.sum_nil, hproduits]
  omega

theorem KeepsOrder.weight_eq {order : Order} {row : RawImportRow} (h : KeepsOrder order row) :
    row.weight = (rowOf order).weight := by
  have hproduits := h.letters.weight_eq
  simp only [RawImportRow.weight, PartialRow.weight, cellsWeight, columnOrder, List.map_cons,
    List.map_nil, List.sum_cons, List.sum_nil, h.orderRef, h.lieu, h.adresse, h.telephone, h.montant,
    h.observation]
  omega

/-- Of what belongs in it, a row lacks at most the price. -/
theorem keepsOrder_iff (idx : Nat) (order : Order) :
    KeepsOrder order ((rowOf order).toRaw idx) ↔ PriceFits order := by
  constructor
  · intro h before num blanks after n hreads
    exact hreads.prix_eq_iff.mp (h.prix before num blanks after n hreads)
  · intro h
    refine ⟨getD_orUndefined _, getD_orUndefined _, getD_orUndefined _, getD_orUndefined _,
      getD_orUndefined _, getD_orUndefined _, keepsLetters _, ?_⟩
    intro before num blanks after n hreads
    exact hreads.prix_eq_iff.mpr (h before num blanks after n hreads)

theorem forall₂_mapIdx_iff {α β : Type*} {R : α → β → Prop} {Q : α → Prop} {l : List α}
    {f : Nat → α → β} (h : ∀ i a, R a (f i a) ↔ Q a) :
    List.Forall₂ R l (l.mapIdx f) ↔ ∀ a ∈ l, Q a := by
  induction l generalizing f with
  | nil => simp
  | cons a l ih =>
      rw [List.mapIdx_cons, List.forall₂_cons, List.forall_mem_cons, h, ih fun i => h (i + 1)]

theorem sum_weight_mapIdx (rows : List PartialRow) :
    ((rows.mapIdx PartialRow.toRaw).map RawImportRow.weight).sum =
      (rows.map PartialRow.weight).sum := by
  rw [List.mapIdx_eq_zipIdx_map, List.map_map]
  have hsnd : rows = rows.zipIdx.map Prod.fst := (List.zipIdx_map_fst ..).symm
  conv_rhs => rw [hsnd, List.map_map]
  refine congrArg List.sum (List.map_congr_left ?_)
  rintro ⟨r, idx⟩ _
  exact weight_toRaw idx r

theorem sum_weight_of_keeps {table : List Page} {rows : List RawImportRow} (h : Keeps table rows) :
    (rows.map RawImportRow.weight).sum = tableWeight table := by
  have hlead : ((lead table).map cellsWeight).sum = 0 := by
    refine List.sum_eq_zero_iff_forall_eq_nat.mpr ?_
    intro w hw
    obtain ⟨cells, hcells, rfl⟩ := List.mem_map.mp hw
    simp [cellsWeight, columnOrder, h.lead cells hcells]
  have horders : ((orders table).map fun o => (rowOf o).weight) = rows.map RawImportRow.weight := by
    have hforall := h.orders
    clear h
    generalize orders table = os at hforall
    induction hforall with
    | nil => rfl
    | cons hrow _ ih => rw [List.map_cons, List.map_cons, hrow.weight_eq, ih]
  rw [tableWeight, Grouping.sum_headed cellsWeight (tableCells table), ← horders]
  rw [lead] at hlead
  rw [hlead, Nat.zero_add, orders]
  refine congrArg List.sum (List.map_congr_left ?_)
  intro order _
  exact weight_rowOf order

/-- **The sheet is kept exactly when it fits.** -/
theorem keeps_iff_fits (table : List Page) :
    Keeps table (parsePdfImportRows (table.map Page.text)) ↔ Fits table := by
  have hstart : Matches [] ({} : ParserState) := ⟨rfl, fun _ h => (nomatch h), fun _ h => (nomatch h)⟩
  have hrows : parsePdfImportRows (table.map Page.text) =
      (parsed {} table).allRows.mapIdx PartialRow.toRaw := rfl
  rw [hrows]
  by_cases hlines : ∀ page ∈ table, LinesFit false page.lines
  · have hmatches := parsed_matches hstart hlines
    rw [List.nil_append] at hmatches
    have hforall : List.Forall₂ KeepsOrder (orders table)
        ((parsed {} table).allRows.mapIdx PartialRow.toRaw) ↔
          ∀ order ∈ orders table, PriceFits order := by
      have hmap : (parsed {} table).allRows.mapIdx PartialRow.toRaw =
          (orders table).mapIdx fun idx order => (rowOf order).toRaw idx := by
        rw [hmatches.rows, orders]
        simp [List.mapIdx_eq_zipIdx_map, List.zipIdx_map, Function.comp_def]
      rw [hmap]
      exact forall₂_mapIdx_iff keepsOrder_iff
    constructor
    · intro h
      exact ⟨hlines, hforall.mp h.orders⟩
    · intro h
      exact ⟨hmatches.lead, hforall.mpr h.prices⟩
  · have hlost := parsed_loses hstart hlines
    constructor
    · intro h
      have hsum := sum_weight_of_keeps h
      rw [sum_weight_mapIdx] at hsum
      have hzero : ({} : ParserState).filled = 0 := rfl
      rw [ParserState.filled, hsum, hzero, Nat.zero_add] at hlost
      exact absurd hlost (Nat.lt_irrefl _)
    · intro h
      exact absurd h.lines hlines

/-! ## Two sheets that are not kept -/

section Example

def sheetHeader : Text := "N° Commande  Montant Lieu Téléphone Observation Produits".toList

/-- A line that has its cells at the places of the columns. -/
def lineAt (cells : Cells) (text : Text)
    (hstands : ∀ key ∈ columnOrder,
      cells key <+: text.drop (headerBounds sheetHeader key).toNat ∧ trim (cells key) = cells key)
    (hright : ∀ key ∈ columnOrder, ∀ key' ∈ columnOrder,
      headerBounds sheetHeader key < headerBounds sheetHeader key' →
        (headerBounds sheetHeader key).toNat + (cells key).length ≤ headerBounds sheetHeader key')
    (honly : ∀ i < text.length, text[i]?.all isSpace = true ∨ ∃ key ∈ columnOrder,
      (headerBounds sheetHeader key).toNat ≤ i ∧
        i < (headerBounds sheetHeader key).toNat + (cells key).length) :
    Line (headerBounds sheetHeader) where
  text := text
  cells := cells
  laid :=
    { column := fun key => (headerBounds sheetHeader key).toNat
      stands := fun key => (hstands key (mem_columnOrder key)).1
      only := by
        intro i c hc
        have hlt : i < text.length := (List.getElem?_eq_some_iff.mp hc).1
        rcases honly i hlt with h | ⟨key, -, h⟩
        · rw [hc] at h
          exact .inl h
        · exact .inr ⟨key, h⟩
      left := fun key => Int.self_le_toNat _
      right := fun key key' => hright key (mem_columnOrder key) key' (mem_columnOrder key')
      trimmed := fun key => (hstands key (mem_columnOrder key)).2 }

def sheetPage (line : Line (headerBounds sheetHeader)) : Page where
  header := sheetHeader
  commande := by decide +kernel
  marked := by
    intro key
    cases key <;> decide +kernel
  lines := [line]

/-- An order with a price written plainly. -/
def pricedLine : Line (headerBounds sheetHeader) :=
  lineAt
    (fun key =>
      match key with
      | .orderRef => "123456-12345".toList
      | .produitsPrix => "12000 Ar".toList
      | _ => [])
    "123456-12345                                    12000 Ar".toList
    (by decide +kernel) (by decide +kernel) (by decide +kernel)

/-- A line of an order, with the rest of its address. -/
def nextLine : Line (headerBounds sheetHeader) :=
  lineAt
    (fun key =>
      match key with
      | .lieu => "Lot".toList
      | _ => [])
    "                     Lot".toList
    (by decide +kernel) (by decide +kernel) (by decide +kernel)

theorem parse_priced : parsePdfImportRows ([sheetPage pricedLine].map Page.text) =
    [⟨1, some "123456-12345".toList, none, none, none, none, some "000".toList, some "12".toList,
      none⟩] := by
  decide +kernel

theorem parse_next_page :
    parsePdfImportRows ([sheetPage pricedLine, sheetPage nextLine].map Page.text) =
      [⟨1, some "123456-12345".toList, none, none, none, none, some "000".toList, some "12".toList,
        none⟩] := by
  decide +kernel

theorem reads_priced : Reads "12000 Ar".toList [] "12000".toList [' '] [] 12000 := by
  refine ⟨by decide, .inl (by decide +kernel), by simp [Blank, isSpace], rfl, by simp, ?_⟩
  intro a b heq _ _
  have hnone : ∀ i < 6, ("12000 Ar".toList)[i]? ≠ some 'A' := by decide
  have hA : ("12000 Ar".toList)[a.length]? = some 'A' := by
    rw [heq, List.getElem?_append_right (Nat.le_refl _), Nat.sub_self]
    rfl
  exact Nat.le_of_not_lt fun hlt => hnone _ hlt hA

/-- Of the price only the last three digits are read, and the line on the next page is dropped. -/
theorem sheets_not_kept :
    ¬Keeps [sheetPage pricedLine] (parsePdfImportRows ([sheetPage pricedLine].map Page.text)) ∧
      ¬Keeps [sheetPage pricedLine, sheetPage nextLine]
        (parsePdfImportRows ([sheetPage pricedLine, sheetPage nextLine].map Page.text)) := by
  have href : hasRef pricedLine.cells = true := by decide +kernel
  have hnext : ¬hasRef nextLine.cells = true := by decide +kernel
  constructor
  · intro h
    have horders : orders [sheetPage pricedLine] = [(pricedLine.cells, [])] := by
      change (headed hasRef [pricedLine.cells]).2 = _
      rw [headed, if_pos href]
      rfl
    have hforall := h.orders
    rw [parse_priced, horders, List.forall₂_cons] at hforall
    have hprix := hforall.1.prix _ _ _ _ _ reads_priced
    exact absurd hprix (by decide +kernel)
  · intro h
    have horders : orders [sheetPage pricedLine, sheetPage nextLine] =
        [(pricedLine.cells, [nextLine.cells])] := by
      change (headed hasRef [pricedLine.cells, nextLine.cells]).2 = _
      rw [headed, if_pos href, headed, if_neg hnext]
      rfl
    have hforall := h.orders
    rw [parse_next_page, horders, List.forall₂_cons] at hforall
    exact absurd hforall.1.adresse (by decide +kernel)

end Example

end DeliveryTracking.Deliveries
