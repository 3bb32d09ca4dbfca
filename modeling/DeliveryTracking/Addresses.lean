/-
# `DeliveryTracking.Addresses` — ranges and texts of internet addresses

An address is a number of 32 or 128 bits.  A range `base/bits` is what agrees with
its base in the first bits; testing it under a mask is the same (`and_mask_eq_iff`).

Texts are lists of characters, in small letters:

    d.d.d.d                      four decimal octets without leading zeros
    h:h:h:h:h:h:h:h              eight groups of one to four hexadecimal digits
    h:…::…:h                     seven groups at most, zeros between them
    …:d.d.d.d                    the last two groups in decimal
    …%zone                       the number is that of the text before

A 128-bit text begins with its first group, or with a colon where that is zero
(`parseIPv6_first`).

Nothing below names the repository.
-/
import Mathlib.Data.List.TakeWhile
import Mathlib.Data.Nat.Bitwise
import Mathlib.Data.Nat.Digits.Lemmas

namespace DeliveryTracking

/-! ## Ranges -/

structure Cidr (w : Nat) where
  base : BitVec w
  bits : Nat
  deriving DecidableEq, Repr

namespace Cidr

variable {w : Nat} (r : Cidr w) (a : BitVec w)

/-- The address agrees with the base in the first bits. -/
def Contains : Prop := a.toNat / 2 ^ (w - r.bits) = r.base.toNat / 2 ^ (w - r.bits)

instance : Decidable (r.Contains a) := inferInstanceAs (Decidable (_ = _))

def mask (w bits : Nat) : BitVec w := BitVec.allOnes w <<< (w - bits)

variable {r a}

theorem getLsbD_mask (w bits i : Nat) :
    (mask w bits).getLsbD i = (decide (i < w) && decide (w - bits ≤ i)) := by
  simp only [mask, BitVec.getLsbD_shiftLeft, BitVec.getLsbD_allOnes]
  by_cases hi : i < w
  · by_cases hle : w - bits ≤ i
    · have hsub : i - (w - bits) < w := by omega
      simp [hi, hle, hsub]
    · simp [hi, hle, Nat.not_le.mp hle]
  · simp [hi]

/-- The test under the mask. -/
theorem and_mask_eq_iff (b : BitVec w) (bits : Nat) :
    a &&& mask w bits = b &&& mask w bits ↔ a.toNat / 2 ^ (w - bits) = b.toNat / 2 ^ (w - bits) := by
  constructor
  · intro h
    refine Nat.eq_of_testBit_eq fun i => ?_
    rw [Nat.testBit_div_two_pow, Nat.testBit_div_two_pow, BitVec.testBit_toNat, BitVec.testBit_toNat]
    have hbit := congrArg (·.getLsbD (i + (w - bits))) h
    simp only [BitVec.getLsbD_and, getLsbD_mask] at hbit
    by_cases hi : i + (w - bits) < w
    · simpa [hi] using hbit
    · rw [BitVec.getLsbD_of_ge _ _ (Nat.not_lt.mp hi), BitVec.getLsbD_of_ge _ _ (Nat.not_lt.mp hi)]
  · intro h
    refine BitVec.eq_of_getLsbD_eq fun i hi => ?_
    rw [BitVec.getLsbD_and, BitVec.getLsbD_and, getLsbD_mask]
    by_cases hle : w - bits ≤ i
    · have hbit := congrArg (·.testBit (i - (w - bits))) h
      simp only [Nat.testBit_div_two_pow, Nat.sub_add_cancel hle, BitVec.testBit_toNat] at hbit
      rw [hbit]
    · simp [hle]

end Cidr

/-! ## Texts of 32 bits -/

/-- A number with its most significant digit first. -/
def ofDigits (b : Nat) (ds : List Nat) : Nat := Nat.ofDigits b ds.reverse

theorem ofDigits_cons (b d : Nat) (ds : List Nat) :
    ofDigits b (d :: ds) = ofDigits b ds + b ^ ds.length * d := by
  rw [ofDigits, List.reverse_cons, Nat.ofDigits_append, Nat.ofDigits_singleton, List.length_reverse,
    ofDigits]

theorem ofDigits_lt {b : Nat} {ds : List Nat} (hb : 1 < b) (h : ∀ d ∈ ds, d < b) :
    ofDigits b ds < b ^ ds.length := by
  rw [ofDigits, ← List.length_reverse]
  exact Nat.ofDigits_lt_base_pow_length hb fun d hd => h d (List.mem_reverse.mp hd)

/-- The first digit is what is left of the number without the others. -/
theorem ofDigits_cons_div {b d : Nat} {ds : List Nat} (hb : 1 < b) (h : ∀ d ∈ ds, d < b) :
    ofDigits b (d :: ds) / b ^ ds.length = d := by
  rw [ofDigits_cons, Nat.add_mul_div_left _ _ (Nat.pow_pos (Nat.zero_lt_of_lt hb)),
    Nat.div_eq_of_lt (ofDigits_lt hb h), Nat.zero_add]

def parseOctet (cs : List Char) : Option Nat :=
  let n := Nat.ofDigitChars 10 cs 0
  if cs ≠ [] ∧ cs.all Char.isDigit ∧ (cs.length = 1 ∨ cs.head? ≠ some '0') ∧ n < 256 then some n
  else none

def parseIPv4 (cs : List Char) : Option (BitVec 32) :=
  match cs.splitOn '.' with
  | [a, b, c, d] => do
    let a ← parseOctet a
    let b ← parseOctet b
    let c ← parseOctet c
    let d ← parseOctet d
    some (BitVec.ofNat 32 (ofDigits 256 [a, b, c, d]))
  | _ => none

/-- Octets in decimal. -/
def dotted (octets : List Nat) : List Char := ['.'].intercalate (octets.map (Nat.toDigits 10))

theorem parseOctet_eq_some {cs : List Char} {n : Nat} (h : parseOctet cs = some n) :
    cs.all Char.isDigit = true ∧ Nat.ofDigitChars 10 cs 0 = n ∧ n < 256 := by
  obtain ⟨⟨-, hdigits, -, hlt⟩, heq⟩ := Option.ite_none_right_eq_some.mp h
  cases heq
  exact ⟨hdigits, rfl, hlt⟩

theorem parseIPv4_eq_some {cs : List Char} {ip : BitVec 32} (h : parseIPv4 cs = some ip) :
    ∃ a b c d a' b' c' d', cs.splitOn '.' = [a', b', c', d'] ∧ parseOctet a' = some a ∧
      parseOctet b' = some b ∧ parseOctet c' = some c ∧ parseOctet d' = some d ∧
        ip = BitVec.ofNat 32 (ofDigits 256 [a, b, c, d]) := by
  unfold parseIPv4 at h
  split at h
  · rename_i a' b' c' d' hsplit
    simp only [Option.bind_eq_bind, Option.bind_eq_some_iff] at h
    obtain ⟨a, ha, b, hb, c, hc, d, hd, heq⟩ := h
    exact ⟨a, b, c, d, a', b', c', d', hsplit, ha, hb, hc, hd, (Option.some.inj heq).symm⟩
  · cases h

theorem parseOctet_toDigits {n : Nat} (h : n < 256) : parseOctet (Nat.toDigits 10 n) = some n := by
  have hall : ∀ n < 256, parseOctet (Nat.toDigits 10 n) = some n := by decide +kernel
  exact hall n h

theorem splitOn_dotted {octets : List Nat} (h : octets ≠ []) :
    (dotted octets).splitOn '.' = octets.map (Nat.toDigits 10) := by
  refine List.splitOn_intercalate '.' ?_ (by simpa using h)
  intro l hl hdot
  obtain ⟨n, -, rfl⟩ := List.mem_map.mp hl
  exact absurd (Nat.isDigit_of_mem_toDigits (by decide) (by decide) hdot) (by decide)

theorem parseIPv4_dotted {a b c d : Nat} (ha : a < 256) (hb : b < 256) (hc : c < 256) (hd : d < 256) :
    parseIPv4 (dotted [a, b, c, d]) = some (BitVec.ofNat 32 (ofDigits 256 [a, b, c, d])) := by
  rw [parseIPv4, splitOn_dotted (List.cons_ne_nil _ _)]
  simp only [List.map_cons, List.map_nil, parseOctet_toDigits ha, parseOctet_toDigits hb,
    parseOctet_toDigits hc, parseOctet_toDigits hd, Option.bind_eq_bind, Option.bind_some]

/-! ## Texts of 128 bits -/

def hexDigits : List Char := "0123456789abcdef".toList

def isHex (c : Char) : Bool := hexDigits.contains c

def hexValue (cs : List Char) : Nat := ofDigits 16 (cs.map hexDigits.idxOf)

def parseGroup (cs : List Char) : Option Nat :=
  if cs ≠ [] ∧ cs.length ≤ 4 ∧ cs.all isHex then some (hexValue cs) else none

/-- Groups; where `decimal` the last two may be in decimal. -/
def parsePieces (decimal : Bool) : List (List Char) → Option (List Nat)
  | [] => some []
  | [last] =>
    match parseGroup last with
    | some g => some [g]
    | none =>
      if decimal then
        (parseIPv4 last).map fun ip => [ip.toNat / 65536, ip.toNat % 65536]
      else none
  | p :: ps => do
    let g ← parseGroup p
    let gs ← parsePieces decimal ps
    some (g :: gs)

/-- A side of the zeros that are left out. -/
def parseSide (decimal : Bool) (cs : List Char) : Option (List Nat) :=
  if cs = [] then some [] else parsePieces decimal (cs.splitOn ':')

/-- The text before and after the first two colons in a row. -/
def splitGap : List Char → Option (List Char × List Char)
  | [] => none
  | c :: cs =>
    if c = ':' ∧ cs.head? = some ':' then some ([], cs.tail)
    else (splitGap cs).map fun sides => (c :: sides.1, sides.2)

/-- The eight groups. -/
def parseGroups (cs : List Char) : Option (List Nat) :=
  match splitGap cs with
  | none => (parsePieces true (cs.splitOn ':')).filter fun gs => gs.length = 8
  | some (head, tail) => do
    let hs ← parseSide false head
    let ts ← parseSide true tail
    if hs.length + ts.length ≤ 7 then
      some (hs ++ List.replicate (8 - (hs.length + ts.length)) 0 ++ ts)
    else none

def isZone (c : Char) : Bool := c.isDigit || c.isLower || ['-', '.', ':'].contains c

/-- The text before the zone. -/
def withoutZone (cs : List Char) : Option (List Char) :=
  match cs.dropWhile (· != '%') with
  | [] => some cs
  | _ :: zone =>
    if zone ≠ [] ∧ zone.all isZone then some (cs.takeWhile (· != '%')) else none

def parseIPv6 (cs : List Char) : Option (BitVec 128) := do
  let body ← withoutZone cs
  let gs ← parseGroups body
  some (BitVec.ofNat 128 (ofDigits 65536 gs))

/-! ### The first group -/

theorem parseGroup_eq_some {cs : List Char} {g : Nat} (h : parseGroup cs = some g) :
    cs.length ≤ 4 ∧ cs.all isHex = true ∧ hexValue cs = g := by
  obtain ⟨⟨-, hlength, hhex⟩, heq⟩ := Option.ite_none_right_eq_some.mp h
  exact ⟨hlength, hhex, Option.some.inj heq⟩

theorem idxOf_lt_of_isHex {c : Char} (h : isHex c = true) : hexDigits.idxOf c < 16 :=
  List.idxOf_lt_length_of_mem (List.contains_iff_mem.mp h)

theorem hexValue_lt {cs : List Char} (h : cs.all isHex = true) : hexValue cs < 16 ^ cs.length := by
  have hdigits : ∀ d ∈ cs.map hexDigits.idxOf, d < 16 := by
    intro d hd
    obtain ⟨c, hc, rfl⟩ := List.mem_map.mp hd
    exact idxOf_lt_of_isHex (List.all_eq_true.mp h c hc)
  have hlt := ofDigits_lt (by decide) hdigits
  rwa [List.length_map] at hlt

theorem parseGroup_lt {cs : List Char} {g : Nat} (h : parseGroup cs = some g) : g < 65536 := by
  obtain ⟨hlength, hhex, rfl⟩ := parseGroup_eq_some h
  exact (hexValue_lt hhex).trans_le (Nat.pow_le_pow_right (by decide) hlength)

theorem parsePieces_cons_cons (decimal : Bool) (p q : List Char) (ps : List (List Char)) :
    parsePieces decimal (p :: q :: ps) = (do
      let g ← parseGroup p
      let gs ← parsePieces decimal (q :: ps)
      some (g :: gs)) := rfl

theorem parsePieces_lt {decimal : Bool} : ∀ {ps : List (List Char)} {gs : List Nat},
    parsePieces decimal ps = some gs → ∀ g ∈ gs, g < 65536
  | [], gs, h => by
      cases h
      exact fun g hg => absurd hg List.not_mem_nil
  | [last], gs, h => by
      rw [parsePieces] at h
      split at h
      · rename_i g hgroup
        cases h
        intro g' hg'
        rw [List.mem_singleton.mp hg']
        exact parseGroup_lt hgroup
      · obtain ⟨-, h⟩ := Option.ite_none_right_eq_some.mp h
        obtain ⟨ip, -, rfl⟩ := Option.map_eq_some_iff.mp h
        have hlt := ip.isLt
        intro g hg
        simp only [List.mem_cons, List.not_mem_nil, or_false] at hg
        omega
  | p :: q :: ps, gs, h => by
      rw [parsePieces_cons_cons] at h
      simp only [Option.bind_eq_bind, Option.bind_eq_some_iff] at h
      obtain ⟨g, hg, gs', hgs, heq⟩ := h
      cases heq
      exact List.forall_mem_cons.mpr ⟨parseGroup_lt hg, parsePieces_lt hgs⟩

theorem parseSide_lt {decimal : Bool} {cs : List Char} {gs : List Nat}
    (h : parseSide decimal cs = some gs) : ∀ g ∈ gs, g < 65536 := by
  unfold parseSide at h
  split at h
  · cases h
    exact fun g hg => absurd hg List.not_mem_nil
  · exact parsePieces_lt h

theorem parsePieces_cons {decimal : Bool} {p q : List Char} {ps : List (List Char)} {gs : List Nat}
    (h : parsePieces decimal (p :: q :: ps) = some gs) :
    ∃ g gs', parseGroup p = some g ∧ gs = g :: gs' := by
  rw [parsePieces_cons_cons] at h
  simp only [Option.bind_eq_bind, Option.bind_eq_some_iff] at h
  obtain ⟨g, hg, gs', -, heq⟩ := h
  exact ⟨g, gs', hg, (Option.some.inj heq).symm⟩

/-- Of one piece there are at most two groups. -/
theorem parsePieces_singleton {decimal : Bool} {p : List Char} {gs : List Nat}
    (h : parsePieces decimal [p] = some gs) :
    gs.length ≤ 2 ∧ (decimal = false → ∃ g, parseGroup p = some g ∧ gs = [g]) := by
  rw [parsePieces] at h
  split at h
  · rename_i g hgroup
    cases h
    exact ⟨Nat.le_succ 1, fun _ => ⟨g, hgroup, rfl⟩⟩
  · obtain ⟨hdecimal, h⟩ := Option.ite_none_right_eq_some.mp h
    obtain ⟨ip, -, rfl⟩ := Option.map_eq_some_iff.mp h
    exact ⟨Nat.le_refl _, fun hnot => absurd hdecimal (by simp [hnot])⟩

theorem splitGap_eq_some : ∀ {cs head tail : List Char}, splitGap cs = some (head, tail) →
    cs = head ++ ':' :: ':' :: tail
  | [], _, _, h => nomatch h
  | c :: cs, head, tail, h => by
      rw [splitGap] at h
      split at h
      · rename_i hgap
        obtain ⟨rfl, hnext⟩ := hgap
        cases h
        obtain ⟨d, hd⟩ := List.head?_eq_some_iff.mp hnext
        rw [hd]
        rfl
      · obtain ⟨⟨head', tail'⟩, hsides, heq⟩ := Option.map_eq_some_iff.mp h
        cases heq
        rw [List.cons_append, ← splitGap_eq_some hsides]

/-- A text of groups begins with the first piece. -/
theorem eq_of_splitOn_cons {cs p : List Char} {ps : List (List Char)}
    (h : cs.splitOn ':' = p :: ps) : cs = p ++ if ps = [] then [] else ':' :: [':'].intercalate ps := by
  have hjoin : [':'].intercalate (cs.splitOn ':') = cs := List.intercalate_splitOn ':'
  rw [h] at hjoin
  split
  · rename_i hnil
    rw [hnil, List.intercalate_singleton] at hjoin
    rw [List.append_nil, hjoin]
  · rename_i hne
    rw [List.intercalate_cons_of_ne_nil hne] at hjoin
    rw [← hjoin]
    simp

/-- The eight groups of a text, and the first as the text begins with it. -/
theorem parseGroups_eq_some {cs : List Char} {gs : List Nat} (h : parseGroups cs = some gs) :
    gs.length = 8 ∧ (∀ g ∈ gs, g < 65536) ∧
      ∃ first rest, cs = first ++ ':' :: rest ∧ first.all isHex = true ∧ first.length ≤ 4 ∧
        gs.head? = some (hexValue first) := by
  unfold parseGroups at h
  split at h
  · obtain ⟨hpieces, hlength⟩ := Option.filter_eq_some_iff.mp h
    have hlength : gs.length = 8 := of_decide_eq_true hlength
    refine ⟨hlength, parsePieces_lt hpieces, ?_⟩
    cases hsplit : cs.splitOn ':' with
    | nil => exact absurd hsplit (List.splitOn_ne_nil _ _)
    | cons p ps =>
      rw [hsplit] at hpieces
      cases ps with
      | nil =>
        have htwo := (parsePieces_singleton hpieces).1
        omega
      | cons q ps =>
        obtain ⟨g, gs', hgroup, rfl⟩ := parsePieces_cons hpieces
        obtain ⟨hshort, hhex, hvalue⟩ := parseGroup_eq_some hgroup
        have htext := eq_of_splitOn_cons hsplit
        rw [if_neg (List.cons_ne_nil _ _)] at htext
        exact ⟨p, _, htext, hhex, hshort, by rw [hvalue, List.head?_cons]⟩
  · rename_i head tail hgap
    simp only [Option.bind_eq_bind, Option.bind_eq_some_iff] at h
    obtain ⟨hs, hhead, ts, htail, h⟩ := h
    obtain ⟨hcount, heq⟩ := Option.ite_none_right_eq_some.mp h
    cases heq
    refine ⟨by simp only [List.length_append, List.length_replicate]; omega, ?_, ?_⟩
    · intro g hg
      simp only [List.mem_append, List.mem_replicate] at hg
      rcases hg with (hg | ⟨-, rfl⟩) | hg
      · exact parseSide_lt hhead g hg
      · decide
      · exact parseSide_lt htail g hg
    · have htext := splitGap_eq_some hgap
      unfold parseSide at hhead
      split at hhead
      · rename_i hnil
        cases hhead
        refine ⟨[], ':' :: tail, by rw [htext, hnil], rfl, Nat.zero_le _, ?_⟩
        obtain ⟨n, hn⟩ : ∃ n, 8 - (([] : List Nat).length + ts.length) = n + 1 :=
          ⟨7 - ts.length, by simp only [List.length_nil]; omega⟩
        rw [hn, List.replicate_succ]
        rfl
      · cases hsplit : head.splitOn ':' with
        | nil => exact absurd hsplit (List.splitOn_ne_nil _ _)
        | cons p ps =>
          have hstart := eq_of_splitOn_cons hsplit
          rw [hsplit] at hhead
          cases ps with
          | nil =>
            obtain ⟨g, hgroup, rfl⟩ := (parsePieces_singleton hhead).2 rfl
            obtain ⟨hshort, hhex, hvalue⟩ := parseGroup_eq_some hgroup
            rw [if_pos rfl, List.append_nil] at hstart
            exact ⟨p, _, by rw [htext, hstart], hhex, hshort, by rw [hvalue]; rfl⟩
          | cons q ps =>
            obtain ⟨g, gs', hgroup, rfl⟩ := parsePieces_cons hhead
            obtain ⟨hshort, hhex, hvalue⟩ := parseGroup_eq_some hgroup
            rw [if_neg (List.cons_ne_nil _ _)] at hstart
            refine ⟨p, [':'].intercalate (q :: ps) ++ ':' :: ':' :: tail, ?_, hhex, hshort, ?_⟩
            · rw [htext, hstart, List.append_assoc, List.cons_append]
            · rw [hvalue]
              rfl

theorem withoutZone_eq_some {cs body : List Char} (h : withoutZone cs = some body) :
    ∃ zone, cs = body ++ zone := by
  have hjoin := List.takeWhile_append_dropWhile (p := (· != '%')) (l := cs)
  unfold withoutZone at h
  split at h
  · cases h
    exact ⟨[], (List.append_nil _).symm⟩
  · obtain ⟨-, heq⟩ := Option.ite_none_right_eq_some.mp h
    cases heq
    exact ⟨_, hjoin.symm⟩

/-- The text of an address begins with its first 16 bits, and a colon. -/
theorem parseIPv6_first {cs : List Char} {ip : BitVec 128} (h : parseIPv6 cs = some ip) :
    ∃ first rest, cs = first ++ ':' :: rest ∧ first.all isHex = true ∧ first.length ≤ 4 ∧
      ip.toNat / 2 ^ 112 = hexValue first := by
  unfold parseIPv6 at h
  simp only [Option.bind_eq_bind, Option.bind_eq_some_iff] at h
  obtain ⟨body, hbody, gs, hgs, heq⟩ := h
  cases heq
  obtain ⟨zone, rfl⟩ := withoutZone_eq_some hbody
  obtain ⟨hlength, hlt, first, rest, rfl, hhex, hshort, hfirst⟩ := parseGroups_eq_some hgs
  refine ⟨first, rest ++ zone, by simp, hhex, hshort, ?_⟩
  obtain ⟨gs', rfl⟩ := List.head?_eq_some_iff.mp hfirst
  have hseven : gs'.length = 7 := Nat.succ.inj hlength
  have hbound := ofDigits_lt (by decide) hlt
  have hdiv := ofDigits_cons_div (b := 65536) (d := hexValue first) (by decide) fun g hg =>
    hlt g (List.mem_cons_of_mem _ hg)
  rw [hlength] at hbound
  rw [hseven] at hdiv
  have hall : ofDigits 65536 (hexValue first :: gs') < 2 ^ 128 := hbound
  rw [BitVec.toNat_ofNat, Nat.mod_eq_of_lt hall]
  exact hdiv

/-! ### The digits of a group -/

theorem hexValue_cons (c : Char) (cs : List Char) :
    hexValue (c :: cs) = hexValue cs + 16 ^ cs.length * hexDigits.idxOf c := by
  rw [hexValue, List.map_cons, ofDigits_cons, List.length_map, ← hexValue]

theorem eq_of_idxOf_hex {c d : Char} (hc : isHex c = true)
    (h : hexDigits.idxOf c = hexDigits.idxOf d) : c = d :=
  (List.idxOf_inj (List.contains_iff_mem.mp hc)).mp h

/-- A group from 1000 on is written with four digits. -/
theorem four_digits {cs : List Char} (hhex : cs.all isHex = true) (hshort : cs.length ≤ 4)
    (h : 4096 ≤ hexValue cs) :
    ∃ c d e f, cs = [c, d, e, f] ∧ isHex c = true ∧ isHex d = true ∧ isHex e = true ∧
      isHex f = true ∧ hexValue cs = 4096 * hexDigits.idxOf c + 256 * hexDigits.idxOf d +
        16 * hexDigits.idxOf e + hexDigits.idxOf f := by
  have hlt := hexValue_lt hhex
  match cs, hhex, hshort, h, hlt with
  | [], _, _, h, hlt | [_], _, _, h, hlt | [_, _], _, _, h, hlt | [_, _, _], _, _, h, hlt =>
    exact absurd (h.trans_lt hlt) (by simp)
  | [c, d, e, f], hhex, _, _, _ =>
    simp only [List.all_cons, List.all_nil, Bool.and_true, Bool.and_eq_true] at hhex
    refine ⟨c, d, e, f, rfl, hhex.1, hhex.2.1, hhex.2.2.1, hhex.2.2.2, ?_⟩
    simp only [hexValue_cons, List.length_cons, List.length_nil]
    have hnil : hexValue [] = 0 := rfl
    omega

/-! ### IPv4-mapped texts -/

theorem dotted_cons_cons (o o' : Nat) (os : List Nat) :
    dotted (o :: o' :: os) = Nat.toDigits 10 o ++ '.' :: dotted (o' :: os) := by
  rw [dotted, List.map_cons, List.map_cons, List.intercalate_cons_cons, dotted, List.map_cons,
    List.append_assoc, List.singleton_append]

theorem mem_dotted : ∀ {os : List Nat} {c : Char}, c ∈ dotted os → c.isDigit = true ∨ c = '.'
  | [], _, h => nomatch h
  | [o], c, h => by
      have hdigit : c ∈ Nat.toDigits 10 o := by
        simpa only [dotted, List.map_cons, List.map_nil, List.intercalate_singleton] using h
      exact Or.inl (Nat.isDigit_of_mem_toDigits (by decide) (by decide) hdigit)
  | o :: o' :: os, c, h => by
      rw [dotted_cons_cons, List.mem_append, List.mem_cons] at h
      rcases h with h | h | h
      · exact Or.inl (Nat.isDigit_of_mem_toDigits (by decide) (by decide) h)
      · exact Or.inr h
      · exact mem_dotted h

/-- The number of `::ffff:d.d.d.d`. -/
theorem parseIPv6_mapped {a b c d : Nat} {ip : BitVec 32}
    (h : parseIPv4 (dotted [a, b, c, d]) = some ip) :
    parseIPv6 ("::ffff:".toList ++ dotted [a, b, c, d]) =
      some (BitVec.ofNat 128 (0xffff * 2 ^ 32 + ip.toNat)) := by
  have hzone : withoutZone ("::ffff:".toList ++ dotted [a, b, c, d]) =
      some ("::ffff:".toList ++ dotted [a, b, c, d]) := by
    have hdrop : ("::ffff:".toList ++ dotted [a, b, c, d]).dropWhile (· != '%') = [] := by
      refine List.dropWhile_eq_nil_iff.mpr fun x hx => ?_
      rw [bne_iff_ne]
      rintro rfl
      rcases List.mem_append.mp hx with hx | hx
      · exact absurd hx (by decide)
      · exact absurd (mem_dotted hx) (by decide)
    rw [withoutZone, hdrop]
  have hsplit : ("ffff:".toList ++ dotted [a, b, c, d]).splitOn ':' =
      ["ffff".toList, dotted [a, b, c, d]] := by
    have hjoin : "ffff:".toList ++ dotted [a, b, c, d] =
        [':'].intercalate ["ffff".toList, dotted [a, b, c, d]] := by
      rw [List.intercalate_cons_cons, List.intercalate_singleton]
      rfl
    rw [hjoin]
    refine List.splitOn_intercalate ':' ?_ (List.cons_ne_nil _ _)
    intro l hl hcolon
    rcases List.mem_cons.mp hl with rfl | hl
    · exact absurd hcolon (by decide)
    · rw [List.mem_singleton.mp hl] at hcolon
      exact absurd (mem_dotted hcolon) (by decide)
  have hdecimal : parsePieces true [dotted [a, b, c, d]] =
      some [ip.toNat / 65536, ip.toNat % 65536] := by
    have hgroup : parseGroup (dotted [a, b, c, d]) = none := by
      refine if_neg fun hall => ?_
      have hdot : '.' ∈ dotted [a, b, c, d] := by
        rw [dotted_cons_cons]
        exact List.mem_append_right _ (List.mem_cons_self ..)
      exact absurd (List.all_eq_true.mp hall.2.2 '.' hdot) (by decide)
    rw [parsePieces, hgroup, h]
    rfl
  have htail : parseSide true ("ffff:".toList ++ dotted [a, b, c, d]) =
      some [0xffff, ip.toNat / 65536, ip.toNat % 65536] := by
    rw [parseSide, if_neg (by simp), hsplit, parsePieces_cons_cons, hdecimal]
    rfl
  have hgap : splitGap ("::ffff:".toList ++ dotted [a, b, c, d]) =
      some ([], "ffff:".toList ++ dotted [a, b, c, d]) := rfl
  have hgroups : parseGroups ("::ffff:".toList ++ dotted [a, b, c, d]) =
      some [0, 0, 0, 0, 0, 0xffff, ip.toNat / 65536, ip.toNat % 65536] := by
    rw [parseGroups, hgap]
    dsimp only
    rw [htail]
    rfl
  have hvalue : ofDigits 65536 [0, 0, 0, 0, 0, 0xffff, ip.toNat / 65536, ip.toNat % 65536] =
      0xffff * 2 ^ 32 + ip.toNat := by
    simp only [ofDigits_cons, List.length_cons, List.length_nil]
    have hnil : ofDigits 65536 [] = 0 := rfl
    omega
  rw [parseIPv6, hzone, Option.bind_eq_bind, Option.bind_some, hgroups, Option.bind_eq_bind,
    Option.bind_some, hvalue]

/-! ## Addresses -/

inductive Address where
  | v4 (ip : BitVec 32)
  | v6 (ip : BitVec 128)
  deriving DecidableEq, Repr

end DeliveryTracking
