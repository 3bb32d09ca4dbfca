/-
# `DeliveryTracking.Webhooks.UrlValidator` — which hosts a webhook may have

The host of a webhook is resolved, and every address of it is checked as a text:

    IPv4    the number, under the masks of fourteen ranges
    IPv6    how the text begins, then an IPv4 address at its end

The IPv4 check is the range test (`isBlockedV4_iff`).  The IPv6 one is not: of the
link-local addresses fe80::/10 only those that begin with fe80 are refused, and `::`,
`::1` and the IPv4-mapped addresses are refused in some of their spellings.  The
addresses let through are named in `Overlooked`, and an accepted URL has no internal
address exactly when it has none of these (`accepted_outside_iff`).
-/
import DeliveryTracking.Addresses
import DeliveryTracking.Text

namespace DeliveryTracking.Webhooks

/-! ## IPv4 -/

def BLOCKED_V4_CIDRS : List (String × Nat) :=
  [("0.0.0.0", 8), ("10.0.0.0", 8), ("100.64.0.0", 10), ("127.0.0.0", 8), ("169.254.0.0", 16),
    ("172.16.0.0", 12), ("192.0.0.0", 24), ("192.0.2.0", 24), ("192.168.0.0", 16), ("198.18.0.0", 15),
    ("198.51.100.0", 24), ("203.0.113.0", 24), ("224.0.0.0", 4), ("240.0.0.0", 4)]

/-- `Number` of a part, which is made of digits wherever it is asked for. -/
def numberOf (part : List Char) : Option Nat :=
  if part.all Char.isDigit then some (Nat.ofDigitChars 10 part 0) else none

/-- One round of the loop of `ipv4ToInt`. -/
def addPart (n : BitVec 32) (part : List Char) : Option (BitVec 32) :=
  match numberOf part with
  | none => none
  | some o => if 255 < o then none else some (n <<< 8 ||| BitVec.ofNat 32 o)

/-- None is NaN. -/
def ipv4ToInt (ip : List Char) : Option (BitVec 32) :=
  let parts := ip.splitOn '.'
  if parts.length ≠ 4 then none else parts.foldlM addPart 0

def isBlockedV4 (ip : List Char) : Bool :=
  match ipv4ToInt ip with
  | none => true
  | some addr =>
    BLOCKED_V4_CIDRS.any fun (base, bits) =>
      let baseInt := (ipv4ToInt base.toList).getD 0
      let mask := if bits = 0 then 0 else BitVec.allOnes 32 <<< (32 - bits)
      (addr &&& mask) == (baseInt &&& mask)

/-! ## IPv6 -/

def toLowerCase (ip : List Char) : List Char := ip.map Char.toLower

def startsWith (start : String) (text : List Char) : Bool := start.toList.isPrefixOf text

/-- What comes after a text that it begins with. -/
def after (start : String) (text : List Char) : Option (List Char) :=
  if startsWith start text then some (text.drop start.length) else none

/-- `\d+\.\d+\.\d+\.\d+$` -/
def isDotted (text : List Char) : Bool :=
  (text.splitOn '.').length = 4 && (text.splitOn '.').all fun part => part ≠ [] && part.all Char.isDigit

/-- `/(?:::ffff:|::)(\d+\.\d+\.\d+\.\d+)$/` -/
def mapped (lower : List Char) : Option (List Char) :=
  lower.tails.findSome? fun text =>
    ((after "::ffff:" text).filter isDotted).or ((after "::" text).filter isDotted)

/-- `[0-9a-f]{1,4}` -/
def isGroup (text : List Char) : Bool := text ≠ [] && decide (text.length ≤ 4) && text.all isHex

/-- `/::ffff:([0-9a-f]{1,4}):([0-9a-f]{1,4})$/` -/
def mappedHex (lower : List Char) : Option (List Char × List Char) :=
  lower.tails.findSome? fun text =>
    match (after "::ffff:" text).map (·.splitOn ':') with
    | some [a, b] => if isGroup a && isGroup b then some (a, b) else none
    | _ => none

/-- Two groups as `d.d.d.d`. -/
def dottedGroups (hex : List Char × List Char) : List Char :=
  let a := hexValue hex.1
  let b := hexValue hex.2
  dotted [a >>> 8, a &&& 0xff, b >>> 8, b &&& 0xff]

def isBlockedV6 (ip : List Char) : Bool :=
  let lower := toLowerCase ip
  if lower = "::1".toList ∨ lower = "::".toList then true
  else if startsWith "fe80:" lower || startsWith "fe80::" lower then true
  else if startsWith "fc" lower || startsWith "fd" lower then true
  else if startsWith "ff" lower then true
  else
    match mapped lower with
    | some v4 => isBlockedV4 v4
    | none =>
      match mappedHex lower with
      | some hex => isBlockedV4 (dottedGroups hex)
      | none => false

/-! ## URLs -/

/-- `net.isIPv4` -/
def isIPv4 (ip : List Char) : Bool := (parseIPv4 ip).isSome

/-- `net.isIPv6`; it reads capitals too. -/
def isIPv6 (ip : List Char) : Bool := (parseIPv6 (toLowerCase ip)).isSome

def isIP (ip : List Char) : Bool := isIPv4 ip || isIPv6 ip

def isBlockedIP (ip : List Char) : Bool :=
  if isIPv4 ip then isBlockedV4 ip
  else if isIPv6 ip then isBlockedV6 ip
  else true

structure ParsedUrl where
  protocol : String
  hostname : String
  deriving DecidableEq, Repr

/-- What a resolver gives: an array, something else, or an error. -/
inductive Resolution where
  | addresses (ips : List String)
  | other
  | rejected
  deriving DecidableEq, Repr

/-- `new URL`, and the resolvers of `dns/promises`. -/
structure Network where
  parseUrl : String → Option ParsedUrl
  resolve4 : String → Resolution
  resolve6 : String → Resolution

inductive WebhookUrlError where
  | invalidUrl
  | notHttps
  | notPublic
  | unresolved
  deriving DecidableEq, Repr

def WebhookUrlError.message : WebhookUrlError → String
  | .invalidUrl => "Invalid webhook URL"
  | .notHttps => "Webhook URL must use HTTPS protocol"
  | .notPublic => "Webhook URL must point to a public (non-private) IP address"
  | .unresolved => "Webhook URL hostname could not be resolved"

def safeResolve : Resolution → List String
  | .addresses ips => ips
  | .other | .rejected => []

namespace Network

variable (net : Network)

def resolved (hostname : String) : List String :=
  safeResolve (net.resolve4 hostname) ++ safeResolve (net.resolve6 hostname)

def assertSafeWebhookUrl (url : String) : Except WebhookUrlError Unit :=
  match net.parseUrl url with
  | none => .error .invalidUrl
  | some parsed =>
    if parsed.protocol ≠ "https:" then .error .notHttps
    else if isIP parsed.hostname.toList then
      if isBlockedIP parsed.hostname.toList then .error .notPublic else .ok ()
    else if net.resolved parsed.hostname = [] then .error .unresolved
    else if (net.resolved parsed.hostname).any fun ip => isBlockedIP ip.toList then
      .error .notPublic
    else .ok ()

/-- The addresses of a URL: the one it spells, or those its host resolves to. -/
def addresses (url : String) : List String :=
  match net.parseUrl url with
  | none => []
  | some parsed =>
    if isIP parsed.hostname.toList then [parsed.hostname] else net.resolved parsed.hostname

end Network

/-! ## Internal addresses -/

/-- The ranges of IPv4 that are not public. -/
def internalV4Ranges : List (Cidr 32) :=
  [⟨0x00000000, 8⟩, ⟨0x0a000000, 8⟩, ⟨0x64400000, 10⟩, ⟨0x7f000000, 8⟩, ⟨0xa9fe0000, 16⟩,
    ⟨0xac100000, 12⟩, ⟨0xc0000000, 24⟩, ⟨0xc0000200, 24⟩, ⟨0xc0a80000, 16⟩, ⟨0xc6120000, 15⟩,
    ⟨0xc6336400, 24⟩, ⟨0xcb007100, 24⟩, ⟨0xe0000000, 4⟩, ⟨0xf0000000, 4⟩]

def InternalV4 (ip : BitVec 32) : Prop := ∃ r ∈ internalV4Ranges, r.Contains ip

def unspecified : Cidr 128 := ⟨0, 128⟩

def loopback : Cidr 128 := ⟨1, 128⟩

/-- fe80::/10 -/
def linkLocal : Cidr 128 := ⟨0xfe80 <<< 112, 10⟩

/-- fc00::/7 -/
def uniqueLocal : Cidr 128 := ⟨0xfc00 <<< 112, 7⟩

/-- ff00::/8 -/
def multicast : Cidr 128 := ⟨0xff00 <<< 112, 8⟩

/-- ::ffff:0:0/96 -/
def v4Mapped : Cidr 128 := ⟨0xffff <<< 32, 96⟩

/-- An IPv4-mapped address whose IPv4 address is internal. -/
def MappedInternal (ip : BitVec 128) : Prop := v4Mapped.Contains ip ∧ InternalV4 (ip.setWidth 32)

def InternalV6 (ip : BitVec 128) : Prop :=
  unspecified.Contains ip ∨ loopback.Contains ip ∨ linkLocal.Contains ip ∨ uniqueLocal.Contains ip ∨
    multicast.Contains ip ∨ MappedInternal ip

/-- The address that a text names. -/
def addressOf (ip : List Char) : Option Address :=
  match parseIPv4 ip with
  | some address => some (.v4 address)
  | none => (parseIPv6 (toLowerCase ip)).map .v6

/-- A text that names an internal address. -/
def Internal (ip : List Char) : Prop :=
  match addressOf ip with
  | some (.v4 address) => InternalV4 address
  | some (.v6 address) => InternalV6 address
  | none => False

/-- The IPv4 address that is read at the end of an IPv6 text. -/
def embedded (lower : List Char) : Option (List Char) :=
  (mapped lower).or ((mappedHex lower).map dottedGroups)

/-- The link-local addresses that begin with fe80. -/
def linkLocalRead : Cidr 128 := ⟨0xfe80 <<< 112, 16⟩

/-- A text that names an internal address and passes: one of fe80::/10 that does not begin with fe80,
or `::`, `::1` or an IPv4-mapped address not spelled so, and no internal IPv4 address is read at its
end. -/
def Overlooked (ip : List Char) : Prop :=
  match addressOf ip with
  | some (.v6 address) =>
    ((linkLocal.Contains address ∧ ¬linkLocalRead.Contains address) ∨ unspecified.Contains address ∨
        loopback.Contains address ∨ MappedInternal address) ∧
      toLowerCase ip ≠ "::1".toList ∧ toLowerCase ip ≠ "::".toList ∧
        (embedded (toLowerCase ip)).all (fun v4 => !isBlockedV4 v4) = true
  | _ => False

/-! ## The IPv4 check -/

theorem shiftLeft_or_ofNat (n : Nat) {o : Nat} (ho : o < 256) :
    BitVec.ofNat 32 n <<< 8 ||| BitVec.ofNat 32 o = BitVec.ofNat 32 (n * 256 + o) := by
  refine BitVec.eq_of_toNat_eq ?_
  have hsmall : o % 2 ^ 32 = o := Nat.mod_eq_of_lt (ho.trans (by decide))
  have hshift : (n % 2 ^ 32) <<< 8 % 2 ^ 32 = (n % 2 ^ 24) <<< 8 := by
    rw [Nat.shiftLeft_eq, Nat.shiftLeft_eq]
    omega
  rw [BitVec.toNat_or, BitVec.toNat_shiftLeft, BitVec.toNat_ofNat, BitVec.toNat_ofNat, hsmall, hshift,
    ← Nat.shiftLeft_add_eq_or_of_lt (i := 8) ho, BitVec.toNat_ofNat, Nat.shiftLeft_eq]
  omega

theorem addPart_of_octet (n : Nat) {part : List Char} {o : Nat} (h : parseOctet part = some o) :
    addPart (BitVec.ofNat 32 n) part = some (BitVec.ofNat 32 (n * 256 + o)) := by
  obtain ⟨hdigits, hvalue, hlt⟩ := parseOctet_eq_some h
  rw [addPart, numberOf, if_pos hdigits, hvalue]
  dsimp only
  rw [if_neg (Nat.not_lt.mpr (Nat.lt_succ_iff.mp hlt)), shiftLeft_or_ofNat n hlt]

/-- On addresses `ipv4ToInt` is their number. -/
theorem ipv4ToInt_of_parseIPv4 {ip : List Char} {address : BitVec 32}
    (h : parseIPv4 ip = some address) : ipv4ToInt ip = some address := by
  obtain ⟨a, b, c, d, a', b', c', d', hsplit, ha, hb, hc, hd, rfl⟩ := parseIPv4_eq_some h
  rw [ipv4ToInt, hsplit]
  have hstart : (0 : BitVec 32) = BitVec.ofNat 32 0 := rfl
  simp only [List.length_cons, List.length_nil, ne_eq, not_true_eq_false, if_false, List.foldlM_cons,
    hstart, addPart_of_octet _ ha, addPart_of_octet _ hb, addPart_of_octet _ hc,
    addPart_of_octet _ hd, Option.bind_eq_bind, Option.bind_some, List.foldlM_nil]
  have hvalue : ofDigits 256 [a, b, c, d] = (((0 * 256 + a) * 256 + b) * 256 + c) * 256 + d := by
    simp [ofDigits, Nat.ofDigits]
    ring
  rw [hvalue]
  rfl

/-- The table spells the ranges. -/
theorem blocked_v4_cidrs_eq :
    BLOCKED_V4_CIDRS.map (fun (base, bits) => (⟨(ipv4ToInt base.toList).getD 0, bits⟩ : Cidr 32)) =
      internalV4Ranges := by
  decide +kernel

/-- The IPv4 check is the range test. -/
theorem isBlockedV4_iff {ip : List Char} {address : BitVec 32} (h : parseIPv4 ip = some address) :
    isBlockedV4 ip = true ↔ InternalV4 address := by
  rw [isBlockedV4, ipv4ToInt_of_parseIPv4 h, InternalV4, ← blocked_v4_cidrs_eq]
  dsimp only
  simp only [List.any_eq_true, List.mem_map, exists_exists_and_eq_and]
  refine exists_congr fun entry => and_congr_right fun _ => ?_
  obtain ⟨base, bits⟩ := entry
  have hmask : (if bits = 0 then 0 else BitVec.allOnes 32 <<< (32 - bits)) = Cidr.mask 32 bits := by
    split
    · rename_i hzero
      rw [hzero]
      rfl
    · rfl
  dsimp only
  rw [hmask, beq_iff_eq, Cidr.and_mask_eq_iff]
  rfl

/-! ## How an IPv6 text begins -/

section First

variable {first rest : List Char}

/-- A group that begins with two given digits. -/
theorem first_of_startsWith {c d : Char} (hc : c ≠ ':') (hd : d ≠ ':')
    (h : [c, d].isPrefixOf (first ++ ':' :: rest) = true) : ∃ more, first = c :: d :: more := by
  match first, h with
  | [], h => simp [List.isPrefixOf, hc] at h
  | [_], h => simp [List.isPrefixOf, hd] at h
  | c' :: d' :: more, h =>
    simp only [List.cons_append, List.isPrefixOf, Bool.and_eq_true, beq_iff_eq] at h
    exact ⟨more, by rw [h.1, h.2.1]⟩

/-- Its first two digits, and what is left. -/
theorem hexValue_of_two {c d : Char} {more : List Char} (hmore : more.all isHex = true)
    (hshort : more.length ≤ 2) :
    ∃ r, (hexValue (c :: d :: more) = 16 * hexDigits.idxOf c + hexDigits.idxOf d + r ∧ r < 1) ∨
      (hexValue (c :: d :: more) = 256 * hexDigits.idxOf c + 16 * hexDigits.idxOf d + r ∧ r < 16) ∨
      (hexValue (c :: d :: more) = 4096 * hexDigits.idxOf c + 256 * hexDigits.idxOf d + r ∧ r < 256) := by
  have hlt := hexValue_lt hmore
  refine ⟨hexValue more, ?_⟩
  rw [hexValue_cons, hexValue_cons, List.length_cons]
  match more, hshort, hlt with
  | [], _, hlt =>
    refine Or.inl ⟨?_, hlt⟩
    simp only [List.length_nil]
    omega
  | [_], _, hlt =>
    refine Or.inr (Or.inl ⟨?_, hlt⟩)
    simp only [List.length_cons, List.length_nil]
    omega
  | [_, _], _, hlt =>
    refine Or.inr (Or.inr ⟨?_, hlt⟩)
    simp only [List.length_cons, List.length_nil]
    omega

/-- A text whose first group is zero, or is from fe80 to febf, does not begin with `fc`, `fd` or `ff`. -/
theorem not_startsWith_two {d : Char} (hhex : first.all isHex = true) (hshort : first.length ≤ 4)
    (hd : d ∈ ['c', 'd', 'f']) (hfirst : hexValue first = 0 ∨ hexValue first / 64 = 0x3fa) :
    ['f', d].isPrefixOf (first ++ ':' :: rest) = false := by
  by_contra h
  have hcolon : d ≠ ':' := by
    rintro rfl
    exact absurd hd (by decide)
  obtain ⟨more, rfl⟩ := first_of_startsWith (by decide) hcolon (Bool.eq_true_of_not_eq_false h)
  simp only [List.all_cons, Bool.and_eq_true] at hhex
  obtain ⟨r, hvalue⟩ := hexValue_of_two (c := 'f') (d := d) hhex.2.2
    (Nat.le_of_add_le_add_right (b := 2) hshort)
  have hf : hexDigits.idxOf 'f' = 15 := by decide
  have hidx : hexDigits.idxOf d = 12 ∨ hexDigits.idxOf d = 13 ∨ hexDigits.idxOf d = 15 := by
    simp only [List.mem_cons, List.not_mem_nil, or_false] at hd
    rcases hd with rfl | rfl | rfl
    · exact Or.inl (by decide)
    · exact Or.inr (Or.inl (by decide))
    · exact Or.inr (Or.inr (by decide))
  omega

/-- The text begins with `fe80:` exactly when its first group is fe80. -/
theorem startsWith_fe80_iff (rest : List Char) (hhex : first.all isHex = true)
    (hshort : first.length ≤ 4) :
    startsWith "fe80:" (first ++ ':' :: rest) = true ↔ hexValue first = 0xfe80 := by
  constructor
  · intro h
    have hstart : ['f', 'e', '8', '0', ':'].isPrefixOf (first ++ ':' :: rest) = true := h
    match first, hshort, hstart with
    | [], _, h | [_], _, h | [_, _], _, h | [_, _, _], _, h => simp [List.isPrefixOf] at h
    | [c, d, e, f], _, h =>
      simp only [List.cons_append, List.isPrefixOf, Bool.and_eq_true, beq_iff_eq] at h
      obtain ⟨rfl, rfl, rfl, rfl, -⟩ := h
      decide
  · intro h
    obtain ⟨c, d, e, f, rfl, hc, hd, he, hf, hvalue⟩ := four_digits hhex hshort (by omega)
    have hcl := idxOf_lt_of_isHex hc
    have hdl := idxOf_lt_of_isHex hd
    have hel := idxOf_lt_of_isHex he
    have hfl := idxOf_lt_of_isHex hf
    obtain rfl : c = 'f' := eq_of_idxOf_hex hc (show _ = 15 by omega)
    obtain rfl : d = 'e' := eq_of_idxOf_hex hd (show _ = 14 by omega)
    obtain rfl : e = '8' := eq_of_idxOf_hex he (show _ = 8 by omega)
    obtain rfl : f = '0' := eq_of_idxOf_hex hf (show _ = 0 by omega)
    rfl

/-- A first group from f000 on is written with the two digits it begins with. -/
theorem startsWith_of_first {d : Char} (hhex : first.all isHex = true) (hshort : first.length ≤ 4)
    (h : hexValue first / 256 = 240 + hexDigits.idxOf d) :
    ['f', d].isPrefixOf (first ++ ':' :: rest) = true := by
  obtain ⟨c, d', e, f, rfl, hc, hd, he, hf, hvalue⟩ := four_digits hhex hshort (by omega)
  have hcl := idxOf_lt_of_isHex hc
  have hdl := idxOf_lt_of_isHex hd
  have hel := idxOf_lt_of_isHex he
  have hfl := idxOf_lt_of_isHex hf
  have hvaluelt := hexValue_lt hhex
  have hlength : [c, d', e, f].length = 4 := rfl
  rw [hlength] at hvaluelt
  obtain rfl : c = 'f' := eq_of_idxOf_hex hc (show _ = 15 by omega)
  obtain rfl : d' = d := eq_of_idxOf_hex hd (by omega)
  simp [List.isPrefixOf]

end First

/-! ## The IPv6 check -/

section Ranges

variable {ip : BitVec 128}

theorem linkLocal_contains_iff : linkLocal.Contains ip ↔ ip.toNat / 2 ^ 112 / 64 = 0x3fa := by
  rw [Nat.div_div_eq_div_mul]
  exact Iff.rfl

theorem linkLocalRead_contains_iff : linkLocalRead.Contains ip ↔ ip.toNat / 2 ^ 112 = 0xfe80 := Iff.rfl

theorem uniqueLocal_contains_iff : uniqueLocal.Contains ip ↔ ip.toNat / 2 ^ 112 / 512 = 0x7e := by
  rw [Nat.div_div_eq_div_mul]
  exact Iff.rfl

theorem multicast_contains_iff : multicast.Contains ip ↔ ip.toNat / 2 ^ 112 / 256 = 0xff := by
  rw [Nat.div_div_eq_div_mul]
  exact Iff.rfl

/-- The addresses that are checked by spelling have a first group of zero. -/
theorem first_eq_zero (h : unspecified.Contains ip ∨ loopback.Contains ip ∨ MappedInternal ip) :
    ip.toNat / 2 ^ 112 = 0 := by
  rcases h with h | h | ⟨h, -⟩
  · have hvalue : ip.toNat / 1 = 0 := h
    omega
  · have hvalue : ip.toNat / 1 = 1 := h
    omega
  · have hvalue : ip.toNat / 2 ^ 32 = 0xffff := h
    omega

end Ranges

/-- What passes the IPv6 check. -/
theorem isBlockedV6_eq_false_iff {ip : List Char} : isBlockedV6 ip = false ↔
    (toLowerCase ip ≠ "::1".toList ∧ toLowerCase ip ≠ "::".toList ∧
        (embedded (toLowerCase ip)).all (fun v4 => !isBlockedV4 v4) = true) ∧
      startsWith "fe80:" (toLowerCase ip) = false ∧ startsWith "fc" (toLowerCase ip) = false ∧
        startsWith "fd" (toLowerCase ip) = false ∧ startsWith "ff" (toLowerCase ip) = false := by
  have hlonger : startsWith "fe80::" (toLowerCase ip) = true → startsWith "fe80:" (toLowerCase ip) = true := by
    intro h
    have hlong : "fe80::".toList <+: toLowerCase ip := List.isPrefixOf_iff_prefix.mp h
    exact List.isPrefixOf_iff_prefix.mpr ((List.prefix_append "fe80:".toList [':']).trans hlong)
  have hembedded : (embedded (toLowerCase ip)).all (fun v4 => !isBlockedV4 v4) = true ↔
      (match mapped (toLowerCase ip) with
        | some v4 => isBlockedV4 v4
        | none =>
          match mappedHex (toLowerCase ip) with
          | some hex => isBlockedV4 (dottedGroups hex)
          | none => false) = false := by
    unfold embedded
    cases mapped (toLowerCase ip) with
    | some v4 => simp
    | none => cases mappedHex (toLowerCase ip) <;> simp
  unfold isBlockedV6
  dsimp only
  generalize toLowerCase ip = lower at *
  rw [hembedded]
  split
  · rename_i hspelled
    refine iff_of_false Bool.noConfusion ?_
    rintro ⟨⟨hloop, hany, -⟩, -⟩
    exact hspelled.elim hloop hany
  · rename_i hspelled
    obtain ⟨hloop, hany⟩ := not_or.mp hspelled
    cases hfe : startsWith "fe80:" lower with
    | true => exact iff_of_false (by simp) (by simp)
    | false =>
      have hfe' : startsWith "fe80::" lower = false :=
        Bool.eq_false_iff.mpr fun h => Bool.noConfusion (hfe.symm.trans (hlonger h))
      rw [hfe']
      cases startsWith "fc" lower with
      | true => exact iff_of_false (by simp) (by simp)
      | false =>
        cases startsWith "fd" lower with
        | true => exact iff_of_false (by simp) (by simp)
        | false =>
          cases startsWith "ff" lower with
          | true => exact iff_of_false (by simp) (by simp)
          | false =>
            simp only [Bool.or_false, Bool.false_eq_true, if_false, and_true]
            exact ⟨fun h => ⟨hloop, hany, h⟩, fun h => h.2.2⟩

/-- The texts of internal addresses that pass are the overlooked ones. -/
theorem overlooked_iff {ip : List Char} : Overlooked ip ↔ isBlockedIP ip = false ∧ Internal ip := by
  unfold Overlooked Internal isBlockedIP addressOf isIPv4 isIPv6
  cases hv4 : parseIPv4 ip with
  | some address =>
    refine iff_of_false not_false ?_
    rintro ⟨hpasses, hinternal⟩
    rw [Option.isSome_some, if_pos rfl, Bool.eq_false_iff] at hpasses
    exact hpasses ((isBlockedV4_iff hv4).mpr hinternal)
  | none =>
    cases hv6 : parseIPv6 (toLowerCase ip) with
    | none => exact iff_of_false not_false fun h => h.2
    | some address =>
      obtain ⟨first, rest, htext, hhex, hshort, hfirst⟩ := parseIPv6_first hv6
      have hfe := startsWith_fe80_iff rest hhex hshort
      have htwo : ∀ d ∈ ['c', 'd', 'f'],
          hexValue first = 0 ∨ hexValue first / 64 = 0x3fa →
            ['f', d].isPrefixOf (first ++ ':' :: rest) = false :=
        fun d hd => not_startsWith_two hhex hshort hd
      have hlead : ∀ d, hexValue first / 256 = 240 + hexDigits.idxOf d →
          ['f', d].isPrefixOf (first ++ ':' :: rest) = true :=
        fun d => startsWith_of_first hhex hshort
      simp only [Option.map_some, Option.isSome_none, Option.isSome_some, if_true,
        Bool.false_eq_true, if_false, isBlockedV6_eq_false_iff]
      rw [← htext] at hfe htwo hlead
      constructor
      · rintro ⟨hkind, hspelled⟩
        have hzero : hexValue first = 0 ∨ hexValue first / 64 = 0x3fa := by
          rw [← hfirst]
          rcases hkind with ⟨hlocal, -⟩ | hother
          · exact Or.inr (linkLocal_contains_iff.mp hlocal)
          · exact Or.inl (first_eq_zero hother)
        have hne : hexValue first ≠ 0xfe80 := by
          rw [← hfirst]
          rcases hkind with ⟨-, hread⟩ | hother
          · exact fun h => hread (linkLocalRead_contains_iff.mpr h)
          · rw [first_eq_zero hother]
            decide
        refine ⟨⟨hspelled, ?_, htwo 'c' (by decide) hzero, htwo 'd' (by decide) hzero,
          htwo 'f' (by decide) hzero⟩, ?_⟩
        · rw [Bool.eq_false_iff, Ne, hfe]
          exact hne
        · rcases hkind with ⟨hlocal, -⟩ | hunspecified | hloopback | hmapped
          · exact Or.inr (Or.inr (Or.inl hlocal))
          · exact Or.inl hunspecified
          · exact Or.inr (Or.inl hloopback)
          · exact Or.inr (Or.inr (Or.inr (Or.inr (Or.inr hmapped))))
      · rintro ⟨⟨hspelled, hfe80, hfc, hfd, hff⟩, hinternal⟩
        refine ⟨?_, hspelled⟩
        rcases hinternal with hunspecified | hloopback | hlocal | hunique | hmulticast | hmapped
        · exact Or.inr (Or.inl hunspecified)
        · exact Or.inr (Or.inr (Or.inl hloopback))
        · refine Or.inl ⟨hlocal, fun hread => ?_⟩
          rw [linkLocalRead_contains_iff, hfirst] at hread
          exact Bool.noConfusion ((hfe.mpr hread).symm.trans hfe80)
        · rw [uniqueLocal_contains_iff, hfirst] at hunique
          obtain hc | hd : hexValue first / 256 = 252 ∨ hexValue first / 256 = 253 := by omega
          · exact Bool.noConfusion ((hlead 'c' hc).symm.trans hfc)
          · exact Bool.noConfusion ((hlead 'd' hd).symm.trans hfd)
        · rw [multicast_contains_iff, hfirst] at hmulticast
          exact Bool.noConfusion ((hlead 'f' hmulticast).symm.trans hff)
        · exact Or.inr (Or.inr (Or.inr hmapped))

/-! ## Accepted URLs -/

namespace Network

variable {net : Network} {url : String}

theorem assertSafeWebhookUrl_eq_ok_iff : net.assertSafeWebhookUrl url = .ok () ↔
    ∃ parsed, net.parseUrl url = some parsed ∧ parsed.protocol = "https:" ∧ net.addresses url ≠ [] ∧
      ∀ ip ∈ net.addresses url, isBlockedIP ip.toList = false := by
  unfold assertSafeWebhookUrl addresses
  cases net.parseUrl url with
  | none => exact iff_of_false (fun h => nomatch h) (by simp)
  | some parsed =>
    simp only [Option.some.injEq, exists_eq_left']
    by_cases hprotocol : parsed.protocol = "https:"
    · rw [if_neg (not_not.mpr hprotocol)]
      cases isIP parsed.hostname.toList with
      | true => cases hblocked : isBlockedIP parsed.hostname.toList <;> simp [hblocked, hprotocol]
      | false =>
        simp only [Bool.false_eq_true, if_false]
        by_cases hresolved : net.resolved parsed.hostname = []
        · rw [if_pos hresolved]
          exact iff_of_false (fun h => nomatch h) fun h => h.2.1 hresolved
        · rw [if_neg hresolved]
          split
          · rename_i hany
            refine iff_of_false (fun h => nomatch h) ?_
            rintro ⟨-, -, hpublic⟩
            obtain ⟨ip, hip, hblocked⟩ := List.any_eq_true.mp hany
            exact Bool.noConfusion ((hpublic ip hip).symm.trans hblocked)
          · rename_i hnone
            refine iff_of_true rfl ⟨hprotocol, hresolved, fun ip hip => ?_⟩
            rw [Bool.eq_false_iff]
            exact fun hblocked => hnone (List.any_eq_true.mpr ⟨ip, hip, hblocked⟩)
    · rw [if_pos hprotocol]
      exact iff_of_false (fun h => nomatch h) fun h => hprotocol h.1

/-- The URL is refused for its protocol or for an address that is seen, or it has no address that is
overlooked. -/
def Seen (net : Network) (url : String) : Prop :=
  (∀ parsed, net.parseUrl url = some parsed → parsed.protocol ≠ "https:") ∨
    (∃ ip ∈ net.addresses url, isBlockedIP ip.toList = true) ∨
      ∀ ip ∈ net.addresses url, ¬Overlooked ip.toList

/-- **If a URL is accepted none of its addresses is internal: this holds exactly where one of its
addresses is refused, or the URL is, or none of its addresses is overlooked.** -/
theorem accepted_outside_iff :
    (net.assertSafeWebhookUrl url = .ok () → ∀ ip ∈ net.addresses url, ¬Internal ip.toList) ↔
      net.Seen url := by
  rw [assertSafeWebhookUrl_eq_ok_iff, Seen]
  constructor
  · intro h
    refine or_iff_not_imp_left.mpr fun hhttps => or_iff_not_imp_left.mpr fun hrefused => ?_
    intro ip hip hoverlooked
    push Not at hhttps
    obtain ⟨parsed, hparsed, hprotocol⟩ := hhttps
    have hpublic : ∀ ip ∈ net.addresses url, isBlockedIP ip.toList = false := by
      intro ip hip
      rw [Bool.eq_false_iff]
      exact fun hblocked => hrefused ⟨ip, hip, hblocked⟩
    exact h ⟨parsed, hparsed, hprotocol, List.ne_nil_of_mem hip, hpublic⟩ ip hip
      (overlooked_iff.mp hoverlooked).2
  · rintro hseen ⟨parsed, hparsed, hprotocol, -, hpublic⟩ ip hip hinternal
    rcases hseen with hhttps | ⟨ip', hip', hblocked⟩ | hnone
    · exact hhttps parsed hparsed hprotocol
    · exact Bool.noConfusion ((hpublic ip' hip').symm.trans hblocked)
    · exact hnone ip hip (overlooked_iff.mpr ⟨hpublic ip hip, hinternal⟩)

end Network

/-- A host with one IPv6 address, which is link-local. -/
def linkLocalHost : Network where
  parseUrl := fun _ => some ⟨"https:", "hooks.example.mg"⟩
  resolve4 := fun _ => .rejected
  resolve6 := fun _ => .addresses ["fe90::1"]

/-- fe90::1 is link-local, and its URL is accepted. -/
theorem linkLocalHost_accepted :
    linkLocalHost.assertSafeWebhookUrl "https://hooks.example.mg/delivery" = .ok () ∧
      ∃ ip ∈ linkLocalHost.addresses "https://hooks.example.mg/delivery", Internal ip.toList := by
  refine ⟨by decide +kernel, "fe90::1", by decide +kernel, ?_⟩
  have haddress : addressOf "fe90::1".toList = some (.v6 (0xfe90 <<< 112 ||| 1)) := by decide +kernel
  rw [Internal, haddress]
  exact Or.inr (Or.inr (Or.inl (by decide +kernel)))

/-! ## IPv4-mapped addresses as resolvers spell them -/

theorem toLowerCase_mapped (os : List Nat) :
    toLowerCase ("::ffff:".toList ++ dotted os) = "::ffff:".toList ++ dotted os := by
  have hdotted : (dotted os).map Char.toLower = dotted os := by
    refine (List.map_congr_left fun c hc => ?_).trans (List.map_id _)
    rcases mem_dotted hc with hdigit | rfl
    · exact Text.toLower_of_isDigit hdigit
    · rfl
  rw [toLowerCase, List.map_append, hdotted]
  rfl

theorem isDotted_dotted (a b c d : Nat) : isDotted (dotted [a, b, c, d]) = true := by
  have hpart : ∀ n, Nat.toDigits 10 n ≠ [] ∧ (Nat.toDigits 10 n).all Char.isDigit = true := by
    intro n
    refine ⟨Nat.toDigits_ne_nil, List.all_eq_true.mpr fun c hc => ?_⟩
    exact Nat.isDigit_of_mem_toDigits (by decide) (by decide) hc
  rw [isDotted, splitOn_dotted (List.cons_ne_nil _ _)]
  simp only [List.map_cons, List.map_nil, List.all_cons, List.all_nil, hpart, ne_eq,
    not_false_eq_true, decide_true, Bool.and_true, List.length_cons, List.length_nil]

theorem mapped_dotted (a b c d : Nat) :
    mapped ("::ffff:".toList ++ dotted [a, b, c, d]) = some (dotted [a, b, c, d]) := by
  have hafter : after "::ffff:" ("::ffff:".toList ++ dotted [a, b, c, d]) =
      some (dotted [a, b, c, d]) := rfl
  have htails : ("::ffff:".toList ++ dotted [a, b, c, d]).tails =
      ("::ffff:".toList ++ dotted [a, b, c, d]) ::
        (":ffff:".toList ++ dotted [a, b, c, d]).tails := rfl
  rw [mapped, htails, List.findSome?_cons, hafter, Option.filter_some_pos (isDotted_dotted a b c d)]
  rfl

/-- An IPv4-mapped address spelled `::ffff:d.d.d.d` is not overlooked. -/
theorem not_overlooked_mapped {a b c d : Nat} (ha : a < 256) (hb : b < 256) (hc : c < 256)
    (hd : d < 256) : ¬Overlooked ("::ffff:".toList ++ dotted [a, b, c, d]) := by
  have hv4 := parseIPv4_dotted ha hb hc hd
  generalize BitVec.ofNat 32 (ofDigits 256 [a, b, c, d]) = ip at hv4
  have hlt := ip.isLt
  have hvalue : (BitVec.ofNat 128 (0xffff * 2 ^ 32 + ip.toNat)).toNat = 0xffff * 2 ^ 32 + ip.toNat :=
    Nat.mod_eq_of_lt (by omega)
  intro hoverlooked
  unfold Overlooked addressOf at hoverlooked
  cases hnot : parseIPv4 ("::ffff:".toList ++ dotted [a, b, c, d]) with
  | some address =>
    rw [hnot] at hoverlooked
    exact hoverlooked
  | none =>
    rw [hnot, toLowerCase_mapped, parseIPv6_mapped hv4] at hoverlooked
    obtain ⟨hkind, -, -, hembedded⟩ := hoverlooked
    rw [embedded, mapped_dotted, Option.some_or, Option.all_some, Bool.not_eq_true'] at hembedded
    have hpublic : ¬InternalV4 ip := fun h => by
      rw [(isBlockedV4_iff hv4).mpr h] at hembedded
      cases hembedded
    rcases hkind with ⟨hlocal, -⟩ | hzero | hone | ⟨-, hmapped⟩
    · rw [linkLocal_contains_iff, hvalue] at hlocal
      omega
    · have hzero : (BitVec.ofNat 128 (0xffff * 2 ^ 32 + ip.toNat)).toNat / 1 = 0 := hzero
      omega
    · have hone : (BitVec.ofNat 128 (0xffff * 2 ^ 32 + ip.toNat)).toNat / 1 = 1 := hone
      omega
    · have hwidth : (BitVec.ofNat 128 (0xffff * 2 ^ 32 + ip.toNat)).setWidth 32 = ip := by
        refine BitVec.eq_of_toNat_eq ?_
        rw [BitVec.toNat_setWidth, hvalue]
        omega
      exact hpublic (hwidth ▸ hmapped)

end DeliveryTracking.Webhooks
