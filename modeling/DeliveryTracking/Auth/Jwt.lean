/-
# `DeliveryTracking.Auth.Jwt` — the bytes of a refresh token

`generateTokens` signs a payload whose first field is `sub`, the user id:

    base64url({"alg":"HS256","typ":"JWT"}) . base64url({"sub":"…","email":…}) . signature

bcrypt reads at most the first 72 bytes of what it hashes.  The header and the
dot take 37 of them; the 35 left are base64url digits of the first 27 bytes of
the payload, which end inside the `sub` field.  So two refresh tokens of one
user agree on everything bcrypt reads: `Jwt.prefix72`.
-/
import Mathlib.Data.List.Basic

namespace DeliveryTracking.Auth

/-! ## base64url -/

/-- The base64url alphabet (`A`–`Z`, `a`–`z`, `0`–`9`, `-`, `_`), as ASCII codes. -/
def base64urlDigit (n : Nat) : UInt8 :=
  if n < 26 then UInt8.ofNat (65 + n)
  else if n < 52 then UInt8.ofNat (97 + (n - 26))
  else if n < 62 then UInt8.ofNat (48 + (n - 52))
  else if n = 62 then 45 else 95

/-- base64url without padding: three bytes give four digits. -/
def base64url : List UInt8 → List UInt8
  | [] => []
  | [a] => [base64urlDigit (a.toNat / 4), base64urlDigit (a.toNat % 4 * 16)]
  | [a, b] =>
      [base64urlDigit (a.toNat / 4), base64urlDigit (a.toNat % 4 * 16 + b.toNat / 16),
       base64urlDigit (b.toNat % 16 * 4)]
  | a :: b :: c :: rest =>
      base64urlDigit (a.toNat / 4) :: base64urlDigit (a.toNat % 4 * 16 + b.toNat / 16) ::
      base64urlDigit (b.toNat % 16 * 4 + c.toNat / 64) :: base64urlDigit (c.toNat % 64) ::
      base64url rest

/-- Whole groups of three bytes are encoded on their own. -/
theorem base64url_append : ∀ (n : Nat) (xs ys : List UInt8), xs.length = 3 * n →
    base64url (xs ++ ys) = base64url xs ++ base64url ys
  | 0, [], ys, _ => rfl
  | _ + 1, [], _, h => by simp at h
  | _ + 1, [_], _, h => by simp at h; omega
  | _ + 1, [_, _], _, h => by simp at h; omega
  | n + 1, _ :: _ :: _ :: xs, ys, h => by
      have hxs : xs.length = 3 * n := by simp at h; omega
      simp only [List.cons_append, base64url, base64url_append n xs ys hxs]

theorem base64url_length : ∀ (n : Nat) (xs : List UInt8), xs.length = 3 * n →
    (base64url xs).length = 4 * n
  | 0, [], _ => rfl
  | _ + 1, [], h => by simp at h
  | _ + 1, [_], h => by simp at h; omega
  | _ + 1, [_, _], h => by simp at h; omega
  | n + 1, _ :: _ :: _ :: xs, h => by
      have hxs : xs.length = 3 * n := by simp at h; omega
      simp only [base64url, List.length_cons, base64url_length n xs hxs]
      omega

/-- The first `4 * n` digits are those of the first `3 * n` bytes. -/
theorem base64url_take (n : Nat) (xs : List UInt8) (h : 3 * n ≤ xs.length) :
    (base64url xs).take (4 * n) = base64url (xs.take (3 * n)) := by
  have hlen : (xs.take (3 * n)).length = 3 * n := by simp [h]
  conv_lhs => rw [← List.take_append_drop (3 * n) xs, base64url_append n _ _ hlen]
  exact List.take_left' (base64url_length n _ hlen)

theorem base64url_length_ge (n : Nat) (xs : List UInt8) (h : 3 * n ≤ xs.length) :
    4 * n ≤ (base64url xs).length := by
  have hlen : (xs.take (3 * n)).length = 3 * n := by simp [h]
  rw [← List.take_append_drop (3 * n) xs, base64url_append n _ _ hlen, List.length_append,
    base64url_length n _ hlen]
  omega

/-! ## `JSON.stringify` of the payload -/

/-- The UTF-8 bytes of a text. -/
def utf8 (cs : List Char) : List UInt8 := cs.flatMap String.utf8EncodeChar

theorem utf8_append (cs ds : List Char) : utf8 (cs ++ ds) = utf8 cs ++ utf8 ds :=
  List.flatMap_append

theorem length_le_utf8 (cs : List Char) : cs.length ≤ (utf8 cs).length := by
  induction cs with
  | nil => exact Nat.le_refl _
  | cons c cs ih =>
      have hc : 0 < c.utf8Size := Char.utf8Size_pos c
      simp only [utf8, List.flatMap_cons, List.length_append, List.length_cons,
        String.length_utf8EncodeChar] at ih ⊢
      omega

def hexDigit (n : Nat) : Char := if n < 10 then Char.ofNat (48 + n) else Char.ofNat (87 + n)

/-- The escapes of `JSON.stringify` inside a string. -/
def jsonEscape (c : Char) : List Char :=
  if c = '"' then ['\\', '"']
  else if c = '\\' then ['\\', '\\']
  else if c.toNat = 8 then ['\\', 'b']
  else if c.toNat = 9 then ['\\', 't']
  else if c.toNat = 10 then ['\\', 'n']
  else if c.toNat = 12 then ['\\', 'f']
  else if c.toNat = 13 then ['\\', 'r']
  else if c.toNat < 32 then ['\\', 'u', '0', '0', hexDigit (c.toNat / 16), hexDigit (c.toNat % 16)]
  else [c]

theorem jsonEscape_ne_nil (c : Char) : 0 < (jsonEscape c).length := by
  unfold jsonEscape
  repeat' split
  all_goals simp

/-- A JSON string literal. -/
def jsonString (s : String) : List Char := '"' :: s.toList.flatMap jsonEscape ++ ['"']

theorem length_le_flatMap_jsonEscape (cs : List Char) :
    cs.length ≤ (cs.flatMap jsonEscape).length := by
  induction cs with
  | nil => exact Nat.le_refl _
  | cons c cs ih =>
      have hc := jsonEscape_ne_nil c
      simp only [List.flatMap_cons, List.length_append, List.length_cons]
      omega

theorem length_jsonString (s : String) : s.length + 2 ≤ (jsonString s).length := by
  have h := length_le_flatMap_jsonEscape s.toList
  simp only [String.length_toList] at h
  simp only [jsonString, List.cons_append, List.length_cons, List.length_append, List.length_nil]
  omega

/-- `JwtPayload`, with the `iat` and `exp` the library adds when it signs. -/
structure JwtPayload where
  sub : String
  email : String
  role : String
  companyId : String
  firstName : String
  lastName : String
  sessionId : String
  iat : Nat
  exp : Nat
  deriving DecidableEq, Repr

/-- The fields after `sub`, in the order `generateTokens` writes them. -/
def JwtPayload.tailJson (p : JwtPayload) : List Char :=
  ",\"email\":".toList ++ jsonString p.email ++ ",\"role\":".toList ++ jsonString p.role ++
  ",\"companyId\":".toList ++ jsonString p.companyId ++
  ",\"firstName\":".toList ++ jsonString p.firstName ++
  ",\"lastName\":".toList ++ jsonString p.lastName ++
  ",\"sessionId\":".toList ++ jsonString p.sessionId ++
  ",\"iat\":".toList ++ (toString p.iat).toList ++ ",\"exp\":".toList ++ (toString p.exp).toList ++
  ['}']

/-- The start of the payload up to the end of `sub`. -/
def subJson (sub : String) : List Char := ['{', '"', 's', 'u', 'b', '"', ':'] ++ jsonString sub

def JwtPayload.json (p : JwtPayload) : List Char := subJson p.sub ++ p.tailJson

/-- The header `jsonwebtoken` writes for HS256. -/
def jwtHeader : List Char := "\x7b\"alg\":\"HS256\",\"typ\":\"JWT\"\x7d".toList

/-! ## The token -/

/-- A refresh token as issued: its payload.  `hs256` is the signature function
under `JWT_REFRESH_SECRET`, which no statement looks into. -/
structure Jwt where
  payload : JwtPayload
  deriving DecidableEq, Repr

/-- The bytes `jwtService.sign` returns. -/
def Jwt.bytes (hs256 : List UInt8 → List UInt8) (t : Jwt) : List UInt8 :=
  let signed := base64url (utf8 jwtHeader) ++ [46] ++ base64url (utf8 t.payload.json)
  signed ++ [46] ++ hs256 signed

/-- How many bytes of its input bcrypt reads. -/
def bcryptLimit : Nat := 72

theorem length_header : (base64url (utf8 jwtHeader)).length = 36 := by decide +kernel

theorem length_subJson {sub : String} (h : 18 ≤ sub.length) : 27 ≤ (utf8 (subJson sub)).length := by
  have h₁ := length_jsonString sub
  have h₂ := length_le_utf8 (subJson sub)
  simp only [subJson, List.length_append, List.length_cons, List.length_nil] at h₂ ⊢
  omega

/-- The payload digits bcrypt reads depend on `sub` only. -/
theorem take_payload {p : JwtPayload} (h : 18 ≤ p.sub.length) :
    (base64url (utf8 p.json)).take 35
      = (base64url ((utf8 (subJson p.sub)).take 27)).take 35 := by
  have hsub := length_subJson h
  have hlen : 27 ≤ (utf8 p.json).length := by
    simp only [JwtPayload.json, utf8_append, List.length_append]; omega
  have htake : (utf8 p.json).take 27 = (utf8 (subJson p.sub)).take 27 := by
    rw [JwtPayload.json, utf8_append, List.take_append_of_le_length hsub]
  have h36 := base64url_take 9 (utf8 p.json) hlen
  rw [← htake, ← h36, List.take_take]
  rfl

/-- What bcrypt reads of a token. -/
theorem bytes_take_limit (hs256 : List UInt8 → List UInt8) {t : Jwt}
    (h : 18 ≤ t.payload.sub.length) :
    (t.bytes hs256).take bcryptLimit
      = base64url (utf8 jwtHeader) ++ [46]
          ++ (base64url ((utf8 (subJson t.payload.sub)).take 27)).take 35 := by
  have hsub := length_subJson h
  have hlen : 27 ≤ (utf8 t.payload.json).length := by
    simp only [JwtPayload.json, utf8_append, List.length_append]; omega
  have hge := base64url_length_ge 9 (utf8 t.payload.json) hlen
  have hhead : (base64url (utf8 jwtHeader) ++ [46]).length = 37 := by
    rw [List.length_append, length_header]; rfl
  rw [← take_payload h]
  simp only [Jwt.bytes, bcryptLimit]
  rw [List.append_assoc (_ ++ _) [46], List.append_assoc (_ ++ [46]),
    List.take_append, hhead, List.take_of_length_le (by omega),
    List.take_append_of_le_length (by omega)]

/-- **Two refresh tokens of one user agree on everything bcrypt reads.** -/
theorem Jwt.prefix72 (hs256 : List UInt8 → List UInt8) {t t' : Jwt}
    (hsub : t.payload.sub = t'.payload.sub) (h : 18 ≤ t.payload.sub.length) :
    (t.bytes hs256).take bcryptLimit = (t'.bytes hs256).take bcryptLimit := by
  rw [bytes_take_limit hs256 h, bytes_take_limit hs256 (hsub ▸ h), hsub]

end DeliveryTracking.Auth
