/-
# `DeliveryTracking.Encryption.Service` — encryption at rest

`EncryptionService` keeps a key when one is configured.  A text is stored as
`iv:tag:data`, each part in hexadecimal.  AES-256-GCM under the key is a
parameter: `Aes256Gcm` has its two operations on these parts, and what is known
of them: what was encrypted decrypts, a part has no colon, and the data is not
shorter than the text.
-/
import Mathlib.Data.List.Basic

namespace DeliveryTracking.Encryption

/-- A random initialisation vector, in hexadecimal. -/
structure Iv where
  hex : String
  noColon : ':' ∉ hex.toList

/-- AES-256-GCM under one key: tag and data of a text, and the text of a tag and data. -/
structure Aes256Gcm where
  cipher : String → String → String × String
  decipher : String → String → String → Option String
  noColon : ∀ iv text, ':' ∉ (cipher iv text).1.toList ∧ ':' ∉ (cipher iv text).2.toList
  decipher_cipher : ∀ iv text, decipher iv (cipher iv text).1 (cipher iv text).2 = some text
  length_le : ∀ iv text, text.length ≤ (cipher iv text).2.length

/-- The key, when one is configured. -/
structure EncryptionService where
  key : Option Aes256Gcm

def EncryptionService.isEnabled (service : EncryptionService) : Bool := service.key.isSome

/-- `split(':')` -/
def splitColon (s : String) : List String := (s.toList.splitOn ':').map String.ofList

theorem splitColon_of_noColon {s : String} (h : ':' ∉ s.toList) : splitColon s = [s] := by
  rw [splitColon, List.splitOn_eq_singleton h]
  simp

theorem splitColon_append {s : String} (h : ':' ∉ s.toList) (t : String) :
    splitColon (s ++ ":" ++ t) = s :: splitColon t := by
  have hlist : (s ++ ":" ++ t).toList = s.toList ++ ':' :: t.toList := by simp
  rw [splitColon, hlist, List.splitOn_append_cons_self_of_not_mem h]
  simp [splitColon]

namespace Aes256Gcm

variable (aes : Aes256Gcm)

def encrypt (iv : Iv) (plaintext : String) : String :=
  iv.hex ++ ":" ++ ((aes.cipher iv.hex plaintext).1 ++ ":" ++ (aes.cipher iv.hex plaintext).2)

def decrypt (ciphertext : String) : Option String :=
  match splitColon ciphertext with
  | [iv, tag, data] => aes.decipher iv tag data
  | _ => none

/-- **What was encrypted decrypts.** -/
theorem decrypt_encrypt (iv : Iv) (plaintext : String) :
    aes.decrypt (aes.encrypt iv plaintext) = some plaintext := by
  obtain ⟨htag, hdata⟩ := aes.noColon iv.hex plaintext
  have hparts : splitColon (aes.encrypt iv plaintext)
      = [iv.hex, (aes.cipher iv.hex plaintext).1, (aes.cipher iv.hex plaintext).2] := by
    rw [encrypt, splitColon_append iv.noColon, splitColon_append htag, splitColon_of_noColon hdata]
  rw [decrypt, hparts]
  exact aes.decipher_cipher iv.hex plaintext

/-- A text has a colon after its encryption, -/
theorem mem_encrypt (iv : Iv) (plaintext : String) : ':' ∈ (aes.encrypt iv plaintext).toList := by
  simp [encrypt]

/-- and is never the same. -/
theorem encrypt_ne (iv : Iv) (plaintext : String) : aes.encrypt iv plaintext ≠ plaintext := by
  intro h
  have hcolon : ":".length = 1 := rfl
  have hlength : (aes.encrypt iv plaintext).length = iv.hex.length + 1
      + ((aes.cipher iv.hex plaintext).1.length + 1 + (aes.cipher iv.hex plaintext).2.length) := by
    simp [encrypt, hcolon]
  have hle := aes.length_le iv.hex plaintext
  rw [h] at hlength
  omega

end Aes256Gcm

end DeliveryTracking.Encryption
