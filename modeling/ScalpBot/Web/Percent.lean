import ScalpBot.Text.Digits

/-!
# Percent encoding

A byte that may not stand in an address or a form is written as `%` and two hexadecimal digits.
`Percent.decode` gives the bytes that a text stands for; a `%` without two such digits stands for
itself. Main statement: `decode_encodeByte`, a byte that is written so is read back.
-/

namespace ScalpBot.Percent

/-- A byte as `%` and two digits. -/
def encodeByte (b : UInt8) : List Char :=
  let digit (n : Nat) : Char := (Nat.digitChar n).toUpper
  ['%', digit (b.toNat / 16), digit (b.toNat % 16)]

/-- The bytes that a text stands for. -/
def decode : List Char → List UInt8
  | '%' :: a :: b :: rest =>
    match hexValue? a, hexValue? b with
    | some a, some b => UInt8.ofNat (a * 16 + b) :: decode rest
    | _, _ => 0x25 :: decode (a :: b :: rest)
  | c :: rest => String.utf8EncodeChar c ++ decode rest
  | [] => []

/-- A digit is read back. -/
theorem hexValue?_digit {n : Nat} (h : n < 16) : hexValue? (Nat.digitChar n).toUpper = some n := by
  have all : ∀ n : Fin 16, hexValue? (Nat.digitChar n).toUpper = some n.val := by decide
  exact all ⟨n, h⟩

/-- A byte that is written with `%` is read back. -/
theorem decode_encodeByte (b : UInt8) (rest : List Char) :
    decode (encodeByte b ++ rest) = b :: decode rest := by
  have hb : b.toNat < 256 := b.toNat_lt
  have hi : b.toNat / 16 < 16 := by omega
  have lo : b.toNat % 16 < 16 := by omega
  simp [encodeByte, decode, hexValue?_digit hi, hexValue?_digit lo, Nat.div_add_mod']

end ScalpBot.Percent
