/-! # Texts as bytes

UTF-8 in the lenient direction: every sequence of bytes can be shown as a text, with a replacement
character for each part that is not well formed.
-/

namespace SchemaMigration.Text

/-- How many continuation bytes follow a leading byte, with the interval that the first of them has
    to lie in. `none` for a byte that starts no character. -/
def leadingByte (b : UInt8) : Option (Nat × UInt8 × UInt8) :=
  if b < 0x80 then some (0, 0x80, 0xBF)
  else if b < 0xC2 then none
  else if b < 0xE0 then some (1, 0x80, 0xBF)
  else if b = 0xE0 then some (2, 0xA0, 0xBF)
  else if b = 0xED then some (2, 0x80, 0x9F)
  else if b < 0xF0 then some (2, 0x80, 0xBF)
  else if b = 0xF0 then some (3, 0x90, 0xBF)
  else if b < 0xF4 then some (3, 0x80, 0xBF)
  else if b = 0xF4 then some (3, 0x80, 0x8F)
  else none

/-- Shows bytes as characters. `pending` holds the bytes of a character that has begun, last byte
    first, `need` how many are still to come and `low`, `high` the interval for the next one. A
    maximal prefix of a character that breaks off is shown as one replacement character. -/
def decodeLenientAux : List UInt8 → (pending : List UInt8) → (need : Nat) → (low high : UInt8) →
    List Char
  | [], pending, _, _, _ => if pending.isEmpty then [] else ['\uFFFD']
  | b :: rest, pending, need, low, high =>
    if !pending.isEmpty && low ≤ b && b ≤ high then
      if need ≤ 1 then
        let bytes := (b :: pending).reverse
        let char := (String.fromUTF8? bytes.toByteArray).map String.toList
        char.getD ['\uFFFD'] ++ decodeLenientAux rest [] 0 0x80 0xBF
      else decodeLenientAux rest (b :: pending) (need - 1) 0x80 0xBF
    else
      (if pending.isEmpty then [] else ['\uFFFD']) ++
        match leadingByte b with
        | none => '\uFFFD' :: decodeLenientAux rest [] 0 0x80 0xBF
        | some (0, _, _) => Char.ofNat b.toNat :: decodeLenientAux rest [] 0 0x80 0xBF
        | some (n + 1, low', high') => decodeLenientAux rest [b] (n + 1) low' high'

/-- Shows bytes as a text. Well-formed UTF-8 is shown as the text it encodes. -/
def decodeLenient (bytes : ByteArray) : String :=
  match String.fromUTF8? bytes with
  | some s => s
  | none => String.ofList (decodeLenientAux bytes.toList [] 0 0x80 0xBF)

end SchemaMigration.Text
