/-! # Bytes as hexadecimal digits -/

namespace SchemaMigration.Digest

/-- The lower-case hexadecimal digit of a number below sixteen. -/
def hexDigit (n : Nat) : Char :=
  if n < 10 then Char.ofNat (0x30 + n) else Char.ofNat (0x57 + n)

def hexOfByte (b : UInt8) : List Char :=
  [hexDigit (b.toNat / 16), hexDigit (b.toNat % 16)]

/-- Bytes as a text of hexadecimal digits, two for each byte. -/
def hex (bytes : List UInt8) : String :=
  String.ofList (bytes.flatMap hexOfByte)

end SchemaMigration.Digest
