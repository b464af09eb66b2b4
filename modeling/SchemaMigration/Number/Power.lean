/-! # Powers

The powers of two and of ten, which scale binary and decimal numbers.
-/

namespace SchemaMigration.Number

def pow2 (n : Nat) : Nat :=
  Nat.pow 2 n

def pow10 (n : Nat) : Nat :=
  Nat.pow 10 n

theorem pow10_succ (n : Nat) : pow10 (n + 1) = pow10 n * 10 := rfl

end SchemaMigration.Number
