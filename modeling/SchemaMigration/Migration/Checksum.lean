import SchemaMigration.Digest.Sha256
import SchemaMigration.Digest.Hex

/-! # Checksums of migrations

A checksum stands for both directions of a migration, with `noReverse` for one that is missing, so that a
later edit of either one shows.
-/

namespace SchemaMigration.Checksum

/-- Stands in place of a reverse definition that is missing, so that adding or removing one shows
    even when its text is empty. -/
def noReverse : String := "\x00strata:no-down\x00"

/-- The text whose bytes are digested, with `noReverse` where there is no reverse definition. -/
def subject (forward : String) (reverse : Option String) : String :=
  "up\x00" ++ forward ++ "\x00down\x00" ++ reverse.getD noReverse

/-- The checksum of a migration's definitions, as 64 hexadecimal digits. -/
def ofDefinitions (forward : String) (reverse : Option String) : String :=
  Digest.hex (Digest.Sha256.digest (subject forward reverse).toUTF8.toList)

end SchemaMigration.Checksum
