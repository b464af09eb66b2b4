import SchemaMigration.Text.Blank

/-! # Tokens of SQL

A statement as a sequence of words, numerals, texts and signs. Blanks and comments separate tokens
and are otherwise passed over.
-/

namespace SchemaMigration.Sql

inductive Token where
  | word (text : String)
  /-- A name between double quotes. -/
  | quotedName (text : String)
  | numeral (digits : List Char)
  /-- A text between single quotes. -/
  | text (s : String)
  | sign (s : String)
  deriving Repr, DecidableEq

/-- What stands between a quote and the next single one of its kind; two in a row stand for one. `none`
    when no quote ends it. -/
def takeQuoted (mark : Char) : List Char → Option (List Char × List Char)
  | [] => none
  | c :: rest =>
    if c = mark then
      match rest with
      | d :: rest' =>
        if d = mark then (takeQuoted mark rest').map fun (s, r) => (mark :: s, r) else some ([], rest)
      | [] => some ([], [])
    else (takeQuoted mark rest).map fun (s, r) => (c :: s, r)

/-- What follows the end of a comment between slashes and stars. -/
def dropBlockComment : List Char → List Char
  | '*' :: '/' :: rest => rest
  | _ :: rest => dropBlockComment rest
  | [] => []

def startsWord (c : Char) : Bool :=
  c.isAlpha || c == '_' || 0x80 ≤ c.toNat

def insideWord (c : Char) : Bool :=
  startsWord c || c.isDigit || c == '$'

/-- The characters of a numeral at the start of a text: digits, a point and an exponent. -/
def takeNumeral (cs : List Char) : List Char :=
  let whole := cs.takeWhile Char.isDigit
  let rest := cs.drop whole.length
  let decimals := match rest with
    | '.' :: ds => '.' :: ds.takeWhile Char.isDigit
    | _ => []
  let exponent := match rest.drop decimals.length with
    | e :: s :: d :: ds =>
      if (e = 'e' || e = 'E') && (s = '-' || s = '+') && d.isDigit then
        e :: s :: d :: ds.takeWhile Char.isDigit
      else if (e = 'e' || e = 'E') && s.isDigit then e :: s :: (d :: ds).takeWhile Char.isDigit
      else []
    | [e, s] => if (e = 'e' || e = 'E') && s.isDigit then [e, s] else []
    | _ => []
  whole ++ decimals ++ exponent

/-- Splits characters into tokens, at most `fuel` of them and blanks between. `none` when a quote is
    left open or a character begins no token. -/
def tokensAux : (fuel : Nat) → List Char → Option (List Token)
  | 0, cs => if cs.isEmpty then some [] else none
  | _ + 1, [] => some []
  | fuel + 1, c :: rest =>
    if Text.isBlank c then tokensAux fuel rest
    else if c = '-' && rest.head? = some '-' then tokensAux fuel (rest.dropWhile (· ≠ '\n'))
    else if c = '/' && rest.head? = some '*' then tokensAux fuel (dropBlockComment (rest.drop 1))
    else if c = '\'' then do
      let (s, rest) ← takeQuoted '\'' rest
      return .text (String.ofList s) :: (← tokensAux fuel rest)
    else if c = '"' then do
      let (s, rest) ← takeQuoted '"' rest
      return .quotedName (String.ofList s) :: (← tokensAux fuel rest)
    else if startsWord c then do
      let tail := rest.takeWhile insideWord
      return .word (String.ofList (c :: tail)) :: (← tokensAux fuel (rest.drop tail.length))
    else if c.isDigit || (c = '.' && (rest.head?.map Char.isDigit).getD false) then do
      let digits := takeNumeral (c :: rest)
      return .numeral digits :: (← tokensAux fuel ((c :: rest).drop digits.length))
    else
      let two := String.ofList (c :: rest.take 1)
      if ["<=", ">=", "<>", "!=", "::"].contains two then do
        return .sign two :: (← tokensAux fuel (rest.drop 1))
      else if "(),;.?=<>+-*".toList.contains c then do
        return .sign (String.ofList [c]) :: (← tokensAux fuel rest)
      else none

def tokens (sql : String) : Option (List Token) :=
  let cs := sql.toList
  tokensAux cs.length cs

end SchemaMigration.Sql
