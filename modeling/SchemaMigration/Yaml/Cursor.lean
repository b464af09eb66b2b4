/-! # Places in a YAML text

A `Cursor` stands between the characters of a text and knows where it stands. It moves over a number of
characters on one line or over a line break.
-/

namespace SchemaMigration.Yaml

/-- A place in a text: the number of characters in front of it, its line and its column, all counted
    from zero. -/
structure Position where
  index : Nat
  line : Nat
  column : Nat
  deriving Repr, DecidableEq

/-- A place in a text and the characters after it. -/
structure Cursor where
  rest : List Char
  position : Position
  deriving Repr, DecidableEq

/-- What is wrong with a text that is not YAML. -/
inductive Problem where
  | controlCharacter
  | unexpectedCharacter
  | missingColon
  | entryNotAllowed
  | keyNotAllowed
  | valueNotAllowed
  | tabInIndentation
  | badDirective
  | badAnchor
  | badTag
  | badEscape
  | badBlockHeader
  | unexpectedColon
  | unexpectedIndicator
  | unexpectedEnd
  | unexpectedToken
  | undefinedHandle
  | duplicateDirective
  | unsupportedVersion
  | unknownAnchor
  | severalDocuments
  deriving Repr, DecidableEq

def Problem.message : Problem → String
  | controlCharacter => "control characters are not allowed"
  | unexpectedCharacter => "found character that cannot start any token"
  | missingColon => "could not find expected ':'"
  | entryNotAllowed => "block sequence entries are not allowed in this context"
  | keyNotAllowed => "mapping keys are not allowed in this context"
  | valueNotAllowed => "mapping values are not allowed in this context"
  | tabInIndentation => "found a tab character that violates indentation"
  | badDirective => "found a directive that is not well formed"
  | badAnchor => "did not find expected alphabetic or numeric character"
  | badTag => "found a tag that is not well formed"
  | badEscape => "found unknown escape character"
  | badBlockHeader => "found a block scalar header that is not well formed"
  | unexpectedColon => "found unexpected ':'"
  | unexpectedIndicator => "found unexpected document indicator"
  | unexpectedEnd => "found unexpected end of stream"
  | unexpectedToken => "did not find expected node content"
  | undefinedHandle => "found undefined tag handle"
  | duplicateDirective => "found duplicate directive"
  | unsupportedVersion => "found incompatible YAML document"
  | unknownAnchor => "unknown anchor"
  | severalDocuments =>
    "deserializing from YAML containing more than one document is not supported"

/-- A problem and the place where it was found. -/
structure Fault where
  problem : Problem
  position : Position
  deriving Repr, DecidableEq

/-- Where something is, unless it is at the very start of the text. -/
def Position.suffix (p : Position) : String :=
  if p.line = 0 ∧ p.column = 0 then ""
  else " at line " ++ toString (p.line + 1) ++ " column " ++ toString (p.column + 1)

def Fault.message (f : Fault) : String :=
  if f.problem = .severalDocuments then f.problem.message
  else f.problem.message ++ f.position.suffix

/-- Whether a character may stand in a text at all. -/
def isAllowed (c : Char) : Bool :=
  let n := c.toNat
  n == 0x09 || n == 0x0A || n == 0x0D || (0x20 ≤ n && n ≤ 0x7E) || n == 0x85 ||
    (0xA0 ≤ n && n ≤ 0xD7FF) || (0xE000 ≤ n && n ≤ 0xFFFD) || 0x10000 ≤ n

def isBlank (c : Char) : Bool :=
  c == ' ' || c == '\t'

def isBreak (c : Char) : Bool :=
  c == '\n' || c == '\r' || c == '\u0085' || c == '\u2028' || c == '\u2029'

/-- Whether a character is a blank, a tab or a line break. -/
def isSpace (c : Char) : Bool :=
  isBlank c || isBreak c

def isNameCharacter (c : Char) : Bool :=
  c.isAlphanum || c == '_' || c == '-'

/-- Whether a character encloses or separates the members of a collection on one line. -/
def isFlowIndicator (c : Char) : Bool :=
  c == ',' || c == '[' || c == ']' || c == '{' || c == '}'

/-- Whether nothing, a blank or a line break follows. -/
def endsWord : List Char → Bool
  | [] => true
  | c :: _ => isSpace c

/-- Whether the end of a line follows. -/
def endsLine : List Char → Bool
  | [] => true
  | c :: _ => isBreak c

namespace Cursor

def start (text : List Char) : Cursor :=
  ⟨text, ⟨0, 0, 0⟩⟩

def column (c : Cursor) : Nat :=
  c.position.column

def fault {α : Type} (c : Cursor) (problem : Problem) : Except Fault α :=
  .error ⟨problem, c.position⟩

/-- Moves over a number of characters on one line. -/
def skip (c : Cursor) (n : Nat) : Cursor :=
  let n := min n c.rest.length
  ⟨c.rest.drop n, ⟨c.position.index + n, c.position.line, c.position.column + n⟩⟩

/-- Moves over the characters of one line that pass a test. -/
def skipWhile (c : Cursor) (p : Char → Bool) : Cursor :=
  c.skip (c.rest.takeWhile p).length

/-- Moves over a line break of a number of characters. -/
def nextLine (c : Cursor) (n : Nat) : Cursor :=
  ⟨c.rest.drop n, ⟨c.position.index + n, c.position.line + 1, 0⟩⟩

/-- Moves over a line break, if there is one, and answers what it stands for in a scalar. -/
def takeBreak (c : Cursor) : Option Char × Cursor :=
  match c.rest with
  | '\r' :: '\n' :: _ => (some '\n', c.nextLine 2)
  | b :: _ =>
    if !isBreak b then (none, c)
    else (some (if b = '\u2028' || b = '\u2029' then b else '\n'), c.nextLine 1)
  | [] => (none, c)

/-- Moves over a line break, if there is one, as `takeBreak` does. -/
def skipBreak (c : Cursor) : Cursor :=
  c.takeBreak.2

/-- The characters that pass a test, and the cursor after them. -/
def takeWhile (c : Cursor) (p : Char → Bool) : List Char × Cursor :=
  (c.rest.takeWhile p, c.skipWhile p)

def startsWith (c : Cursor) (cs : List Char) : Bool :=
  cs.isPrefixOf c.rest

/-- Whether a line begins here that marks the start or the end of a document. -/
def atDocumentMark (c : Cursor) : Bool :=
  c.column = 0 && (c.startsWith ['-', '-', '-'] || c.startsWith ['.', '.', '.']) &&
    endsWord (c.rest.drop 3)

/-- Moves over blanks and a comment up to the end of the line, where there has to be nothing else. -/
def finishLine (c : Cursor) (problem : Problem) : Except Fault Cursor :=
  let c := c.skipWhile isBlank
  let c := if c.startsWith ['#'] then c.skipWhile fun x => !isBreak x else c
  if endsLine c.rest then .ok c.skipBreak else c.fault problem

end Cursor

end SchemaMigration.Yaml
