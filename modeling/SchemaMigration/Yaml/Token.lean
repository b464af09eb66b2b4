import SchemaMigration.Yaml.Property

/-! # Tokens

A text as a sequence of tokens, among them the starts and ends of indented collections. Whether something
is the key of a mapping shows only at the colon behind it. So a place that may turn out to be the start
of a key is marked (`saveCandidate`) when it is passed, and the mark is replaced by tokens when the colon
is met.

A text may break off with a fault. Then the tokens are those in front of the first mark that was still
open, since nothing behind it could be told for certain.
-/

namespace SchemaMigration.Yaml

inductive TokenKind where
  | streamEnd
  | directive (d : Directive)
  | documentStart
  | documentEnd
  | blockSequenceStart
  | blockMappingStart
  | blockEnd
  | flowSequenceStart
  | flowSequenceEnd
  | flowMappingStart
  | flowMappingEnd
  | blockEntry
  | flowEntry
  | key
  | value
  | anchor (name : String)
  | alias (name : String)
  | tag (t : Tag)
  | scalar (text : String) (isPlain : Bool)
  deriving Repr, DecidableEq

/-- A token with the places where it starts and ends. -/
structure Token where
  kind : TokenKind
  start : Position
  stop : Position
  deriving Repr, DecidableEq

/-- The tokens of a text, up to a fault if there is one. -/
structure TokenStream where
  tokens : List Token
  fault? : Option Fault
  deriving Repr, DecidableEq

/-- A place that may be the start of a key. -/
structure Candidate where
  /-- Whether it can be nothing else. -/
  isRequired : Bool
  position : Position
  deriving Repr, DecidableEq

/-- A token, or the mark of a place that may be the start of a key. -/
inductive Item where
  | token (t : Token)
  | mark (position : Position)
  deriving Repr, DecidableEq

/-- A text that has been turned into tokens up to a cursor. -/
structure Lexer where
  cursor : Cursor
  /-- The indentations of the open indented collections, the innermost first. -/
  indents : List Nat
  /-- The place that may be the start of a key, for each open collection on one line and for the
      text around them, the innermost first. -/
  candidates : List (Option Candidate)
  /-- Whether a key may start at the cursor. -/
  keyAllowed : Bool
  /-- What has been written, the last item first. -/
  items : List Item
  isFinished : Bool

namespace Lexer

def start (text : List Char) : Lexer :=
  ⟨.start text, [], [none], true, [], false⟩

/-- Whether the cursor is inside a collection on one line. -/
def inFlow (l : Lexer) : Bool :=
  1 < l.candidates.length

/-- The indentation of the innermost indented collection; less than zero outside of any. -/
def indent (l : Lexer) : Int :=
  match l.indents with
  | n :: _ => n
  | [] => -1

def fault {α : Type} (l : Lexer) (problem : Problem) : Except Fault α :=
  l.cursor.fault problem

/-- Writes a token that ends at a cursor, and moves there. -/
def write (l : Lexer) (kind : TokenKind) (after : Cursor) : Lexer :=
  { l with
    cursor := after
    items := .token ⟨kind, l.cursor.position, after.position⟩ :: l.items }

/-- Writes a token without characters of its own. -/
def writeEmpty (l : Lexer) (kind : TokenKind) : Lexer :=
  l.write kind l.cursor

/-- Whether a candidate lies too far back: on another line or more than 1024 characters away. -/
def isStale (l : Lexer) (k : Candidate) : Bool :=
  k.position.line < l.cursor.position.line || k.position.index + 1024 < l.cursor.position.index

/-- Gives up the candidates for which `isStale` holds. -/
def dropStale (l : Lexer) : Except Fault Lexer :=
  let stale (k : Option Candidate) : Bool := k.any l.isStale
  if l.candidates.any fun k => stale k && k.any Candidate.isRequired then l.fault .missingColon
  else .ok { l with candidates := l.candidates.map fun k => if stale k then none else k }

def setCandidate (l : Lexer) (k : Option Candidate) : Lexer :=
  { l with candidates := k :: l.candidates.drop 1 }

def candidate? (l : Lexer) : Option Candidate :=
  l.candidates.head?.join

def dropCandidate (l : Lexer) : Except Fault Lexer :=
  if l.candidate?.any Candidate.isRequired then l.fault .missingColon
  else .ok (l.setCandidate none)

/-- Marks the cursor as a place that may be the start of a key, where one is allowed. -/
def saveCandidate (l : Lexer) : Except Fault Lexer := do
  if !l.keyAllowed then return l
  let l ← l.dropCandidate
  let position := l.cursor.position
  let isRequired := !l.inFlow && l.indent = position.column
  return { l.setCandidate (some ⟨isRequired, position⟩) with items := .mark position :: l.items }

/-- Replaces the mark of a place by tokens, given in order. -/
def resolve (l : Lexer) (position : Position) (kinds : List TokenKind) : Lexer :=
  let tokens := kinds.map fun kind => Item.token ⟨kind, position, position⟩
  { l with items := l.items.flatMap fun item =>
      if item = .mark position then tokens.reverse else [item] }

/-- Whether a collection that is indented to a column would be a new one. -/
def isDeeper (l : Lexer) (column : Nat) : Bool :=
  !l.inFlow && l.indent < column

/-- Opens an indented collection at the cursor, unless it is open. -/
def openBlock (l : Lexer) (kind : TokenKind) : Lexer :=
  let column := l.cursor.column
  if l.isDeeper column then { l with indents := column :: l.indents }.writeEmpty kind else l

/-- Closes the indented collections that reach beyond a column. -/
def closeBlocks (l : Lexer) (column : Int) : Lexer :=
  if l.inFlow then l
  else
    let ended := l.indents.takeWhile fun (n : Nat) => column < n
    ended.foldl (fun l _ => l.writeEmpty .blockEnd)
      { l with indents := l.indents.drop ended.length }

/-- Moves to the next token, over blanks, comments and line breaks, at most `fuel` of them. -/
def skipToToken : (fuel : Nat) → Lexer → Lexer
  | 0, l => l
  | fuel + 1, l =>
    let c := l.cursor
    let c := if c.column = 0 && c.startsWith ['\uFEFF'] then c.skip 1 else c
    let tabsAllowed := l.inFlow || !l.keyAllowed
    let c := c.skipWhile fun x => x == ' ' || (tabsAllowed && x == '\t')
    let c := if c.startsWith ['#'] then c.skipWhile fun x => !isBreak x else c
    match c.takeBreak with
    | (some _, c) => skipToToken fuel { l with cursor := c, keyAllowed := l.keyAllowed || !l.inFlow }
    | (none, c) => { l with cursor := c }

/-- The end of the text closes everything. -/
def finish (l : Lexer) : Except Fault Lexer := do
  let c := if l.cursor.column = 0 then l.cursor else l.cursor.nextLine 0
  let l ← ({ l with cursor := c }.closeBlocks (-1)).dropCandidate
  return { l.writeEmpty .streamEnd with keyAllowed := false, isFinished := true }

/-- A token at the margin that belongs to no collection. -/
def atMargin (l : Lexer) (read : Cursor → Except Fault (TokenKind × Cursor)) :
    Except Fault Lexer := do
  let l ← (l.closeBlocks (-1)).dropCandidate
  let (kind, c) ← read l.cursor
  return { l.write kind c with keyAllowed := false }

def openFlow (l : Lexer) (kind : TokenKind) : Except Fault Lexer := do
  let l ← l.saveCandidate
  return { l.write kind (l.cursor.skip 1) with
    candidates := none :: l.candidates, keyAllowed := true }

def closeFlow (l : Lexer) (kind : TokenKind) : Except Fault Lexer := do
  let l ← l.dropCandidate
  let outer := if l.inFlow then l.candidates.drop 1 else l.candidates
  return { l.write kind (l.cursor.skip 1) with candidates := outer, keyAllowed := false }

def flowEntry (l : Lexer) : Except Fault Lexer := do
  let l ← l.dropCandidate
  return { l.write .flowEntry (l.cursor.skip 1) with keyAllowed := true }

/-- A hyphen in front of an entry. -/
def blockEntry (l : Lexer) : Except Fault Lexer := do
  if !l.inFlow && !l.keyAllowed then l.fault .entryNotAllowed
  let l ← (l.openBlock .blockSequenceStart).dropCandidate
  return { l.write .blockEntry (l.cursor.skip 1) with keyAllowed := true }

/-- A question mark in front of a key. -/
def explicitKey (l : Lexer) : Except Fault Lexer := do
  if !l.inFlow && !l.keyAllowed then l.fault .keyNotAllowed
  let l ← (l.openBlock .blockMappingStart).dropCandidate
  return { l.write .key (l.cursor.skip 1) with keyAllowed := !l.inFlow }

/-- A colon. It makes a key of the candidate, if there is one. -/
def value (l : Lexer) : Except Fault Lexer :=
  match l.candidate? with
  | some k =>
    let isNew := l.isDeeper k.position.column
    let l := l.resolve k.position (if isNew then [.blockMappingStart, .key] else [.key])
    let l := if isNew then { l with indents := k.position.column :: l.indents } else l
    .ok { (l.setCandidate none).write .value (l.cursor.skip 1) with keyAllowed := false }
  | none =>
    if !l.inFlow && !l.keyAllowed then l.fault .valueNotAllowed
    else
      let l := l.openBlock .blockMappingStart
      .ok { l.write .value (l.cursor.skip 1) with keyAllowed := !l.inFlow }

/-- A token that may be the start of a key or a part of its properties. -/
def inKey (l : Lexer) (read : Cursor → Except Fault (TokenKind × Cursor)) :
    Except Fault Lexer := do
  let l ← l.saveCandidate
  let (kind, c) ← read l.cursor
  return { l.write kind c with keyAllowed := false }

def quoted (l : Lexer) (quote : Char) : Except Fault Lexer :=
  l.inKey fun c => do
    let (text, c) ← readQuoted quote c
    return (.scalar (String.ofList text) false, c)

def block (l : Lexer) (folded : Bool) : Except Fault Lexer := do
  let l ← l.dropCandidate
  let (text, c) ← readBlock folded l.indent l.cursor
  return { l.write (.scalar (String.ofList text) false) c with keyAllowed := true }

/-- A plain scalar. Behind a line break at its end, a key may start. -/
def plain (l : Lexer) : Except Fault Lexer := do
  let l ← l.saveCandidate
  let margin := (l.indent + 1).toNat
  let (text, c, isBroken) ←
    readPlainWords l.inFlow margin (l.cursor.rest.length + 1) [] .none l.cursor
  return { l.write (.scalar (String.ofList text) true) c with keyAllowed := isBroken }

/-- Whether a plain scalar may start with the given characters. -/
def startsPlain (inFlow : Bool) : List Char → Bool
  | [] => false
  | c :: rest =>
    !(isSpace c || "-?:,[]\x7b\x7d#&*!|>'\"%@`".toList.contains c) ||
      (c == '-' && !rest.head?.any isBlank) ||
      (!inFlow && (c == '?' || c == ':') && !endsWord rest)

def token (l : Lexer) : Except Fault Lexer :=
  let c := l.cursor
  let kindOf {α : Type} (f : α → TokenKind) (r : Except Fault (α × Cursor)) :
      Except Fault (TokenKind × Cursor) := r.map fun (a, c) => (f a, c)
  match c.rest with
  | [] => l.finish
  | ch :: rest =>
    let bare := endsWord rest
    if c.column = 0 && ch = '%' then l.atMargin fun c => kindOf .directive (readDirective c)
    else if c.atDocumentMark then
      l.atMargin fun c => .ok (if ch = '-' then .documentStart else .documentEnd, c.skip 3)
    else if ch = '[' then l.openFlow .flowSequenceStart
    else if ch = '{' then l.openFlow .flowMappingStart
    else if ch = ']' then l.closeFlow .flowSequenceEnd
    else if ch = '}' then l.closeFlow .flowMappingEnd
    else if ch = ',' then l.flowEntry
    else if ch = '-' && bare then l.blockEntry
    else if ch = '?' && (l.inFlow || bare) then l.explicitKey
    else if ch = ':' && (l.inFlow || bare) then l.value
    else if ch = '*' then l.inKey fun c => kindOf .alias (readAnchor c)
    else if ch = '&' then l.inKey fun c => kindOf .anchor (readAnchor c)
    else if ch = '!' then l.inKey fun c => kindOf .tag (readTag l.inFlow c)
    else if ch = '|' && !l.inFlow then l.block false
    else if ch = '>' && !l.inFlow then l.block true
    else if ch = '\'' || ch = '"' then l.quoted ch
    else if startsPlain l.inFlow c.rest then l.plain
    else l.fault .unexpectedCharacter

/-- Moves to the next token and writes it. -/
def step (l : Lexer) : Except Fault Lexer := do
  let l ← (skipToToken (l.cursor.rest.length + 1) l).dropStale
  (l.closeBlocks l.cursor.column).token

def tokens (l : Lexer) : List Token :=
  l.items.reverse.filterMap fun
    | .token t => some t
    | .mark _ => none

/-- The tokens in front of the first mark that is still open. -/
def certainTokens (l : Lexer) : List Token :=
  let isOpen (p : Position) : Bool :=
    l.candidates.any fun k => k.any fun k => k.position = p && !l.isStale k
  let certain := l.items.reverse.takeWhile fun
    | .token _ => true
    | .mark p => !isOpen p
  certain.filterMap fun
    | .token t => some t
    | .mark _ => none

/-- Writes tokens by `step` up to the end of the text or a fault, at most `fuel` of them. -/
def run : (fuel : Nat) → Lexer → TokenStream
  | 0, l => ⟨l.tokens, none⟩
  | fuel + 1, l =>
    if l.isFinished then ⟨l.tokens, none⟩
    else match l.step with
      | .ok l => run fuel l
      | .error fault => ⟨l.certainTokens, some fault⟩

end Lexer

/-- The tokens of a text. A text with a control character has none. -/
def TokenStream.of (text : String) : TokenStream :=
  let cs := text.toList
  match cs.find? fun c => !isAllowed c with
  | some _ => ⟨[], some ⟨.controlCharacter, ⟨0, 0, 0⟩⟩⟩
  | none => Lexer.run (2 * cs.length + 2) (.start cs)

end SchemaMigration.Yaml
