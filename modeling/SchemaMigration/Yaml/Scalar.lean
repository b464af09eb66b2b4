import SchemaMigration.Yaml.Cursor

/-! # Scalars

The texts of scalars in their three written forms: plain, between quotes, and as an indented block.
In the first two, a line break inside a scalar counts as a blank, and further line breaks count as
themselves. A reader gets a cursor and answers the text with the cursor behind it.
-/

namespace SchemaMigration.Yaml

/-- Blanks and line breaks between two words of a scalar. -/
structure Gap where
  /-- The blanks in front of the first line break. -/
  blanks : List Char
  firstBreak : Option Char
  moreBreaks : List Char
  /-- Whether the next word stands on another line. -/
  isBroken : Bool
  deriving Repr, DecidableEq

namespace Gap

def none : Gap := ⟨[], .none, [], false⟩

/-- What a gap stands for between two words. -/
def text (g : Gap) : List Char :=
  if !g.isBroken then g.blanks
  else match g.firstBreak with
    | some '\n' => if g.moreBreaks.isEmpty then [' '] else g.moreBreaks
    | some c => c :: g.moreBreaks
    | .none => g.moreBreaks

/-- A gap with another line break at its end. -/
def addBreak (g : Gap) (b : Char) : Gap :=
  if g.isBroken then { g with moreBreaks := g.moreBreaks ++ [b] }
  else ⟨[], some b, [], true⟩

/-- A gap with another blank at its end. Blanks at the start of a line do not count. -/
def addBlank (g : Gap) (b : Char) : Gap :=
  if g.isBroken then g else { g with blanks := g.blanks ++ [b] }

/-- Reads blanks and line breaks, at most `fuel` of them. A tab in front of the column `margin` of a
    new line is refused. -/
def read (margin : Nat) : (fuel : Nat) → Gap → Cursor → Except Fault (Gap × Cursor)
  | 0, g, c => .ok (g, c)
  | fuel + 1, g, c =>
    match c.rest with
    | [] => .ok (g, c)
    | b :: _ =>
      if isBlank b then
        if g.isBroken && c.column < margin && b == '\t' then c.fault .tabInIndentation
        else read margin fuel (g.addBlank b) (c.skip 1)
      else match c.takeBreak with
        | (some b, c) => read margin fuel (g.addBreak b) c
        | (.none, c) => .ok (g, c)

end Gap

/-- The length of the word of a plain scalar at the start of a text, up to a blank, a line break or
    an indicator. Inside a collection on one line, a colon in front of an indicator is refused. -/
def plainWord (inFlow : Bool) : List Char → Option Nat
  | [] => some 0
  | c :: rest =>
    let beforeIndicator := match rest with
      | next :: _ => isFlowIndicator next || next == '?'
      | [] => false
    if isSpace c then some 0
    else if inFlow && c == ':' && beforeIndicator then none
    else if c == ':' && endsWord rest then some 0
    else if inFlow && isFlowIndicator c then some 0
    else (plainWord inFlow rest).map (· + 1)

/-- Reads the words of a plain scalar from a cursor, after a gap behind the text so far. Answers the
    text, the cursor behind the blanks that follow, and whether these break the line. -/
def readPlainWords (inFlow : Bool) (margin : Nat) : (fuel : Nat) → (text : List Char) → Gap →
    Cursor → Except Fault (List Char × Cursor × Bool)
  | 0, text, g, c => .ok (text, c, g.isBroken)
  | fuel + 1, text, g, c =>
    if c.atDocumentMark || c.startsWith ['#'] then .ok (text, c, g.isBroken)
    else match plainWord inFlow c.rest with
      | none => c.fault .unexpectedColon
      | some n => do
        let word := c.rest.take n
        let (text, g) := if n = 0 then (text, g) else (text ++ g.text ++ word, Gap.none)
        let c := c.skip n
        if !c.rest.head?.any isSpace then return (text, c, g.isBroken)
        let (g, c) ← g.read margin c.rest.length c
        if !inFlow && c.column < margin then return (text, c, g.isBroken)
        readPlainWords inFlow margin fuel text g c

/-- The character that an escape of one letter stands for. -/
def simpleEscape? : Char → Option Char
  | '0' => some '\x00'
  | 'a' => some '\x07'
  | 'b' => some '\x08'
  | 't' | '\t' => some '\t'
  | 'n' => some '\n'
  | 'v' => some '\x0b'
  | 'f' => some '\x0c'
  | 'r' => some '\r'
  | 'e' => some '\x1b'
  | ' ' => some ' '
  | '"' => some '"'
  | '/' => some '/'
  | '\\' => some '\\'
  | 'N' => some '\u0085'
  | '_' => some '\u00a0'
  | 'L' => some '\u2028'
  | 'P' => some '\u2029'
  | _ => none

/-- How many hexadecimal digits follow the letter of an escape. -/
def escapeDigits? : Char → Option Nat
  | 'x' => some 2
  | 'u' => some 4
  | 'U' => some 8
  | _ => none

def hexValue? (c : Char) : Option Nat :=
  if c.isDigit then some (c.toNat - 48)
  else if 'a' ≤ c ∧ c ≤ 'f' then some (c.toNat - 87)
  else if 'A' ≤ c ∧ c ≤ 'F' then some (c.toNat - 55)
  else none

def hexNumber? (cs : List Char) : Option Nat := do
  let digits ← cs.mapM hexValue?
  return digits.foldl (fun n d => 16 * n + d) 0

/-- The character with a number, if there is one. -/
def charOfNumber? (n : Nat) : Option Char :=
  if n.isValidChar then some (Char.ofNat n) else none

/-- The character that an escape stands for, and the length of the escape. The cursor stands at the
    backslash. -/
def readEscape (c : Cursor) : Except Fault (Char × Nat) :=
  match c.rest.drop 1 with
  | [] => c.fault .badEscape
  | letter :: rest =>
    match simpleEscape? letter, escapeDigits? letter with
    | some ch, _ => .ok (ch, 2)
    | none, some n =>
      match (if n ≤ rest.length then hexNumber? (rest.take n) else none).bind charOfNumber? with
      | some ch => .ok (ch, n + 2)
      | none => c.fault .badEscape
    | none, none => c.fault .badEscape

/-- Where the word of a quoted scalar ends. -/
inductive WordEnd where
  | space
  | quote
  /-- At a line break that is escaped and does not count. -/
  | escapedBreak
  deriving Repr, DecidableEq

/-- Reads the word of a quoted scalar, at most `fuel` characters of it. -/
def readQuotedWord (quote : Char) : (fuel : Nat) → (text : List Char) → Cursor →
    Except Fault (List Char × WordEnd × Cursor)
  | 0, text, c => .ok (text, .space, c)
  | fuel + 1, text, c =>
    match c.rest with
    | [] => .ok (text, .space, c)
    | ch :: rest =>
      if isSpace ch then .ok (text, .space, c)
      else if ch = quote then
        if quote = '\'' && rest.head? = some '\'' then
          readQuotedWord quote fuel (text ++ ['\'']) (c.skip 2)
        else .ok (text, .quote, c)
      else if quote = '"' && ch = '\\' then
        if rest.head?.any isBreak then .ok (text, .escapedBreak, (c.skip 1).skipBreak)
        else do
          let (escaped, n) ← readEscape c
          readQuotedWord quote fuel (text ++ [escaped]) (c.skip n)
      else readQuotedWord quote fuel (text ++ [ch]) (c.skip 1)

/-- Reads the words of a quoted scalar up to the closing quote and moves over it. -/
def readQuotedWords (quote : Char) : (fuel : Nat) → (text : List Char) → Cursor →
    Except Fault (List Char × Cursor)
  | 0, _, c => c.fault .unexpectedEnd
  | fuel + 1, text, c =>
    if c.atDocumentMark then c.fault .unexpectedIndicator
    else if c.rest.isEmpty then c.fault .unexpectedEnd
    else do
      let (text, wordEnd, c) ← readQuotedWord quote c.rest.length text c
      if c.startsWith [quote] then return (text, c.skip 1)
      let g := { Gap.none with isBroken := wordEnd = WordEnd.escapedBreak }
      let (g, c) ← g.read 0 c.rest.length c
      readQuotedWords quote fuel (text ++ g.text) c

/-- Reads a scalar between quotes. The cursor stands at the opening quote. -/
def readQuoted (quote : Char) (c : Cursor) : Except Fault (List Char × Cursor) :=
  readQuotedWords quote (c.rest.length + 1) [] (c.skip 1)

/-- What becomes of the line breaks at the end of a block. -/
inductive Chomping where
  | strip
  | clip
  | keep
  deriving Repr, DecidableEq

/-- The chomping that a sign in a header asks for. -/
def chomping? : Char → Option Chomping
  | '-' => some .strip
  | '+' => some .keep
  | _ => none

/-- Reads the header of a block: a sign and an indentation in any order, each of them optional. -/
def readBlockHeader (c : Cursor) : Except Fault (Chomping × Option Nat × Cursor) :=
  let sign (c : Cursor) : Chomping × Cursor :=
    match c.rest.head?.bind chomping? with
    | some chomping => (chomping, c.skip 1)
    | none => (.clip, c)
  let digit (c : Cursor) : Except Fault (Option Nat × Cursor) :=
    match c.rest with
    | d :: _ =>
      if !d.isDigit then .ok (none, c)
      else if d = '0' then c.fault .badBlockHeader
      else .ok (some (d.toNat - 48), c.skip 1)
    | [] => .ok (none, c)
  do
    let (chomping, afterSign) := sign c
    let (indent, c) ← digit afterSign
    let (chomping, c) := if chomping = .clip then sign c else (chomping, c)
    return (chomping, indent, ← c.finishLine .badBlockHeader)

/-- Reads the blank lines in front of a line of a block and the indentation of that line. Without a
    known indentation, the widest one counts that is found, and it is at least `least`. -/
def readBlockBreaks (least : Nat) : (fuel : Nat) → (indent : Option Nat) → (widest : Nat) →
    (breaks : List Char) → Cursor → Except Fault (List Char × Nat × Cursor)
  | 0, indent, widest, breaks, c => .ok (breaks, indent.getD (max widest least), c)
  | fuel + 1, indent, widest, breaks, c =>
    let blanks := (c.rest.takeWhile (· == ' ')).length
    let c := c.skip (match indent with
      | some n => min blanks (n - c.column)
      | none => blanks)
    let widest := max widest c.column
    let inIndentation := match indent with
      | some n => c.column < n
      | none => true
    if inIndentation && c.startsWith ['\t'] then c.fault .tabInIndentation
    else match c.takeBreak with
      | (some b, c) => readBlockBreaks least fuel indent widest (breaks ++ [b]) c
      | (none, c) => .ok (breaks, indent.getD (max widest least), c)

/-- The text of a block while its lines are read. -/
structure Block where
  text : List Char
  /-- The line break at the end of the last line. -/
  lineBreak : List Char
  /-- Whether the last line began with a blank. -/
  wasIndented : Bool

/-- A block with the line breaks in front of its next line. In a folded block, a single line break
    between lines that do not begin with a blank counts as a blank. -/
def Block.join (folded : Bool) (breaks : List Char) (isIndented : Bool) (b : Block) : List Char :=
  if folded && b.lineBreak = ['\n'] && !b.wasIndented && !isIndented then
    b.text ++ (if breaks.isEmpty then [' '] else []) ++ breaks
  else b.text ++ b.lineBreak ++ breaks

/-- Reads the lines of a block. Answers the block and the line breaks after its last line. -/
def readBlockLines (folded : Bool) (indent : Nat) : (fuel : Nat) → (breaks : List Char) → Block →
    Cursor → Except Fault (Block × List Char × Cursor)
  | 0, breaks, b, c => .ok (b, breaks, c)
  | fuel + 1, breaks, b, c =>
    if c.column ≠ indent || c.rest.isEmpty then .ok (b, breaks, c)
    else do
      let isIndented := c.rest.head?.any isBlank
      let (line, c) := c.takeWhile fun x => !isBreak x
      let (lineBreak, c) := c.takeBreak
      let block := ⟨b.join folded breaks isIndented ++ line, lineBreak.toList, isIndented⟩
      let (breaks, _, c) ← readBlockBreaks 0 c.rest.length (some indent) 0 [] c
      readBlockLines folded indent fuel breaks block c

/-- Reads a block scalar inside a collection with an indentation. The cursor stands at the
    indicator. -/
def readBlock (folded : Bool) (outer : Int) (c : Cursor) : Except Fault (List Char × Cursor) := do
  let (chomping, increment, c) ← readBlockHeader (c.skip 1)
  let indent := increment.map fun n => (max outer 0).toNat + n
  let least := max (outer + 1).toNat 1
  let (breaks, indent, c) ← readBlockBreaks least (c.rest.length + 1) indent 0 [] c
  let (b, breaks, c) ← readBlockLines folded indent c.rest.length breaks ⟨[], [], false⟩ c
  let text := match chomping with
    | .strip => b.text
    | .clip => b.text ++ b.lineBreak
    | .keep => b.text ++ b.lineBreak ++ breaks
  return (text, c)

end SchemaMigration.Yaml
