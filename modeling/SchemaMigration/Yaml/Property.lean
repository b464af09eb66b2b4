import SchemaMigration.Yaml.Scalar

/-! # Properties of nodes

Anchors, aliases and tags in front of a node, and the directives at the head of a document. A tag has
a handle, which a directive may give a meaning to, and a suffix.
-/

namespace SchemaMigration.Yaml

/-- A tag as it is written: its handle and its suffix. -/
structure Tag where
  handle : String
  suffix : String
  deriving Repr, DecidableEq

/-- A directive that is known. -/
inductive Directive where
  | version (major minor : Nat)
  | tag (handle meaning : String)
  deriving Repr, DecidableEq

/-- Reads the name of an anchor or an alias. The cursor stands at the sign in front of it. -/
def readAnchor (c : Cursor) : Except Fault (String × Cursor) :=
  let (name, after) := (c.skip 1).takeWhile isNameCharacter
  let ends := match after.rest with
    | [] => true
    | ch :: _ => isSpace ch || "?:,]\x7d%@`".toList.contains ch
  if name.isEmpty || !ends then c.fault .badAnchor else .ok (String.ofList name, after)

/-- Whether a character may stand in a tag without an escape. -/
def isTagCharacter (verbatim : Bool) (c : Char) : Bool :=
  isNameCharacter c || ";/?:@&=+$.!~*'()".toList.contains c ||
    (verbatim && ",[]".toList.contains c)

/-- The bytes of a tag at the start of a text, with escapes resolved, and the length of what was
    read; `none` when an escape is broken off. -/
def tagBytes (verbatim : Bool) : List Char → Option (List UInt8 × Nat)
  | '%' :: a :: b :: rest => do
    let n ← hexNumber? [a, b]
    let (bytes, length) ← tagBytes verbatim rest
    return (UInt8.ofNat n :: bytes, length + 3)
  | c :: rest =>
    if c = '%' then none
    else if isTagCharacter verbatim c then do
      let (bytes, length) ← tagBytes verbatim rest
      return (c.toString.toUTF8.toList ++ bytes, length + 1)
    else some ([], 0)
  | [] => some ([], 0)

def readTagText (verbatim : Bool) (c : Cursor) : Except Fault (String × Cursor) :=
  match tagBytes verbatim c.rest with
  | none => c.fault .badTag
  | some (bytes, length) =>
    match String.fromUTF8? bytes.toByteArray with
    | some text => .ok (text, c.skip length)
    | none => c.fault .badTag

/-- Reads an exclamation mark, a name and an exclamation mark if one follows. -/
def readHandle (c : Cursor) : Except Fault (List Char × Cursor) :=
  if !c.startsWith ['!'] then c.fault .badTag
  else
    let (name, c) := (c.skip 1).takeWhile isNameCharacter
    if c.startsWith ['!'] then .ok ('!' :: name ++ ['!'], c.skip 1) else .ok ('!' :: name, c)

/-- Reads a tag between angle brackets. -/
def readVerbatimTag (c : Cursor) : Except Fault (Tag × Cursor) := do
  let (text, c) ← readTagText true (c.skip 2)
  if text = "" || !c.startsWith ['>'] then c.fault .badTag else return (⟨"", text⟩, c.skip 1)

/-- Reads a tag that begins with a handle. Without a second exclamation mark, the handle is a single
    one and what was read belongs to the suffix. -/
def readShorthandTag (c : Cursor) : Except Fault (Tag × Cursor) := do
  let (handle, c) ← readHandle c
  let (text, c) ← readTagText false c
  let isComplete := 1 < handle.length && handle.getLast? = some '!'
  if isComplete then
    if text = "" then c.fault .badTag else return (⟨String.ofList handle, text⟩, c)
  else
    let suffix := String.ofList (handle.drop 1) ++ text
    return (if suffix = "" then ⟨"", "!"⟩ else ⟨"!", suffix⟩, c)

def readTag (inFlow : Bool) (c : Cursor) : Except Fault (Tag × Cursor) := do
  let (tag, c) ← if c.startsWith ['!', '<'] then readVerbatimTag c else readShorthandTag c
  if endsWord c.rest || (inFlow && c.startsWith [',']) then return (tag, c) else c.fault .badTag

def readVersionNumber (c : Cursor) : Except Fault (Nat × Cursor) :=
  let (digits, after) := c.takeWhile Char.isDigit
  if digits.isEmpty || 9 < digits.length then c.fault .badDirective
  else .ok (digits.foldl (fun n d => 10 * n + (d.toNat - 48)) 0, after)

def readVersion (c : Cursor) : Except Fault (Directive × Cursor) := do
  let (major, c) ← readVersionNumber (c.skipWhile isBlank)
  if !c.startsWith ['.'] then c.fault .badDirective
  let (minor, c) ← readVersionNumber (c.skip 1)
  return (.version major minor, c)

/-- Reads a handle and its meaning. -/
def readTagDirective (c : Cursor) : Except Fault (Directive × Cursor) := do
  let (handle, c) ← readHandle (c.skipWhile isBlank)
  let isComplete := handle = ['!'] || (1 < handle.length && handle.getLast? = some '!')
  if !isComplete || !c.rest.head?.any isBlank then c.fault .badDirective
  let (meaning, c) ← readTagText true (c.skipWhile isBlank)
  if meaning = "" || !endsWord c.rest then c.fault .badDirective
  return (.tag (String.ofList handle) meaning, c)

/-- Reads a directive to the end of its line. The cursor stands at the percent sign. -/
def readDirective (c : Cursor) : Except Fault (Directive × Cursor) := do
  let (name, c) := (c.skip 1).takeWhile isNameCharacter
  if !endsWord c.rest then c.fault .badDirective
  let (directive, c) ←
    if name = "YAML".toList then readVersion c
    else if name = "TAG".toList then readTagDirective c
    else c.fault .badDirective
  return (directive, ← c.finishLine .badDirective)

end SchemaMigration.Yaml
