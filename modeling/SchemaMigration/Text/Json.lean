/-! # JSON

Values and their written form, with one line for each member and two blanks for each level of
nesting.
-/

namespace SchemaMigration.Text

/-- A value. The members of an object stand in the order in which they are written. -/
inductive Json where
  | null
  | bool (b : Bool)
  | number (n : Int)
  | string (s : String)
  | array (items : List Json)
  | object (members : List (String × Json))
  deriving Inhabited

namespace Json

def fourDigits (n : Nat) : List Char :=
  let digits := Nat.toDigits 16 n
  List.replicate (4 - digits.length) '0' ++ digits

/-- The characters that stand for one character inside quotes. -/
def escape (c : Char) : List Char :=
  if c = '"' then ['\\', '"']
  else if c = '\\' then ['\\', '\\']
  else if c = '\n' then ['\\', 'n']
  else if c = '\r' then ['\\', 'r']
  else if c = '\t' then ['\\', 't']
  else if c = '\x08' then ['\\', 'b']
  else if c = '\x0c' then ['\\', 'f']
  else if c.toNat < 0x20 then ['\\', 'u'] ++ fourDigits c.toNat
  else [c]

def quote (s : String) : String :=
  String.ofList ('"' :: (s.toList.flatMap escape ++ ['"']))

/-- A line break and the indentation of a level. -/
def newline (level : Nat) : String :=
  "\n" ++ String.ofList (List.replicate (2 * level) ' ')

/-- Written parts between brackets, one to a line. -/
def block (opening closing : String) (level : Nat) (parts : List String) : String :=
  if parts.isEmpty then opening ++ closing
  else
    opening ++ ",".intercalate (parts.map (newline (level + 1) ++ ·)) ++ newline level ++ closing

mutual

/-- A value as it is written at a level of nesting. -/
def write (level : Nat) : Json → String
  | null => "null"
  | bool b => toString b
  | number n => toString n
  | string s => quote s
  | array items => block "[" "]" level (writeItems (level + 1) items)
  | object members => block "\x7b" "\x7d" level (writeMembers (level + 1) members)

def writeItems (level : Nat) : List Json → List String
  | [] => []
  | item :: rest => write level item :: writeItems level rest

def writeMembers (level : Nat) : List (String × Json) → List String
  | [] => []
  | (name, value) :: rest =>
    (quote name ++ ": " ++ write level value) :: writeMembers level rest

end

/-- A value as a text: `write` at the outermost level. -/
def pretty (v : Json) : String :=
  v.write 0

/-- A value of a kind that is not expected, in words. -/
def unexpected : Json → String
  | null => "null"
  | bool b => "boolean `" ++ toString b ++ "`"
  | number n => "integer `" ++ toString n ++ "`"
  | string s => "string " ++ quote s
  | array _ => "sequence"
  | object _ => "map"

/-- The wording for a value of another kind than the one that is expected. -/
def invalidType (v : Json) (expected : String) : String :=
  "invalid type: " ++ v.unexpected ++ ", expected " ++ expected

def asString : Json → Except String String
  | string s => .ok s
  | v => .error (v.invalidType "a string")

/-- The wording for a word that is none of those that are expected. -/
def unknownWord (word : String) (expected : List String) : String :=
  "unknown variant `" ++ word ++ "`, expected one of " ++
    ", ".intercalate (expected.map fun e => "`" ++ e ++ "`")

/-- The members that are present. -/
def present (members : List (String × Option Json)) : Json :=
  object (members.filterMap fun (name, value) => value.map fun v => (name, v))

end Json

end SchemaMigration.Text
