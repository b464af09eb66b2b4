import SchemaMigration.Yaml.Token

/-! # Events

Tokens as a sequence of events: scalars, aliases, and the starts and ends of collections and documents.
What may come next is kept as a stack of `Goal`s; the goal on top takes tokens, answers an event and puts
the goals that follow from it in its place.
-/

namespace SchemaMigration.Yaml

/-- A scalar with its tag in full, if it has one. -/
structure Scalar where
  text : String
  isPlain : Bool
  tag : Option String
  deriving Repr, DecidableEq

inductive EventKind where
  | streamEnd
  | documentStart
  | documentEnd
  | alias (name : String)
  | scalar (anchor : Option String) (s : Scalar)
  | sequenceStart (anchor : Option String)
  | sequenceEnd
  | mappingStart (anchor : Option String)
  | mappingEnd
  deriving Repr, DecidableEq

/-- An event and the place where it starts. -/
structure Event where
  kind : EventKind
  position : Position
  deriving Repr, DecidableEq

/-- The events of a text, up to a fault if there is one. -/
structure EventStream where
  events : List Event
  fault? : Option Fault
  deriving Repr, DecidableEq

/-- What may come next. -/
inductive Goal where
  | document (isFirst : Bool)
  | documentContent
  | documentEnd
  /-- A node; an indented collection only if `inBlock`, a sequence at the indentation of its key only
      if `afterKey`. -/
  | node (inBlock afterKey : Bool)
  | blockEntry
  | entryAfterKey
  | blockKey
  | blockValue
  | flowEntry (isFirst : Bool)
  | pairKey
  | pairValue
  | pairEnd
  | flowKey (isFirst : Bool)
  | flowValue
  | flowNoValue
  deriving Repr, DecidableEq

/-- The goals and the tokens that are left, and the meanings of handles in the document at hand. -/
structure Progress where
  goals : List Goal
  tokens : List Token
  handles : List (String × String)

/-- The handles that need no directive. -/
def standardHandles : List (String × String) :=
  [("!", "!"), ("!!", "tag:yaml.org,2002:")]

namespace Progress

def next (p : Progress) (goals : List Goal) (tokens : List Token) : Progress :=
  { p with goals, tokens }

def withHandles (p : Progress) (handles : List (String × String)) : Progress :=
  { p with handles }

/-- Answers an event and goes on. -/
def answer (p : Progress) (kind : EventKind) (position : Position) (goals : List Goal)
    (tokens : List Token) : Except Problem (Event × Progress) :=
  .ok (⟨kind, position⟩, p.next goals tokens)

/-- Answers a scalar that is not written. -/
def answerEmpty (p : Progress) (position : Position) (goals : List Goal) (tokens : List Token) :
    Except Problem (Event × Progress) :=
  p.answer (.scalar none ⟨"", true, none⟩) position goals tokens

/-- A tag in full. -/
def resolveTag (p : Progress) (t : Tag) : Except Problem String :=
  if t.handle = "" then .ok t.suffix
  else match p.handles.lookup t.handle with
    | some meaning => .ok (meaning ++ t.suffix)
    | none => .error .undefinedHandle

/-- The properties at the start of tokens, an anchor and a tag in any order, and the tokens after
    them. -/
def properties : List Token → Option String × Option Tag × List Token
  | ⟨.anchor a, _, _⟩ :: ⟨.tag t, _, _⟩ :: rest => (some a, some t, rest)
  | ⟨.tag t, _, _⟩ :: ⟨.anchor a, _, _⟩ :: rest => (some a, some t, rest)
  | ⟨.anchor a, _, _⟩ :: rest => (some a, none, rest)
  | ⟨.tag t, _, _⟩ :: rest => (none, some t, rest)
  | tokens => (none, none, tokens)

/-- Takes a node; `outer` are the goals behind it. -/
def node (p : Progress) (inBlock afterKey : Bool) (outer : List Goal) :
    Except Problem (Event × Progress) := do
  let first :: _ := p.tokens | .error .unexpectedEnd
  let position := first.start
  if let ⟨.alias name, _, _⟩ :: rest := p.tokens then
    return ← p.answer (.alias name) position outer rest
  let (anchor, tag, tokens) := properties p.tokens
  let tag ← tag.mapM p.resolveTag
  let t :: rest := tokens | .error .unexpectedEnd
  match t.kind with
  | .blockEntry =>
    if afterKey then p.answer (.sequenceStart anchor) position (.entryAfterKey :: outer) tokens
    else unwritten p anchor tag position outer tokens
  | .scalar text isPlain =>
    p.answer (.scalar anchor ⟨text, isPlain, tag⟩) position outer rest
  | .flowSequenceStart =>
    p.answer (.sequenceStart anchor) position (.flowEntry true :: outer) rest
  | .flowMappingStart =>
    p.answer (.mappingStart anchor) position (.flowKey true :: outer) rest
  | .blockSequenceStart =>
    if inBlock then p.answer (.sequenceStart anchor) position (.blockEntry :: outer) rest
    else unwritten p anchor tag position outer tokens
  | .blockMappingStart =>
    if inBlock then p.answer (.mappingStart anchor) position (.blockKey :: outer) rest
    else unwritten p anchor tag position outer tokens
  | _ => unwritten p anchor tag position outer tokens
where
  /-- A node of which only the properties are written. -/
  unwritten (p : Progress) (anchor tag : Option String) (position : Position)
      (outer : List Goal) (tokens : List Token) : Except Problem (Event × Progress) :=
    if anchor.isSome || tag.isSome then
      p.answer (.scalar anchor ⟨"", true, tag⟩) position outer tokens
    else .error .unexpectedToken

/-- A node, unless one of the given tokens follows; then the node is not written, and stands at
    `position`. -/
def nodeUnless (p : Progress) (ends : List TokenKind) (inBlock afterKey : Bool)
    (position : Position) (outer : List Goal) (tokens : List Token) :
    Except Problem (Event × Progress) :=
  match tokens with
  | [] => .error .unexpectedEnd
  | t :: _ =>
    if ends.contains t.kind then p.answerEmpty position outer tokens
    else (p.next outer tokens).node inBlock afterKey outer

/-- Takes the directives of a document. -/
def directives : (version? : Option (Nat × Nat)) → (handles : List (String × String)) →
    List Token → Except Problem (List (String × String) × List Token)
  | version?, handles, ⟨.directive d, _, _⟩ :: rest =>
    match d with
    | .version major minor =>
      if version?.isSome then .error .duplicateDirective
      else if major = 1 && (minor = 1 || minor = 2) then
        directives (some (major, minor)) handles rest
      else .error .unsupportedVersion
    | .tag handle meaning =>
      if (handles.lookup handle).isSome then .error .duplicateDirective
      else directives version? (handles ++ [(handle, meaning)]) rest
  | _, handles, tokens => .ok (handles ++ standardHandles, tokens)

/-- Takes the start of a document, or the end of the text. The first document needs no mark. -/
def document (p : Progress) (isFirst : Bool) : Except Problem (Event × Progress) := do
  let tokens := if isFirst then p.tokens else p.tokens.dropWhile fun t => t.kind = .documentEnd
  let t :: rest := tokens | .error .unexpectedEnd
  let isMarked := match t.kind with
    | .directive _ | .documentStart => true
    | _ => false
  if t.kind = .streamEnd then p.answer .streamEnd t.start [] rest
  else if isFirst && !isMarked then
    (p.withHandles standardHandles).answer .documentStart t.start
      [.node true false, .documentEnd] tokens
  else
    let (handles, tokens) ← directives none [] tokens
    match tokens with
    | ⟨.documentStart, _, _⟩ :: rest =>
      (p.withHandles handles).answer .documentStart t.start [.documentContent, .documentEnd] rest
    | [] => .error .unexpectedEnd
    | _ => .error .unexpectedToken

/-- Whether a document ends in front of a token. -/
def endsDocument : TokenKind → Bool
  | .directive _ | .documentStart | .documentEnd | .streamEnd => true
  | _ => false

/-- Takes what belongs to the goal on top, given the goals below it and the next token. -/
def take (p : Progress) (goal : Goal) (outer : List Goal) (t : Token) (rest : List Token) :
    Except Problem (Event × Progress) :=
  let all := t :: rest
  let p := p.next outer all
  match goal with
  | .document isFirst => p.document isFirst
  | .documentContent =>
    if endsDocument t.kind then p.answerEmpty t.start outer all else p.node true false outer
  | .documentEnd =>
    p.answer .documentEnd t.start [.document false] (if t.kind = .documentEnd then rest else all)
  | .node inBlock afterKey => p.node inBlock afterKey outer
  | .blockEntry =>
    match t.kind with
    | .blockEntry =>
      p.nodeUnless [.blockEntry, .blockEnd] true false t.stop (.blockEntry :: outer) rest
    | .blockEnd => p.answer .sequenceEnd t.start outer rest
    | _ => .error .unexpectedToken
  | .entryAfterKey =>
    match t.kind with
    | .blockEntry =>
      p.nodeUnless [.blockEntry, .key, .value, .blockEnd] true false t.stop
        (.entryAfterKey :: outer) rest
    | _ => p.answer .sequenceEnd t.start outer all
  | .blockKey =>
    match t.kind with
    | .key =>
      p.nodeUnless [.key, .value, .blockEnd] true true t.stop (.blockValue :: outer) rest
    | .blockEnd => p.answer .mappingEnd t.start outer rest
    | _ => .error .unexpectedToken
  | .blockValue =>
    match t.kind with
    | .value =>
      p.nodeUnless [.key, .value, .blockEnd] true true t.stop (.blockKey :: outer) rest
    | _ => p.answerEmpty t.start (.blockKey :: outer) all
  | .flowEntry isFirst =>
    match separated isFirst .flowSequenceEnd all with
    | .error problem => .error problem
    | .ok tokens =>
      match tokens with
      | ⟨.flowSequenceEnd, start, _⟩ :: rest => p.answer .sequenceEnd start outer rest
      | ⟨.key, start, _⟩ :: rest =>
        p.answer (.mappingStart none) start (.pairKey :: .flowEntry false :: outer) rest
      | _ => (p.next outer tokens).node false false (.flowEntry false :: outer)
  | .pairKey =>
    if [TokenKind.value, .flowEntry, .flowSequenceEnd].contains t.kind then
      p.answerEmpty t.stop (.pairValue :: outer) rest
    else p.node false false (.pairValue :: outer)
  | .pairValue =>
    match t.kind with
    | .value =>
      p.nodeUnless [.flowEntry, .flowSequenceEnd] false false (startOf t rest)
        (.pairEnd :: outer) rest
    | _ => p.answerEmpty t.start (.pairEnd :: outer) all
  | .pairEnd => p.answer .mappingEnd t.start outer all
  | .flowKey isFirst =>
    match separated isFirst .flowMappingEnd all with
    | .error problem => .error problem
    | .ok tokens =>
      match tokens with
      | ⟨.flowMappingEnd, start, _⟩ :: rest => p.answer .mappingEnd start outer rest
      | ⟨.key, start, stop⟩ :: rest =>
        p.nodeUnless [.value, .flowEntry, .flowMappingEnd] false false
          (startOf ⟨.key, start, stop⟩ rest) (.flowValue :: outer) rest
      | _ => (p.next outer tokens).node false false (.flowNoValue :: outer)
  | .flowValue =>
    match t.kind with
    | .value =>
      p.nodeUnless [.flowEntry, .flowMappingEnd] false false (startOf t rest)
        (.flowKey false :: outer) rest
    | _ => p.answerEmpty t.start (.flowKey false :: outer) all
  | .flowNoValue => p.answerEmpty t.start (.flowKey false :: outer) all
where
  /-- Takes the comma in front of every member of a collection but the first. -/
  separated (isFirst : Bool) (closing : TokenKind) (tokens : List Token) :
      Except Problem (List Token) :=
    match tokens with
    | ⟨.flowEntry, _, _⟩ :: rest => if isFirst then .ok tokens else .ok rest
    | t :: _ => if isFirst || t.kind = closing then .ok tokens else .error .unexpectedToken
    | [] => .error .unexpectedEnd
  /-- Where the token after another one starts. -/
  startOf (t : Token) (rest : List Token) : Position :=
    (rest.head?.getD t).start

/-- Takes the next event. -/
def step (p : Progress) : Except Problem (Event × Progress) :=
  match p.goals, p.tokens with
  | goal :: outer, t :: rest => p.take goal outer t rest
  | _, _ => .error .unexpectedEnd

/-- Takes all events by `step`, at most `fuel` of them. `fault` is what the tokens broke off with. -/
def run (fault? : Option Fault) : (fuel : Nat) → Progress → EventStream
  | 0, _ => ⟨[], fault?⟩
  | fuel + 1, p =>
    if p.goals.isEmpty then ⟨[], none⟩
    else match p.step with
      | .ok (e, p) =>
        let stream := run fault? fuel p
        { stream with events := e :: stream.events }
      | .error problem =>
        let position := (p.tokens.head?.map Token.start).getD ⟨0, 0, 0⟩
        ⟨[], some (if problem = .unexpectedEnd then fault?.getD ⟨problem, position⟩
          else ⟨problem, position⟩)⟩

end Progress

def EventStream.of (text : String) : EventStream :=
  let stream := TokenStream.of text
  Progress.run stream.fault? (4 * stream.tokens.length + 8)
    ⟨[.document true], stream.tokens, standardHandles⟩

end SchemaMigration.Yaml
