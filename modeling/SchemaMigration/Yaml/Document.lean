import SchemaMigration.Yaml.Event

/-! # Documents

The content of the first document of a text, in which every alias leads to the node with its anchor.
-/

namespace SchemaMigration.Yaml

inductive Content where
  /-- A document that is not there. -/
  | void
  /-- Stands for the node that begins after a number of entries. -/
  | alias (target : Nat)
  | scalar (s : Scalar)
  | sequenceStart
  | sequenceEnd
  | mappingStart
  | mappingEnd
  deriving Repr, DecidableEq

/-- A part of the content of a document and the place where it starts. -/
structure Entry where
  content : Content
  position : Position
  deriving Repr, DecidableEq

/-- The content of the first document of a text. -/
structure Document where
  entries : List Entry
  /-- What the content breaks off with. -/
  fault? : Option Fault
  /-- Whether there is nothing after the document. -/
  isOnly : Bool
  deriving Repr, DecidableEq

namespace Document

/-- A document that breaks off. -/
def broken (entries : List Entry) (fault? : Option Fault) : Document :=
  ⟨entries, some (fault?.getD ⟨.unexpectedEnd, ⟨0, 0, 0⟩⟩), true⟩

/-- Collects the content of the first document from events, behind the entries so far. `anchors`
    tells where the nodes with anchors begin, the latest first. -/
def collect (fault? : Option Fault) : (anchors : List (String × Nat)) → (entries : List Entry) →
    List Event → Document
  | _, entries, [] => broken entries fault?
  | anchors, entries, e :: rest =>
    let enter (anchor : Option String) : List (String × Nat) :=
      match anchor with
      | some name => (name, entries.length) :: anchors
      | none => anchors
    let add (content : Content) : List Entry := entries ++ [⟨content, e.position⟩]
    match e.kind with
    | .documentStart => collect fault? anchors entries rest
    | .documentEnd =>
      let isOnly := rest.head?.any fun next => next.kind = .streamEnd
      ⟨entries, none, isOnly⟩
    | .streamEnd => ⟨add .void, none, true⟩
    | .alias name =>
      match anchors.lookup name with
      | some target => collect fault? anchors (add (.alias target)) rest
      | none => broken entries (some ⟨.unknownAnchor, e.position⟩)
    | .scalar anchor s => collect fault? (enter anchor) (add (.scalar s)) rest
    | .sequenceStart anchor => collect fault? (enter anchor) (add .sequenceStart) rest
    | .sequenceEnd => collect fault? anchors (add .sequenceEnd) rest
    | .mappingStart anchor => collect fault? (enter anchor) (add .mappingStart) rest
    | .mappingEnd => collect fault? anchors (add .mappingEnd) rest

def of (text : String) : Document :=
  let stream := EventStream.of text
  collect stream.fault? [] [] stream.events

end Document

end SchemaMigration.Yaml
