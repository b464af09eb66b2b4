import SchemaMigration.FileTree.Basic
import SchemaMigration.Text.Blank

/-! # Answers to questions

An answer is one line of the input without the blanks around it. Reading it takes exactly that line
away from the input, so that the next question gets the next line.
-/

namespace SchemaMigration.Cli

/-- Splits off the first line with its line break. The last line may have none. -/
def splitLine : List UInt8 → List UInt8 × List UInt8
  | [] => ([], [])
  | b :: rest =>
    if b = 0x0A then ([b], rest)
    else
      let (line, rest) := splitLine rest
      (b :: line, rest)

def answerOf (line : List UInt8) : Except ReadFault String :=
  match String.fromUTF8? line.toByteArray with
  | some text => .ok (Text.trim text)
  | none => .error .notUtf8

/-- Reads an answer; what follows its line is still to be read. -/
def readAnswer (input : List UInt8) : Except ReadFault String × List UInt8 :=
  let (line, rest) := splitLine input
  (answerOf line, rest)

/-- Whether an answer is a yes. Everything else is a no. -/
def isYes (answer : String) : Bool :=
  let lower := answer.toList.map Char.toLower
  lower = ['y'] || lower = ['y', 'e', 's']

/-- A question that is answered with yes or no. -/
def yesNo (question : String) : String :=
  question ++ " [y/N] "

/-- The wording for an answer that cannot be read, and its cause. -/
def unreadableAnswer (fault : ReadFault) : List String :=
  ["Failed to read answer from stdin", fault.message]

end SchemaMigration.Cli
