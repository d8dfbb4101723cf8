import Concord.Document.Basic
import Concord.Binary64.Text
import Concord.Text.Quoted

/-!
# Writing documents

A document is written on one line (`Document.render`) or with every item and member on a line of its
own, indented by two spaces for each level (`Document.renderIndented`). Both use ASCII alone: other
characters are escaped by their code units, in hexadecimal.
-/

namespace Concord.Document

/-- The escape of one code unit. -/
def unitEscape (n : Nat) : List Char := '\\' :: 'u' :: Text.hexDigits 4 n

/-- The written form of one character of a string. -/
def writeChar (c : Char) : List Char :=
  if c = '"' then ['\\', '"']
  else if c = '\\' then ['\\', '\\']
  else if c = '\n' then ['\\', 'n']
  else if c = '\r' then ['\\', 'r']
  else if c = '\t' then ['\\', 't']
  else if c = '\x0c' then ['\\', 'f']
  else if c = '\x08' then ['\\', 'b']
  else if ' ' ≤ c ∧ c ≤ '~' then [c]
  else if c.toNat < 0x10000 then unitEscape c.toNat
  else
    let n := c.toNat - 0x10000
    unitEscape (0xd800 + n / 0x400) ++ unitEscape (0xdc00 + n % 0x400)

/-- The written form of a string. -/
def writeString (s : String) : List Char := '"' :: s.toList.flatMap writeChar ++ ['"']

/-- The written form of a real number. -/
def writeReal : Binary64 → List Char
  | .nan => "NaN".toList
  | .infinite false => "Infinity".toList
  | .infinite true => "-Infinity".toList
  | x => x.text.toList

/-- How the parts of a list or an object are set apart at a given depth. -/
structure Layout where
  /-- What stands after the opening bracket of the given depth. -/
  opening : Nat → List Char
  /-- What stands between two parts. -/
  between : Nat → List Char
  /-- What stands before the closing bracket. -/
  closing : Nat → List Char

/-- Everything on one line. -/
def Layout.line : Layout := ⟨fun _ => [], fun _ => [',', ' '], fun _ => []⟩

/-- The beginning of a line at a depth. -/
def newLine (depth : Nat) : List Char := '\n' :: List.replicate (2 * depth) ' '

/-- Every part on a line of its own. -/
def Layout.indented : Layout :=
  ⟨fun depth => newLine (depth + 1), fun depth => ',' :: newLine (depth + 1), newLine⟩

mutual

/-- The written form of a document at a depth. -/
def write (layout : Layout) (depth : Nat) : Document → List Char
  | null => "null".toList
  | bool true => "true".toList
  | bool false => "false".toList
  | int z => (toString z).toList
  | real x => writeReal x
  | text s => writeString s
  | list [] => ['[', ']']
  | list (item :: items) =>
    '[' :: layout.opening depth ++ write layout (depth + 1) item ++
      writeItems layout depth items ++ layout.closing depth ++ [']']
  | object [] => ['{', '}']
  | object ((name, value) :: members) =>
    '{' :: layout.opening depth ++ writeString name ++ [':', ' '] ++
      write layout (depth + 1) value ++ writeMembers layout depth members ++
      layout.closing depth ++ ['}']

/-- The items of a list after its first. -/
def writeItems (layout : Layout) (depth : Nat) : List Document → List Char
  | [] => []
  | item :: items =>
    layout.between depth ++ write layout (depth + 1) item ++ writeItems layout depth items

/-- The members of an object after its first. -/
def writeMembers (layout : Layout) (depth : Nat) : List (String × Document) → List Char
  | [] => []
  | (name, value) :: members =>
    layout.between depth ++ writeString name ++ [':', ' '] ++ write layout (depth + 1) value ++
      writeMembers layout depth members

end

/-- The document on one line. -/
def render (d : Document) : String := String.ofList (write .line 0 d)

/-- The document with every part on a line of its own. -/
def renderIndented (d : Document) : String := String.ofList (write .indented 0 d)

end Concord.Document
