import Concord.Document.Basic
import Concord.Binary64.Text
import Concord.Text.Quoted

/-!
# Documents inside messages

A message shows a text as it is, and any other value in the notation of `Document.shown`: texts
in quotes, lists in brackets, objects in braces, and capitalised words for null and the truth
values.
-/

namespace Concord.Document

mutual

/-- The notation of a value inside a message. -/
def shown : Document → String
  | null => "None"
  | bool true => "True"
  | bool false => "False"
  | int z => toString z
  | real x => x.text
  | text s => Text.quoted s
  | list [] => "[]"
  | list (item :: items) => "[" ++ shown item ++ shownItems items ++ "]"
  | object [] => "\x7b\x7d"
  | object ((name, value) :: members) =>
    "\x7b" ++ Text.quoted name ++ ": " ++ shown value ++ shownMembers members ++ "\x7d"

/-- The items of a list after its first. -/
def shownItems : List Document → String
  | [] => ""
  | item :: items => ", " ++ shown item ++ shownItems items

/-- The members of an object after its first. -/
def shownMembers : List (String × Document) → String
  | [] => ""
  | (name, value) :: members =>
    ", " ++ Text.quoted name ++ ": " ++ shown value ++ shownMembers members

end

/-- The value in the running text of a message. -/
def plain : Document → String
  | text s => s
  | d => shown d

/-- The name of the value's kind in messages. -/
def kindName : Document → String
  | null => "NoneType"
  | bool _ => "bool"
  | int _ => "int"
  | real _ => "float"
  | text _ => "str"
  | list _ => "list"
  | object _ => "dict"

end Concord.Document
