import Concord.Document.Basic
import Concord.Binary64.Rounding
import Concord.Text.Integer

/-!
# Reading documents

`Document.read` reads one document from a text. A defect is reported at the character where reading
could not go on; inside, readers report it by the count of characters that are left, which needs no
bookkeeping. Numbers may be of any size, not-a-number and the infinities are written `NaN`,
`Infinity` and `-Infinity`, and of members with one name the last counts. An escape of half a
surrogate pair stands for the replacement character. Lists and objects may stand inside each other
up to a number of levels (`maxNesting`).
-/

namespace Concord

/-- What is wrong with a text that is not a document. -/
inductive Defect where
  | byteOrderMark
  | value
  | name
  | colon
  | comma
  | openString
  | escape
  | codePoint
  | control
  | extra
deriving DecidableEq

/-- What a reader was looking for, or found amiss. -/
def Defect.message : Defect → String
  | byteOrderMark => "Unexpected UTF-8 BOM (decode using utf-8-sig)"
  | value => "Expecting value"
  | name => "Expecting property name enclosed in double quotes"
  | colon => "Expecting ':' delimiter"
  | comma => "Expecting ',' delimiter"
  | openString => "Unterminated string starting at"
  | escape => "Invalid \\escape"
  | codePoint => "Invalid \\uXXXX escape"
  | control => "Invalid control character at"
  | extra => "Extra data"

/-- Why a text was not read. -/
inductive ReadFailure where
  /-- The text is not a document from the given count of characters before its end on. -/
  | malformed (defect : Defect) (left : Nat)
  /-- A whole number has more digits than may be read. -/
  | tooManyDigits (count : Nat)
  /-- Lists and objects stand inside each other on too many levels. -/
  | tooDeep

namespace Document

/-- Readers take the beginning of a text and return a value and the rest of the text. -/
abbrev Reading := Except ReadFailure

/-- Whether the character may stand between the parts of a document. -/
def isSpace (c : Char) : Bool := c = ' ' || c = '\t' || c = '\n' || c = '\r'

/-- The text from its first character on that is no space. -/
def skipSpace (input : List Char) : List Char := input.dropWhile isSpace

/-- Reading stops in front of the given text. -/
def fail {α : Type} (defect : Defect) (input : List Char) : Reading α :=
  .error (.malformed defect input.length)

/-! ## Strings -/

/-- The number of four hexadecimal digits. -/
def hexFour? (a b c d : Char) : Option Nat := do
  let a ← Text.hexValue? a
  let b ← Text.hexValue? b
  let c ← Text.hexValue? c
  let d ← Text.hexValue? d
  return ((a * 16 + b) * 16 + c) * 16 + d

/-- The character that a one-letter escape stands for. -/
def escaped? : Char → Option Char
  | '"' => some '"'
  | '\\' => some '\\'
  | '/' => some '/'
  | 'b' => some '\x08'
  | 'f' => some '\x0c'
  | 'n' => some '\n'
  | 'r' => some '\r'
  | 't' => some '\t'
  | _ => none

/-- The first half of a surrogate pair. -/
def isHighSurrogate (n : Nat) : Bool := 0xd800 ≤ n && n ≤ 0xdbff

/-- The second half of a surrogate pair. -/
def isLowSurrogate (n : Nat) : Bool := 0xdc00 ≤ n && n ≤ 0xdfff

/-- The code point of a surrogate pair. -/
def joinSurrogates (high low : Nat) : Nat := 0x10000 + (high - 0xd800) * 0x400 + (low - 0xdc00)

/-- The character of a code unit; half a surrogate pair has none and gives the replacement
character. -/
def unitChar (n : Nat) : Char :=
  if isHighSurrogate n || isLowSurrogate n then Char.ofNat 0xfffd else Char.ofNat n

/-- The code unit of four hexadecimal digits and the text after them. It is only taken when more
text follows. -/
def readUnit? : List Char → Option (Nat × List Char)
  | a :: b :: c :: d :: e :: rest => (hexFour? a b c d).map fun unit => (unit, e :: rest)
  | _ => none

/-- Less text is left after a code unit. -/
theorem length_of_readUnit? {input rest : List Char} {unit : Nat}
    (h : readUnit? input = some (unit, rest)) : rest.length < input.length := by
  unfold readUnit? at h
  split at h
  · simp only [Option.map_eq_some_iff, Prod.mk.injEq] at h
    obtain ⟨_, _, _, rfl⟩ := h
    simp only [List.length_cons]
    omega
  · cases h

/-- The character of an escaped code unit whose digits begin the text, and the text after it. The
first half of a surrogate pair takes the second half with it. -/
def readCodePoint (input : List Char) :
    Reading (Char × { rest : List Char // rest.length < input.length }) :=
  match h : readUnit? input with
  | none => .error (.malformed .codePoint (input.length + 1))
  | some (unit, rest) =>
    let alone := (unitChar unit, ⟨rest, length_of_readUnit? h⟩)
    match rest, length_of_readUnit? h with
    | '\\' :: 'u' :: second, hrest =>
      if isHighSurrogate unit && 5 ≤ second.length then
        match h' : readUnit? second with
        | none => .error (.malformed .codePoint (second.length + 1))
        | some (low, after) =>
          if isLowSurrogate low then
            have hlength : after.length < input.length := by
              have := length_of_readUnit? h'
              simp only [List.length_cons] at hrest
              omega
            .ok (Char.ofNat (joinSurrogates unit low), ⟨after, hlength⟩)
          else .ok alone
      else .ok alone
    | _, _ => .ok alone

/-- The characters of a string up to its closing quote, for a string whose opening quote stands
`opened` characters before the end of the text. -/
def readString (opened : Nat) : List Char → Reading (List Char × List Char)
  | [] => .error (.malformed .openString opened)
  | '"' :: rest => .ok ([], rest)
  | ['\\'] => .error (.malformed .openString opened)
  | '\\' :: 'u' :: digits => do
    let (char, ⟨rest, _⟩) ← readCodePoint digits
    let (chars, rest) ← readString opened rest
    return (char :: chars, rest)
  | '\\' :: c :: rest =>
    match escaped? c with
    | none => fail .escape ('\\' :: c :: rest)
    | some char => do
      let (chars, rest) ← readString opened rest
      return (char :: chars, rest)
  | c :: rest =>
    if c < ' ' then fail .control (c :: rest) else do
      let (chars, rest) ← readString opened rest
      return (c :: chars, rest)
termination_by input => input.length

/-! ## Numbers -/

/-- The digits at the beginning of a text, and the rest. -/
def spanDigits (input : List Char) : List Char × List Char := input.span Char.isDigit

/-- The number of ASCII digits. -/
def digitsValue (digits : List Char) : Nat :=
  Text.ofDigits (digits.map fun c => c.toNat - '0'.toNat)

/-- The whole part of a number: a zero alone, or digits that begin with another one. -/
def readWhole : List Char → Option (List Char × List Char)
  | '0' :: rest => some (['0'], rest)
  | c :: rest => if c.isDigit then some (spanDigits (c :: rest)) else none
  | [] => none

/-- The digits after the point, if a point with a digit behind it follows. -/
def readPlaces : List Char → List Char × List Char
  | '.' :: c :: rest => if c.isDigit then spanDigits (c :: rest) else ([], '.' :: c :: rest)
  | input => ([], input)

/-- The power of ten, if a letter, a sign or none, and a digit follow. -/
def readPower (input : List Char) : Option Int × List Char :=
  match input with
  | c :: rest =>
    if c = 'e' ∨ c = 'E' then
      let (negative, digits) := match rest with
        | '-' :: digits => (true, digits)
        | '+' :: digits => (false, digits)
        | digits => (false, digits)
      match spanDigits digits with
      | ([], _) => (none, input)
      | (power, after) =>
        let n : Int := digitsValue power
        (some (if negative then -n else n), after)
    else (none, input)
  | [] => (none, [])

/-- A number. It is whole when it has neither places nor a power of ten. -/
def readNumber (input : List Char) : Reading (Document × List Char) :=
  let (negative, unsigned) := match input with
    | '-' :: rest => (true, rest)
    | rest => (false, rest)
  match readWhole unsigned with
  | none => fail .value input
  | some (whole, rest) =>
    let (places, rest) := readPlaces rest
    let (power, rest) := readPower rest
    if places.isEmpty && power.isNone then
      if whole.length ≤ Text.maxDigits then
        let n : Int := digitsValue whole
        .ok (int (if negative then -n else n), rest)
      else .error (.tooManyDigits whole.length)
    else
      .ok (real (.ofDecimal negative (digitsValue (whole ++ places))
        (power.getD 0 - places.length)), rest)

/-! ## Values -/

/-- A value that is one of the fixed words. -/
def readWord : List Char → Option (Document × List Char)
  | 'n' :: 'u' :: 'l' :: 'l' :: rest => some (null, rest)
  | 't' :: 'r' :: 'u' :: 'e' :: rest => some (bool true, rest)
  | 'f' :: 'a' :: 'l' :: 's' :: 'e' :: rest => some (bool false, rest)
  | 'N' :: 'a' :: 'N' :: rest => some (real .nan, rest)
  | 'I' :: 'n' :: 'f' :: 'i' :: 'n' :: 'i' :: 't' :: 'y' :: rest =>
    some (real (.infinite false), rest)
  | '-' :: 'I' :: 'n' :: 'f' :: 'i' :: 'n' :: 'i' :: 't' :: 'y' :: rest =>
    some (real (.infinite true), rest)
  | _ => none

mutual

/-- One value, with at most `nesting` levels of lists and objects. Every value begins with a
character of its own, so a bound on the steps that is twice the length of the text is never
reached. -/
def readValue (bound nesting : Nat) (input : List Char) : Reading (Document × List Char) :=
  match bound with
  | 0 => fail .value input
  | bound + 1 =>
    match input with
    | '"' :: rest => do
      let (chars, rest) ← readString input.length rest
      return (.text (String.ofList chars), rest)
    | '{' :: rest =>
      match nesting, skipSpace rest with
      | 0, _ => .error .tooDeep
      | _ + 1, '}' :: rest => .ok (object [], rest)
      | nesting + 1, rest => do
        let (members, rest) ← readMembers bound nesting rest
        return (object (ofPairs members), rest)
    | '[' :: rest =>
      match nesting, skipSpace rest with
      | 0, _ => .error .tooDeep
      | _ + 1, ']' :: rest => .ok (list [], rest)
      | nesting + 1, rest => do
        let (items, rest) ← readItems bound nesting rest
        return (list items, rest)
    | input =>
      match readWord input with
      | some reading => .ok reading
      | none => readNumber input

/-- The items of a list up to its closing bracket, at least one. -/
def readItems (bound nesting : Nat) (input : List Char) :
    Reading (List Document × List Char) :=
  match bound with
  | 0 => fail .value input
  | bound + 1 => do
    let (item, rest) ← readValue bound nesting input
    match skipSpace rest with
    | ']' :: rest => return ([item], rest)
    | ',' :: rest =>
      let (items, rest) ← readItems bound nesting (skipSpace rest)
      return (item :: items, rest)
    | rest => fail .comma rest

/-- The members of an object up to its closing brace, at least one. -/
def readMembers (bound nesting : Nat) (input : List Char) :
    Reading (List (String × Document) × List Char) :=
  match bound with
  | 0 => fail .value input
  | bound + 1 =>
    match input with
    | '"' :: rest => do
      let (name, rest) ← readString input.length rest
      match skipSpace rest with
      | ':' :: rest =>
        let (value, rest) ← readValue bound nesting (skipSpace rest)
        let member := (String.ofList name, value)
        match skipSpace rest with
        | '}' :: rest => return ([member], rest)
        | ',' :: rest =>
          let (members, rest) ← readMembers bound nesting (skipSpace rest)
          return (member :: members, rest)
        | rest => fail .comma rest
      | rest => fail .colon rest
    | input => fail .name input

end

/-- The document that a text holds, with nothing but space around it. -/
def readChars (nesting : Nat) (input : List Char) : Except ReadFailure Document :=
  match input with
  | '\ufeff' :: _ => .error (.malformed .byteOrderMark input.length)
  | _ => do
    let start := skipSpace input
    let (document, rest) ← readValue (2 * input.length + 2) nesting start
    match skipSpace rest with
    | [] => return document
    | rest => .error (.malformed .extra rest.length)

/-- The levels of lists and objects that may stand inside each other. -/
def maxNesting : Nat := 989

/-- The document that a text holds. -/
def read (s : String) : Except ReadFailure Document := readChars maxNesting s.toList

/-- A place in a text: lines and columns count from one, characters from zero. -/
structure Place where
  line : Nat
  column : Nat
  character : Nat

/-- The place in front of which the given count of characters is left. -/
def placeOf (input : List Char) (left : Nat) : Place :=
  let before := input.take (input.length - left)
  { line := before.count '\n' + 1
    column := (before.reverse.takeWhile (· ≠ '\n')).length + 1
    character := before.length }

end Document

/-- The text of a failure to read the given text. -/
def ReadFailure.message (s : String) : ReadFailure → String
  | malformed defect left =>
    let place := Document.placeOf s.toList left
    defect.message ++ ": line " ++ toString place.line ++ " column " ++ toString place.column ++
      " (char " ++ toString place.character ++ ")"
  | tooManyDigits count =>
    "Exceeds the limit (" ++ toString Text.maxDigits ++
      " digits) for integer string conversion: value has " ++ toString count ++
      " digits; use sys.set_int_max_str_digits() to increase the limit"
  | tooDeep => "too many levels of lists and objects"

end Concord
