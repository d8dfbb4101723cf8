import Concord.Config.Basic
import Concord.Disk
import Concord.Journal
import Concord.Setting
import Concord.Text.Blank
import Concord.Text.Digit
import Concord.Text.Parts
import Concord.Text.WordCharacter

/-!
# The journal's configuration

`LogConfig.setup` turns the settings of the journal into a level and the places that records are
written to. A level is a name in either case; any other text means the usual level, except two names
that the journal uses for something else (`LogConfig.levelOf`). A format has to hold a conversion of
a named field (`LogConfig.hasConversion`).
-/

namespace Concord

/-- Where the records of the journal are written to, and in which format. -/
inductive LogSink where
  /-- Standard error. -/
  | stream (format : String)
  /-- A file that is set aside when it is full. -/
  | file (path : String) (maxBytes : Number) (backupCount : Document) (format : String)

/-- The journal of a running daemon. -/
structure LogSetup where
  /-- Less grave records are left out. -/
  level : Nat
  sinks : List LogSink

/-- Whether the journal keeps a record. -/
def LogSetup.keeps (s : LogSetup) (r : Record) : Bool := s.level ≤ r.level.number

namespace LogConfig

/-! ## Levels -/

/-- The numbers of the levels by their names. -/
def levels : List (String × Nat) :=
  [("CRITICAL", 50), ("FATAL", 50), ("ERROR", 40), ("WARNING", 30), ("WARN", 30), ("INFO", 20),
    ("DEBUG", 10), ("NOTSET", 0)]

/-- The usual level. -/
def usualLevel : Nat := 20

/-- The letters outside ASCII whose capitals are ASCII letters: the dotless i, the long and the sharp
s, and the ligatures. -/
def foreignCapitals : List (Char × String) :=
  [('\u0131', "I"), ('\u017f', "S"), ('\u00df', "SS"), ('\ufb00', "FF"), ('\ufb01', "FI"),
    ('\ufb02', "FL"), ('\ufb03', "FFI"), ('\ufb04', "FFL"), ('\ufb05', "ST"),
    ('\ufb06', "ST")]

/-- The capitals of a letter, as far as they are ASCII letters. -/
def capitals (c : Char) : List Char :=
  match foreignCapitals.find? (·.1 = c) with
  | some letter => letter.2.toList
  | none => [c.toUpper]

/-- The number of the level that a text names. The name of the basic format stands for a text, and
that of the table of styles for a table, and neither is a level. -/
def levelOf (name : String) : Except Fault Nat :=
  match String.ofList (name.toList.flatMap capitals) with
  | "BASIC_FORMAT" => .error (.logLevel "%(levelname)s:%(name)s:%(message)s")
  | "_STYLES" => .error (.kind "Level not an integer or a valid string")
  | name => .ok (((levels.find? (·.1 = name)).map (·.2)).getD usualLevel)

/-! ## Formats -/

/-- The format that stands for an empty one. -/
def bareFormat : String := "%(message)s"

/-- The letters of conversions, in either case; the dotted and the dotless i and the long s count
as cases of i and s. -/
def isConversion (c : Char) : Bool :=
  "diouxefgcrsa%".toList.contains c.toLower || c = '\u0130' || c = '\u0131' || c = '\u017f'

/-- Whether the character is a flag of a conversion. -/
def isFlag (c : Char) : Bool := c = '#' || c = '0' || c = '+' || c = ' ' || c = '-'

/-- The text after a width, a star or digits, if there is one. -/
def afterWidth : List Char → Option (List Char)
  | '*' :: rest => some rest
  | c :: rest => if Text.isDecimalDigit c then some (rest.dropWhile Text.isDecimalDigit) else none
  | [] => none

/-- Whether the text begins with the end of a conversion, after its name. -/
def endsConversion (chars : List Char) : Bool :=
  let chars := chars.dropWhile isFlag
  let chars := (afterWidth chars).getD chars
  let chars := match chars with
    | '.' :: rest => (afterWidth rest).getD chars
    | _ => chars
  match chars with
  | c :: _ => isConversion c
  | [] => false

/-- Whether the text begins with a conversion of a named field. -/
def startsConversion : List Char → Bool
  | '%' :: '(' :: rest =>
    match rest.takeWhile Text.isWordCharacter, rest.dropWhile Text.isWordCharacter with
    | _ :: _, ')' :: after => endsConversion after
    | _, _ => false
  | _ => false

/-- Whether the text holds a conversion of a named field. -/
def hasConversion : List Char → Bool
  | [] => false
  | c :: rest => startsConversion (c :: rest) || hasConversion rest

/-- The format of lines that a setting stands for. -/
def formatOf (d : Document) : Except Fault String :=
  if !d.isSet then .ok bareFormat
  else match d with
    | .text s => if hasConversion s.toList then .ok s else .error (.logFormat s)
    | _ => .error (.kind "expected string or bytes-like object")

/-! ## Files -/

/-- The bytes in a number of mebibytes. -/
def bytesOf : Number → Number
  | .int n => .int (n * 1048576)
  | .real (.finite negative m) => .real (.ofUnitRatio negative (m.units * 1048576) 1)
  | .real x => .real x

/-- The largest size of the file. -/
def maxBytes (d : Document) : Except Fault Number :=
  match d.number? with
  | some n => .ok (bytesOf n)
  | none => .error (.incomparable ">" d.kindName "int")

/-- The path of a file that can be written to. -/
def filePath (disk : Disk) (d : Document) : Except Fault String :=
  match d with
  | .text path =>
    if (disk.placeOf path).any (·.toList.contains '\x00') then .error .nullInPath
    else match disk.appendTo path with
      | .error error => .error (.opening error)
      | .ok () => .ok path
  | d => .error (.kind ("expected str, bytes or os.PathLike object, not " ++ d.kindName))

/-- The file that the journal is written to, if there is one, without its format. -/
def fileSink (c : LogConfig) (disk : Disk) : Except Fault (Option (String → LogSink)) :=
  if c.file.isSet then do
    let bytes ← maxBytes c.maxSizeMb
    let path ← filePath disk c.file
    return some (.file path bytes c.backupCount)
  else .ok none

/-- The journal that the settings describe. The level is looked up last. -/
def setup (c : LogConfig) (disk : Disk) : Except Fault LogSetup := do
  let level ← c.level.textFor "upper"
  let file ← c.fileSink disk
  let format ← formatOf c.format
  return ⟨← levelOf level, .stream format :: (file.map (· format)).toList⟩

end LogConfig

end Concord
