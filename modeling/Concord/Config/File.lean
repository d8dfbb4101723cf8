import Concord.Config.Reader
import Concord.Disk
import Concord.Document.Printer
import Concord.World

/-!
# Configuration files

A configuration is read from a file (`Config.load`) and written as an indented document
(`Config.fileText`). A file is text in UTF-8, and its lines may end with a line feed, a carriage
return or both. Everything that keeps a file from being a configuration is reported with the path,
except names that are no settings.
-/

namespace Concord

/-- The lines of a text with a line feed at their ends, whatever they end with. -/
def unifyLineEnds : List Char → List Char
  | '\r' :: '\n' :: rest => '\n' :: unifyLineEnds rest
  | '\r' :: rest => '\n' :: unifyLineEnds rest
  | c :: rest => c :: unifyLineEnds rest
  | [] => []

namespace Config

/-- The document in the content of the file at a path. -/
def documentOfBytes (path : String) (content : ByteArray) : Except Trouble Document :=
  match String.fromUTF8? content with
  | none => .error (.fault (.encoding "bytes that are not UTF-8"))
  | some raw =>
    let text := String.ofList (unifyLineEnds raw.toList)
    match Document.read text with
    | .ok d => .ok d
    | .error failure =>
      let message := failure.message text
      match failure with
      | .malformed .. => .error (.failure (.config (.unreadable path message)))
      | .tooManyDigits _ => .error (.fault (.digits message))
      | .tooDeep => .error (.fault .nesting)

/-- The configuration in the file at a path. -/
def ofFile (disk : Disk) (path : String) : Except Trouble Config :=
  if path.toList.contains '\x00' then .error (.fault .nullInPath)
  else match disk.contentAt path with
  | .error error => .error (.failure (.config (.unreadable path error.message)))
  | .ok content => (documentOfBytes path content).bind ofDocument

/-- Load the configuration in the file at a path. -/
def load (disk : Disk) (path : String) (w : World) : Except Trouble Config × World :=
  match ofFile disk path with
  | .ok config => (.ok config, w.note .info .config ("Configuration loaded from " ++ path))
  | .error trouble => (.error trouble, w)

/-- The text of a configuration's file. -/
def fileText (c : Config) : Except Fault String := c.written.map Document.renderIndented

/-- Save the configuration in the file at a path. -/
def save (c : Config) (disk : Disk) (path : String) (w : World) : Except Fault Disk × World :=
  match c.fileText with
  | .error fault => (.error fault, w)
  | .ok text =>
    (.ok (disk.put path text.toUTF8),
      w.note .info .config ("Configuration saved to " ++ path))

end Config

end Concord
