import Concord.Controller.Basic

/-!
# Status pages

The status server shows the state of the daemon, whether it is synchronized, and the gauges, each
under a path of its own.
-/

namespace Concord

/-- The content of a page. -/
inductive PageContent where
  | text (content : String)
  | document (content : Document)

/-- An answer of the status server. -/
structure Page where
  /-- The status code of the answer. -/
  code : Nat
  /-- The type of the content and the content, if there is any. -/
  content : Option (String × PageContent)

namespace Page

/-- The type of a document. -/
def documentType : String := "application/json; charset=utf-8"

/-- The type of plain text. -/
def textType : String := "text/plain; charset=utf-8"

/-- The type of the gauges' text format. -/
def gaugesType : String := "text/plain; version=1.0.0; charset=utf-8"

/-- The page of the gauges, if anybody collects them. -/
def metrics (c : Controller) : Page :=
  match c.gauges with
  | none => ⟨404, some (textType, .text "metrics disabled\n")⟩
  | some gauges => ⟨200, some (gaugesType, .text gauges.exposition)⟩

/-- The page of the daemon's state. -/
def status (c : Controller) : Page := ⟨200, some (documentType, .document c.report)⟩

/-- The page that says whether the daemon is synchronized. -/
def health (c : Controller) : Page :=
  let synchronized := c.template.isSynchronized
  let content := Document.object
    [("status", .text (if synchronized then "ok" else "unsynchronized")),
      ("phase", .text c.phase.name), ("sleep", .real c.sleep)]
  ⟨if synchronized then 200 else 503, some (documentType, .document content)⟩

/-- The page at a path. -/
def ofPath (c : Controller) (path : String) : Page :=
  match path with
  | "/metrics" => metrics c
  | "/status" => status c
  | "/health" => health c
  | _ => ⟨404, none⟩

end Page

end Concord
