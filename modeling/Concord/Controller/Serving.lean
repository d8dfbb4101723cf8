import Concord.Controller.Basic

/-!
# Serving

The daemon opens the responder's socket and then the status server's, as far as the configuration
names endpoints for them. A socket that cannot be opened keeps the daemon from starting; an endpoint
or a network that is none is a fault of the configuration. Whatever was opened is closed by
`Controller.stopServing`.
-/

namespace Concord

/-- The port of a status server whose endpoint names none. -/
def statusPort : Int := 9123

namespace StatusServer

/-- Set the server up and open its socket. -/
def start (s : StatusServer) (w : World) : Option OsError × StatusServer × World :=
  let s := { s with running := true }
  let w := w.record (.bindTcp s.endpoint.host s.endpoint.port)
  match w.metricFault with
  | some error => (some error, s, w)
  | none =>
    (none, s,
      w.note .info .statusServer ("Status server started on http://" ++ s.endpoint.text))

/-- Take the server down, if it was set up. -/
def stop (s : StatusServer) (w : World) : StatusServer × World :=
  if s.running then
    ({ s with running := false }, w.note .info .statusServer "Status server stopped")
  else (s, w)

end StatusServer

namespace Controller

/-- The endpoint that a setting names. -/
def endpointOf (d : Document) (defaultPort : Int) : Except Trouble Endpoint :=
  match d.textFor "rpartition" with
  | .error fault => .error (.fault fault)
  | .ok text => (Endpoint.read? text defaultPort).mapError fun fault => .failure (.config fault)

/-- The responder that the configuration describes. -/
def responderOf (config : Config) : Except Trouble Responder := do
  let endpoint ← endpointOf config.listen standardPort
  let dropTable ← DropTable.make? config.dropCidr config.rateSize config.rateInterval
  return { endpoint, dropTable }

/-- The failure of a socket that cannot be opened. Both endpoints are reported with it. -/
def bindFailure (config : Config) (error : OsError) : Failure :=
  .startup ("cannot bind listener: " ++ error.message)
    (some (.object [("listen", config.listen), ("metric", config.metric)]))

/-- The trouble of opening a socket, if there is any. -/
def bindTrouble (c : Controller) (error : Option OsError) : Option Trouble :=
  error.map fun error => .failure (bindFailure c.config error)

/-- Start the responder, if there is one. -/
def startResponder (c : Controller) (w : World) : Option Trouble × Controller × World :=
  if c.config.listen.isSet then
    match responderOf c.config with
    | .error trouble => (some trouble, c, w)
    | .ok responder =>
      let (error, responder, w) := responder.start w
      (c.bindTrouble error, { c with responder := some responder }, w)
  else (none, c, w)

/-- Start the status server, if there is one. -/
def startStatusServer (c : Controller) (w : World) : Option Trouble × Controller × World :=
  if c.config.metric.isSet then
    match endpointOf c.config.metric statusPort with
    | .error trouble => (some trouble, c, w)
    | .ok endpoint =>
      let (error, server, w) := StatusServer.start ⟨endpoint, false⟩ w
      (c.bindTrouble error, { c with statusServer := some server }, w)
  else (none, c, w)

/-- Start serving. -/
def startServing (c : Controller) (w : World) : Step Unit :=
  match c.startResponder w with
  | (some trouble, c, w) => (.error trouble, c, w)
  | (none, c, w) =>
    match c.startStatusServer w with
    | (some trouble, c, w) => (.error trouble, c, w)
    | (none, c, w) => (.ok (), c, w)

/-- Stop the responder, if there is one. -/
def stopResponder (c : Controller) (w : World) : Controller × World :=
  match c.responder with
  | none => (c, w)
  | some responder =>
    let (responder, w) := responder.stop w
    ({ c with responder := some responder }, w)

/-- Stop the status server, if there is one. -/
def stopStatusServer (c : Controller) (w : World) : Controller × World :=
  match c.statusServer with
  | none => (c, w)
  | some server =>
    let (server, w) := server.stop w
    ({ c with statusServer := some server }, w)

/-- Stop serving. -/
def stopServing (c : Controller) (w : World) : Controller × World :=
  let (c, w) := c.stopResponder w
  c.stopStatusServer w

/-- A datagram reaches the host. Only an open socket takes it. -/
def receive (c : Controller) (datagram : Datagram) (w : World) :
    Option Fault × Controller × World :=
  match c.responder with
  | some responder =>
    if responder.running then
      let (fault, responder, w) := responder.receive c.template datagram w
      (fault, { c with responder := some responder }, w)
    else (none, c, w)
  | none => (none, c, w)

end Controller

end Concord
