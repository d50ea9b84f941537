import HexeVoice.Library.Dict
import HexeVoice.Voice.Contracts

/-!
# The registry of endpoint runtimes

The connection side of `EndpointSessionRuntime` and `_endpoint_runtimes`, the map from an
endpoint to the runtime that serves it.

## The model

A runtime is an object: `RuntimeId` names it, and `links` holds its connection fields.
`_default_runtime` is there from the start; every other runtime is made by a connection,
and `nextConnection` numbers them. A websocket is whether there is one.
-/

namespace HexeVoice.Voice

open HexeVoice.Library

/-- The name of an `EndpointSessionRuntime` object. -/
inductive RuntimeId where
  /-- `_default_runtime`. -/
  | default
  /-- The runtime of a control connection. -/
  | connection (n : ℕ)
  deriving DecidableEq

/-- The connection side of `EndpointSessionRuntime`. -/
structure EndpointLink where
  connectionActive : Bool := false
  websocket : Bool := false
  audioConnectionActive : Bool := false
  audioWebsocket : Bool := false
  connectedEndpointId : Option EndpointId := none
  deriving DecidableEq

/-- `connection_active and websocket is not None`. -/
def EndpointLink.live (l : EndpointLink) : Bool := l.connectionActive && l.websocket

/-- The runtimes' connections and `_endpoint_runtimes`. -/
structure Registry where
  links : RuntimeId → EndpointLink := fun _ => {}
  endpointRuntimes : Dict EndpointId RuntimeId := Dict.empty
  nextConnection : ℕ := 0

namespace Registry

variable (r : Registry)

/-- Change the connection fields of a runtime. -/
def setLink (i : RuntimeId) (f : EndpointLink → EndpointLink) : Registry :=
  { r with links := fun j => if j = i then f (r.links i) else r.links j }

/-- `existing is not None and existing is not state and existing.connection_active and
existing.websocket is not None`, for the runtime registered for the endpoint. -/
def takenByAnother (i : RuntimeId) (endpointId : EndpointId) : Bool :=
  (r.endpointRuntimes.get endpointId).any fun j => j ≠ i && (r.links j).live

def bindRuntimeEndpoint (i : RuntimeId) (endpointId : EndpointId) : Registry :=
  if r.takenByAnother i endpointId then r
  else { r with endpointRuntimes := r.endpointRuntimes.set endpointId i }

def unbindRuntimeEndpoint (i : RuntimeId) : Registry :=
  match (r.links i).connectedEndpointId with
  | none => r
  | some endpointId =>
    if endpointId ≠ "" && r.endpointRuntimes.get endpointId = some i then
      { r with endpointRuntimes := r.endpointRuntimes.erase endpointId }
    else r

/-- `self._connected_endpoint_id = endpoint_id`: the setter unbinds the runtime, and binds
it to an endpoint that has a name. -/
def setConnectedEndpointId (i : RuntimeId) (endpointId : EndpointId) : Registry :=
  let r := (r.unbindRuntimeEndpoint i).setLink i fun l =>
    { l with connectedEndpointId := some endpointId }
  if endpointId = "" then r else r.bindRuntimeEndpoint i endpointId

def runtimeForEndpoint (endpointId : EndpointId) : Option RuntimeId :=
  match (r.endpointRuntimes.get endpointId).filter fun i => (r.links i).live with
  | some i => some i
  | none =>
    if (r.links .default).live && (r.links .default).connectedEndpointId = some endpointId then
      some .default
    else none

/-- The runtime of a new control connection. -/
def connect : Registry :=
  { r.setLink (.connection r.nextConnection) fun _ =>
      { connectionActive := true, websocket := true } with
    nextConnection := r.nextConnection + 1 }

/-- A replaced runtime has lost both its connections. -/
def replaced (i : RuntimeId) : Registry :=
  r.setLink i fun l =>
    { l with
      audioWebsocket := false
      audioConnectionActive := false
      websocket := false
      connectionActive := false }

/-- A runtime loses its control connection. -/
def disconnect (i : RuntimeId) : Registry :=
  r.setLink i fun l => { l with connectionActive := false, websocket := false }

end Registry

end HexeVoice.Voice
