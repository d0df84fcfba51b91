import Stimulus.BaseUrl
import Stimulus.Exchange.Clients
import Stimulus.Log.Entry

/-!
The two phases of a test case.  Discovery asks the server for its clients and takes the first; the
operation then goes to that client.  Each message is told as it goes out or comes back, so that
what a tester sees is what was sent.
-/

namespace Stimulus

/-- What a session with a server tells. -/
inductive Notice where
  | discoverySent (request : Request)
  | discoveryReceived (reply : Reply)
  | endpointResolved (endpoint : String)
  | operationSent (endpoint : String) (request : Request)
  | operationReceived (reply : Reply)
  | log (entry : Log.Entry)

structure Discovery where
  reply : Reply
  endpoint : String

/-- Both phases of a test case that came to their end. -/
structure Exchange where
  discovery : Discovery
  request : Request
  reply : Reply

/-- The phases, by their names in the log. -/
inductive Phase where
  | discovery
  | operation

def Phase.name : Phase → String
  | discovery => "Discovery"
  | operation => "Operation"

def Notice.entry (level : Log.Level) (message : String) : Notice :=
  .log { level, target := Log.exchangeTarget, message }

def Phase.send (phase : Phase) (request : Request) : Session Notice (Except Error Reply) :=
  .tell (.entry .debug (phase.name ++ ": " ++ request.text)) <|
  .ask request fun
    | .ok reply => .done (.ok reply)
    | .error detail =>
      let e := Error.network detail
      .tell (.entry .warn (phase.name ++ " request failed: " ++ e.message)) (.done (.error e))

/-- What a reply to the request for the list of clients resolves to. -/
def Discovery.ofReply (reply : Reply) : Session Notice (Except Error Discovery) :=
  .tell (.discoveryReceived reply) <|
  match reply.resolveEndpoint with
  | .error failure => .done (.error failure.toError)
  | .ok endpoint =>
    .tell (.entry .info ("Resolved device endpoint '" ++ endpoint ++ "'")) <|
    .tell (.endpointResolved endpoint) <|
    .done (.ok { reply, endpoint })

namespace BaseUrl

def discoveryRequest (base : BaseUrl) : Request :=
  .get base.clients.text

/-- The request of an entry's operation on the client of that endpoint. -/
def operationRequest (base : BaseUrl) (endpoint : String) (descriptor : Descriptor) : Request where
  method := descriptor.method
  url := (base.operation endpoint descriptor).text
  body := descriptor.body

def listClients (base : BaseUrl) : Session Notice (Except Error (List Client)) :=
  (Phase.discovery.send base.discoveryRequest).andThen fun reply =>
    .done (reply.parseClients.mapError ResolutionFailure.toError)

/-- The first client that is registered on the server. -/
def discover (base : BaseUrl) : Session Notice (Except Error Discovery) :=
  .tell (.discoverySent base.discoveryRequest) <|
  (Phase.discovery.send base.discoveryRequest).andThen Discovery.ofReply

/-- The operation of an entry on the client of that endpoint. -/
def perform (base : BaseUrl) (endpoint : String) (descriptor : Descriptor) :
    Session Notice (Except Error (Request × Reply)) :=
  let request := base.operationRequest endpoint descriptor
  .tell (.operationSent endpoint request) <|
  (Phase.operation.send request).andThen fun reply =>
    .tell (.operationReceived reply) (.done (.ok (request, reply)))

/-- Discovery, then the operation on the client that it found. -/
def execute (base : BaseUrl) (descriptor : Descriptor) : Session Notice (Except Error Exchange) :=
  base.discover.andThen fun discovery =>
    (base.perform discovery.endpoint descriptor).andThen fun (request, reply) =>
      .done (.ok { discovery, request, reply })

end BaseUrl

end Stimulus
