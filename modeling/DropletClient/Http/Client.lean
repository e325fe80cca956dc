import DropletClient.Envelope
import DropletClient.Http.Message
import DropletClient.Settings.Validate
import DropletClient.Workflow.Run

namespace DropletClient

/-!
# Requests over HTTP

A client sends every request as a path and a query below the address of the
provider, with its credentials in front of the query, and reads the answer from
the status and the body of the response. Single things may be absent, lists may
be empty, and everything else must be there.
-/

namespace Response

/-- A single thing, which may be absent. -/
def one
    (layout : Record.Layout α)
    (field : String)
    (response : HttpResponse) :
    Except Failure (Option α) :=
  interpret layout.decode response.status (some response.body) field .absent

/-- A list, which a blank body leaves empty. -/
def many
    (layout : Record.Layout α)
    (field : String)
    (response : HttpResponse) :
    Except Failure (List α) :=
  (interpret (Record.readList layout.decode) response.status
    (some response.body) field .raise).map (·.getD [])

/-- A thing that must be there. -/
def required
    (read : Json → Except Mismatch α)
    (path field : String)
    (response : HttpResponse) :
    Except Failure α := do
  match ← interpret read response.status (some response.body) field .raise with
  | some value => return value
  | none => throw (.transport (.emptyResponse path))

/-- No thing at all. -/
def nothing (response : HttpResponse) : Except Failure Unit :=
  interpretUnit response.status (some response.body)

end Response

/-- The answer to a request in a response. -/
def Request.readAnswer (response : HttpResponse) :
    (request : Request) → Except Failure request.Answer
  | .listDroplets => Response.many Droplet.layout "droplets" response
  | .getDroplet _ => Response.one Droplet.layout "droplet" response
  | .createDroplet order =>
      Response.required DropletCreation.layout.decode
        (Request.createDroplet order).path "droplet" response
  | .dropletAction id action =>
      Response.required Record.readInt32
        (Request.dropletAction id action).path "event_id" response
  | .listImages => Response.many Image.layout "images" response
  | .getImage _ => Response.one Image.layout "image" response
  | .deleteImage _ => Response.nothing response
  | .transferImage id regionId =>
      Response.required Record.readInt32
        (Request.transferImage id regionId).path "event_id" response
  | .listSizes => Response.many Size.layout "sizes" response
  | .listRegions => Response.many Region.layout "regions" response
  | .listKeys => Response.many SshKey.layout "ssh_keys" response
  | .getKey _ => Response.one SshKey.layout "ssh_key" response
  | .createKey name publicKey =>
      Response.required SshKey.layout.decode
        (Request.createKey name publicKey).path "ssh_key" response
  | .editKey id publicKey =>
      Response.required SshKey.layout.decode
        (Request.editKey id publicKey).path "ssh_key" response
  | .deleteKey _ => Response.nothing response
  | .getEvent id =>
      Response.required Event.layout.decode
        (Request.getEvent id).path "event" response

/--
Who talks to the provider, where it is, and how many seconds a response is
waited for.
-/
structure HttpClient where
  endpoint : String
  clientId : String
  apiKey : String
  timeout : Nat
  deriving Repr, DecidableEq

namespace HttpClient

/-- A text without the slashes at its end. -/
def withoutTrailingSlashes (text : String) : String :=
  String.ofList (text.toList.reverse.dropWhile (· == '/')).reverse

/-- The client with some settings, if they pass all checks. -/
def connect (settings : Settings) : Except Failure HttpClient :=
  match settings.validate with
  | .error fault => .error (.configuration (.settings fault))
  | .ok _ =>
      .ok {
        endpoint := withoutTrailingSlashes settings.endpoint
        clientId := settings.clientId
        apiKey := settings.apiKey
        timeout := settings.httpTimeout
      }

/-- What a diagnostic shows: the address, and never the credentials. -/
def diagnostic (client : HttpClient) : String :=
  "HttpTransport \x7b endpoint: " ++ Text.quoted client.endpoint ++ ", .. \x7d"

/-- The query pairs of a request, those of the client first. -/
def query (client : HttpClient) (request : Request) : List QueryPair :=
  [("client_id", client.clientId), ("api_key", client.apiKey)] ++ request.query

/-- Where a request goes, if the address of the provider is one. -/
def url? (client : HttpClient) (request : Request) : Option Http.Url :=
  (Http.Url.ofText? (client.endpoint ++ request.path)).map fun url =>
    url.addQuery (client.query request)

/-- The answer to a request, given the response to it, if there was one. -/
def answerFrom
    (request : Request)
    (response : Option HttpResponse) :
    Except Failure request.Answer :=
  match response with
  | none => .error (.transport .noResponse)
  | some response => request.readAnswer response

/--
Answers a request with the help of a network, which gives a response or none for
an address.
-/
def answer
    (client : HttpClient)
    (network : σ → Http.Url → Option HttpResponse × σ)
    (state : σ)
    (request : Request) :
    Except Failure request.Answer × σ :=
  match client.url? request with
  | none => (answerFrom request none, state)
  | some url =>
      let (response, later) := network state url
      (answerFrom request response, later)

end HttpClient

end DropletClient
