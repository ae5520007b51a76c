import ContentService.Config
import ContentService.Content.Calls
import ContentService.Http.Command
import ContentService.Media.Calls
import ContentService.Media.Codec

/-!
# The service

Requests are answered by calls: what a request asks for is done, and the response tells its result
or failure. A request that cannot be read does nothing.
-/

namespace ContentService.Http

/-- The limits that the service keeps to. -/
structure Settings where
  maxPageSize : Nat
  policy : UploadPolicy

/-- The limits of a configuration. -/
def Settings.ofConfig (config : Config) : Settings :=
  ⟨config.maxPageSize, ⟨config.maxUploadBytes, commonTypes⟩⟩

/-- What answers requests: the limits that it keeps to, which leave room for the framing of the
largest file in a 64-bit word. -/
structure Router where
  settings : Settings
  fits : settings.policy.maxBytes + framingBytes < 2 ^ 64

/-- How many bytes the body of a request may have. -/
def Router.bodyLimit (router : Router) : Nat :=
  router.settings.policy.maxBytes + framingBytes

/-- The router for settings. There is none if the limit of bodies overflows: whoever builds it
panics, and the service does not start. -/
def Router.build? (settings : Settings) : Option Router :=
  if fits : settings.policy.maxBytes + framingBytes < 2 ^ 64 then some ⟨settings, fits⟩ else none

/-- The document that says that the service is up. -/
def healthJson : Json :=
  .record
    [("status", .string "ok"), ("version", .string "0.1.0"), ("service", .string "cms-api")]

/-- Does what is asked for, under an id and a time for what is new. -/
def Command.call (settings : Settings) (id : Uuid) (now : Instant) : Command → Call Response
  | .health => return .ofJson healthJson
  | .queryContents page request => do
    let found ← Contents.query settings.maxPageSize page request
    return .ofJson (found.encode Content.encode)
  | .createContent submission actor => do
    let content ← Contents.create id now submission actor
    return .ofJson content.encode
  | .slugExists slug => do
    let exists_ ← Contents.slugExists slug
    return .ofJson (.record [("exists", .bool exists_)])
  | .getContent id => do
    let content ← Contents.get id
    return .ofJson content.encode
  | .updateContent id submission actor => do
    let _ ← Contents.update id now submission actor
    return .done
  | .deleteContent id => do
    Contents.delete id
    return .done
  | .listVersions id => do
    let versions ← Contents.versions id
    return .ofJson (.list (versions.map Version.encode))
  | .getVersion id number => do
    let version ← Contents.version id number
    return .ofJson version.encode
  | .restoreVersion id number actor => do
    let _ ← Contents.restore id now number actor
    return .done
  | .queryMedia page request => do
    let found ← MediaLibrary.query settings.maxPageSize page request
    return .ofJson (found.encode Media.encode)
  | .uploadMedia file actor => do
    let media ← MediaLibrary.upload settings.policy id now file actor
    return .ofJson (.string media.blobUri)
  | .deleteMedia id => do
    MediaLibrary.delete id
    return .done

/-- The response to a request, with its body. There is none if the work on the request stops. -/
def respond (router : Router) (id : Uuid) (now : Instant) (request : Request) :
    Program Action Failure (Option Response) :=
  match request.command router.bodyLimit with
  | .error refusal => return Response.ofRefusal? refusal
  | .ok command => do
    match ← (command.call router.settings id now).run with
    | .ok response => return some response
    | .error failure => return Response.ofFailure? failure

/-- Answers a request. Whoever asks for the head alone gets no body. -/
def serve (router : Router) (id : Uuid) (now : Instant) (request : Request) :
    Program Action Failure (Option Response) := do
  let response ← respond router id now request
  return if request.method = "HEAD" then response.map Response.withoutBody else response

end ContentService.Http
