import ContentService.Content.Codec
import ContentService.Http.Multipart
import ContentService.Http.Route
import ContentService.Json.Reader
import ContentService.Media.Upload
import ContentService.Query.Codec

/-!
# Commands

What a request asks for, with all that it says about it. A request that cannot be read is refused
with the first reason in the order path, query, body; what the body says is judged by the call
alone.
-/

namespace ContentService.Http

/-- What a request asks for. -/
inductive Command
  | health
  | queryContents (page : Query.PageRequest) (request : Query.Request)
  | createContent (submission : Submission) (actor : String)
  | slugExists (slug : String)
  | getContent (id : Uuid)
  | updateContent (id : Uuid) (submission : Submission) (actor : String)
  | deleteContent (id : Uuid)
  | listVersions (id : Uuid)
  | getVersion (id : Uuid) (number : Int)
  | restoreVersion (id : Uuid) (number : Int) (actor : String)
  | queryMedia (page : Query.PageRequest) (request : Query.Request)
  | uploadMedia (file : Upload) (actor : String)
  | deleteMedia (id : Uuid)

/-- Who acts if a request does not say. -/
def anonymous : String := "anonymous"

/-- How many bytes a body may have beyond those of the largest file, for what stands around the
file. -/
def framingBytes : Nat := 64 * 1024

namespace Request

/-- Who acts, as far as a header says it in ASCII. -/
def actor (request : Request) : String :=
  let name := Text.trim ((textHeader? request.headers "x-actor").getD "")
  if name = "" then anonymous else name

/-- The media type of a request's body. -/
def bodyType? (request : Request) : Option MediaType :=
  (textHeader? request.headers "content-type").bind MediaType.read?

/-- The page that a request asks for. -/
def page (request : Request) : Except Refusal Query.PageRequest :=
  match (Target.ofText request.target).page? with
  | some page => .ok page
  | none => .error (.worded 400)

/-- The value of the Json document at the beginning of a body. -/
def document {α : Type} (request : Request) (limit : Nat) (decode : Json.Decoder α) :
    Except Refusal α :=
  if !request.bodyType?.any MediaType.isJson then .error (.worded 415)
  else if limit < request.body.length then .error (.worded 413)
  else
    match request.body.text? with
    | none => .error (.worded 400)
    | some text =>
      match decode (Json.readFirst text.toList).1 with
      | .ok value => .ok value
      | .error .malformed => .error (.worded 400)
      | .error .mismatch => .error (.worded 422)

/-- The failure to read a query. -/
def invalidQuery : Failure :=
  .badRequest "Invalid query request: "

/-- White space in ASCII. -/
def isAsciiSpace (byte : UInt8) : Bool :=
  byte = 32 || byte = 9 || byte = 10 || byte = 12 || byte = 13

/-- The query that a body asks for, which may be blank. -/
def optionalQuery (request : Request) (limit : Nat) : Except Refusal Query.Request :=
  if limit < request.body.length then .error (.worded 413)
  else if request.body.all isAsciiSpace then .ok .everything
  else
    match request.body.text?.map fun text => Query.Request.decode (Json.read text) with
    | some (.ok query) => .ok query
    | _ => .error (.failed invalidQuery)

/-- The failure to read a form. -/
def invalidForm : Failure :=
  .badRequest "Invalid multipart body: "

/-- The failure to find a file in a form. -/
def noFile : Failure :=
  .validation (.single "file" "No file provided")

/-- The first file in a form. -/
def file (request : Request) (limit : Nat) : Except Refusal Upload :=
  match request.bodyType?.bind MediaType.boundary? with
  | none => .error (.worded 400)
  | some boundary =>
    if limit < request.body.length then .error (.failed (.payloadTooLarge "failed to read stream"))
    else
      let form := Multipart.read boundary request.body
      match form.parts.find? fun part => part.name == some "file" with
      | some part => .ok ⟨part.fileName.getD "", part.contentType, part.data⟩
      | none => .error (.failed (if form.whole then noFile else invalidForm))

/-- The texts of a path's parameters. -/
def texts (arguments : List (List Char)) : Except Refusal (List String) :=
  match arguments.mapM fun segment => (unescape segment).text? with
  | some texts => .ok texts
  | none => .error (.worded 400)

/-- The record id in a path. -/
def pathId (text : String) : Except Refusal Uuid :=
  match Uuid.read? text with
  | some id => .ok id
  | none => .error (.worded 400)

/-- The number of a version in a path. -/
def pathNumber (text : String) : Except Refusal Int :=
  match Text.readSigned (-2 ^ 31) (2 ^ 31 - 1) text.toList with
  | .ok number => .ok number
  | .error _ => .error (.worded 400)

/-- What a request asks for, where bodies have at most `limit` bytes. -/
def command (request : Request) (limit : Nat) : Except Refusal Command := do
  let (endpoint, arguments) ← request.endpoint
  match endpoint, ← texts arguments with
  | .health, _ => return .health
  | .listContents, _ => return .queryContents (← request.page) .everything
  | .queryContents, _ =>
    let page ← request.page
    return .queryContents page (← request.document limit Query.Request.decode)
  | .createContent, _ =>
    return .createContent (← request.document limit Submission.decode) request.actor
  | .slugExists, [slug] => return .slugExists slug
  | .getContent, [id] => return .getContent (← pathId id)
  | .updateContent, [id] =>
    let id ← pathId id
    return .updateContent id (← request.document limit Submission.decode) request.actor
  | .deleteContent, [id] => return .deleteContent (← pathId id)
  | .listVersions, [id] => return .listVersions (← pathId id)
  | .getVersion, [id, number] => return .getVersion (← pathId id) (← pathNumber number)
  | .restoreVersion, [id, number] =>
    return .restoreVersion (← pathId id) (← pathNumber number) request.actor
  | .listMedia, _ => return .queryMedia (← request.page) .everything
  | .queryMediaOptionally, _ =>
    let page ← request.page
    return .queryMedia page (← request.optionalQuery limit)
  | .queryMedia, _ =>
    let page ← request.page
    return .queryMedia page (← request.document limit Query.Request.decode)
  | .uploadMedia, _ => return .uploadMedia (← request.file limit) request.actor
  | .deleteMedia, [id] => return .deleteMedia (← pathId id)
  | _, _ => throw (.bare 404)

end Request

end ContentService.Http
