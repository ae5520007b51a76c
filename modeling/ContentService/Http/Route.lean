import ContentService.Http.Message
import ContentService.Http.Target

/-!
# Routes

Which paths there are, and what can be asked of each with which method. A path is a row of segments,
of which some are parameters; where a word and a parameter would both do, the word wins.
-/

namespace ContentService.Http

/-- What can be asked of the service. -/
inductive Endpoint
  | health
  | listContents
  | createContent
  | queryContents
  | slugExists
  | getContent
  | updateContent
  | deleteContent
  | listVersions
  | getVersion
  | restoreVersion
  | listMedia
  | queryMediaOptionally
  | queryMedia
  | uploadMedia
  | deleteMedia
  deriving DecidableEq, Repr

/-- A segment of a route's path. -/
inductive Segment
  | word (text : String)
  | parameter
  deriving DecidableEq, Repr

/-- A path, and what the methods ask there. -/
structure Route where
  path : List Segment
  methods : List (String × Endpoint)
  deriving DecidableEq, Repr

/-- The routes; a path comes before those that have a parameter where it has a word. -/
def routes : List Route :=
  [⟨[.word "health"], [("GET", .health)]⟩,
    ⟨[.word "content"], [("GET", .listContents), ("POST", .createContent)]⟩,
    ⟨[.word "content", .word "dynamic"], [("POST", .queryContents)]⟩,
    ⟨[.word "content", .word "slug", .word "exists", .parameter], [("GET", .slugExists)]⟩,
    ⟨[.word "content", .parameter],
      [("GET", .getContent), ("PUT", .updateContent), ("DELETE", .deleteContent)]⟩,
    ⟨[.word "content", .parameter, .word "versions"], [("GET", .listVersions)]⟩,
    ⟨[.word "content", .parameter, .word "versions", .parameter], [("GET", .getVersion)]⟩,
    ⟨[.word "content", .parameter, .word "restore", .parameter], [("POST", .restoreVersion)]⟩,
    ⟨[.word "media"], [("GET", .listMedia)]⟩,
    ⟨[.word "media", .word "dynamic"], [("GET", .queryMediaOptionally), ("POST", .queryMedia)]⟩,
    ⟨[.word "media", .word "upload"], [("POST", .uploadMedia)]⟩,
    ⟨[.word "media", .parameter], [("DELETE", .deleteMedia)]⟩]

/-- The values of a path's parameters in the segments of a target. At the end of a path a parameter
is not empty. -/
def arguments? : List Segment → List (List Char) → Option (List (List Char))
  | [], [] => some []
  | .word text :: path, segment :: segments =>
    if segment = text.toList then arguments? path segments else none
  | .parameter :: path, segment :: segments =>
    if path.isEmpty && segment.isEmpty then none
    else (arguments? path segments).map (segment :: ·)
  | _, _ => none

/-- The first of some routes that a target's segments fit, and the values of its parameters. -/
def findRoute? (known : List Route) (segments : List (List Char)) :
    Option (Route × List (List Char)) :=
  known.findSome? fun route => (arguments? route.path segments).map (route, ·)

/-- The method that a method is answered like: asking for the head alone asks for the rest too. -/
def answeredLike (method : String) : String :=
  if method = "HEAD" then "GET" else method

/-- What a request asks for, and the values of its path's parameters. -/
def Request.endpoint (request : Request) : Except Refusal (Endpoint × List (List Char)) :=
  match findRoute? routes (Target.ofText request.target).segments with
  | none => .error (.bare 404)
  | some (route, arguments) =>
    match route.methods.lookup (answeredLike request.method) with
    | none => .error (.bare 405)
    | some endpoint => .ok (endpoint, arguments)

end ContentService.Http
