import ContentService.Http.Service
import ContentService.Proofs.Json.Records
import ContentService.Proofs.Media.Uploads
import ContentService.Proofs.Text.Numerals

/-! # The limit of bodies

The body of an upload may be longer than the largest file by what stands around a file in a form.
The sum of both is the limit of bodies, a number of 64 bits, and every number of 64 bits can be
configured as the greatest size of a file. As long as the sum fits, no upload is refused for its
size whose file and whose framing keep to their limits. If it does not fit, there is no router and
nothing is served at all (`ContentService.Http.uploads_within_body_limit`).
-/

namespace ContentService

/-! ## Settings -/

namespace Config

variable {env : String → Option String} {config : Config}

/-- The numbers of a configuration fit the words that hold them. -/
structure InRange (config : Config) : Prop where
  portNumber : config.portNumber < 2 ^ 16
  maxUploadBytes : config.maxUploadBytes < 2 ^ 64
  maxPageSize : config.maxPageSize < 2 ^ 64
  dbMaxConnections : config.dbMaxConnections < 2 ^ 32

/-- A number that is set is read within its range, and so is one by default. -/
theorem lt_of_number {name : String} {most default n : Nat}
    (read : number env name most default = .ok n) (fits : default ≤ most) : n < most + 1 := by
  refine Nat.lt_succ_of_le ?_
  unfold number at read
  split at read
  · cases read
    exact fits
  · split at read
    · rename_i m numeral
      cases read
      exact Text.le_of_readUnsigned numeral
    · exact nomatch read

open Json (exists_of_bind_eq_ok)

theorem inRange_of_ofEnvironment (accepted : ofEnvironment env = .ok config) :
    config.InRange := by
  unfold ofEnvironment at accepted
  obtain ⟨_, -, accepted⟩ := exists_of_bind_eq_ok accepted
  obtain ⟨_, -, accepted⟩ := exists_of_bind_eq_ok accepted
  obtain ⟨_, -, accepted⟩ := exists_of_bind_eq_ok accepted
  obtain ⟨_, -, accepted⟩ := exists_of_bind_eq_ok accepted
  obtain ⟨_, -, accepted⟩ := exists_of_bind_eq_ok accepted
  obtain ⟨_, -, accepted⟩ := exists_of_bind_eq_ok accepted
  obtain ⟨portNumber, port, accepted⟩ := exists_of_bind_eq_ok accepted
  obtain ⟨maxUploadBytes, upload, accepted⟩ := exists_of_bind_eq_ok accepted
  obtain ⟨maxPageSize, page, accepted⟩ := exists_of_bind_eq_ok accepted
  obtain ⟨dbMaxConnections, connections, accepted⟩ := exists_of_bind_eq_ok accepted
  cases accepted
  exact ⟨lt_of_number port (by decide), lt_of_number upload (by decide),
    lt_of_number page (by decide), lt_of_number connections (by decide)⟩

end Config

namespace Http

/-! ## Routers -/

namespace Router

variable {settings : Settings}

theorem build?_of_lt (fits : settings.policy.maxBytes + framingBytes < 2 ^ 64) :
    build? settings = some ⟨settings, fits⟩ :=
  dif_pos fits

theorem build?_of_le (overflows : 2 ^ 64 ≤ settings.policy.maxBytes + framingBytes) :
    build? settings = none :=
  dif_neg (Nat.not_lt.mpr overflows)

end Router

/-! ## Requests to upload -/

/-- A request posts a form to where files are uploaded, and this file is the first in it. -/
structure Request.Uploads (request : Request) (file : Upload) : Prop where
  method : request.method = "POST"
  path : (Target.ofText request.target).segments = ["media".toList, "upload".toList]
  form : ∃ boundary, request.bodyType?.bind MediaType.boundary? = some boundary ∧
    ∃ part, (Multipart.read boundary request.body).parts.find?
        (fun part => part.name == some "file") = some part ∧
      file = ⟨part.fileName.getD "", part.contentType, part.data⟩

namespace Request.Uploads

variable {request : Request} {file : Upload}

theorem endpoint (uploads : request.Uploads file) : request.endpoint = .ok (.uploadMedia, []) := by
  have route : findRoute? routes ["media".toList, "upload".toList] =
      some (⟨[.word "media", .word "upload"], [("POST", .uploadMedia)]⟩, []) := by
    decide +kernel
  rw [Request.endpoint, uploads.path, route, uploads.method]
  rfl

/-- A request to upload is refused for the length of its body, or asks to store its file. -/
theorem command (uploads : request.Uploads file) (limit : Nat) :
    request.command limit =
      if limit < request.body.length then
        .error (.failed (.payloadTooLarge "failed to read stream"))
      else .ok (.uploadMedia file request.actor) := by
  obtain ⟨boundary, form, part, found, rfl⟩ := uploads.form
  have asked : request.command limit =
      (request.file limit).bind fun file => .ok (.uploadMedia file request.actor) := by
    rw [Request.command, uploads.endpoint]
    rfl
  simp only [asked, Request.file, form, found]
  split <;> rfl

end Request.Uploads

/-! ## Answers to uploads -/

/-- An exchange in which what answers says itself that something is too large. -/
def SaysTooLarge (e : Exchange Action Failure) : Prop :=
  ∃ message, e.reply = .error (.payloadTooLarge message)

variable {router : Router} {id : Uuid} {now : Instant} {request : Request} {file : Upload}
  {said : List (Exchange Action Failure)}

/-- A failure is answered with 413 only if it says that something is too large. -/
theorem exists_of_status_eq_413 {failure : Failure} {response : Response}
    (answered : Response.ofFailure? failure = some response) (status : response.status = 413) :
    ∃ message, failure = .payloadTooLarge message := by
  cases failure <;> cases answered <;> first | exact ⟨_, rfl⟩ | cases status

/-- A file is too large for the policy, or whoever was asked says so. -/
theorem tooLarge_of_uploading {policy : UploadPolicy} {actor message : String}
    (uploading : Uploading policy id now file actor said (.error (.payloadTooLarge message))) :
    ¬Requirement.Met policy file .small ∨ ∃ e ∈ said, SaysTooLarge e := by
  cases uploading with
  | refused failure told =>
      obtain ⟨r, lacked, same⟩ := UploadPolicy.refusal?_eq_some_iff.mp told
      cases r with
      | small => exact .inl lacked.1
      | named | filled | visual => exact nomatch same
  | unstored => exact .inr ⟨_, List.mem_cons_self, message, rfl⟩
  | unrecorded uri =>
      exact .inr ⟨_, List.mem_cons_of_mem _ List.mem_cons_self, message, rfl⟩

/-- An upload that is read is answered with 413 only if its file is too large for the policy, or
whoever was asked says so. -/
theorem tooLarge_of_respond {actor : String} {response : Response}
    (asks : request.command router.bodyLimit = .ok (.uploadMedia file actor))
    (runs : (respond router id now request).Runs said (some response))
    (status : response.status = 413) :
    ¬Requirement.Met router.settings.policy file .small ∨ ∃ e ∈ said, SaysTooLarge e := by
  unfold respond at runs
  simp only [asks] at runs
  obtain ⟨result, called, rest, rfl, calls, ended⟩ := Program.Runs.of_bind runs
  rcases Program.Runs.of_exceptBind calls with ⟨failure, uploads, rfl⟩ | ⟨media, _, _, -, -, done⟩
  · obtain ⟨rfl, answered⟩ := Program.Runs.of_done (a := Response.ofFailure? failure) ended
    obtain ⟨message, rfl⟩ := exists_of_status_eq_413 answered.symm status
    rw [List.append_nil]
    exact tooLarge_of_uploading (uploading_of_runs uploads)
  · obtain ⟨-, rfl⟩ := Program.Runs.of_pure done
    cases ended
    have fine : 200 = 413 := status
    exact absurd fine (by decide)

/-- An upload is not refused for its size: its body is read; the file lacks nothing for its size, so
that it can only be refused for its name or its type; and the response says that something is too
large only if whoever was asked says so. -/
structure SizeAccepted (router : Router) (request : Request) (file : Upload) : Prop where
  read : request.command router.bodyLimit = .ok (.uploadMedia file request.actor)
  lacked : ∀ r, Requirement.Lacked router.settings.policy file r → r = .named ∨ r = .visual
  answered : ∀ {σ : Type} (answer : {β : Type} → List (Exchange Action Failure) → Action β → σ →
      Except Failure β × σ) (s : σ) (id : Uuid) (now : Instant),
    let ended := Program.record answer (serve router id now request) s
    ∀ response, ended.1 = some response → response.status = 413 →
      ∃ e ∈ ended.2.2, SaysTooLarge e

theorem sizeAccepted_of_le (uploads : request.Uploads file) (filled : 1 ≤ file.data.length)
    (small : file.data.length ≤ router.settings.policy.maxBytes)
    (short : request.body.length ≤ router.bodyLimit) : SizeAccepted router request file where
  read := by rw [uploads.command, if_neg (Nat.not_lt.mpr short)]
  lacked := by
    intro r lacked
    cases r with
    | named => exact .inl rfl
    | visual => exact .inr rfl
    | filled => exact absurd filled lacked.1
    | small => exact absurd small lacked.1
  answered := by
    intro σ answer s id now
    have read : request.command router.bodyLimit = .ok (.uploadMedia file request.actor) := by
      rw [uploads.command, if_neg (Nat.not_lt.mpr short)]
    have runs := (Program.record_passes answer (serve router id now request) s).1
    generalize Program.record answer (serve router id now request) s = ended at runs ⊢
    obtain ⟨result, after, said⟩ := ended
    intro ended response same status
    obtain rfl : result = some response := same
    obtain ⟨response, first, rest, parts, responds, served⟩ := Program.Runs.of_bind runs
    rw [uploads.method, if_neg (by decide)] at served
    cases served
    obtain rfl : said = first := parts.trans (List.append_nil first)
    exact (tooLarge_of_respond read responds status).resolve_left (Classical.not_not.mpr small)

/-- **The limit of bodies.** Every accepted environment gives a greatest size of files that fits a
64-bit word. If 65536 more than that fits a word too, then there is a router, and that sum is its
limit of bodies: an upload whose file is neither empty nor above its greatest size, and whose
framing has at most 65536 bytes, is not refused for its size. If the sum does not fit, there is no
router. -/
theorem uploads_within_body_limit {env : String → Option String} {config : Config}
    (accepted : Config.ofEnvironment env = .ok config) :
    let settings := Settings.ofConfig config
    let most := config.maxUploadBytes
    most < 2 ^ 64 ∧
      (most + 65536 < 2 ^ 64 → ∃ router, Router.build? settings = some router ∧
        router.settings = settings ∧ router.bodyLimit = most + 65536 ∧
        ∀ (request : Request) (file : Upload), request.Uploads file → 1 ≤ file.data.length →
          file.data.length ≤ most → request.body.length ≤ file.data.length + 65536 →
            SizeAccepted router request file) ∧
      (2 ^ 64 ≤ most + 65536 → Router.build? settings = none) := by
  intro settings most
  have word := (Config.inRange_of_ofEnvironment accepted).maxUploadBytes
  refine ⟨word, fun fits => ?_, fun overflows => Router.build?_of_le overflows⟩
  refine ⟨⟨settings, fits⟩, Router.build?_of_lt fits, rfl, rfl, ?_⟩
  intro request file uploads filled small framed
  refine sizeAccepted_of_le uploads filled small ?_
  calc request.body.length
      ≤ file.data.length + framingBytes := framed
    _ ≤ most + framingBytes := Nat.add_le_add_right small _

/-! ## A small picture -/

/-- An environment with a greatest size of files. -/
def environment (most : String) (name : String) : Option String :=
  [("S3_BUCKET", "media"), ("S3_ENDPOINT", "http://s3"), ("DATABASE_URL", "postgres://db"),
    ("REDIS_URL", "redis://cache"), ("AWS_ACCESS_KEY_ID", "key"),
    ("AWS_SECRET_ACCESS_KEY", "secret"), ("MAX_UPLOAD_BYTES", most)].lookup name

/-- What an environment gives in which nothing but the greatest size of files is set that has not to
be. -/
def configured (most : Nat) : Config :=
  { databaseUrl := "postgres://db"
    redisUrl := "redis://cache"
    s3Bucket := "media"
    s3Endpoint := "http://s3"
    s3PublicUrl := "http://s3/media"
    awsAccessKeyId := "key"
    awsSecretAccessKey := "secret"
    portNumber := 8080
    logFilter := "info"
    maxUploadBytes := most
    maxPageSize := 500
    dbMaxConnections := 10 }

/-- A picture of four bytes. -/
def picture : Upload :=
  ⟨"cat.png", some "image/png", Bytes.ofText "meow"⟩

/-- The picture is posted in a form. -/
def posted : Request :=
  { method := "POST"
    target := "/media/upload"
    headers := [("content-type", Bytes.ofText "multipart/form-data; boundary=B")]
    body := Bytes.ofText ("--B\r\nContent-Disposition: form-data; name=\"file\"; " ++
      "filename=\"cat.png\"\r\nContent-Type: image/png\r\n\r\nmeow\r\n--B--\r\n") }

theorem posted_uploads : posted.Uploads picture where
  method := rfl
  path := by decide +kernel
  form := by
    have first : ((Multipart.read "B" posted.body).parts.find?
        fun part => part.name == some "file").map
          (fun part => (part.fileName.getD "", part.contentType, part.data)) =
        some (picture.fileName, picture.contentType, picture.data) := by
      decide +kernel
    obtain ⟨part, found, same⟩ := Option.map_eq_some_iff.mp first
    obtain ⟨name, rest⟩ := Prod.mk.inj same
    obtain ⟨type, data⟩ := Prod.mk.inj rest
    refine ⟨"B", by decide +kernel, part, found, ?_⟩
    rw [name, type, data]

theorem length_posted : posted.body.length = 110 := by
  decide +kernel

/-- With room for four bytes and no more the picture is taken in. With room for so many that the
limit of bodies does not fit a word there is no router. -/
theorem uploads_within_body_limit_picture :
    Config.ofEnvironment (environment " 4 ") = .ok (configured 4) ∧
      posted.Uploads picture ∧ picture.data.length = 4 ∧
      (∃ router, Router.build? (Settings.ofConfig (configured 4)) = some router ∧
        router.bodyLimit = 65540 ∧ SizeAccepted router posted picture) ∧
      Config.ofEnvironment (environment "18446744073709486080") =
        .ok (configured 18446744073709486080) ∧
      Router.build? (Settings.ofConfig (configured 18446744073709486080)) = none := by
  have small : Config.ofEnvironment (environment " 4 ") = .ok (configured 4) := by decide +kernel
  have large : Config.ofEnvironment (environment "18446744073709486080") =
      .ok (configured 18446744073709486080) := by decide +kernel
  have four : picture.data.length = 4 := by decide +kernel
  obtain ⟨-, built, -⟩ := uploads_within_body_limit small
  obtain ⟨-, -, unbuilt⟩ := uploads_within_body_limit large
  obtain ⟨router, routes, -, limit, takes⟩ := built (by decide)
  refine ⟨small, posted_uploads, four, ⟨router, routes, limit, ?_⟩, large, unbuilt (by decide)⟩
  exact takes posted picture posted_uploads (by rw [four]; decide) (by rw [four]; exact le_rfl)
    (by rw [four, length_posted]; decide)

/-- **A limit that overflows.** Not every accepted environment gives a router whose limit of bodies
leaves room for the framing of every file: room for 2^64 - 65536 bytes of a file is accepted, and
there is no router for it. -/
theorem not_forall_uploads_within_body_limit :
    ¬∀ (env : String → Option String) (config : Config), Config.ofEnvironment env = .ok config →
      ∃ router, Router.build? (Settings.ofConfig config) = some router ∧
        router.bodyLimit = config.maxUploadBytes + 65536 ∧
        ∀ (request : Request) (file : Upload), request.Uploads file → 1 ≤ file.data.length →
          file.data.length ≤ config.maxUploadBytes →
          request.body.length ≤ file.data.length + 65536 → SizeAccepted router request file := by
  intro all
  have large : Config.ofEnvironment (environment "18446744073709486080") =
      .ok (configured 18446744073709486080) := by decide +kernel
  have overflows : 2 ^ 64 ≤ (configured 18446744073709486080).maxUploadBytes + framingBytes := by
    decide
  obtain ⟨router, built, -⟩ := all _ _ large
  cases (Router.build?_of_le overflows).symm.trans built

end Http

end ContentService
