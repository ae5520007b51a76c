import ContentService.Text.Blank
import ContentService.Text.Digits

/-!
# Configuration

The settings that the service takes from its environment. Some variables have to be set; the others
have defaults, but a value that cannot be read is a fault and not a default.
-/

namespace ContentService

/-- The settings of the service. -/
structure Config where
  databaseUrl : String
  redisUrl : String
  s3Bucket : String
  s3Endpoint : String
  /-- The beginning of the addresses of uploaded files. -/
  s3PublicUrl : String
  awsAccessKeyId : String
  awsSecretAccessKey : String
  /-- Where the service listens. -/
  portNumber : Nat
  /-- Which events are logged. -/
  logFilter : String
  maxUploadBytes : Nat
  maxPageSize : Nat
  dbMaxConnections : Nat
  deriving DecidableEq, Repr

/-- What is wrong with the environment. -/
inductive ConfigFault
  /-- A variable that has to be set is not. -/
  | missing (variable_ : String)
  /-- A variable's value is not a number of the wanted range. -/
  | invalid (variable_ raw : String) (cause : Text.IntegerFault)
  deriving DecidableEq, Repr

/-- The wording of a fault. -/
def ConfigFault.message : ConfigFault → String
  | .missing name =>
    "Required environment variable '" ++ name ++ "' is not set: environment variable not found"
  | .invalid name raw cause =>
    "Environment variable '" ++ name ++ "' has an invalid value: " ++ raw ++ ": " ++ cause.message

namespace Config

/-- A variable that has to be set. -/
def required (env : String → Option String) (name : String) : Except ConfigFault String :=
  match env name with
  | some value => .ok value
  | none => .error (.missing name)

/-- A variable that holds a number up to `most`, with white space around it. -/
def number (env : String → Option String) (name : String) (most default : Nat) :
    Except ConfigFault Nat :=
  match env name with
  | none => .ok default
  | some raw =>
    match Text.readUnsigned most (Text.trimChars raw.toList) with
    | .ok n => .ok n
    | .error cause => .error (.invalid name raw cause)

/-- An address without the slashes at its end. -/
def trimSlashes (address : String) : String :=
  String.ofList (Text.trimEndChars (· = '/') address.toList)

/-- The settings that an environment gives, or the first fault in it. -/
def ofEnvironment (env : String → Option String) : Except ConfigFault Config := do
  let s3Bucket ← required env "S3_BUCKET"
  let s3Endpoint ← required env "S3_ENDPOINT"
  let s3PublicUrl := (env "S3_PUBLIC_URL").getD (trimSlashes s3Endpoint ++ "/" ++ s3Bucket)
  let databaseUrl ← required env "DATABASE_URL"
  let redisUrl ← required env "REDIS_URL"
  let awsAccessKeyId ← required env "AWS_ACCESS_KEY_ID"
  let awsSecretAccessKey ← required env "AWS_SECRET_ACCESS_KEY"
  let portNumber ← number env "PORT" (2 ^ 16 - 1) 8080
  let logFilter := (env "RUST_LOG").getD "info"
  let maxUploadBytes ← number env "MAX_UPLOAD_BYTES" (2 ^ 64 - 1) (50 * 1024 * 1024)
  let maxPageSize ← number env "MAX_PAGE_SIZE" (2 ^ 64 - 1) 500
  let dbMaxConnections ← number env "DB_MAX_CONNECTIONS" (2 ^ 32 - 1) 10
  return { databaseUrl, redisUrl, s3Bucket, s3Endpoint, s3PublicUrl, awsAccessKeyId,
           awsSecretAccessKey, portNumber, logFilter, maxUploadBytes, maxPageSize,
           dbMaxConnections }

end Config

end ContentService
