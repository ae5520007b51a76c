import ContentService.Action
import ContentService.Config
import ContentService.Http.Message
import ContentService.Http.Target
import ContentService.Text.Blank

/-!
# Object storage

The store of the files' bytes on an object storage server: each request is one call of the server,
unless no call can be made of it, and the address of stored bytes is their key under a public base
address.
-/

namespace ContentService

/-- A bucket on an object storage server, and where its objects are public. -/
structure ObjectStorage where
  endpoint : String
  bucket : String
  publicBase : String
  deriving DecidableEq, Repr

/-- A call of the server. -/
structure StorageCall where
  method : String
  url : String
  contentType : Option String
  size : Nat
  deriving DecidableEq, Repr

/-- Why a request comes to nothing. -/
inductive StorageFault
  /-- No call can be made of the request. -/
  | unmakeable
  /-- There is no place to send the call to. -/
  | unsendable
  /-- The server does not do what the call asks. -/
  | refused
  deriving DecidableEq, Repr

/-- The wording of a fault. -/
def StorageFault.message : StorageFault → String
  | .unmakeable => "failed to construct request"
  | .unsendable => "dispatch failure"
  | .refused => "service error"

namespace ObjectStorage

/-- The storage of a bucket; slashes at the end of its public address do not count. -/
def ofBucket (endpoint bucket publicBase : String) : ObjectStorage :=
  ⟨endpoint, bucket, Config.trimSlashes publicBase⟩

/-- The public address of a key. -/
def uri (storage : ObjectStorage) (key : String) : String :=
  storage.publicBase ++ "/" ++ key

/-- The digits of a byte in an escape. -/
def escapeByte (byte : UInt8) : List Char :=
  let digit (n : Nat) : Char := (Nat.digitChar n).toUpper
  ['%', digit (byte.toNat / 16), digit (byte.toNat % 16)]

/-- The characters that stand for themselves in a path. -/
def isUnreserved (c : Char) : Bool :=
  c.isAlphanum || c = '-' || c = '.' || c = '_' || c = '~'

/-- A text in a path: characters other than the unreserved ones and those of one more kind are
escaped byte for byte. -/
def escape (kept : Char → Bool) (s : String) : String :=
  String.ofList (s.toList.flatMap fun c =>
    if isUnreserved c || kept c then [c] else (Bytes.ofChars [c]).flatMap escapeByte)

/-- The address of a key on the server. A slash divides a key, but not the name of a bucket. -/
def url (storage : ObjectStorage) (key : String) : String :=
  storage.endpoint ++ "/" ++ escape (fun _ => false) storage.bucket ++ "/" ++ escape (· = '/') key

/-- Whether a status says that a call was done. -/
def isSuccess (status : Nat) : Bool :=
  200 ≤ status && status < 300

/-- Whether there is nothing but white space in a text. -/
def isBlank (s : String) : Bool :=
  s.toList.all Text.isBlank

/-- Whether the name of a bucket is that of a resource: the word `arn`, then behind colons a
partition, a service, a region, an account and a resource. Region and account may be empty. -/
def isResourceName (bucket : String) : Bool :=
  match Http.pieces ':' bucket.toList with
  | ['a', 'r', 'n'] :: partition :: service :: _ :: _ :: resource =>
    !partition.isEmpty && !service.isEmpty && resource ≠ [] && resource ≠ [[]]
  | _ => false

/-- The call for a key. Bucket and key must not be blank, the content type must be fit for a header,
and a bucket under the name of a resource has no address in a path. -/
def callFor (storage : ObjectStorage) (method key : String) (contentType : Option String)
    (size : Nat) : Except StorageFault StorageCall :=
  if isBlank storage.bucket || isBlank key then .error .unmakeable
  else if !(contentType.all fun type => (Bytes.ofText type).all Http.isHeaderValue) then
    .error .unmakeable
  else if isResourceName storage.bucket then .error .unsendable
  else .ok ⟨method, storage.url key, contentType, size⟩

/-- The call that a request makes. -/
def call {β : Type} (storage : ObjectStorage) : BlobRequest β → Except StorageFault StorageCall
  | .put key data contentType => storage.callFor "PUT" key (some contentType) data.length
  | .delete key => storage.callFor "DELETE" key none 0

/-- The failure of a request. -/
def failure {β : Type} : BlobRequest β → StorageFault → Failure
  | .put _ _ _, fault => .storage ("S3 upload failed: " ++ fault.message)
  | .delete _, fault => .storage ("S3 delete failed: " ++ fault.message)

/-- What a request that is done is answered. -/
def success {β : Type} (storage : ObjectStorage) : BlobRequest β → β
  | .put key _ _ => storage.uri key
  | .delete _ => ()

/-- What a request is answered when the server answers its call, if it makes one, with a status. -/
def answer {β : Type} (storage : ObjectStorage) (status : Nat) (request : BlobRequest β) :
    Except Failure β :=
  match storage.call request with
  | .error fault => .error (failure request fault)
  | .ok _ =>
    if isSuccess status then .ok (storage.success request)
    else .error (failure request .refused)

end ObjectStorage

end ContentService
