import BuildLedger.Bytes.Base64
import BuildLedger.Http.Exchange
import BuildLedger.Json.Printer
import BuildLedger.Repository
import BuildLedger.Url.Reader

/-!
# A repository over HTTP

A file is put under its repository and path, with its properties as matrix parameters behind the
path. Modules are posted under the record's name and number, a whole record is put, and after that
the retention rule is posted if there is one. Nothing is sent after a request that failed.
-/
namespace BuildLedger.Http

/-- The proxy that requests go through, and what it is told about the user. -/
structure Relay where
  address : Url
  authorization : Option String
deriving Repr, DecidableEq

structure Client where
  /-- The repository's address, with the user in it if there is one. -/
  base : Url
  username : String
  password : String
  /-- How often an attempt without connection is repeated. -/
  retries : Nat
  relay : Option Relay
deriving Repr, DecidableEq

def userAgent : String := "buildinfo/0.1.0"

def defaultRetries : Nat := 3

/-- The header value for a user and a password. -/
def basicCredentials (username password : String) : String :=
  "Basic " ++ Bytes.toBase64 (Url.bytesOf (username ++ ":" ++ password))

/-- A header value has no controls but tabs. -/
def isSendable (value : String) : Bool :=
  value.toList.all fun character => character == '\t' || !Url.isControl character

/-- One property as a matrix parameter. -/
def parameterText (property : String × String) : String :=
  ";" ++ Url.encodeText Url.isUnreserved property.1 ++ "=" ++
    Url.encodeText Url.isUnreserved property.2

/-- Properties as matrix parameters. -/
def parametersText (properties : Properties) : String :=
  String.join (properties.entries.map parameterText)

namespace Relay

/-- The proxy of the settings, if it is used. -/
def ofProxy (proxy : Proxy) : Except Failure (Option Relay) :=
  if proxy.isConfigured then
    let name := "http://" ++ Text.trim (proxy.host.getD "") ++ ":" ++ toString (proxy.port.getD 0)
    match Url.ofText name with
    | .error fault => .error (.proxyAddress fault)
    | .ok address =>
        let authorization := if proxy.hasCredentials then
            some (basicCredentials (proxy.username.getD "") (proxy.password.getD ""))
          else
            match address.credentials? with
            | some (username, some password) => some (basicCredentials username password)
            | _ => none
        .ok (some { address := address.withoutCredentials, authorization })
  else .ok none

end Relay

namespace Client

/-- The client for an endpoint; an address that cannot be used is a matter of the settings. -/
def ofSettings (endpoint : Endpoint) (settings : Settings) : Except Failure Client :=
  match Url.ofText endpoint.contextUrl with
  | .error .withoutPath =>
      .error (.settings ("context_url '" ++ endpoint.contextUrl ++ "' cannot carry a path"))
  | .error fault =>
      .error (.settings ("invalid context_url '" ++ endpoint.contextUrl ++ "': " ++ fault.message))
  | .ok base =>
      match Relay.ofProxy settings.proxy with
      | .error failure => .error failure
      | .ok relay =>
          .ok {
            base
            username := endpoint.username
            password := endpoint.password
            retries := (settings.connectionRetries.map (·.toNat)).getD defaultRetries
            relay
          }

/-- A client has the address of its endpoint, and the limit of its settings or the usual one. -/
theorem of_settings_parts {endpoint : Endpoint} {settings : Settings} {client : Client}
    (made : ofSettings endpoint settings = .ok client) :
    Url.ofText endpoint.contextUrl = .ok client.base ∧
      client.retries = (settings.connectionRetries.map (·.toNat)).getD defaultRetries := by
  unfold ofSettings at made
  split at made
  · cases made
  · cases made
  · next base read =>
    split at made
    · cases made
    · cases made
      exact ⟨read, rfl⟩

/-- Settings without a proxy make a client of every address that can be read. -/
theorem of_settings_without_proxy {address username password : String} {base : Url}
    (read : (Url.ofText address).toOption = some base) :
    ofSettings ⟨address, username, password⟩ {} =
      .ok { base, username, password, retries := 3, relay := none } := by
  unfold ofSettings
  cases done : Url.ofText address with
  | error fault =>
      rw [done] at read
      cases read
  | ok found =>
      rw [done] at read
      cases read
      rfl

/-! ## Requests -/

/-- What the repository is told about the user: first the one in the address, then the one in the
settings. -/
def authorizations (client : Client) : List String :=
  (client.base.credentials?.map fun (username, password) =>
    basicCredentials username (password.getD "")).toList ++
  (if client.username.isEmpty then []
    else [basicCredentials client.username client.password])

/-- A request with the headers that all requests have. -/
def request (client : Client) (method : Method) (url : Url) (own : List (String × String))
    (body : ByteArray) : Except Fault Request :=
  if own.all fun header => isSendable header.2 then
    .ok {
      method
      url := if url.credentials?.isSome then url.withoutCredentials else url
      proxy := client.relay.map (·.address)
      headers := [("host", url.hostText), ("user-agent", userAgent)] ++ own ++
        client.authorizations.map (("authorization", ·)) ++
        ((client.relay.bind (·.authorization)).map (("proxy-authorization", ·))).toList
      body
    }
  else .error .unsendableHeader

/-- A request with a field tree as its body. -/
def jsonRequest (client : Client) (method : Method) (url : Url) (tree : Tree) :
    Except Fault Request :=
  client.request method url [("content-type", "application/json")] (Json.compact tree).toUTF8

/-- Where an upload goes: repository, path, and the properties as matrix parameters. -/
def uploadUrl (client : Client) (upload : Upload) : Url :=
  let pieces := upload.repository :: Path.pieces (Text.dropLeading '/' upload.path)
  (client.base.append pieces).withSuffix (parametersText upload.properties)

def checksumHeaders (checksums : Checksums) : List (String × String) :=
  [("x-checksum-sha1", checksums.sha1), ("x-checksum-sha256", checksums.sha256),
    ("x-checksum-md5", checksums.md5)].filterMap fun (name, value) => value.map ((name, ·))

def uploadRequest (client : Client) (disk : Disk) (upload : Upload) : Except Fault Request :=
  match disk.contentAt upload.file with
  | .error cause => .error (.unreadable cause)
  | .ok content =>
      client.request .put (client.uploadUrl upload) (checksumHeaders upload.checksums) content

def appendRequest (client : Client) (record : Record) : Except Fault Request :=
  client.jsonRequest .post
    (client.base.append ["api", "build", "append", record.name, record.number])
    ((Codec.list Module.codec).encode record.modules)

def recordRequest (client : Client) (record : Record) : Except Fault Request :=
  client.jsonRequest .put (client.base.append ["api", "build"]) (Record.codec.encode record)

/-- The retention rule as it is sent; none if its date is out of the calendar. -/
def retentionTree? (now : Instant) (retention : Retention) : Option Tree :=
  let date? : Option (Option Int) := match retention.maxDays with
    | none => some none
    | some days => (now.minusDays? days.toNat).map fun date => some date.millis
  date?.map fun date => .table (
    (retention.maxBuilds.map fun count => ("count", Tree.number count.toNat)).toList ++
    (date.map fun millis => ("minimumBuildDate", Tree.number millis)).toList ++
    [("deleteBuildArtifacts", .flag retention.deleteBuildArtifacts),
      ("buildNumbersNotToBeDiscarded", .list (retention.excludeBuilds.map .text))])

def retentionRequest (client : Client) (record : Record) (retention : Retention) (tree : Tree) :
    Except Fault Request :=
  client.jsonRequest .post
    ((client.base.append ["api", "build", "retention", record.name]).withPair "async"
      (if retention.inBackground then "true" else "false"))
    tree

/-! ## Operations -/

variable {Line : Type}

/-- Deliver a request of the client's; the request stays the same for every attempt. -/
def deliver (client : Client) (transport : Transport Line) (request : Except Fault Request)
    (line : Line) : Except Fault Unit × Line :=
  transport.deliver (fun _ => request) client.retries line

def deploy (client : Client) (transport : Transport Line) (disk : Disk) (upload : Upload)
    (line : Line) : Answer Line :=
  match client.deliver transport (client.uploadRequest disk upload) line with
  | (.ok (), later) => (.ok (), later)
  | (.error fault, later) => (.error (.deploy upload.path fault.message), later)

/-- Deliver a request that belongs to the record. -/
def publish (client : Client) (transport : Transport Line) (request : Except Fault Request)
    (line : Line) : Answer Line :=
  match client.deliver transport request line with
  | (.ok (), later) => (.ok (), later)
  | (.error fault, later) => (.error (.publish fault.message), later)

def append (client : Client) (transport : Transport Line) (record : Record) (line : Line) :
    Answer Line :=
  client.publish transport (client.appendRequest record) line

/-- Send the retention rule if there is one to send. A date that the calendar does not reach is no
failure that anyone is told: the program stops on the spot. It stands among the failures here, so a
publication that meets it still closes and writes its files, which a stopped program does not. -/
def retain (client : Client) (transport : Transport Line) (now : Instant) (record : Record)
    (retention : Option Retention) (line : Line) : Answer Line :=
  match retention.filter (·.isEnabled) with
  | none => (.ok (), line)
  | some retention =>
      match retentionTree? now retention with
      | none => (.error .dateOverflow, line)
      | some tree => client.publish transport (client.retentionRequest record retention tree) line

def send (client : Client) (transport : Transport Line) (now : Instant) (record : Record)
    (settings : Settings) (line : Line) : Answer Line :=
  match client.publish transport (client.recordRequest record) line with
  | (.error failure, later) => (.error failure, later)
  | (.ok (), later) => client.retain transport now record settings.build.retention later

end Client

/-! ## Sessions -/

/-- A line and the client that uses it, once there is one. -/
structure Session (Line : Type) where
  client : Option Client := none
  line : Line

namespace Session

variable {Line : Type}

/-- Act with the client of the session; without one there is nothing to act on. -/
def act (session : Session Line) (action : Client → Line → Answer Line) : Answer (Session Line) :=
  match session.client with
  | none => (.error (.publish "there is no connection"), session)
  | some client =>
      let (result, line) := action client session.line
      (result, { session with line := line })

end Session

/-- The repository behind a transport. Neither connecting nor closing needs an
exchange, and a session that was closed can go on. -/
def repository {Line : Type} (transport : Transport Line) : Repository (Session Line) where
  connect endpoint settings session :=
    match Client.ofSettings endpoint settings with
    | .ok client => (.ok (), { session with client := some client })
    | .error failure => (.error failure, session)
  deploy disk upload session := session.act fun client => client.deploy transport disk upload
  append record session := session.act fun client => client.append transport record
  send now record settings session :=
    session.act fun client => client.send transport now record settings
  close session := (.ok (), session)

end BuildLedger.Http
