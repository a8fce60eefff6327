import Manuscript.Daemon.Http
import Manuscript.Daemon.Service
import Manuscript.Text.Case
import Manuscript.Data.Json

/-!
# The daemon's HTTP interface

The daemon answers under `/api/v1`: `POST /build` builds document text, `POST /build/file` builds
a document on disk, `GET /cache` lists the cached compilers and `DELETE /cache` drops them,
`GET /status` reports the daemon's state and `GET /health` that it is alive; `GET /` describes
the daemon. A path that names an endpoint but not with the request's method is answered 405 with
the allowed method; a path that names none is answered 404, unless the path with or without a
trailing slash names one, in which case the request is redirected there.

The daemon starts by loading its configuration and checking its log level; every build and
status request loads the configuration again. A request body that is missing, not a mapping, or
holds refused fields is answered 422 with the refusals. A failed build is answered 400 for
unusable options, 422 for a document that cannot be built, 404 for a document file that does not
exist, and 500 for anything else. A response that cannot be written is a server error, answered
500 in plain text without the cross-origin headers.
-/

namespace Manuscript.Daemon

open Manuscript.Http

/-- The version of the daemon. -/
def version : String := "0.1.0"

/-- The daemon's cross-origin policy. -/
def cors : CorsPolicy := { origins := ["http://localhost:5173"] }

/-- The endpoints of the daemon. -/
inductive Endpoint where
  | buildSource
  | buildFile
  | cacheList
  | cacheClear
  | status
  | health
  | root
  deriving Inhabited, Repr, DecidableEq

/-- The routes of the daemon, in the order they are matched: path, method and endpoint. -/
def routes : List (String × String × Endpoint) :=
  [("/api/v1/build", "POST", .buildSource), ("/api/v1/build/file", "POST", .buildFile),
   ("/api/v1/cache", "GET", .cacheList), ("/api/v1/cache", "DELETE", .cacheClear),
   ("/api/v1/status", "GET", .status), ("/api/v1/health", "GET", .health),
   ("/", "GET", .root)]

/-- Where a request goes. -/
inductive Routing where
  | found (e : Endpoint)
  | wrongMethod (allowed : String)
  | redirect (path : String)
  | notFound
  deriving Inhabited, Repr

/-- Routes a request by its method and path. -/
def route (method path : String) : Routing :=
  match routes.find? fun (p, m, _) => p == path && m == method with
  | some (_, _, e) => .found e
  | none =>
    match routes.find? (·.1 == path) with
    | some (_, m, _) => .wrongMethod m
    | none =>
      if path == "/" then .notFound
      else
        let other := if path.endsWith "/" then
            String.ofList (path.toList.reverse.dropWhile (· == '/')).reverse
          else path ++ "/"
        if routes.any (·.1 == other) then .redirect other else .notFound

/-- What a handler gives: a response, or a failure that no handler catches. -/
inductive Reply where
  | answer (r : Response)
  | crash
  deriving Inhabited

/-- The description of the daemon. -/
def rootInfo : Value :=
  Value.record [("name", .str "mdxd"), ("version", .str version),
    ("description", .str "REST API daemon for mdx_library"), ("docs", .str "/docs"),
    ("openapi", .str "/openapi.json")]

/-- The code of a refusal of the whole body. -/
def bodyRefusal (issue : Issue) : Value :=
  Value.record [("type", .str issue.refusal.code),
    ("loc", .list (.str "body" :: issue.loc.map fun s =>
      match s with
      | .key k => .str k
      | .index i => .int i)),
    ("msg", .str issue.refusal.message)]

/-- The answer to refused request fields. The answer shows the refused inputs, so one that holds
a non-finite float cannot be written. -/
def refused (issues : List Issue) : Reply :=
  if issues.any (·.input.hasNonFinite) then .crash
  else .answer (.detail 422 (.list (issues.map bodyRefusal)))

/-- The entries of a JSON request body that holds a mapping. -/
def jsonEntries : Value → Except (List Issue) (List (String × Value))
  | .null => .error [⟨[], .missing, .null⟩]
  | v@(.dict _) =>
    match v.textEntries? with
    | some es => .ok es
    | none => .error [⟨[], .notObject, v⟩]
  | v => .error [⟨[], .notObject, v⟩]

/-- A text without the byte order mark that may lead it. -/
def withoutByteOrderMark (text : String) : String :=
  match text.toList with
  | '\ufeff' :: rest => String.ofList rest
  | _ => text

/-- The entries of a request body that holds a mapping, or the answer that refuses it. A raw
body read as JSON that is not JSON is refused at the index where reading stopped, counted after
a leading byte order mark, and one with an integer too long to read cannot be parsed at all; a
raw body that is not read as JSON is bytes. -/
def bodyEntries (req : Request) : Except Reply (List (String × Value)) :=
  let refuse (issue : Issue) : Except Reply (List (String × Value)) := .error (refused [issue])
  match req.body with
  | none => refuse ⟨[], .missing, .null⟩
  | some (.json v) => (jsonEntries v).mapError refused
  | some (.raw text) =>
    if text.isEmpty then refuse ⟨[], .missing, .null⟩
    else if req.readsJson then
      match Json.read (withoutByteOrderMark text) with
      | .ok v => (jsonEntries v).mapError refused
      | .error (.malformed _ pos) => refuse ⟨[.index pos], .badJson, .dict []⟩
      | .error (.overlong _) =>
        .error (.answer (.detail 400 (.str "There was an error parsing the body")))
    else refuse ⟨[], .notObject, .str text⟩

/-- The request read from the body, or the answer that refuses it. -/
def readBody {α : Type} (req : Request) (ofEntries : List (String × Value) → Except (List Issue) α) :
    Except Reply α :=
  bodyEntries req >>= fun entries => (ofEntries entries).mapError refused

/-- The answer to a failed build. -/
def buildFailure (e : Error) : Response :=
  match e with
  | .configuration _ | .invalidOptions .. => .detail 400 (.str e.message)
  | .parse .. | .frontmatter .. | .includeFailed .. | .compile _ => .detail 422 (.str e.message)
  | _ => .detail 500 (.str "Internal server error")

/-- A diagnostic in a response. -/
def diagnosticValue (d : Diagnostic) : Value :=
  Value.record [("reason", .str d.reason), ("severity", .str d.severity.name),
    ("line", match d.line with | some l => .int l | none => .null),
    ("source", match d.source with | some s => .str s | none => .null)]

/-- The answer to a finished build; a front matter without JSON form cannot be written. -/
def buildAnswer (o : Outcome) : Reply :=
  let matter := match o.frontmatter with
    | some r => jsonable (Value.record r)
    | none => some .null
  match matter with
  | none => .crash
  | some matter =>
    .answer (.ofJson 200 (Value.record [
      ("code", .str o.compiled.program),
      ("path", match o.compiled.file.path with | some p => .str p | none => .null),
      ("format", .str o.format.name), ("group", .str o.group),
      ("configHash", .str o.configHash), ("frontmatter", matter),
      ("dependencies", .list (o.dependencies.map .str)),
      ("messages", .list (o.compiled.file.messages.map diagnosticValue))]))

/-- The log levels the daemon knows. -/
def logLevels : List String :=
  ["CRITICAL", "FATAL", "ERROR", "WARN", "WARNING", "INFO", "DEBUG", "NOTSET"]

/-- The log level of settings, in upper case, if the daemon knows it. -/
def checkLogLevel (s : Settings) : Except Error String :=
  let level := Text.toUpper s.logLevel
  if logLevels.contains level then .ok level
  else .error (.badValue ("Unknown level: " ++ Text.quote level))

variable {m : Type → Type} [Monad m] [Host m]

/-- Starts the daemon: loads its configuration and checks the log level. -/
def start : m (Except Error Settings) := do
  match ← Settings.loadConfig none with
  | .error e => return .error e
  | .ok s => return (checkLogLevel s).map fun _ => s

/-- Answers a request at an endpoint; `uptime` is the time since the daemon started. -/
def answerAt (cache : CompilerCache) (uptime : Float) (req : Request) :
    Endpoint → m (Reply × CompilerCache)
  | .root => return (.answer (.ofJson 200 rootInfo), cache)
  | .health => return (.answer (.ofJson 200 (Value.record [("status", .str "healthy")])), cache)
  | .cacheList =>
    let entries := cache.entries.mergeSort fun a b => !(b.1 < a.1)
    return (.answer (.ofJson 200 (Value.record [("count", .int entries.length),
      ("entries", .list (entries.map fun (k, e) =>
        Value.record [("key", .str k), ("configHash", .str e.configHash)]))])), cache)
  | .cacheClear =>
    let (n, cache) := cache.clear
    return (.answer (.ofJson 200 (Value.record [("cleared", .int n)])), cache)
  | .status => do
    match ← Settings.loadConfig none with
    | .error _ => return (.crash, cache)
    | .ok s =>
      return (.answer (.ofJson 200 (Value.record [("status", .str "running"),
        ("version", .str version), ("uptimeSeconds", .float uptime),
        ("environment", .str s.environment), ("cachedCompilers", .int cache.size)])), cache)
  | .buildSource => do
    match ← Settings.loadConfig none with
    | .error _ => return (.crash, cache)
    | .ok s =>
      match readBody req SourceRequest.ofEntries with
      | .error reply => return (reply, cache)
      | .ok r =>
        match ← buildSource cache s r with
        | (.error e, cache) => return (.answer (buildFailure e), cache)
        | (.ok o, cache) => return (buildAnswer o, cache)
  | .buildFile => do
    match ← Settings.loadConfig none with
    | .error _ => return (.crash, cache)
    | .ok s =>
      match readBody req FileRequest.ofEntries with
      | .error reply => return (reply, cache)
      | .ok r =>
        match ← buildFile cache s r with
        | (.error (.system "FileNotFoundError" _), cache) =>
          return (.answer (.detail 404 (.str ("Document not found: " ++ r.path))), cache)
        | (.error e, cache) => return (.answer (buildFailure e), cache)
        | (.ok o, cache) => return (buildAnswer o, cache)

/-- The answer of the server to a request that it routes itself, before cross-origin headers. -/
def dispatch (cache : CompilerCache) (uptime : Float) (req : Request) :
    m (Option Reply × CompilerCache) := do
  match route req.method req.path with
  | .found e => do
    let (r, cache) ← answerAt cache uptime req e
    return (some r, cache)
  | .wrongMethod allowed =>
    return (some (.answer ((Response.detail 405 (.str "Method Not Allowed")).withHeader "allow"
      allowed)), cache)
  | .notFound => return (some (.answer (.detail 404 (.str "Not Found"))), cache)
  | .redirect _ => return (none, cache)

/-- Serves a request: a preflight request is answered by the cross-origin rules, any other is
routed, and a redirect is followed with the same method and body. `hops` bounds the redirects
followed. -/
def serve (cache : CompilerCache) (uptime : Float) :
    Nat → Request → m (Response × CompilerCache)
  | 0, _ => return (.detail 404 (.str "Not Found"), cache)
  | hops + 1, req => do
    if CorsPolicy.isPreflight req then return (cors.preflight req, cache)
    match route req.method req.path with
    | .redirect path => serve cache uptime hops { req with path }
    | _ =>
      let (reply, cache) ← dispatch cache uptime req
      match reply with
      | some (.answer r) => return (cors.decorate req r, cache)
      | _ => return (.ofText 500 "Internal Server Error", cache)

end Manuscript.Daemon
