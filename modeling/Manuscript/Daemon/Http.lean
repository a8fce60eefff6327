import Manuscript.Data.Value
import Manuscript.Data.Literal
import Manuscript.Text.Blank
import Manuscript.Text.Percent

/-!
# HTTP exchanges

Requests and responses of the daemon's HTTP interface, the cross-origin rules it applies, and the
JSON form of data values in its responses.

A request names its path by a target whose query and fragment do not take part in routing.
Header names are compared without regard to case. A raw request body is read as JSON when it
comes without a content type or with an `application` type whose subtype is `json` or ends in
`+json`; other bodies are raw bytes.

Cross-origin rules: the daemon allows a fixed list of origins, every method and every header,
with credentials. A preflight request (`OPTIONS` with `Origin` and
`Access-Control-Request-Method`) is answered directly: `OK` when the origin and the method are
allowed, else status 400 naming what is not. Every other response varies by `Origin`, and carries
the credentials flag and, for an allowed origin, the origin itself when the request had one.

Values in responses take their JSON form: dates and timestamps become ISO text (an offset of
zero as `Z`), bytes become their UTF-8 text, sets become lists, non-finite floats become null,
and mapping keys become text. Bytes that are not UTF-8 cannot be written.
-/

namespace Manuscript.Http

/-- The body of a request. -/
inductive Body where
  /-- A JSON document. -/
  | json (v : Value)
  /-- Raw text with no JSON content type. -/
  | raw (text : String)
  deriving Inhabited, Repr

/-- An HTTP request. -/
structure Request where
  method : String
  path : String
  headers : List (String × String) := []
  body : Option Body := none
  deriving Inhabited, Repr

/-- The body of a response. -/
inductive Payload where
  | json (v : Value)
  | text (s : String)
  deriving Inhabited, Repr

/-- An HTTP response. -/
structure Response where
  status : Nat
  headers : List (String × String) := []
  payload : Payload
  deriving Inhabited, Repr

/-- Lowers the ASCII letters of a header name. -/
def lowerName (s : String) : String :=
  s.map fun c => if 'A' ≤ c && c ≤ 'Z' then Char.ofNat (c.toNat + 32) else c

/-- The path that a request target names: the part before any query or fragment, with its
percent escapes decoded. -/
def pathOfTarget (target : String) : String :=
  let beforeQuery := (target.splitOn "?").headD target
  Text.percentDecode ((beforeQuery.splitOn "#").headD beforeQuery) []

/-- The value of a request header. -/
def Request.header? (r : Request) (name : String) : Option String :=
  (r.headers.find? fun (k, _) => lowerName k == lowerName name).map (·.2)

/-- The media type of a content-type header, in lower case: its part before any `;`, or
`text/plain` when that is not one type and one subtype. -/
def mediaType (value : String) : String × String :=
  let main := lowerName (Text.trimBlank ((value.splitOn ";").headD ""))
  match main.splitOn "/" with
  | [t, sub] => (t, sub)
  | _ => ("text", "plain")

/-- Whether a raw request body is read as JSON. -/
def Request.readsJson (r : Request) : Bool :=
  match r.header? "content-type" with
  | none => true
  | some v =>
    let (t, sub) := mediaType v
    t == "application" && (sub == "json" || sub.endsWith "+json")

/-- The content type of JSON responses. -/
def jsonType : String := "application/json"

/-- The content type of text responses. -/
def textType : String := "text/plain; charset=utf-8"

/-- A JSON response. -/
def Response.ofJson (status : Nat) (v : Value) : Response :=
  { status, headers := [("content-type", jsonType)], payload := .json v }

/-- A text response. -/
def Response.ofText (status : Nat) (s : String) : Response :=
  { status, headers := [("content-type", textType)], payload := .text s }

/-- An error response with a detail. -/
def Response.detail (status : Nat) (d : Value) : Response :=
  .ofJson status (Value.record [("detail", d)])

/-- Adds a header to a response. -/
def Response.withHeader (r : Response) (name value : String) : Response :=
  { r with headers := r.headers ++ [(name, value)] }

/-- The cross-origin rules of a server. -/
structure CorsPolicy where
  origins : List String
  methods : List String := ["DELETE", "GET", "HEAD", "OPTIONS", "PATCH", "POST", "PUT", "QUERY"]
  maxAge : Nat := 600
  deriving Inhabited, Repr

namespace CorsPolicy

/-- Whether a request is a preflight request. -/
def isPreflight (r : Request) : Bool :=
  r.method == "OPTIONS" && (r.header? "origin").isSome &&
    (r.header? "access-control-request-method").isSome

/-- The answer to a preflight request. -/
def preflight (p : CorsPolicy) (r : Request) : Response :=
  let origin := (r.header? "origin").getD ""
  let method := (r.header? "access-control-request-method").getD ""
  let allowed := p.origins.contains origin
  let failures := (if allowed then [] else ["origin"]) ++
    (if p.methods.contains method then [] else ["method"])
  let headers :=
    [("vary", "Origin, Access-Control-Request-Method, Access-Control-Request-Headers, " ++
        "Access-Control-Request-Private-Network"),
     ("access-control-allow-methods", ", ".intercalate p.methods),
     ("access-control-max-age", toString p.maxAge),
     ("access-control-allow-credentials", "true")] ++
    (if allowed then [("access-control-allow-origin", origin)] else []) ++
    ((r.header? "access-control-request-headers").map fun h =>
      ("access-control-allow-headers", h)).toList
  let base := if failures.isEmpty then Response.ofText 200 "OK"
    else Response.ofText 400 ("Disallowed CORS " ++ ", ".intercalate failures)
  { base with headers := base.headers ++ headers }

/-- Adds the cross-origin headers to the response of a request that is no preflight. -/
def decorate (p : CorsPolicy) (r : Request) (resp : Response) : Response :=
  let resp := resp.withHeader "vary" "Origin"
  match r.header? "origin" with
  | none => resp
  | some origin =>
    let resp := resp.withHeader "access-control-allow-credentials" "true"
    if p.origins.contains origin then resp.withHeader "access-control-allow-origin" origin
    else resp

end CorsPolicy

/-- The text of a mapping key in JSON. -/
def keyText? : Value → Option String
  | .str s => some s
  | .int n => some (toString n)
  | .float x => some (Value.floatLiteral x)
  | .bool b => some (if b then "true" else "false")
  | .null => some "None"
  | .date d => some d.iso
  | .timestamp t => some (t.iso "T")
  | _ => none

/-- The ISO text of a timestamp in JSON, with an offset of zero written `Z`. -/
def timestampText (t : Timestamp) : String :=
  match t.offset with
  | some 0 => { t with offset := none }.iso "T" ++ "Z"
  | _ => t.iso "T"

/-- The JSON form of a value; `none` when it has none. -/
def jsonable : Value → Option Value
  | .float x => some (if x.isNaN || x.isInf then .null else .float x)
  | .bytes bs => (String.fromUTF8? ⟨bs.toArray⟩).map .str
  | .date d => some (.str d.iso)
  | .timestamp t => some (.str (timestampText t))
  | .list xs =>
    let items : Option (List Value) := xs.attach.mapM fun ⟨x, _⟩ => jsonable x
    items.map .list
  | .set xs =>
    let items : Option (List Value) := xs.attach.mapM fun ⟨x, _⟩ => jsonable x
    items.map .list
  | .dict kvs =>
    let entries : Option (List (Value × Value)) := kvs.attach.mapM fun ⟨kv, _⟩ => do
      let key ← keyText? kv.1
      let v ← jsonable kv.2
      pure (Value.str key, v)
    entries.map .dict
  | .callable _ => none
  | v => some v
decreasing_by
  · exact Value.sizeOf_lt_list ‹_›
  · exact Value.sizeOf_lt_set ‹_›
  · exact Value.sizeOf_snd_lt_dict ‹_›

end Manuscript.Http
