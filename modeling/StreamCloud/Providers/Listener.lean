-- SUMMARY: The http server: how a request for a file is answered, and the queue of responses of a session.
import StreamCloud.Core.Fault
import Mathlib.Data.List.Infix

/-!
# listener and http_session

`stream-providers/src/http/listener.cpp` and `http_session.cpp`. The file system is
what `body.open` finds under a path.
-/

namespace StreamCloud.HttpServer

/-- `http::verb`. -/
inductive Verb
  | get
  | head
  | other (name : String)
deriving DecidableEq, Repr

/-- A request as it was parsed. `keepAlive` is what `keep_alive()` says. -/
structure Request where
  method : Verb
  version : ℕ
  target : String
  fields : List (String × String)
  keepAlive : Bool
deriving DecidableEq, Repr

inductive Status
  | ok
  | badRequest
  | notFound
  | internalServerError
deriving DecidableEq, Repr

/-- `string_body`, `empty_body` and `file_body`. -/
inductive ResponseBody
  | string (s : String)
  | empty
  | file (path : String)
deriving DecidableEq, Repr

structure Response where
  status : Status
  version : ℕ
  contentType : String
  keepAlive : Bool
  body : ResponseBody
  contentLength : ℕ
deriving DecidableEq, Repr

/-- What opening a file comes to: its size, or an error code and its message. -/
inductive Opened
  | size (bytes : ℕ)
  | noSuchFile
  | error (message : String)
deriving DecidableEq, Repr

/-! ## Paths and types -/

/-- `iequals`. -/
def iequals (a b : String) : Bool := a.toList.map Char.toLower = b.toList.map Char.toLower

/-- Append a path to a local path. -/
def pathCat (base path : String) : String :=
  if base.toList = [] then path
  else if base.toList.getLast? = some '/' then String.ofList (base.toList.dropLast ++ path.toList)
  else String.ofList (base.toList ++ path.toList)

def mimeTypes : List (String × String) :=
  [(".htm", "text/html"), (".html", "text/html"), (".php", "text/html"), (".css", "text/css"),
    (".txt", "text/plain"), (".js", "application/javascript"), (".json", "application/json"),
    (".xml", "application/xml"), (".swf", "application/x-shockwave-flash"), (".flv", "video/x-flv"),
    (".png", "image/png"), (".jpe", "image/jpeg"), (".jpeg", "image/jpeg"), (".jpg", "image/jpeg"),
    (".gif", "image/gif"), (".bmp", "image/bmp"), (".ico", "image/vnd.microsoft.icon"),
    (".tiff", "image/tiff"), (".tif", "image/tiff"), (".svg", "image/svg+xml"),
    (".svgz", "image/svg+xml")]

/-- What is from the last dot on, or nothing. -/
def extension (path : String) : String :=
  if '.' ∈ path.toList then
    String.ofList ('.' :: (path.toList.reverse.takeWhile fun c => c != '.').reverse)
  else ""

def mimeType (path : String) : String :=
  match mimeTypes.find? fun p => iequals (extension path) p.1 with
  | some p => p.2
  | none => "application/text"

/-! ## Requests -/

namespace Request

/-- `at`, which throws where there is no such field. -/
def field (req : Request) (name : String) : Except Fault String :=
  match req.fields.find? fun f => iequals f.1 name with
  | some f => .ok f.2
  | none => .error (.thrown "field not found")

/-- A target that is not absolute or contains "..". -/
def illegalTarget (req : Request) : Bool :=
  req.target.toList.isEmpty || req.target.toList.head? != some '/' ||
    decide (['.', '.'] <:+: req.target.toList)

def badRequest (req : Request) (why : String) : Response where
  status := .badRequest
  version := req.version
  contentType := "text/html"
  keepAlive := req.keepAlive
  body := .string why
  contentLength := why.length

def notFound (req : Request) (target : String) : Response where
  status := .notFound
  version := req.version
  contentType := "text/html"
  keepAlive := req.keepAlive
  body := .string ("The resource '" ++ target ++ "' was not found.")
  contentLength := ("The resource '" ++ target ++ "' was not found.").length

def serverError (req : Request) (what : String) : Response where
  status := .internalServerError
  version := req.version
  contentType := "text/html"
  keepAlive := req.keepAlive
  body := .string ("An error occurred: '" ++ what ++ "'")
  contentLength := ("An error occurred: '" ++ what ++ "'").length

end Request

/-- The directory for a host: the one of `manager` has its own. -/
def rootPath (docRoot host : String) : String :=
  if '.' ∈ host.toList ∧ host.toList.takeWhile (fun c => c != '.') = "manager".toList then
    docRoot ++ "/" ++ "manager"
  else docRoot

/-- The file of a request: an index where the target has no type of its own. -/
def filePath (docRoot host target : String) : String :=
  if mimeType target = "application/text" then pathCat (rootPath docRoot host) "/index.html"
  else pathCat (rootPath docRoot host) target

/-! ## Sessions -/

/-- The responses that are not written yet. The first one is being written. -/
structure Session where
  items : List Response
  reading : Bool
deriving DecidableEq, Repr

namespace Session

/-- The most responses that are queued before reading stops. -/
def limit : ℕ := 8

def isFull (session : Session) : Bool := limit ≤ session.items.length

/-- Called by the handler to send a response. -/
def send (session : Session) (res : Response) : Session := { session with items := session.items ++ [res] }

end Session

/-- `operator()`: the session, with the response, and the files that were opened. -/
def listener (docRoot : String) (openFile : String → Opened) (req : Request) (session : Session) :
    Except Fault (Session × List String) :=
  if req.method ≠ .get ∧ req.method ≠ .head then
    return (session.send (req.badRequest "Unknown HTTP-method"), [])
  else if req.illegalTarget then
    return (session.send (req.badRequest "Illegal request-target"), [])
  else do
    let host ← req.field "Host"
    let path := filePath docRoot host req.target
    match openFile path with
    | .noSuchFile => return (session.send (req.notFound req.target), [path])
    | .error message => return (session.send (req.serverError message), [path])
    | .size bytes =>
      let res : Response := {
        status := .ok
        version := req.version
        contentType := mimeType path
        keepAlive := req.keepAlive
        body := if req.method = .head then .empty else .file path
        contentLength := bytes }
      return (session.send res, [path])

/-- What a read of a session ends with. -/
inductive Read
  | operationAborted
  | endOfStream
  | error
  | request (req : Request)

/-- `on_read`: a request is handled, and the next one is read unless the queue is full. -/
def Session.onRead (docRoot : String) (openFile : String → Opened) (session : Session) :
    Read → Except Fault (Session × List String)
  | .operationAborted | .endOfStream | .error => .ok ({ session with reading := false }, [])
  | .request req => do
    let (session, opened) ← listener docRoot openFile req { session with reading := false }
    return ({ session with reading := !session.isFull }, opened)

end StreamCloud.HttpServer
