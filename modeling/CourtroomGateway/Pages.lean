import CourtroomGateway.Hall

/-! The pages for operators: one that says the gateway is up, and one with the metrics. At the root
web clients change over to messages, so that a plain request there is refused. Other paths do not
exist, and a page is only there to be read. -/

namespace CourtroomGateway.Pages

structure Response where
  status : Nat
  contentType : Option String := none
  body : String := ""
deriving Repr, DecidableEq

def plainText : String := "text/plain; charset=utf-8"

/-- What is sent to a reader of the page at a path. -/
def page? (h : Hall) (path : String) : Option Response :=
  if path = "/" then some ⟨400, some plainText, "Connection header did not include 'upgrade'"⟩
  else if path = "/healthz" then some ⟨200, some plainText, "ok"⟩
  else if path = "/metrics" then
    some ⟨200, some "text/plain; version=0.0.4; charset=utf-8", h.metricsPage⟩
  else none

/-- A page without its text. At the root there is none to ask for. -/
def withoutBody (path : String) (page : Response) : Response :=
  { page with body := "", status := if path = "/" then 405 else page.status }

/-- What is left of an address that begins with a scheme, which may be empty, from the host on. -/
def afterScheme? (address : List Char) : Option (List Char) :=
  match address.dropWhile (fun c => c.isAlphanum || ['+', '-', '.', '~'].contains c) with
  | ':' :: '/' :: '/' :: rest => some rest
  | _ => none

/-- The path of an address: an address that begins with a slash is a path, and one with a scheme
has its path after the host, where a missing one is the root. -/
def path? (address : List Char) : Option (List Char) :=
  let whole? : Option (List Char) :=
    if address.head? = some '/' then some address
    else (afterScheme? address).map (·.dropWhile fun c => c ≠ '/' && c ≠ '?' && c ≠ '#')
  whole?.map fun whole =>
    match whole.takeWhile fun c => c ≠ '?' && c ≠ '#' with
    | [] => ['/']
    | path => path

/-- Answers a request. What follows the path in the address does not matter. -/
def answer (h : Hall) (method address : String) : Response :=
  let path? := (path? address.toList).map String.ofList
  match path?.bind fun path => (page? h path).map (path, ·) with
  | none => { status := 404 }
  | some (path, page) =>
    if method = "GET" then page
    else if method = "HEAD" then withoutBody path page
    else { status := 405 }

end CourtroomGateway.Pages
