import FacetBrowser.Address.Reader

namespace FacetBrowser

inductive Method where
  | get
  | post
  deriving DecidableEq, Repr

structure Request where
  method : Method
  baseUrl : String
  path : String
  arguments : List (String × String)
  contentType : Option String
  body : String
  deriving DecidableEq, Repr

structure Response where
  status : Nat
  body : String
  deriving DecidableEq, Repr

abbrev Exchange := Request → Except String Response

inductive Unsent where
  | noAddress (fault : AddressFault)
  | wrongScheme (address : Address)
  | unwritable (address : Address)
  deriving DecidableEq, Repr

def Unsent.message : Unsent → String
  | .noAddress fault => "builder error: " ++ fault.message
  | .wrongScheme address =>
    "builder error for url (" ++ address.text ++ "): URL scheme is not allowed"
  | .unwritable address =>
    "builder error for url (" ++ address.text ++ "): Parsed Url is not a valid Uri"

namespace Address

def maxSize : Nat := 65534

def isWritable (a : Address) : Bool :=
  let isOutside (c : Char) : Bool := "\"\x60\x7b\x7d".toList.contains c
  let text := a.text.toList
  text.length ≤ maxSize && match a.host? with
    | some (.name name) => !name.toList.any isOutside
    | _ => true

end Address

namespace Request

def address (r : Request) : Except Unsent Address := do
  let endpoint ← (Address.ofText (r.baseUrl ++ r.path)).mapError .noAddress
  if endpoint.host?.isNone then .error (.wrongScheme endpoint)
  else
    let address := endpoint.withoutCredentials.withArguments r.arguments
    if !Address.isWebScheme address.scheme then .error (.wrongScheme address)
    else if !address.isWritable then .error (.unwritable address)
    else .ok address

end Request

def Exchange.addressed (exchange : Exchange) : Exchange := fun request =>
  match request.address with
  | .ok _ => exchange request
  | .error unsent => .error unsent.message

namespace Response

def isSuccess (r : Response) : Bool :=
  200 ≤ r.status && r.status < 300

def reason? : Nat → Option String
  | 100 => "Continue"
  | 101 => "Switching Protocols"
  | 102 => "Processing"
  | 103 => "Early Hints"
  | 200 => "OK"
  | 201 => "Created"
  | 202 => "Accepted"
  | 203 => "Non Authoritative Information"
  | 204 => "No Content"
  | 205 => "Reset Content"
  | 206 => "Partial Content"
  | 207 => "Multi-Status"
  | 208 => "Already Reported"
  | 226 => "IM Used"
  | 300 => "Multiple Choices"
  | 301 => "Moved Permanently"
  | 302 => "Found"
  | 303 => "See Other"
  | 304 => "Not Modified"
  | 305 => "Use Proxy"
  | 307 => "Temporary Redirect"
  | 308 => "Permanent Redirect"
  | 400 => "Bad Request"
  | 401 => "Unauthorized"
  | 402 => "Payment Required"
  | 403 => "Forbidden"
  | 404 => "Not Found"
  | 405 => "Method Not Allowed"
  | 406 => "Not Acceptable"
  | 407 => "Proxy Authentication Required"
  | 408 => "Request Timeout"
  | 409 => "Conflict"
  | 410 => "Gone"
  | 411 => "Length Required"
  | 412 => "Precondition Failed"
  | 413 => "Payload Too Large"
  | 414 => "URI Too Long"
  | 415 => "Unsupported Media Type"
  | 416 => "Range Not Satisfiable"
  | 417 => "Expectation Failed"
  | 418 => "I'm a teapot"
  | 421 => "Misdirected Request"
  | 422 => "Unprocessable Entity"
  | 423 => "Locked"
  | 424 => "Failed Dependency"
  | 425 => "Too Early"
  | 426 => "Upgrade Required"
  | 428 => "Precondition Required"
  | 429 => "Too Many Requests"
  | 431 => "Request Header Fields Too Large"
  | 451 => "Unavailable For Legal Reasons"
  | 500 => "Internal Server Error"
  | 501 => "Not Implemented"
  | 502 => "Bad Gateway"
  | 503 => "Service Unavailable"
  | 504 => "Gateway Timeout"
  | 505 => "HTTP Version Not Supported"
  | 506 => "Variant Also Negotiates"
  | 507 => "Insufficient Storage"
  | 508 => "Loop Detected"
  | 510 => "Not Extended"
  | 511 => "Network Authentication Required"
  | _ => none

def statusText (r : Response) : String :=
  toString r.status ++ " " ++ (reason? r.status).getD "<unknown status code>"

def text (r : Response) : String :=
  match r.body.toList with
  | '\uFEFF' :: cs => String.ofList cs
  | _ => r.body

end Response
end FacetBrowser
