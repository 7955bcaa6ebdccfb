/-!
# Business codes

A code travels in the response envelope. Its HTTP status is used where responses follow HTTP; a
custom code that differs in value or message from the known ones counts as an internal error there.
-/

set_option autoImplicit false

namespace HttpService

/-- An HTTP status. -/
abbrev Status := Nat

/-- A business code with its default message. -/
structure Code where
  value : Int
  message : String
  deriving DecidableEq, Repr, Inhabited

namespace Code

def ok : Code := ⟨0, "OK"⟩
def invalidParameter : Code := ⟨400, "Invalid Parameter"⟩
def unauthorised : Code := ⟨401, "Unauthorised"⟩
def forbidden : Code := ⟨403, "Forbidden"⟩
def notFound : Code := ⟨404, "Not Found"⟩
def methodNotAllowed : Code := ⟨405, "Method Not Allowed"⟩
def validationFailed : Code := ⟨422, "Validation Failed"⟩
def internalError : Code := ⟨500, "Internal Error"⟩
def serverBusy : Code := ⟨503, "Server Busy"⟩

/-- The code of a response status that carries no error. -/
def ofStatus (s : Status) : Code :=
  if 200 ≤ s ∧ s < 300 then ok
  else if s = 404 then notFound
  else if s = 401 then unauthorised
  else if s = 403 then forbidden
  else if s = 405 then methodNotAllowed
  else internalError

/-- The HTTP status of a code. -/
def status (c : Code) : Status :=
  if c = ok then 200
  else if c = invalidParameter ∨ c = validationFailed then 400
  else if c = unauthorised then 401
  else if c = forbidden then 403
  else if c = notFound then 404
  else if c = methodNotAllowed then 405
  else if c = serverBusy then 503
  else 500

/-- The value and the message. -/
def display (c : Code) : String :=
  toString c.value ++ ": " ++ c.message

end Code

/-- The reason phrase of a registered status. -/
def Status.reason? (s : Status) : Option String :=
  (phrases.find? (·.1 = s)).map (·.2)
where
  phrases : List (Nat × String) :=
    [(100, "Continue"), (101, "Switching Protocols"), (102, "Processing"), (200, "OK"),
     (201, "Created"), (202, "Accepted"), (203, "Non Authoritative Information"),
     (204, "No Content"), (205, "Reset Content"), (206, "Partial Content"), (207, "Multi-Status"),
     (208, "Already Reported"), (226, "IM Used"), (300, "Multiple Choices"),
     (301, "Moved Permanently"), (302, "Found"), (303, "See Other"), (304, "Not Modified"),
     (305, "Use Proxy"), (307, "Temporary Redirect"), (308, "Permanent Redirect"),
     (400, "Bad Request"), (401, "Unauthorized"), (402, "Payment Required"), (403, "Forbidden"),
     (404, "Not Found"), (405, "Method Not Allowed"), (406, "Not Acceptable"),
     (407, "Proxy Authentication Required"), (408, "Request Timeout"), (409, "Conflict"),
     (410, "Gone"), (411, "Length Required"), (412, "Precondition Failed"),
     (413, "Payload Too Large"), (414, "URI Too Long"), (415, "Unsupported Media Type"),
     (416, "Range Not Satisfiable"), (417, "Expectation Failed"), (418, "I'm a teapot"),
     (421, "Misdirected Request"), (422, "Unprocessable Entity"), (423, "Locked"),
     (424, "Failed Dependency"), (425, "Too Early"), (426, "Upgrade Required"),
     (428, "Precondition Required"), (429, "Too Many Requests"),
     (431, "Request Header Fields Too Large"), (451, "Unavailable For Legal Reasons"),
     (500, "Internal Server Error"), (501, "Not Implemented"), (502, "Bad Gateway"),
     (503, "Service Unavailable"), (504, "Gateway Timeout"), (505, "HTTP Version Not Supported"),
     (506, "Variant Also Negotiates"), (507, "Insufficient Storage"), (508, "Loop Detected"),
     (510, "Not Extended"), (511, "Network Authentication Required")]

end HttpService
