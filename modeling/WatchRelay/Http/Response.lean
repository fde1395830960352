import WatchRelay.Json.Printer

/-! HTTP responses. -/

namespace WatchRelay

/-- What a body is. -/
inductive BodyType where
  | json
  | plainText
deriving DecidableEq, Repr

namespace BodyType

/-- The value of the header that says so. -/
def header : BodyType → String
  | .json => "application/json"
  | .plainText => "text/plain; charset=utf-8"

end BodyType

/-- A response. -/
structure HttpResponse where
  status : Nat
  bodyType : Option BodyType
  /-- The methods allowed, where the response names them. -/
  allow : List String
  body : String
deriving DecidableEq, Repr

namespace HttpResponse

/-- A response without a body. -/
def bare (status : Nat) : HttpResponse := ⟨status, none, [], ""⟩

/-- A response with JSON text. -/
def json (status : Nat) (body : List Char) : HttpResponse :=
  ⟨status, some .json, [], String.ofList body⟩

/-- A response with plain text. -/
def text (status : Nat) (body : String) : HttpResponse := ⟨status, some .plainText, [], body⟩

/-- The response without its body. -/
def withoutBody (r : HttpResponse) : HttpResponse := { r with body := "" }

end HttpResponse

end WatchRelay
