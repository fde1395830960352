/-! Media types as far as it matters whether a body is JSON. -/

namespace WatchRelay

namespace MediaType

/-- The characters of a name. -/
def isTokenChar (c : Char) : Bool :=
  c.isAlphanum || c ∈ ['!', '#', '$', '%', '&', '\x27', '*', '+', '-', '.', '^', '_', '|',
    '~', '\x60']

/-- What follows a quoted value: blanks, then the next parameter or the end. -/
def afterQuoted? (text : List Char) : Option (List Char) :=
  match text.dropWhile (· == ' ') with
  | [] => some []
  | ';' :: rest => some rest
  | _ => none

/-- What follows a quoted value and its closing quote; the value has at least one character, and the
first may be a quote. -/
def quotedValue? (text : List Char) : Option (List Char) :=
  let isInner (c : Char) : Bool := ' ' ≤ c && c ≤ '~'
  match text with
  | [] => none
  | first :: text =>
    match text.dropWhile fun c => isInner c && c != '"' with
    | '"' :: rest => if isInner first then afterQuoted? rest else none
    | _ => none

/-- What follows a value. -/
def value? (text : List Char) : Option (List Char) :=
  match text with
  | '"' :: rest => quotedValue? rest
  | _ =>
    match text.dropWhile isTokenChar with
    | [] => some []
    | ';' :: rest => if (text.takeWhile isTokenChar).isEmpty then none else some rest
    | _ => none

/-- What follows one parameter. -/
def parameter? (text : List Char) : Option (List Char) :=
  match text.dropWhile isTokenChar with
  | '=' :: rest => if (text.takeWhile isTokenChar).isEmpty then none else value? rest
  | _ => none

/-- Whether a list of parameters is well formed; the fuel is at least its length. -/
def areParameters : Nat → List Char → Bool
  | 0, text => text.isEmpty
  | fuel + 1, text =>
    match text.dropWhile (· == ' ') with
    | [] => true
    | trimmed =>
      match parameter? trimmed with
      | some rest => areParameters fuel rest
      | none => false

/-- Whether a subtype is JSON: its last suffix is, or what stands before that. -/
def isJsonSubtype (subtype : List Char) : Bool :=
  let json := ['j', 's', 'o', 'n']
  if '+' ∈ subtype.drop 1 then
    let suffix := (subtype.reverse.takeWhile (· != '+')).reverse
    suffix == json || subtype.take (subtype.length - suffix.length - 1) == json
  else subtype == json

/-- Whether a media type says that a body is JSON. -/
def isJson (mediaType : String) : Bool :=
  let text := mediaType.toList.map Char.toLower
  match text.dropWhile isTokenChar with
  | '/' :: rest =>
    let subtype := rest.takeWhile isTokenChar
    text.takeWhile isTokenChar == "application".toList && isJsonSubtype subtype &&
      match rest.dropWhile isTokenChar with
      | [] => true
      | ';' :: parameters => areParameters (parameters.length + 1) parameters
      | _ => false
  | _ => false

end MediaType

end WatchRelay
