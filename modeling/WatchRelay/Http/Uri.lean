/-! The path of a request's target: which targets are well formed, and what is routed. -/

namespace WatchRelay

namespace Uri

/-- The longest target that is read, in bytes. -/
def maxLength : Nat := 65534

/-- The characters a path may hold as they are. -/
def isPathChar (c : Char) : Bool :=
  c == '!' || c == '"' || ('$' ≤ c && c ≤ ';') || c == '=' || ('@' ≤ c && c ≤ '_') ||
    ('a' ≤ c && c ≤ '~') || '\x7f' ≤ c

/-- The characters a query may hold as they are. -/
def isQueryChar (c : Char) : Bool :=
  c == '!' || ('$' ≤ c && c ≤ ';') || c == '=' || ('?' ≤ c && c ≤ '~') || '\x7f' ≤ c

/-- The characters of the part before the path: the host, its port and whoever asks. -/
def isAuthorityChar (c : Char) : Bool :=
  c.isAlphanum || c ∈ ['!', '$', '%', '&', '\x27', '(', ')', '*', '+', ',', '-', '.', ':', ';',
    '=', '@', '[', ']', '_', '~']

/-- The characters of a scheme. -/
def isSchemeChar (c : Char) : Bool := c.isAlphanum || c == '+' || c == '-' || c == '.'

/-- Whether a query is well formed; what follows a number sign does not count. -/
def isQuery (query : List Char) : Bool :=
  match query.dropWhile isQueryChar with
  | [] | '#' :: _ => true
  | _ => false

/-- The path in front of the query and the fragment, if both are well formed. -/
def path? (target : List Char) : Option (List Char) :=
  let path := target.takeWhile isPathChar
  match target.dropWhile isPathChar with
  | [] | '#' :: _ => some path
  | '?' :: query => if isQuery query then some path else none
  | _ => none

/-- What a host with its port may not hold: more than one colon outside brackets, a percent sign
outside brackets, or brackets that do not match. -/
structure HostScan where
  colons : Nat := 0
  percent : Bool := false
  opened : Bool := false
  closed : Bool := false

namespace HostScan

/-- Goes past one character, unless the host is malformed by it. -/
def next (s : HostScan) (c : Char) : Option HostScan :=
  match c with
  | ':' => if 8 ≤ s.colons then none else some { s with colons := s.colons + 1 }
  | '[' => if s.percent || s.opened then none else some { s with opened := true }
  | ']' =>
    if !s.opened || s.closed then none
    else some { s with closed := true, colons := 0, percent := false }
  | '@' => some { s with colons := 0, percent := false }
  | '%' => some { s with percent := true }
  | _ => some s

end HostScan

/-- Whether what stands before the path is well formed. -/
def isAuthority (authority : List Char) : Bool :=
  authority.all isAuthorityChar && authority.getLast? != some '@' &&
    match authority.foldlM HostScan.next {} with
    | some s => s.opened == s.closed && s.colons ≤ 1 && !s.percent
    | none => false

/-- Whether the path or what follows it begins at a character. -/
def endsAuthority (c : Char) : Bool := c == '/' || c == '?' || c == '#'

/-- What follows the scheme, if the target begins with one. -/
def afterScheme? (target : List Char) : Option (List Char) :=
  match target.dropWhile isSchemeChar with
  | ':' :: '/' :: '/' :: rest =>
    if (target.takeWhile isSchemeChar).length ≤ 64 then some rest else none
  | _ => none

/-- The path of a target that is routed: a target without a scheme either begins with its path or
names a host only and has an empty path. -/
def targetPath? (target : String) : Option String :=
  if maxLength < target.utf8ByteSize then none
  else
    match target.toList with
    | [] => none
    | ['*'] => some "*"
    | '/' :: rest => (path? ('/' :: rest)).map String.ofList
    | chars =>
      match afterScheme? chars with
      | none => if isAuthority chars then some "" else none
      | some rest =>
        let authority := rest.takeWhile fun c => !endsAuthority c
        if authority.isEmpty || !isAuthority authority then none
        else
          (path? (rest.dropWhile fun c => !endsAuthority c)).map fun path =>
            if path.isEmpty then "/" else String.ofList path

end Uri

end WatchRelay
