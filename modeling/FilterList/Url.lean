import FilterList.Text.Utf8

/-!
The host of a URL. Only URLs of the form `scheme://authority…` have one; the host is what is
left of the authority without user information and port.
-/

namespace FilterList.Url

def isSchemeChar (c : Char) : Bool := c.isAlphanum || c == '+' || c == '-' || c == '.'

/-- Path, query and fragment each start with a character that ends the authority. -/
def endsAuthority (c : Char) : Bool := c == '/' || c == '?' || c == '#'

/-- The scheme and what follows `://`. -/
def splitScheme? (url : Text) : Option (Text × Text) :=
  let scheme := url.takeWhile (· ≠ ':')
  match url.dropWhile (· ≠ ':') with
  | ':' :: '/' :: '/' :: rest =>
    if scheme.isEmpty || !scheme.all isSchemeChar then none else some (scheme, rest)
  | _ => none

/-- Where the host ends in an authority without user information. A host in brackets runs to the
closing bracket, after which only a port may follow; any other host runs to the first colon. -/
def takeHost? (authority : Text) : Option Text :=
  match authority with
  | '[' :: inner =>
    match inner.dropWhile (· ≠ ']') with
    | [] => none
    | _ :: after =>
      if after.isEmpty || after.head? == some ':' then
        some ('[' :: inner.takeWhile (· ≠ ']') ++ [']'])
      else none
  | _ =>
    let host := authority.takeWhile (· ≠ ':')
    if host.isEmpty then none else some host

/-- A URL cut at both ends of its host. -/
structure HostSplit where
  before : Text
  host : Text
  after : Text
  deriving Repr, DecidableEq

def splitHost? (url : Text) : Option HostSplit := do
  let (scheme, rest) ← splitScheme? url
  let authority := rest.takeWhile (!endsAuthority ·)
  let hostAndPort := Text.afterLast '@' authority
  let host ← takeHost? hostAndPort
  let userInfo := authority.take (authority.length - hostAndPort.length)
  let before := scheme ++ ':' :: '/' :: '/' :: userInfo
  return ⟨before, host, url.drop (before.length + host.length)⟩

def host? (url : Text) : Option Text := (splitHost? url).map HostSplit.host

/-- The byte position after `://`. -/
def schemeEnd? (url : Text) : Option Nat :=
  (splitScheme? url).map fun (scheme, _) => Text.utf8Length scheme + 3

/-- The byte positions of the host's start and end. -/
def hostSpan? (url : Text) : Option (Nat × Nat) :=
  (splitHost? url).map fun split =>
    (split.before.utf8Length, split.before.utf8Length + split.host.utf8Length)

end FilterList.Url
