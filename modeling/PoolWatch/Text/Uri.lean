import PoolWatch.Text.Blank

/-! # Network identifiers

    A connection can be opened to a text of the form `scheme://host…`, or to
    a bare host with an optional port.  The part that names the host holds a
    limited set of characters, at most one colon outside brackets, and
    something after the last at sign. -/

namespace PoolWatch.Text.Uri

/-- The longest text. -/
def maxLength : Nat := 65534

/-- The longest scheme. -/
def maxScheme : Nat := 64

/-- Letters and digits of ASCII. -/
def isAlphanumeric (c : Char) : Bool :=
  ('a' ≤ c && c ≤ 'z') || ('A' ≤ c && c ≤ 'Z') || ('0' ≤ c && c ≤ '9')

/-- A character of a scheme. -/
def isSchemeChar (c : Char) : Bool :=
  isAlphanumeric c || c = '+' || c = '-' || c = '.'

/-- A character that ends the part naming the host. -/
def endsAuthority (c : Char) : Bool :=
  c = '/' || c = '?' || c = '#'

/-- A character that may stand in the part naming the host. -/
def isAuthorityChar (c : Char) : Bool :=
  isAlphanumeric c || "!$&'()*+,-.:;=@[]_~".toList.contains c

/-- What has been seen of the part naming the host: colons and per cent signs
    since the last at sign or bracket, brackets, and whether an at sign came
    last. -/
structure Seen where
  colons : Nat
  percent : Bool
  opened : Bool
  closed : Bool
  atLast : Bool
  deriving DecidableEq, Repr

/-- The most colons, as in an address of eight groups and a port. -/
def maxColons : Nat := 8

/-- Takes one character. -/
def Seen.step (s : Seen) (c : Char) : Option Seen :=
  let s := { s with atLast := false }
  if c = ':' then if maxColons ≤ s.colons then none else some { s with colons := s.colons + 1 }
  else if c = '[' then if s.percent || s.opened then none else some { s with opened := true }
  else if c = ']' then
    if !s.opened || s.closed then none
    else some { s with closed := true, colons := 0, percent := false }
  else if c = '@' then some { s with atLast := true, colons := 0, percent := false }
  else if c = '%' then some { s with percent := true }
  else if isAuthorityChar c then some s
  else none

/-- Whether a text can name a host, with user and port. -/
def isAuthority (cs : List Char) : Bool :=
  match cs.foldlM Seen.step ⟨0, false, false, false, false⟩ with
  | none => false
  | some s => s.opened == s.closed && s.colons ≤ 1 && !s.atLast && !s.percent

/-- A character of a path. -/
def isPathChar (c : Char) : Bool :=
  let n := c.toNat
  n = 0x21 || n = 0x22 || (0x24 ≤ n && n ≤ 0x3B) || n = 0x3D || (0x40 ≤ n && n ≤ 0x5F) ||
    (0x61 ≤ n && n ≤ 0x7B) || (0x7C ≤ n && n ≤ 0x7E) || 0x7F < n

/-- A character of a query. -/
def isQueryChar (c : Char) : Bool :=
  let n := c.toNat
  n = 0x21 || (0x24 ≤ n && n ≤ 0x3B) || n = 0x3D || (0x3F ≤ n && n ≤ 0x7E) || 0x7F < n

/-- Whether a text can follow the host: a path, a query, and a fragment that
    may hold anything. -/
def isRest (cs : List Char) : Bool :=
  let path := cs.takeWhile fun c => c ≠ '?' && c ≠ '#'
  let query := (cs.drop path.length).takeWhile (· ≠ '#')
  path.all isPathChar && query.all isQueryChar

/-- What follows `scheme://`, if a text starts so. -/
def afterScheme? (cs : List Char) : Option (List Char) :=
  let scheme := cs.takeWhile isSchemeChar
  match cs.drop scheme.length with
  | ':' :: '/' :: '/' :: rest => some rest
  | _ => none

/-- The host, without the user before the first at sign. -/
def hostOf (authority : List Char) : List Char :=
  match authority.dropWhile (· ≠ '@') with
  | [] => authority
  | _ :: host => host

/-- Whether a text names a host that a connection can be opened to. -/
def namesHost (text : String) : Bool :=
  let cs := text.toList
  if maxLength < text.utf8ByteSize || cs.isEmpty then false
  else
    match afterScheme? cs with
    | some rest =>
      let authority := rest.takeWhile (!endsAuthority ·)
      (cs.takeWhile isSchemeChar).length ≤ maxScheme && isAuthority authority &&
        !authority.isEmpty && !(hostOf authority).isEmpty && isRest (rest.drop authority.length)
    | none => cs.all (!endsAuthority ·) && isAuthority cs && !(hostOf cs).isEmpty && cs ≠ ['*']

/-- Whether a text can be sent as the value of a header: no control
    characters of ASCII but tabs. -/
def isHeaderValue (text : String) : Bool :=
  text.toList.all fun c => c = '\t' || (' ' ≤ c && c ≠ '\x7F')

end PoolWatch.Text.Uri
