import PoolWatch.Text.HostName
import PoolWatch.Text.Letter
import PoolWatch.Text.Utf8

/-! # Web addresses

    Which texts are addresses that stand by themselves: a scheme, and for
    the schemes of the web a host that is a name or a number, with an
    optional user in front and an optional port behind.

    A host whose last label is a number has to be a whole numeric address. -/

namespace PoolWatch.Text.Url

/-! ## Characters -/

/-- A hexadecimal digit. -/
def isHexDigit (c : Char) : Bool :=
  isDigit c || ('a' ≤ c && c ≤ 'f') || ('A' ≤ c && c ≤ 'F')

/-- An octal digit. -/
def isOctalDigit (c : Char) : Bool :=
  '0' ≤ c && c ≤ '7'

/-- A slash of either direction. -/
def isSlash (c : Char) : Bool :=
  c = '/' || c = '\\'

/-- Controls and blanks at both ends do not count, nor do tabs and line ends
    anywhere. -/
def clean (text : List Char) : List Char :=
  let isEdge (c : Char) : Bool := c.toNat ≤ 0x20
  (((text.dropWhile isEdge).reverse.dropWhile isEdge).reverse).filter fun c =>
    c ≠ '\t' && c ≠ '\n' && c ≠ '\r'

/-! ## Numeric hosts -/

/-- The value of digits in a base. -/
def valueOf (base : Nat) (digits : List Char) : Nat :=
  digits.foldl (fun acc c => acc * base + ((Hex.value? (lowerChar c)).getD 0)) 0

/-- A part of a numeric address: decimal, octal after a zero, or hexadecimal
    after `0x`. -/
def numericPart? (part : List Char) : Option Nat :=
  match part with
  | [] => none
  | '0' :: 'x' :: digits | '0' :: 'X' :: digits =>
    if digits.all isHexDigit then some (valueOf 16 digits) else none
  | '0' :: d :: digits =>
    if (d :: digits).all isOctalDigit then some (valueOf 8 (d :: digits)) else none
  | digits => if digits.all isDigit then some (valueOf 10 digits) else none

/-- The labels of a host; a single dot may end it. -/
def labels (host : List Char) : List (List Char) :=
  let parts := splitChars '.' host
  if parts.getLast? = some [] && 1 < parts.length then parts.dropLast else parts

/-- Whether the last label of a host is a number. -/
def endsInNumber (host : List Char) : Bool :=
  match (labels host).getLast? with
  | none => false
  | some last => (!last.isEmpty && last.all isDigit) || (numericPart? last).isSome

/-- Whether a host is an address of up to four parts, the last of which may
    stand for several bytes. -/
def isNumericAddress (host : List Char) : Bool :=
  let parts := labels host
  match parts.mapM numericPart? with
  | none => false
  | some numbers =>
    parts.length ≤ 4 &&
      numbers.dropLast.all (· ≤ 255) &&
      (match numbers.getLast? with
      | some last => last < span (5 - parts.length)
      | none => false)

/-- Whether a text is four decimal bytes without leading zeros. -/
def isDottedQuad (text : List Char) : Bool :=
  let parts := splitChars '.' text
  parts.length = 4 &&
    parts.all fun p =>
      !p.isEmpty && p.all isDigit && (p.length = 1 || p.head? ≠ some '0') && valueOf 10 p ≤ 255

/-- How many groups of 16 bits stand between colons; the last may be a
    dotted quad, which is two of them. -/
def groupCount? (mayEndInQuad : Bool) (text : List Char) : Option Nat :=
  if text.isEmpty then some 0
  else
    let parts := splitChars ':' text
    let isGroup (p : List Char) : Bool := !p.isEmpty && p.length ≤ 4 && p.all isHexDigit
    if parts.all isGroup then some parts.length
    else
      match parts.getLast? with
      | some last =>
        if mayEndInQuad && parts.dropLast.all isGroup && isDottedQuad last then
          some (parts.length + 1)
        else none
      | none => none

/-- A text around its first double colon. -/
def splitDoubleColon? : List Char → Option (List Char × List Char)
  | ':' :: ':' :: rest => some ([], rest)
  | [] => none
  | c :: rest => (splitDoubleColon? rest).map fun (left, right) => (c :: left, right)

/-- Whether a text is an address of eight groups, a run of which may be left
    out once. -/
def isGroupedAddress (text : List Char) : Bool :=
  match splitDoubleColon? text with
  | none => groupCount? true text = some 8
  | some (left, right) =>
    match groupCount? false left, groupCount? true right with
    | some l, some r => l + r ≤ 7
    | _, _ => false

/-! ## Hosts -/

/-- The value of a hexadecimal digit of either case. -/
def hexValue? (b : UInt8) : Option Nat :=
  Hex.value? (lowerChar (Char.ofNat b.toNat))

/-- A text with its per cent escapes replaced by the bytes they stand for. -/
def unescape : Bytes → Bytes
  | 0x25 :: a :: b :: rest =>
    match hexValue? a, hexValue? b with
    | some x, some y => UInt8.ofNat (16 * x + y) :: unescape rest
    | _, _ => 0x25 :: unescape (a :: b :: rest)
  | b :: rest => b :: unescape rest
  | [] => []

/-- A host between brackets. -/
def isBracketed (host : List Char) : Bool :=
  host.getLast? = some ']' && isGroupedAddress host.tail.dropLast

/-- Whether a text is a host of the web. -/
def isHost (host : List Char) : Bool :=
  if host.head? = some '[' then isBracketed host
  else
    match (Utf8.decode? (unescape (Utf8.encode (String.ofList host)))).bind
      fun text => HostName.ofChars? text.toList with
    | none => false
    | some name => !name.isEmpty && (!endsInNumber name || isNumericAddress name)

/-- A character that no host of any scheme may hold. -/
def isForbiddenAnywhere (c : Char) : Bool :=
  "\x00\t\n\r #/:<>?@[\\]^|".toList.contains c

/-- Whether a text is a host of a scheme outside the web; it may be empty. -/
def isOpaqueHost (host : List Char) : Bool :=
  if host.head? = some '[' then isBracketed host else !host.any isForbiddenAnywhere

/-! ## Authorities -/

/-- The host at the front of a text: up to a colon outside brackets. -/
def hostPart : Bool → List Char → List Char
  | _, [] => []
  | inside, c :: rest =>
    if c = ':' && !inside then []
    else c :: hostPart (if c = '[' then true else if c = ']' then false else inside) rest

/-- Whether what follows a host is nothing or a port, which a backslash
    ends. -/
def isPort : List Char → Bool
  | [] => true
  | ':' :: rest =>
    let digits := rest.takeWhile (· ≠ '\\')
    digits.all isDigit && valueOf 10 digits ≤ 65535
  | _ => false

/-- The part up to the end of the host and port. -/
def authorityPart (web : Bool) (cs : List Char) : List Char :=
  cs.takeWhile fun c => c ≠ '/' && c ≠ '?' && c ≠ '#' && !(web && c = '\\')

/-- The text after the last at sign, and whether a user or a password stands
    before it; a colon alone is neither. -/
def withoutUser (authority : List Char) : List Char × Bool :=
  let host := (authority.reverse.takeWhile (· ≠ '@')).reverse
  let user := authority.take (authority.length - host.length - 1)
  (host, !user.isEmpty && user ≠ [':'])

/-- Whether a text after the slashes names a host. -/
def isAuthority (web : Bool) (cs : List Char) : Bool :=
  let authority := authorityPart web cs
  let more := cs.drop authority.length
  let (rest, user) := withoutUser authority
  let host := hostPart false rest
  let port := rest.drop host.length
  if host.isEmpty then
    !web && !user && port.isEmpty && !(authority = ['@'] && !more.isEmpty)
  else (if web then isHost host else isOpaqueHost host) && isPort port

/-! ## Addresses -/

/-- The schemes of the web. -/
def webSchemes : List String := ["http", "https", "ws", "wss", "ftp"]

/-- The scheme of local files. -/
def fileScheme : String := "file"

/-- The scheme of an address in small letters, and what follows its colon. -/
def splitScheme? (cs : List Char) : Option (String × List Char) :=
  match cs with
  | [] => none
  | c :: _ =>
    let scheme := cs.takeWhile fun c =>
      isLetter c || isDigit c || c = '+' || c = '-' || c = '.'
    match cs.drop scheme.length with
    | ':' :: rest => if isLetter c then some (String.ofList (lowerChars scheme), rest) else none
    | _ => none

/-- Whether what follows the scheme of local files is a path, with a host if
    two slashes lead. -/
def isFileRest (cs : List Char) : Bool :=
  match cs with
  | a :: b :: rest =>
    if isSlash a && isSlash b then
      let host := authorityPart true rest
      let isDrive :=
        match host with
        | [letter, mark] => isLetter letter && (mark = ':' || mark = '|')
        | _ => false
      host.isEmpty || isDrive || isHost host
    else true
  | _ => true

/-- Whether a text is an address that stands by itself. -/
def isAddress (text : String) : Bool :=
  match splitScheme? (clean text.toList) with
  | none => false
  | some (scheme, rest) =>
    if scheme = fileScheme then isFileRest rest
    else if webSchemes.contains scheme then isAuthority true (rest.dropWhile isSlash)
    else
      match rest with
      | '/' :: '/' :: more => isAuthority false more
      | _ => true

end PoolWatch.Text.Url
