import FundsLedger.Address.Host
import FundsLedger.Text.Decimal

/-!
# Absolute URLs

Which texts are absolute URLs, and what their scheme is. Control characters and blanks around a URL
do not count, nor do tabs and line breaks in it. A path, a query or a fragment is never wrong; what
can be wrong is the scheme, the host and the number after the host.
-/

namespace FundsLedger.Address

open FundsLedger.Text

def significant (s : List Char) : List Char :=
  let isEdge (c : Char) : Bool := c ≤ ' '
  let inner := ((s.dropWhile isEdge).reverse.dropWhile isEdge).reverse
  inner.filter fun c => c ≠ '\t' ∧ c ≠ '\n' ∧ c ≠ '\r'

def continuesScheme (c : Char) : Bool :=
  c.isAlphanum || c = '+' || c = '-' || c = '.'

/-- Cuts the scheme, which is in lower case whatever the case of its letters was, off the rest after
its colon. -/
def cutScheme (s : List Char) : Option (String × List Char) :=
  match s.head?, s.dropWhile continuesScheme with
  | some c, ':' :: rest =>
    if c.isAlpha then some (String.ofList ((s.takeWhile continuesScheme).map Char.toLower), rest)
    else none
  | _, _ => none

/-- The schemes of the web, which need a host. -/
def webSchemes : List String :=
  ["http", "https", "ws", "wss", "ftp"]

def endsAuthority (web : Bool) (c : Char) : Bool :=
  c = '/' || c = '?' || c = '#' || (web && c = '\\')

/-- Cuts a host off what follows its colon, with the colon. A colon in brackets belongs to the
host. -/
def cutHost : (inBrackets : Bool) → List Char → List Char × List Char
  | _, [] => ([], [])
  | inBrackets, c :: rest =>
    if c = ':' ∧ !inBrackets then ([], c :: rest)
    else
      let (host, tail) := cutHost ((inBrackets || c = '[') && c ≠ ']') rest
      (c :: host, tail)

/-- Whether the text after a host is nothing, or a colon and a number of 16 bits that may be left
out. A backslash ends the number. -/
def isHostTail (s : List Char) : Bool :=
  match s with
  | [] => true
  | ':' :: rest =>
    let after := rest.dropWhile isDigit
    decimalValue (rest.takeWhile isDigit) < Nat.pow 2 16 && (after.isEmpty || after.head? = some '\\')
  | _ => false

/-- Whether a host and the text after it are right. Where there is no host, there is neither a
number nor a user. -/
def isHostWithTail (web hasUser : Bool) (s : List Char) : Bool :=
  let (host, tail) := cutHost false s
  if host.isEmpty then !web && tail.isEmpty && !hasUser
  else (if web then isDomain host else isOpaqueHost host) && isHostTail tail

/-- Whether the text after the slashes of a URL starts with a user, a host and a number that are
right. A user and a password stand before the last at sign, and are both empty where there is a
colon alone. -/
def hasAuthority (web : Bool) (s : List Char) : Bool :=
  let authority := s.takeWhile (!endsAuthority web ·)
  match cutLast '@' authority with
  | none => isHostWithTail web false authority
  | some ([], host) =>
    !(host.isEmpty && authority.length < s.length) && isHostWithTail web false host
  | some (user, host) => isHostWithTail web (user ≠ [':']) host

def isDriveLetter (s : List Char) : Bool :=
  match s with
  | [letter, mark] => letter.isAlpha && (mark = ':' || mark = '|')
  | _ => false

/-- Whether a character is a slash in the schemes of the web and for files. -/
def isSlash (c : Char) : Bool :=
  c = '/' || c = '\\'

/-- Whether the URL of a file is right after its scheme. A host may be left out. -/
def isFilePath (s : List Char) : Bool :=
  match s with
  | a :: b :: rest =>
    if isSlash a && isSlash b then
      let host := rest.takeWhile (!endsAuthority true ·)
      host.isEmpty || isDriveLetter host || isDomain host
    else true
  | _ => true

def isRightAfter (scheme : String) (rest : List Char) : Bool :=
  if scheme = "file" then isFilePath rest
  else if scheme ∈ webSchemes then hasAuthority true (rest.dropWhile isSlash)
  else
    match rest with
    | '/' :: '/' :: rest => hasAuthority false rest
    | _ => true

/-- The scheme of a text that is an absolute URL. -/
def scheme? (url : String) : Option String :=
  match cutScheme (significant url.toList) with
  | none => none
  | some (scheme, rest) => if isRightAfter scheme rest then some scheme else none

end FundsLedger.Address
