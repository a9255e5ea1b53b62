import HttpPipeline.Origin.Host

/-!
# The host name in an origin

An `Origin` header holds a URL, and what is matched is its host alone. The URL is
read by the rules of the web: white space around it and line breaks inside it do not
count, a backslash is a slash where the scheme is one of the web, whatever stands
before the last `@` of the authority is user information, and the port has to be one.

`hostname` is the host in lower case, without the brackets of an address. A text that
is no URL, or a URL without a host, has the empty host name, which is the name of no
host. Which text has which host is a matter of the reader of URLs; `hostnameBy` is the
host name by any of them, and `host?` is the one that is used.
-/

namespace HttpPipeline.Url

/-- What kind of scheme a URL has. -/
inductive SchemeKind
  /-- A scheme of the web with a host. -/
  | web
  /-- The scheme of files, whose host may be missing. -/
  | file
  /-- Any other scheme. -/
  | other
  deriving DecidableEq, Repr

namespace SchemeKind

/-- The kind of a scheme in lower case. -/
def ofName (scheme : String) : SchemeKind :=
  if ["http", "https", "ws", "wss", "ftp"].contains scheme then .web
  else if scheme == "file" then .file
  else .other

/-- Whether a backslash counts as a slash. -/
def special : SchemeKind → Bool
  | .other => false
  | _ => true

end SchemeKind

/-- Characters of a scheme after its first. -/
def isSchemeChar (c : Char) : Bool :=
  Text.isLetter c || Text.isDigit c || c == '+' || c == '-' || c == '.'

/-- A URL as it is read: without control characters and blanks at its ends, and
without tabs and line breaks. -/
def cleaned (text : List Char) : List Char :=
  (Text.trimBy (·.toNat ≤ 0x20) text).filter fun c => c != '\t' && c != '\n' && c != '\r'

/-- The scheme in lower case, and what follows its colon. -/
def scheme? (text : List Char) : Option (String × List Char) :=
  match text with
  | c :: _ =>
    if Text.isLetter c then
      match text.dropWhile isSchemeChar with
      | ':' :: rest => some (String.ofList (Text.lower (text.takeWhile isSchemeChar)), rest)
      | _ => none
    else none
  | [] => none

/-- Characters that end an authority. -/
def endsAuthority (kind : SchemeKind) (c : Char) : Bool :=
  c == '/' || c == '?' || c == '#' || (kind.special && c == '\\')

/-- The part of a text after the last `@`; the whole text if there is none. -/
def afterLastAt (text : List Char) : List Char :=
  (text.reverse.takeWhile (· != '@')).reverse

/-- The host of an authority, and what follows it. A colon ends the host, except
between brackets. -/
def spanHost : (inBrackets : Bool) → List Char → List Char × List Char
  | _, [] => ([], [])
  | inBrackets, c :: rest =>
    if c == ':' && !inBrackets then ([], c :: rest)
    else
      let inBrackets := if c == '[' then true else if c == ']' then false else inBrackets
      let (host, rest) := spanHost inBrackets rest
      (c :: host, rest)

/-- Whether what follows a host is nothing, or a colon and a port. A backslash ends
the port whatever the scheme. -/
def portFits (text : List Char) : Bool :=
  match text with
  | [] => true
  | ':' :: rest =>
    -- zeros in front do not matter, and neither does their number
    let digits := rest.takeWhile (· != '\\')
    digits.all Text.isDigit && digits.foldl (fun n c => 10 * n + (c.toNat - '0'.toNat)) 0 < 65536
  | _ => false

/-- The host of what follows the slashes of a URL. -/
def authorityHost? (kind : SchemeKind) (text : List Char) : Option (List Char) :=
  let authority := text.takeWhile fun c => !endsAuthority kind c
  let place := afterLastAt authority
  let (host, port) := spanHost false place
  if host.isEmpty || !portFits port then none
  else match kind with
    | .other => Host.ofOpaque? host
    | _ => Host.ofDomain? host

/-- A letter and a colon or bar, which stand for a drive in the URL of a file. -/
def isDrive (text : List Char) : Bool :=
  match text with
  | [c, d] => Text.isLetter c && (d == ':' || d == '|')
  | _ => false

/-- Whether the first step of a path, up to steps to where it is, is a drive. -/
def pathStartsWithDrive : (fuel : Nat) → List Char → Bool
  | 0, _ => false
  | fuel + 1, path =>
    match path with
    | c :: rest =>
      if c == '/' || c == '\\' then
        let step := rest.takeWhile fun c => !endsAuthority .file c
        if isDrive step then true
        else if [".", "..", "%2e", "%2e%2e", ".%2e", "%2e."].contains
            (String.ofList (Text.lower step)) then
          pathStartsWithDrive fuel (rest.dropWhile fun c => !endsAuthority .file c)
        else false
      else false
    | [] => false

/-- The host of the URL of a file, after its scheme. The local host is no host, and
neither is one whose path begins with a drive. -/
def fileHost? (text : List Char) : Option (List Char) :=
  match text with
  | a :: b :: rest =>
    if (a == '/' || a == '\\') && (b == '/' || b == '\\') then
      let name := rest.takeWhile fun c => !endsAuthority .file c
      let path := rest.dropWhile fun c => !endsAuthority .file c
      -- a drive in place of a host belongs to the path
      if name.isEmpty || isDrive name then none
      else match Host.ofDomain? name with
        | none => none
        | some host =>
          if host == "localhost".toList || pathStartsWithDrive (path.length + 1) path then none
          else some host
    else none
  | _ => none

/-- The host of a URL, if the text is a URL that has one. -/
def host? (text : List Char) : Option (List Char) := do
  let (scheme, rest) ← scheme? (cleaned text)
  match SchemeKind.ofName scheme with
  -- any number of slashes will do, also none
  | .web => authorityHost? .web (rest.dropWhile fun c => c == '/' || c == '\\')
  | .file => fileHost? rest
  | .other =>
    match rest with
    | '/' :: '/' :: rest => authorityHost? .other rest
    | _ => none

/-- **A reader of URLs**: the host of a text, if the text is a URL that has one. -/
abbrev Reader := List Char → Option (List Char)

/-- A host without the brackets of an address. -/
def withoutBrackets (host : List Char) : List Char :=
  ((host.dropWhile (· == '[')).reverse.dropWhile (· == ']')).reverse

/-- The host name in an origin that a reader finds; empty if it finds none. -/
def hostnameBy (reader : Reader) (origin : List Char) : List Char :=
  match reader origin with
  | some host => Text.lower (withoutBrackets host)
  | none => []

/-- **The host name in an origin**, in lower case; empty if there is none. -/
def hostname (origin : List Char) : List Char := hostnameBy host? origin

end HttpPipeline.Url
