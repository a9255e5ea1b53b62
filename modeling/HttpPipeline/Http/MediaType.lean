import HttpPipeline.Text.Ascii

/-!
# Media types

A content type consists of a media type and parameters after semicolons. What
matters here is the media type alone, its *essence*, in lower case.

It is read by a parser of content types where that accepts the text, and elsewhere
no further than the first semicolon (`plainEssence`). The parser is not of this
library, so `essenceBy` takes it as a parameter: a function that gives the essence
of the texts it accepts.

`isCompressedBy` asks whether the essence is on the list of types whose content is
compressed already, so that compressing it again is of no use. The pipeline runs
with the parser `essence?`, which accepts what follows the grammar: two tokens with
a slash between them, then parameters, each a name and a value that is a token or a
quoted text (`isCompressed`).
-/

namespace HttpPipeline.MediaType

/-- Characters of a token. -/
def isTokenChar (c : Char) : Bool :=
  Text.isDigit c || Text.isLetter c || "!#$%&'*+-.^_\x60|~".toList.contains c

/-- Characters inside a quoted value. -/
def isQuotedChar (c : Char) : Bool := 31 < c.toNat && c.toNat != 127

/-- Blanks and the semicolon after a quoted value; what follows them, if the text
goes on. -/
def afterQuoted : List Char → Option (List Char)
  | [] => some []
  | ';' :: cs => some cs
  | ' ' :: cs => afterQuoted cs
  | _ :: _ => none

/-- The value of a parameter and what follows it. A quoted value has at least one
character between its quotes; a closing quote that would end an empty one is part
of the value. -/
def value? (cs : List Char) : Option (List Char) :=
  match cs with
  | '"' :: c :: cs =>
    if isQuotedChar c then
      match cs.dropWhile fun c => isQuotedChar c && c != '"' with
      | '"' :: rest => afterQuoted rest
      | _ => none
    else none
  | '"' :: [] => none
  | cs =>
    match cs.dropWhile isTokenChar with
    | [] => some []
    -- without quotes a value before a semicolon is not empty
    | ';' :: rest => if rest.length + 1 < cs.length then some rest else none
    | _ => none

/-- Whether a text is a list of parameters. Blanks may stand before a name. -/
def areParameters : (fuel : Nat) → List Char → Bool
  | 0, _ => false
  | _, [] => true
  | fuel + 1, cs =>
    match cs with
    | ' ' :: cs => areParameters fuel cs
    | cs =>
      match cs.dropWhile isTokenChar with
      | '=' :: rest =>
        rest.length + 1 < cs.length &&
          match value? rest with
          | some rest => areParameters fuel rest
          | none => false
      | _ => false

/-- The essence by the grammar, if the whole text follows it. -/
def essence? (text : List Char) : Option (List Char) :=
  match text.dropWhile isTokenChar with
  | '/' :: sub =>
    if sub.length + 1 < text.length then
      match sub.dropWhile isTokenChar with
      | [] => some (Text.lower text)
      | ';' :: rest =>
        if rest.length + 1 < sub.length && areParameters (rest.length + 1) rest then
          some (Text.lower (text.take (text.length - (rest.length + 1))))
        else none
      | _ => none
    else none
  | _ => none

/-- What stands before the first semicolon, trimmed and in lower case. -/
def plainEssence (text : List Char) : List Char :=
  Text.lower (Text.trim (text.takeWhile (· != ';')))

/-- **The essence of a content type**, by a parser where that accepts the text. -/
def essenceBy (parse? : List Char → Option (List Char)) (text : List Char) : List Char :=
  (parse? text).getD (plainEssence text)

/-- Media types whose content is compressed already. -/
def compressedTypes : List String :=
  ["application/gzip", "application/zip", "application/x-gzip",
    "application/x-compressed", "application/x-bzip2", "application/x-xz",
    "application/zstd", "image/png", "image/jpeg", "image/gif", "image/webp",
    "audio/mpeg", "audio/ogg", "video/mp4", "video/webm", "application/octet-stream",
    "application/x-tar", "application/x-rar-compressed", "application/x-7z-compressed",
    "application/vnd.rar", "application/java-archive", "application/wasm", "font/woff",
    "font/woff2", "application/font-woff", "application/x-font-woff",
    "application/pdf", "application/x-shockwave-flash"]

/-- Whether the content of a type is compressed already, by a parser of content types. -/
def isCompressedBy (parse? : List Char → Option (List Char)) (contentType : String) : Bool :=
  compressedTypes.contains (String.ofList (essenceBy parse? contentType.toList))

/-- The same by the parser that the pipeline runs with. -/
def isCompressed (contentType : String) : Bool := isCompressedBy essence? contentType

end HttpPipeline.MediaType
