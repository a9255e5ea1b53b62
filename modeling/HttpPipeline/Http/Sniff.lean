import HttpPipeline.Bytes

/-!
# Guessing the media type of a body

A body without a declared type is given one by its first 512 bytes. Markup may
follow white space: one of the known tags, in letters of either case, with a blank
or the end of the tag after it, means HTML, and the opening of an XML declaration
means XML. Otherwise a signature at the very front decides, then the two container
formats whose signature stands further in. What is left is plain text, unless it
holds a control byte that no text holds.

The guess depends on the first 512 bytes alone (`detect_take`).
-/

namespace HttpPipeline.Sniff

/-- How many bytes are looked at. -/
def window : Nat := 512

/-- The media type of text. -/
def plainText : String := "text/plain; charset=utf-8"

/-- The media type of bytes about which nothing is known. -/
def octetStream : String := "application/octet-stream"

/-- Tags that open HTML, in capitals. -/
def tags : List String :=
  ["<!DOCTYPE HTML", "<HTML", "<HEAD", "<SCRIPT", "<IFRAME", "<H1", "<DIV", "<FONT",
    "<TABLE", "<A", "<STYLE", "<TITLE", "<B", "<BODY", "<BR", "<P", "<!--"]

/-- Signatures at the front, with the media type they mean. -/
def signatures : List (Bytes × String) :=
  [(Bytes.ofString "%PDF-", "application/pdf"),
    (Bytes.ofString "%!PS-Adobe-", "application/postscript"),
    ([0xfe, 0xff], "text/plain; charset=utf-16be"),
    ([0xff, 0xfe], "text/plain; charset=utf-16le"),
    ([0xef, 0xbb, 0xbf], "text/plain; charset=utf-8"),
    (Bytes.ofString "GIF87a", "image/gif"),
    (Bytes.ofString "GIF89a", "image/gif"),
    ([0x89, 0x50, 0x4e, 0x47, 0x0d, 0x0a, 0x1a, 0x0a], "image/png"),
    ([0xff, 0xd8, 0xff], "image/jpeg"),
    (Bytes.ofString "BM", "image/bmp"),
    ([0x00, 0x00, 0x01, 0x00], "image/x-icon"),
    (Bytes.ofString "OggS" ++ [0x00], "application/ogg"),
    (Bytes.ofString "ID3", "audio/mpeg"),
    ([0x1a, 0x45, 0xdf, 0xa3], "video/webm"),
    ([0x1f, 0x8b, 0x08], "application/x-gzip"),
    ([0x50, 0x4b, 0x03, 0x04], "application/zip"),
    (Bytes.ofString "Rar!" ++ [0x1a, 0x07, 0x00], "application/x-rar-compressed"),
    (Bytes.ofString "Rar!" ++ [0x1a, 0x07, 0x01, 0x00], "application/x-rar-compressed"),
    (0x00 :: Bytes.ofString "asm", "application/wasm"),
    (Bytes.ofString "wOFF", "font/woff"),
    (Bytes.ofString "wOF2", "font/woff2")]

/-- White space that may stand before markup. -/
def isSpace (b : UInt8) : Bool :=
  b == 0x09 || b == 0x0a || b == 0x0c || b == 0x0d || b == 0x20

/-- An ASCII letter in upper case, any other byte unchanged. -/
def capital (b : UInt8) : UInt8 := if 0x61 ≤ b && b ≤ 0x7a then b - 0x20 else b

/-- Whether the data starts with a tag that a blank or `>` ends. -/
def startsWithTag (data tag : Bytes) : Bool :=
  (data.take tag.length).map capital == tag.map capital &&
    match data.drop tag.length with
    | b :: _ => b == 0x20 || b == 0x3e
    | [] => false

/-- Control bytes that no text holds. -/
def isBinary (b : UInt8) : Bool :=
  b ≤ 0x08 || b == 0x0b || (0x0e ≤ b && b ≤ 0x1a) || (0x1c ≤ b && b ≤ 0x1f)

/-- A WebP image: a RIFF container whose content says so. -/
def isWebp (data : Bytes) : Bool :=
  (Bytes.ofString "RIFF").isPrefixOf data &&
    (data.drop 8).take 6 == Bytes.ofString "WEBPVP"

/-- An MP4 video: its first box states its own size and is a file type box. -/
def isMp4 (data : Bytes) : Bool :=
  match data with
  | a :: b :: c :: d :: rest =>
    let size := ((a.toNat * 256 + b.toNat) * 256 + c.toNat) * 256 + d.toNat
    12 ≤ data.length && size % 4 == 0 && size ≤ data.length &&
      (Bytes.ofString "ftyp").isPrefixOf rest
  | _ => false

/-- **The guessed media type.** -/
def detect (data : Bytes) : String :=
  let data := data.take window
  let trimmed := data.dropWhile isSpace
  if tags.any fun tag => startsWithTag trimmed (Bytes.ofString tag) then
    "text/html; charset=utf-8"
  else if (Bytes.ofString "<?xml").isPrefixOf trimmed then "text/xml; charset=utf-8"
  else match signatures.find? (·.1.isPrefixOf data) with
    | some (_, media) => media
    | none =>
      if isWebp data then "image/webp"
      else if isMp4 data then "video/mp4"
      else if data.any isBinary then octetStream
      else plainText

theorem detect_take (data : Bytes) : detect (data.take window) = detect data := by
  simp [detect, List.take_take]

end HttpPipeline.Sniff
