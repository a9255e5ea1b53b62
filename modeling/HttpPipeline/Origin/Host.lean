import HttpPipeline.Bytes
import HttpPipeline.Origin.Domain
import HttpPipeline.Origin.Ipv4
import HttpPipeline.Origin.Ipv6

/-!
# Hosts of URLs

The host of a URL is an address in brackets, a domain, or a name of which nothing
more is known. Which of the last two it can be depends on the scheme: the schemes of
the web have domains, and any other scheme has opaque names.

A domain is percent-decoded and brought into its ASCII form; one that ends in a
number is an IPv4 address or no host at all. An opaque name may not hold certain
characters, and those outside printable ASCII are percent-encoded.
-/

namespace HttpPipeline.Host

/-- A text without its percent-encoding, as bytes. A percent sign that no two
hexadecimal digits follow stands for itself. -/
def percentDecode : List Char → Bytes
  | [] => []
  | '%' :: a :: b :: rest =>
    match Text.hexValue? a, Text.hexValue? b with
    | some x, some y => UInt8.ofNat (16 * x + y) :: percentDecode rest
    | _, _ => 0x25 :: percentDecode (a :: b :: rest)
  | c :: rest => String.utf8EncodeChar c ++ percentDecode rest

/-- A byte in the percent-encoding. -/
def percentByte (b : UInt8) : List Char := '%' :: (Text.upper (Text.hex 2 b.toNat))

/-- A name with everything outside printable ASCII percent-encoded. -/
def percentEncode (name : List Char) : List Char :=
  (Bytes.ofChars name).flatMap fun b =>
    if 0x20 ≤ b && b < 0x7f then [Char.ofNat b.toNat] else percentByte b

/-- Characters that no opaque name holds. -/
def isForbidden (c : Char) : Bool :=
  "\x00\t\n\r #/:<>?@[\\]^|".toList.contains c

/-- An address in brackets, with the brackets in writing. -/
def bracketed? (name : List Char) : Option (List Char) :=
  match name with
  | '[' :: inside =>
    if inside.getLast? = some ']' then
      (Ipv6.parse? inside.dropLast).map fun groups => '[' :: (Ipv6.text groups ++ [']'])
    else none
  | _ => none

/-- The host of a URL with a scheme of the web. -/
def ofDomain? (name : List Char) : Option (List Char) :=
  if name.head? = some '[' then bracketed? name
  else do
    let text ← Bytes.text? (percentDecode name)
    let domain ← Domain.toAscii? text.toList
    if domain.isEmpty then none
    else if Ipv4.endsInNumber domain then (Ipv4.ofHost? domain).map Ipv4.text
    else some domain

/-- The host of a URL with any other scheme. -/
def ofOpaque? (name : List Char) : Option (List Char) :=
  if name.head? = some '[' then bracketed? name
  else if name.any isForbidden then none
  else some (percentEncode name)

end HttpPipeline.Host
