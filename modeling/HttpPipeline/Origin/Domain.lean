import HttpPipeline.Origin.Direction
import HttpPipeline.Origin.Joining
import HttpPipeline.Origin.Mapping
import HttpPipeline.Origin.Punycode
import HttpPipeline.Text.Composition

/-!
# Domain names in their ASCII form

A domain name may be written with any characters, but what names a host is its ASCII form.
To find it, every character is replaced by what it stands for and the result is composed.
Its labels are then checked one by one. A label with characters outside ASCII is valid if
all of them stand for themselves, if it does not begin with a mark, and if joiners and
directions are where they may be; its ASCII form is its Punycode after `xn--`. A label that
begins with `xn--` already has to be the ASCII form of such a label.

A name all in ASCII without such labels is its own ASCII form, in lower case.
-/

namespace HttpPipeline.Domain

/-- Characters of ASCII that no domain holds. -/
def isForbidden (c : Char) : Bool :=
  c.toNat ≤ 0x20 || c.toNat == 0x7f || "%#/:<>?@[\\]^|".toList.contains c

/-- What the ASCII form of a label begins with if the label is not in ASCII. -/
def acePrefix : List Char := "xn--".toList

/-- Most characters of a label that is brought into its ASCII form. -/
def mostWritten : Nat := 1000

/-- Most characters of an ASCII form that is read. -/
def mostRead : Nat := 2000

/-- The label that an ASCII form is the form of. It is not in ASCII, and it is as it would
be after mapping and composing. -/
def unmasked? (form : List Char) : Option (List Char) := do
  if mostRead < form.length then none
  let label ← Punycode.decode? form
  -- no label has two ASCII forms
  if label.all (·.toNat < 0x80) then none
  if label.any (!isPlain ·) || Text.compose label != label then none
  return label

/-- A label as it is meant: without Punycode. -/
def meant? (label : List Char) : Option (List Char) :=
  if acePrefix.isPrefixOf label then unmasked? (label.drop acePrefix.length) else some label

/-- Whether a label is well formed by itself. -/
def wellFormed (label : List Char) : Bool :=
  label.all (·.toNat < 0x80) ||
    (!(label.head?.any Text.marks.contains) && joinersFit [] label && !label.any isForbidden)

/-- The ASCII form of a label. -/
def form? (label : List Char) : Option (List Char) :=
  if label.all (·.toNat < 0x80) then some label
  else if mostWritten < label.length then none
  else some (acePrefix ++ Punycode.encode label)

/-- **The ASCII form of a domain name.** -/
def toAscii? (name : List Char) : Option (List Char) := do
  let mapped ← name.mapM mapped?
  let text := Text.compose mapped.flatten
  -- composing may have made a forbidden character part of a permitted one
  if text.any isForbidden then none
  -- dots of other scripts have become dots by now
  let labels ← (Text.splitOn '.' text).mapM meant?
  if !labels.all wellFormed || !directionsFit labels then none
  let forms ← labels.mapM form?
  return List.intercalate ['.'] forms

end HttpPipeline.Domain
