import HttpPipeline.Bytes
import HttpPipeline.Text.Ascii

/-!
# Header maps

A header map is a list of fields. Names are kept in lower case, so that looking
one up is an equality, and values are raw bytes. Only the order of the values of
one name is observable; `Headers.values` is therefore the view through which
every operation is described:

* `append` puts one more value after those a name has;
* `insert` makes a value the only one of its name;
* `remove` leaves a name without values;

and each of the three leaves the values of every other name as they were.

A value is *visible* when it is made of printable ASCII and tabs. Only visible
values can be read as text (`Headers.text?`), which is how stages read the
values they act upon.
-/

namespace HttpPipeline

/-- Characters allowed in a field name or a method. -/
def isTokenByte (b : UInt8) : Bool :=
  let c := Char.ofNat b.toNat
  b < 128 && (Text.isDigit c || Text.isLetter c ||
    "!#$%&'*+-.^_\x60|~".toList.contains c)

/-- The lower-case form of a field name, if the bytes are one. -/
def fieldName? (b : Bytes) : Option String :=
  if b.isEmpty || 65535 < b.length || !b.all isTokenByte then none
  else some (Text.lowerString b.toAscii)

/-- A field value holds any bytes but control bytes other than the tab. -/
def isFieldValue (b : Bytes) : Bool :=
  b.all fun x => (32 ≤ x && x != 127) || x == 9

/-- Printable ASCII and the tab. -/
def isVisibleByte (b : UInt8) : Bool :=
  (32 ≤ b && b < 127) || b == 9

/-- A value as text, if all of it is visible. -/
def visibleText? (value : Bytes) : Option String :=
  if value.all isVisibleByte then some value.toAscii else none

/-- The header fields of a request or a response. -/
structure Headers where
  /-- The fields as name and value; names are in lower case. -/
  fields : List (String × Bytes) := []
  deriving DecidableEq, Inhabited

namespace Headers

/-- No fields. -/
def empty : Headers := {}

/-- The values of a name, in order. -/
def values (h : Headers) (name : String) : List Bytes :=
  (h.fields.filter (·.1 == name)).map (·.2)

/-- The first value of a name. -/
def get? (h : Headers) (name : String) : Option Bytes :=
  (h.values name).head?

/-- Whether a name has a value. -/
def contains (h : Headers) (name : String) : Bool :=
  h.fields.any (·.1 == name)

/-- One more value for a name. -/
def append (h : Headers) (name : String) (value : Bytes) : Headers :=
  ⟨h.fields ++ [(name, value)]⟩

/-- A name without its values. -/
def remove (h : Headers) (name : String) : Headers :=
  ⟨h.fields.filter (·.1 != name)⟩

/-- A value as the only one of its name. -/
def insert (h : Headers) (name : String) (value : Bytes) : Headers :=
  (h.remove name).append name value

/-- The first value of a name as text, if that value is visible. -/
def text? (h : Headers) (name : String) : Option String :=
  (h.get? name).bind visibleText?

/-- The first value of a name, if it is not empty. -/
def nonempty? (h : Headers) (name : String) : Option Bytes :=
  (h.get? name).filter (!·.isEmpty)

/-- The names that have a value, each once. -/
def names (h : Headers) : List String :=
  (h.fields.map (·.1)).eraseDups

@[simp] theorem values_append_self (h : Headers) (name : String) (value : Bytes) :
    (h.append name value).values name = h.values name ++ [value] := by
  simp [values, append]

theorem values_append_of_ne (h : Headers) {name other : String} (value : Bytes)
    (hne : other ≠ name) : (h.append name value).values other = h.values other := by
  simp [values, append, hne.symm]

@[simp] theorem values_remove_self (h : Headers) (name : String) :
    (h.remove name).values name = [] := by
  simp [values, remove, List.filter_filter]

theorem values_remove_of_ne (h : Headers) {name other : String} (hne : other ≠ name) :
    (h.remove name).values other = h.values other := by
  simp only [values, remove, List.filter_filter]
  congr 1
  apply List.filter_congr
  intro f _
  by_cases hf : f.1 = other <;> simp [hf, hne]

@[simp] theorem values_insert_self (h : Headers) (name : String) (value : Bytes) :
    (h.insert name value).values name = [value] := by
  simp [insert]

theorem values_insert_of_ne (h : Headers) {name other : String} (value : Bytes)
    (hne : other ≠ name) : (h.insert name value).values other = h.values other := by
  rw [insert, values_append_of_ne _ _ hne, values_remove_of_ne _ hne]

end Headers

/-- A response status, a number from 100 to 999. -/
abbrev Status := Nat

namespace Status

/-- Statuses that a response may carry. -/
def valid (s : Status) : Bool := 100 ≤ s && s ≤ 999

/-- Interim statuses, those of the first hundred. -/
def informational (s : Status) : Bool := 100 ≤ s && s < 200

/-- Statuses that end the head of a response: all but the interim ones, and
`101`, after which the connection speaks another protocol. -/
def final (s : Status) : Bool := s == 101 || !informational s

end Status

end HttpPipeline
