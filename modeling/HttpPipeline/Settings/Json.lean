import HttpPipeline.Number.Binary64

/-!
# JSON documents

Settings are written as JSON. `Json.parse?` reads a document and refuses everything that
the grammar does not allow, trailing text included.

What a part of a document means depends on who asks for it, so nothing is decided too
early. A number keeps its digits (`Numeral`) and is a whole number or a floating-point
number when it is asked for as one. The escapes of a string may fail to make a text, as
a lone half of a surrogate pair does; such a string is still a string, but is refused
where a text is asked for. The members of an object keep their order, and a name may
come twice.
-/

namespace HttpPipeline

/-- A number as it is written. -/
structure Numeral where
  negative : Bool := false
  whole : List Nat
  /-- The digits after the point, if there is one. -/
  fraction : Option (List Nat) := none
  exponent : Option Int := none
  deriving DecidableEq, Repr, Inhabited

namespace Numeral

/-- The whole number that is written, unless it is written with a point or an exponent
or as a negative zero. -/
def integer? (n : Numeral) : Option Int :=
  if n.fraction.isSome || n.exponent.isSome then none
  else
    let value := Binary64.digitsValue n.whole
    if n.negative then (if value = 0 then none else some (-value)) else some value

/-- The floating-point number that is nearest to the one written. -/
def toBinary64 (n : Numeral) : Binary64 :=
  let fraction := n.fraction.getD []
  .ofDecimal n.negative (n.whole ++ fraction) (n.exponent.getD 0 - fraction.length)

end Numeral

/-- A JSON document. -/
inductive Json
  | null
  | flag (value : Bool)
  | number (value : Numeral)
  /-- A string, with its text if its escapes make one. -/
  | string (text : Option String)
  | array (items : List Json)
  | object (members : List (Option String × Json))
  deriving Inhabited

namespace Json

/-! ### Strings -/

/-- One piece of a string: a character, or a 16-bit unit from an escape. -/
inductive Piece
  | char (c : Char)
  | unit (n : Nat)
  deriving DecidableEq, Repr

/-- The text that some pieces make. The two halves of a surrogate pair make one
character, and a half alone makes none. -/
def joinPieces : List Piece → Option (List Char)
  | [] => some []
  | .char c :: rest => (joinPieces rest).map (c :: ·)
  | .unit n :: .unit m :: rest =>
    if 0xd800 ≤ n ∧ n < 0xdc00 then
      if 0xdc00 ≤ m ∧ m < 0xe000 then
        (joinPieces rest).map (Char.ofNat (0x10000 + (n - 0xd800) * 0x400 + (m - 0xdc00)) :: ·)
      else none
    else if 0xdc00 ≤ n ∧ n < 0xe000 then none
    else (joinPieces (.unit m :: rest)).map (Char.ofNat n :: ·)
  | .unit n :: rest =>
    if 0xd800 ≤ n ∧ n < 0xe000 then none else (joinPieces rest).map (Char.ofNat n :: ·)

/-- The character of an escape with one letter. -/
def shortEscape? (c : Char) : Option Char :=
  match c with
  | '"' => some '"'
  | '\\' => some '\\'
  | '/' => some '/'
  | 'b' => some '\x08'
  | 'f' => some '\x0c'
  | 'n' => some '\n'
  | 'r' => some '\r'
  | 't' => some '\t'
  | _ => none

/-- The pieces up to the closing quote, and what follows it. -/
def pieces? : List Char → Option (List Piece × List Char)
  | [] => none
  | '"' :: rest => some ([], rest)
  | '\\' :: 'u' :: a :: b :: c :: d :: rest => do
    let a ← Text.hexValue? a
    let b ← Text.hexValue? b
    let c ← Text.hexValue? c
    let d ← Text.hexValue? d
    let (pieces, rest) ← pieces? rest
    return (.unit (((a * 16 + b) * 16 + c) * 16 + d) :: pieces, rest)
  | '\\' :: c :: rest => do
    let c ← shortEscape? c
    let (pieces, rest) ← pieces? rest
    return (.char c :: pieces, rest)
  | c :: rest =>
    if c.toNat < 0x20 || c == '\\' then none
    else (pieces? rest).map fun (pieces, rest) => (.char c :: pieces, rest)

/-- A string after its opening quote. -/
def string? (text : List Char) : Option (Option String × List Char) :=
  (pieces? text).map fun (pieces, rest) => ((joinPieces pieces).map String.ofList, rest)

/-! ### Numbers -/

/-- The exponent of a numeral, if one follows. -/
def exponentPart? (text : List Char) : Option (Option Int × List Char) :=
  match text with
  | c :: rest =>
    if c == 'e' || c == 'E' then
      let (negative, rest) := match rest with
        | '-' :: rest => (true, rest)
        | '+' :: rest => (false, rest)
        | rest => (false, rest)
      let (digits, rest) := Binary64.spanDigits rest
      if digits.isEmpty then none
      else
        let n : Int := Binary64.digitsValue digits
        some (some (if negative then -n else n), rest)
    else some (none, text)
  | [] => some (none, [])

/-- A number. It has no leading zero and digits on both sides of its point. -/
def numeral? (text : List Char) : Option (Numeral × List Char) := do
  let (negative, text) := match text with
    | '-' :: rest => (true, rest)
    | _ => (false, text)
  let (whole, text) := Binary64.spanDigits text
  if whole.isEmpty || (whole.head? = some 0 && whole.length ≠ 1) then none
  let (fraction, text) ← match text with
    | '.' :: rest =>
      let (digits, rest) := Binary64.spanDigits rest
      if digits.isEmpty then none else some (some digits, rest)
    | _ => some (none, text)
  let (exponent, text) ← exponentPart? text
  return ({ negative, whole, fraction, exponent }, text)

/-! ### Documents -/

/-- Characters that may stand between the parts of a document. -/
def isSpace (c : Char) : Bool := c == ' ' || c == '\n' || c == '\r' || c == '\t'

/-- A text without the spaces in front. -/
def skipSpaces (text : List Char) : List Char := text.dropWhile isSpace

mutual

/-- A document in front of a text, and what follows it. -/
def value? : (fuel : Nat) → List Char → Option (Json × List Char)
  | 0, _ => none
  | fuel + 1, text =>
    match skipSpaces text with
    | '"' :: rest => (string? rest).map fun (s, rest) => (.string s, rest)
    | '[' :: rest =>
      match skipSpaces rest with
      | ']' :: rest => some (.array [], rest)
      | rest => (items? fuel rest).map fun (items, rest) => (.array items, rest)
    | '\x7b' :: rest =>
      match skipSpaces rest with
      | '\x7d' :: rest => some (.object [], rest)
      | rest => (members? fuel rest).map fun (members, rest) => (.object members, rest)
    | 'n' :: 'u' :: 'l' :: 'l' :: rest => some (.null, rest)
    | 't' :: 'r' :: 'u' :: 'e' :: rest => some (.flag true, rest)
    | 'f' :: 'a' :: 'l' :: 's' :: 'e' :: rest => some (.flag false, rest)
    | text => (numeral? text).map fun (n, rest) => (.number n, rest)

/-- The items of an array up to its closing bracket; there is at least one. -/
def items? : (fuel : Nat) → List Char → Option (List Json × List Char)
  | 0, _ => none
  | fuel + 1, text => do
    let (item, rest) ← value? fuel text
    match skipSpaces rest with
    | ']' :: rest => return ([item], rest)
    | ',' :: rest =>
      let (items, rest) ← items? fuel rest
      return (item :: items, rest)
    | _ => none

/-- The members of an object up to its closing brace; there is at least one. -/
def members? : (fuel : Nat) → List Char → Option (List (Option String × Json) × List Char)
  | 0, _ => none
  | fuel + 1, text => do
    let '"' :: rest := skipSpaces text | none
    let (name, rest) ← string? rest
    let ':' :: rest := skipSpaces rest | none
    let (value, rest) ← value? fuel rest
    match skipSpaces rest with
    | '\x7d' :: rest => return ([(name, value)], rest)
    | ',' :: rest =>
      let (members, rest) ← members? fuel rest
      return ((name, value) :: members, rest)
    | _ => none

end

/-- **Reading a document.** -/
def parse? (text : List Char) : Option Json :=
  match value? (2 * text.length + 2) text with
  | some (json, rest) => if (skipSpaces rest).isEmpty then some json else none
  | none => none

/-! ### What a part of a document means -/

/-- A truth value. -/
def flag? : Json → Option Bool
  | .flag value => some value
  | _ => none

/-- A text. -/
def text? : Json → Option String
  | .string text => text
  | _ => none

/-- A whole number between two bounds, both included. -/
def integer? (least most : Int) : Json → Option Int
  | .number n => n.integer?.filter fun value => least ≤ value && value ≤ most
  | _ => none

/-- A whole number of so many bits without a sign. -/
def natural? (bits : Nat) (json : Json) : Option Nat :=
  (json.integer? 0 (2 ^ bits - 1)).map Int.toNat

/-- A finite floating-point number. -/
def float? : Json → Option Binary64
  | .number n => some n.toBinary64 |>.filter Binary64.isFinite
  | _ => none

/-- A list of parts that all mean something. -/
def list? {α : Type} (item? : Json → Option α) : Json → Option (List α)
  | .array items => items.mapM item?
  | _ => none

/-- A part that may be missing, for which `null` stands. -/
def optional? {α : Type} (part? : Json → Option α) : Json → Option (Option α)
  | .null => some none
  | json => (part? json).map some

/-- **The fields of a record**, as far as they are given. A record is an object, of which
other members are ignored while none of these may come twice, or an array of the fields
in their order, of which the last ones may be missing. -/
def record? (names : List String) : Json → Option (List (String × Json))
  | .object members => do
    let named ← members.mapM fun (name, value) => name.map (·, value)
    let known := named.filter fun (name, _) => names.contains name
    -- of two members with one name neither would be the right one
    if (known.map (·.1)).eraseDups.length = known.length then some known else none
  | .array items => if items.length ≤ names.length then some (names.zip items) else none
  | _ => none

/-- A field of a record, or its default if it is not given. -/
def field? {α : Type} (fields : List (String × Json)) (name : String)
    (part? : Json → Option α) (default : α) : Option α :=
  match fields.lookup name with
  | some json => part? json
  | none => some default

end Json

end HttpPipeline
