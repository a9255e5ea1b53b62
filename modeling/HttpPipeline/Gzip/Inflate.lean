import HttpPipeline.Bytes

/-!
# Reading a deflate stream

A deflate stream is a sequence of blocks, read bit by bit with the low bit of each
byte first. A block is stored (its bytes follow verbatim after a byte boundary),
or coded with the fixed prefix codes, or coded with prefix codes that it carries
itself. The last block is marked.

`inflate` reads such a stream from the front. It always gives the output that can
be told from what is there, and an `Ending` that says how the input came to its
end:

* `ended rest`: the last block was complete, and `rest` follows it;
* `truncated`: the input ran out first, so more input could go on;
* `corrupt`: no continuation of the input is a deflate stream.

The reader serves as the meaning of compressed data: what an encoder wrote is
right if reading it back gives what the encoder was fed.
-/

namespace HttpPipeline.Inflate

/-! ### Bits -/

/-- A place in the input: the bits left of the current byte and the bytes after
it. -/
structure Cursor where
  held : List Bool := []
  rest : Bytes
  deriving DecidableEq, Repr

/-- The bits of a byte, low bit first. -/
def bitsOf (b : UInt8) : List Bool :=
  [b &&& 1 != 0, b &&& 2 != 0, b &&& 4 != 0, b &&& 8 != 0,
    b &&& 16 != 0, b &&& 32 != 0, b &&& 64 != 0, b &&& 128 != 0]

namespace Cursor

/-- The next bit. -/
def bit? : Cursor → Option (Bool × Cursor)
  | ⟨b :: held, rest⟩ => some (b, ⟨held, rest⟩)
  | ⟨[], []⟩ => none
  | ⟨[], x :: rest⟩ => some (x &&& 1 != 0, ⟨(bitsOf x).tail, rest⟩)

/-- The number formed by the next `n` bits, low bit first. -/
def number? : (n : Nat) → Cursor → Option (Nat × Cursor)
  | 0, c => some (0, c)
  | n + 1, c => do
    let (b, c) ← c.bit?
    let (m, c) ← number? n c
    return (2 * m + b.toNat, c)

/-- The next byte boundary. -/
def align (c : Cursor) : Cursor := { c with held := [] }

/-- How many bits are left. -/
def size (c : Cursor) : Nat := c.held.length + 8 * c.rest.length

end Cursor

/-! ### Prefix codes -/

/-- A canonical prefix code: how many code words there are of each length from one
bit on, and the symbols in the order of their code words. -/
structure Code where
  counts : List Nat
  symbols : Array Nat
  deriving Repr

namespace Code

/-- The canonical code with the given length for each symbol; a symbol of length
zero has no code word. -/
def ofLengths (lengths : List Nat) : Code :=
  let indexed := lengths.zipIdx
  { counts := (List.range 15).map fun n => lengths.countP (· == n + 1)
    symbols := ((List.range 15).flatMap fun n =>
      (indexed.filter (·.1 == n + 1)).map (·.2)).toArray }

/-- The share of all 15-bit words that the code words take up. -/
def load (code : Code) : Nat :=
  code.counts.zipIdx.foldl (fun sum (count, n) => sum + count * 2 ^ (14 - n)) 0

/-- A code has room for its words, and leaves none unless it has one word only. -/
def usable (code : Code) : Bool :=
  code.load == 2 ^ 15 || (code.load < 2 ^ 15 && code.symbols.size ≤ 1)

/-- The symbol whose code word comes next. Code words of one length are
consecutive numbers; `first` is the least of the current length, `index` the
number of shorter words and `word` the bits read. -/
def decode? (symbols : Array Nat) : (counts : List Nat) → (word first index : Nat) →
    Cursor → Except Bool (Nat × Cursor)
  | [], _, _, _, _ => .error true
  | count :: counts, word, first, index, c =>
    match c.bit? with
    | none => .error false
    | some (b, c) =>
      let word := 2 * word + b.toNat
      if word < first + count then
        match symbols[index + (word - first)]? with
        | some symbol => .ok (symbol, c)
        | none => .error true
      else decode? symbols counts word (2 * (first + count)) (index + count) c

/-- The next symbol; the error says whether the input is corrupt, as opposed to
cut short. -/
def next? (code : Code) (c : Cursor) : Except Bool (Nat × Cursor) :=
  decode? code.symbols code.counts 0 0 0 c

end Code

/-- The fixed code of literals and lengths. -/
def fixedLiterals : Code :=
  .ofLengths (List.replicate 144 8 ++ List.replicate 112 9 ++ List.replicate 24 7 ++
    List.replicate 8 8)

/-- The fixed code of distances. -/
def fixedDistances : Code := .ofLengths (List.replicate 30 5)

/-- Base and number of extra bits of a length symbol, from symbol 257 on. -/
def lengthBases : Array (Nat × Nat) :=
  #[(3, 0), (4, 0), (5, 0), (6, 0), (7, 0), (8, 0), (9, 0), (10, 0), (11, 1), (13, 1),
    (15, 1), (17, 1), (19, 2), (23, 2), (27, 2), (31, 2), (35, 3), (43, 3), (51, 3),
    (59, 3), (67, 4), (83, 4), (99, 4), (115, 4), (131, 5), (163, 5), (195, 5),
    (227, 5), (258, 0)]

/-- Base and number of extra bits of a distance symbol. -/
def distanceBases : Array (Nat × Nat) :=
  #[(1, 0), (2, 0), (3, 0), (4, 0), (5, 1), (7, 1), (9, 2), (13, 2), (17, 3), (25, 3),
    (33, 4), (49, 4), (65, 5), (97, 5), (129, 6), (193, 6), (257, 7), (385, 7), (513, 8),
    (769, 8), (1025, 9), (1537, 9), (2049, 10), (3073, 10), (4097, 11), (6145, 11),
    (8193, 12), (12289, 12), (16385, 13), (24577, 13)]

/-! ### Blocks -/

/-- How the input came to its end. -/
inductive Ending
  | ended (rest : Bytes)
  | truncated
  | corrupt
  deriving DecidableEq, Repr

/-- How the input came to its end before a block did. -/
def Ending.ofFault (isCorrupt : Bool) : Ending := if isCorrupt then .corrupt else .truncated

/-- `count` bytes from `distance` back, each appended before the next is read. -/
def copyBack (out : Array UInt8) (distance : Nat) : (count : Nat) → Array UInt8
  | 0 => out
  | count + 1 => copyBack (out.push (out.getD (out.size - distance) 0)) distance count

/-- The symbols of one coded block up to its end mark. -/
def symbols (literals distances : Code) :
    (fuel : Nat) → Cursor → Array UInt8 → Array UInt8 × Except Ending Cursor
  | 0, _, out => (out, .error .truncated)
  | fuel + 1, c, out =>
    match literals.next? c with
    | .error fault => (out, .error (.ofFault fault))
    | .ok (symbol, c) =>
      if symbol < 256 then symbols literals distances fuel c (out.push symbol.toUInt8)
      else if symbol = 256 then (out, .ok c)
      else match lengthBases[symbol - 257]? with
        | none => (out, .error .corrupt)
        | some (base, extra) =>
          match c.number? extra with
          | none => (out, .error .truncated)
          | some (more, c) =>
            let count := base + more
            match distances.next? c with
            | .error fault => (out, .error (.ofFault fault))
            | .ok (symbol, c) =>
              match distanceBases[symbol]? with
              | none => (out, .error .corrupt)
              | some (base, extra) =>
                match c.number? extra with
                | none => (out, .error .truncated)
                | some (more, c) =>
                  let distance := base + more
                  if out.size < distance then (out, .error .corrupt)
                  else symbols literals distances fuel c (copyBack out distance count)

/-- The order in which a block lists the lengths of its length code. -/
def lengthOrder : List Nat :=
  [16, 17, 18, 0, 8, 7, 9, 6, 10, 5, 11, 4, 12, 3, 13, 2, 14, 1, 15]

/-- The listed lengths, three bits each. -/
def listedLengths : (count : Nat) → Cursor → Option (List Nat × Cursor)
  | 0, c => some ([], c)
  | count + 1, c => do
    let (n, c) ← c.number? 3
    let (ns, c) ← listedLengths count c
    return (n :: ns, c)

/-- `total` code lengths, run-length coded with `code`; `acc` holds those read so
far, last first. -/
def codedLengths (code : Code) (total : Nat) :
    (fuel : Nat) → Cursor → (acc : List Nat) → Except Bool (List Nat × Cursor)
  | 0, _, _ => .error true
  | fuel + 1, c, acc =>
    if acc.length = total then .ok (acc.reverse, c)
    else if total < acc.length then .error true
    else do
      let (symbol, c) ← code.next? c
      if symbol < 16 then codedLengths code total fuel c (symbol :: acc)
      else if symbol = 16 then
        match acc, c.number? 2 with
        | _, none => .error false
        | [], _ => .error true
        | last :: _, some (more, c) =>
          codedLengths code total fuel c (List.replicate (3 + more) last ++ acc)
      else
        let (base, extra) := if symbol = 17 then (3, 3) else (11, 7)
        match c.number? extra with
        | none => .error false
        | some (more, c) =>
          codedLengths code total fuel c (List.replicate (base + more) 0 ++ acc)

/-- The prefix codes that a block carries. -/
def carriedCodes (c : Cursor) : Except Bool (Code × Code × Cursor) :=
  match (do
    let (literals, c) ← c.number? 5
    let (distances, c) ← c.number? 5
    let (lengths, c) ← c.number? 4
    let (listed, c) ← listedLengths (lengths + 4) c
    return (literals + 257, distances + 1, listed, c) :
      Option (Nat × Nat × List Nat × Cursor)) with
  | none => .error false
  | some (literals, distances, listed, c) => do
    let named := lengthOrder.zip listed
    let lengthCode := Code.ofLengths
      ((List.range 19).map fun symbol => (named.lookup symbol).getD 0)
    if !lengthCode.usable then .error true
    let total := literals + distances
    let (lengths, c) ← codedLengths lengthCode total (total + 1) c []
    let literalCode := Code.ofLengths (lengths.take literals)
    let distanceCode := Code.ofLengths (lengths.drop literals)
    if !literalCode.usable || !distanceCode.usable || 286 < literals then .error true
    return (literalCode, distanceCode, c)

/-- The two bytes of a length in a stored block. -/
def storedLength (lo hi : UInt8) : Nat := lo.toNat + 256 * hi.toNat

/-- **The blocks of a stream**, from a cursor before the header of a block. -/
def blocks : (fuel : Nat) → Cursor → Array UInt8 → Array UInt8 × Ending
  | 0, _, out => (out, .truncated)
  | fuel + 1, c, out =>
    match c.number? 3 with
    | none => (out, .truncated)
    | some (header, c) =>
      let last := header % 2 = 1
      match header / 2 with
      | 0 =>
        match c.align.rest with
        | lo :: hi :: lo' :: hi' :: rest =>
          let count := storedLength lo hi
          -- the length is followed by its complement
          if storedLength lo' hi' + count ≠ 65535 then (out, .corrupt)
          else if rest.length < count then (out ++ rest, .truncated)
          else
            let out := out ++ rest.take count
            let rest := rest.drop count
            if last then (out, .ended rest) else blocks fuel ⟨[], rest⟩ out
        | _ => (out, .truncated)
      | 1 => coded fuel last (symbols fixedLiterals fixedDistances (c.size + 1) c out)
      | 2 =>
        match carriedCodes c with
        | .error fault => (out, .ofFault fault)
        | .ok (literals, distances, c) =>
          coded fuel last (symbols literals distances (c.size + 1) c out)
      | _ => (out, .corrupt)
where
  /-- What follows a coded block. -/
  coded (fuel : Nat) (last : Bool) : Array UInt8 × Except Ending Cursor → Array UInt8 × Ending
    | (out, .error ending) => (out, ending)
    | (out, .ok c) => if last then (out, .ended c.rest) else blocks fuel c out

end Inflate

open Inflate in
/-- **Reading a deflate stream**: the output that can be told from the input, and
how the input came to its end. Each block takes at least three bits, so the number
of bits bounds the number of blocks. -/
def inflate (input : Bytes) : Bytes × Ending :=
  let (out, ending) := blocks (8 * input.length + 1) ⟨[], input⟩ #[]
  (out.toList, ending)

end HttpPipeline
