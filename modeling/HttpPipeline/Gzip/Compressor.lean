import HttpPipeline.Gzip.Encoder

/-!
# Compressors

A `Deflater` gives out as much as it likes. A `Compressor` is an encoder one level further down: a
call of it takes in a part of the input and gives out no more than there is room for, so that what
is one request to an encoder may take several calls. A call is the last one if the stream has ended
with it, or if there is nothing more to be done (`Compressor.Status.isLast`).

Nothing but the compressor sees to it that there is a last one. That it does is not among its laws,
which hold of every call in every state: after the end of a stream, for one thing, no call takes in
anything any more.

An encoder becomes a compressor if its output is held back as long as there is no room for it
(`Metered`).
-/

namespace HttpPipeline

namespace Compressor

/-- What a call is for, besides taking in input. -/
inductive Mode
  | run
  /-- All input so far becomes decodable. -/
  | sync
  /-- The stream ends. -/
  | finish
  deriving DecidableEq, Repr

/-- What is reported of a call. -/
inductive Status
  /-- There was progress. -/
  | ok
  /-- There was none, for want of input or of room. -/
  | bufferError
  /-- The stream has ended. -/
  | streamEnd
  deriving DecidableEq, Repr

/-- **The last call of an operation.** The stream has ended, or it is not meant to, all input was
taken in and there is room left. -/
def Status.isLast (status : Status) (mode : Mode) (left : Bytes) (roomLeft : Bool) : Bool :=
  match status with
  | .streamEnd => true
  | .ok | .bufferError => left.isEmpty && roomLeft && mode != .finish

/-- What comes of a call. -/
structure Answer (κ : Type) where
  /-- The text of a failure, or what is reported. -/
  result : Except String Status
  state : κ
  out : Bytes

end Compressor

/-- A compressor of deflate streams with states `κ`. -/
class Compressor (κ : Type) where
  /-- The state before any input, at a level from 0 (fast) to 9 (small). -/
  start : (level : Nat) → κ
  /-- A compressor of the given level is set back, in whatever state it is. -/
  reset : (level : Nat) → κ → κ
  /-- After that it is as good as new. -/
  reset_eq : ∀ (level : Nat) (k : κ), reset level k = start level
  /-- How many bytes were taken in since the start. -/
  totalIn : κ → Nat
  /-- A call with some input, and with room for so many bytes of output. -/
  compress : κ → Compressor.Mode → (input : Bytes) → (room : Nat) → Compressor.Answer κ
  /-- No more is given out than there is room for. -/
  length_out_le : ∀ (k : κ) (mode : Compressor.Mode) (input : Bytes) (room : Nat),
    (compress k mode input room).out.length ≤ room
  /-- A call that fails gives out nothing. -/
  out_of_error : ∀ {k : κ} {mode : Compressor.Mode} {input : Bytes} {room : Nat} {message : String},
    (compress k mode input room).result = .error message → (compress k mode input room).out = []

/-! ### Encoders as compressors -/

/-- An encoder whose output is handed out as far as there is room for it. -/
structure Metered (ε : Type) where
  encoder : ε
  /-- Output that there was no room for yet. -/
  pending : Bytes := []
  taken : Nat := 0
  /-- Whether a `sync` would have nothing to add. -/
  synced : Bool := false
  ended : Bool := false

namespace Metered

open Compressor (Mode Status)

variable {ε : Type} [Deflater ε]

/-- All of the input is taken in. -/
def takeIn (m : Metered ε) (input : Bytes) : Metered ε :=
  if input.isEmpty then m
  else
    let (encoder, out) := Deflater.push m.encoder input
    { m with
      encoder
      pending := m.pending ++ out
      taken := m.taken + input.length
      synced := false }

/-- The encoder is asked for what a call is for, once. -/
def ask (m : Metered ε) (mode : Mode) : Metered ε :=
  match mode with
  | .run => m
  | .sync =>
    if m.synced then m
    else
      let (encoder, out) := Deflater.sync m.encoder
      { m with encoder, pending := m.pending ++ out, synced := true }
  | .finish =>
    if m.ended then m
    else
      let (encoder, out) := Deflater.finish m.encoder
      { m with encoder, pending := m.pending ++ out, ended := true }

/-- As much is handed out as there is room for. -/
def handOut (m : Metered ε) (mode : Mode) (room : Nat) : Compressor.Answer (Metered ε) where
  result := .ok (if mode = .finish ∧ m.pending.length ≤ room then .streamEnd else .ok)
  state := { m with pending := m.pending.drop room }
  out := m.pending.take room

theorem takeIn_taken (m : Metered ε) (input : Bytes) :
    (m.takeIn input).taken = m.taken + input.length := by
  unfold takeIn
  split
  · rename_i h
    rw [List.isEmpty_iff.mp h]
    rfl
  · rfl

theorem ask_taken (m : Metered ε) (mode : Mode) : (m.ask mode).taken = m.taken := by
  unfold ask
  split
  · rfl
  · split <;> rfl
  · split <;> rfl

/-- After a flush of the encoder, a flush would have nothing to add. -/
theorem synced_ask (m : Metered ε) : (m.ask .sync).synced = true := by
  simp only [ask]
  split
  · assumption
  · rfl

theorem ended_ask (m : Metered ε) : (m.ask .finish).ended = true := by
  simp only [ask]
  split
  · assumption
  · rfl

/-- What was asked for is not asked for again. -/
theorem ask_drop (m : Metered ε) (mode : Mode) (room : Nat) :
    ({ m.ask mode with pending := (m.ask mode).pending.drop room } : Metered ε).ask mode
      = { m.ask mode with pending := (m.ask mode).pending.drop room } := by
  cases mode with
  | run => rfl
  | sync => exact if_pos m.synced_ask
  | finish => exact if_pos m.ended_ask

instance : Compressor (Metered ε) where
  start level := { encoder := Deflater.start level }
  reset level m := { encoder := Deflater.reset level m.encoder }
  reset_eq level m := by rw [Deflater.reset_eq]
  totalIn m := m.taken
  compress m mode input room := ((m.takeIn input).ask mode).handOut mode room
  length_out_le m mode input room := by
    show (((m.takeIn input).ask mode).pending.take room).length ≤ room
    exact List.length_take_le room _
  out_of_error := by
    intro m mode input room message hfailed
    have hok : (Except.ok _ : Except String Status) = .error message := hfailed
    cases hok

end Metered

end HttpPipeline
