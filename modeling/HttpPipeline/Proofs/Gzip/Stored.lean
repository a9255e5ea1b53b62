import HttpPipeline.Gzip.Encoder
import Mathlib.Data.List.Basic

/-!
# The encoder of stored blocks is correct

`StoredBlocks` gives its input out in stored blocks, and reading stored blocks back gives what
they hold. The proof follows the stream from block to block. `Inflate.Reads` says what the
reader makes of some input from the start of a block on, with any fuel that is enough for
it; one law for each kind of block (`Reads.storedBlock`, `Reads.last`) is all that has to be
known of the reader. A run of the encoder is then a sequence of blocks that hold the input
up to the last `sync`, and the rest of the input is still kept (`StoredBlocks.run_reads`).
-/

namespace HttpPipeline

/-! ### Reading stored blocks -/

namespace Inflate

/-- What the reader makes of some input at the start of a block, after some output. Each
block takes a byte of the input at least, so fuel beyond its length is enough. -/
def Reads (input : Bytes) (out : Array UInt8) (result : Array UInt8 × Ending) : Prop :=
  ∀ fuel, input.length < fuel → blocks fuel ⟨[], input⟩ out = result

/-- The three bits before a stored block. -/
theorem number?_stored (last : Bool) (rest : Bytes) :
    Cursor.number? 3 ⟨[], (if last then 1 else 0) :: rest⟩
      = some (last.toNat, ⟨List.replicate 5 false, rest⟩) := by
  cases last <;> rfl

/-- Two bytes, low byte first, are read as the number they were written for. -/
theorem storedLength_littleEndian {n : Nat} (hn : n ≤ storedLimit) :
    storedLength (UInt8.ofNat (n % 256)) (UInt8.ofNat (n / 256 % 256)) = n := by
  unfold storedLimit at hn
  simp only [storedLength, UInt8.toNat_ofNat']
  omega

/-- One stored block. -/
theorem blocks_storedBlock {data : Bytes} (hdata : data.length ≤ storedLimit) (last : Bool)
    (rest : Bytes) (fuel : Nat) (out : Array UInt8) :
    blocks (fuel + 1) ⟨[], storedBlock last data ++ rest⟩ out
      = if last then (out ++ data, .ended rest) else blocks fuel ⟨[], rest⟩ (out ++ data) := by
  have hbytes : storedBlock last data ++ rest
      = (if last then 1 else 0) :: UInt8.ofNat (data.length % 256) ::
        UInt8.ofNat (data.length / 256 % 256) ::
        UInt8.ofNat ((storedLimit - data.length) % 256) ::
        UInt8.ofNat ((storedLimit - data.length) / 256 % 256) :: (data ++ rest) := by
    simp [storedBlock, Bytes.littleEndian]
  have hsum : storedLimit - data.length + data.length = 65535 := Nat.sub_add_cancel hdata
  have hroom : ¬ data.length + rest.length < data.length := by omega
  rw [hbytes, blocks, number?_stored]
  cases last <;>
    simp [Cursor.align, storedLength_littleEndian hdata,
      storedLength_littleEndian (Nat.sub_le storedLimit data.length), hsum, hroom]

@[simp] theorem length_storedBlock (last : Bool) (data : Bytes) :
    (storedBlock last data).length = data.length + 5 := by
  simp only [storedBlock, List.length_cons, List.length_append, Bytes.length_littleEndian]
  omega

/-- Appending lists to an array, one after the other. -/
theorem appendList_assoc (out : Array UInt8) (a b : Bytes) : out ++ a ++ b = out ++ (a ++ b) := by
  apply Array.ext'
  simp

theorem Reads.nil (out : Array UInt8) : Reads [] out (out, .truncated) := by
  intro fuel hfuel
  obtain ⟨fuel, rfl⟩ := Nat.exists_eq_succ_of_ne_zero (Nat.ne_zero_of_lt hfuel)
  rw [Nat.succ_eq_add_one, blocks]
  rfl

/-- A block before the last one gives out what it holds. -/
theorem Reads.storedBlock {data rest : Bytes} {out : Array UInt8}
    {result : Array UInt8 × Ending} (hdata : data.length ≤ storedLimit)
    (h : Reads rest (out ++ data) result) :
    Reads (storedBlock false data ++ rest) out result := by
  intro fuel hfuel
  obtain ⟨fuel, rfl⟩ := Nat.exists_eq_succ_of_ne_zero (Nat.ne_zero_of_lt hfuel)
  rw [List.length_append, length_storedBlock] at hfuel
  rw [Nat.succ_eq_add_one, blocks_storedBlock hdata]
  exact h fuel (by omega)

/-- The last block ends the stream. -/
theorem Reads.last {data : Bytes} (hdata : data.length ≤ storedLimit) (rest : Bytes)
    (out : Array UInt8) :
    Reads (HttpPipeline.storedBlock true data ++ rest) out (out ++ data, .ended rest) := by
  intro fuel hfuel
  obtain ⟨fuel, rfl⟩ := Nat.exists_eq_succ_of_ne_zero (Nat.ne_zero_of_lt hfuel)
  rw [Nat.succ_eq_add_one, blocks_storedBlock hdata]
  rfl

/-- Data in blocks before the last one. -/
theorem Reads.storedBlocks {rest : Bytes} {result : Array UInt8 × Ending} {data : Bytes}
    {out : Array UInt8} (h : Reads rest (out ++ data) result) :
    Reads (storedBlocks false data ++ rest) out result := by
  fun_induction HttpPipeline.storedBlocks false data generalizing out with
  | case1 data hshort => exact h.storedBlock hshort
  | case2 data hlong ih =>
    rw [List.append_assoc]
    apply Reads.storedBlock (List.length_take_le _ _)
    apply ih
    rwa [appendList_assoc, List.take_append_drop]

/-- Data in blocks up to the last one. -/
theorem Reads.lastBlocks (data rest : Bytes) (out : Array UInt8) :
    Reads (HttpPipeline.storedBlocks true data ++ rest) out (out ++ data, .ended rest) := by
  fun_induction HttpPipeline.storedBlocks true data generalizing out with
  | case1 data hshort => exact Reads.last hshort rest out
  | case2 data hlong ih =>
    rw [List.append_assoc]
    apply Reads.storedBlock (List.length_take_le _ _)
    have hdrop := ih (out ++ data.take storedLimit)
    rwa [appendList_assoc, List.take_append_drop] at hdrop

/-- The reader as a whole. -/
theorem Reads.inflate {input : Bytes} {out : Array UInt8} {ending : Ending}
    (h : Reads input #[] (out, ending)) : inflate input = (out.toList, ending) := by
  rw [HttpPipeline.inflate, h _ (by omega)]

end Inflate

/-! ### The encoder -/

namespace Deflater

variable {ε : Type} [Deflater ε]

theorem run_append (e : ε) (rs ss : List Request) :
    run e (rs ++ ss) = ((run (run e rs).1 ss).1, (run e rs).2 ++ (run (run e rs).1 ss).2) := by
  induction rs generalizing e with
  | nil => rfl
  | cons r rs ih => simp only [List.cons_append, run, ih, List.append_assoc]

end Deflater

namespace StoredBlocks

open Deflater Inflate

theorem start_eq (level : Nat) : (start level : StoredBlocks) = ⟨[], false⟩ := rfl

/-- **A run of the encoder.** Of what was kept before and was pushed since, a first part has
been sent in blocks and the rest is kept. -/
theorem run_reads (rs : List Request) (kept : Bytes) :
    ∃ sent kept', (run (⟨kept, false⟩ : StoredBlocks) rs).1 = ⟨kept', false⟩ ∧
      sent ++ kept' = kept ++ rs.flatMap Request.input ∧
      ∀ rest out result, Reads rest (out ++ sent) result →
        Reads ((run (⟨kept, false⟩ : StoredBlocks) rs).2 ++ rest) out result := by
  induction rs generalizing kept with
  | nil => exact ⟨[], kept, rfl, by simp, fun rest out result h => by simpa [run] using h⟩
  | cons r rs ih =>
    cases r with
    | push data =>
      -- nothing is sent, so the rest of the run begins with more kept
      obtain ⟨sent, kept', hstate, hsplit, hreads⟩ := ih (kept ++ data)
      refine ⟨sent, kept', hstate, ?_, hreads⟩
      rw [hsplit, List.append_assoc]
      rfl
    | sync =>
      -- all that was kept is sent, and the rest of the run begins with nothing
      obtain ⟨sent, kept', hstate, hsplit, hreads⟩ := ih []
      refine ⟨kept ++ sent, kept', hstate, ?_, ?_⟩
      · rw [List.append_assoc, hsplit]
        rfl
      · intro rest out result h
        have hout : (run (⟨kept, false⟩ : StoredBlocks) (.sync :: rs)).2
            = storedBlocks false kept ++ (run (⟨[], false⟩ : StoredBlocks) rs).2 := rfl
        rw [hout, List.append_assoc]
        apply Reads.storedBlocks
        apply hreads
        rwa [appendList_assoc]

/-- **The encoder of stored blocks is correct.** -/
instance : LawfulDeflater StoredBlocks where
  inflate_finish := by
    intro level rs rest
    obtain ⟨sent, kept, hstate, hsplit, hreads⟩ := run_reads rs []
    -- what the run still keeps goes out in the last blocks
    have hread := hreads _ _ _ (Reads.lastBlocks kept rest (#[] ++ sent))
    have hfinish : (finish (run (start level : StoredBlocks) rs).1).2 = storedBlocks true kept := by
      rw [start_eq, hstate]
      rfl
    simp only
    rw [hfinish, List.append_assoc, start_eq, hread.inflate]
    simpa using hsplit
  inflate_sync := by
    intro level rs
    obtain ⟨sent, kept, hstate, hsplit, hreads⟩ := run_reads rs []
    have hread := hreads _ _ _ (Reads.storedBlocks (Reads.nil (#[] ++ sent ++ kept)))
    rw [start_eq, run_append, hstate]
    have hlast : (run (⟨kept, false⟩ : StoredBlocks) [.sync]).2
        = storedBlocks false kept ++ [] := rfl
    rw [hlast, hread.inflate]
    simpa using hsplit

end StoredBlocks

end HttpPipeline
