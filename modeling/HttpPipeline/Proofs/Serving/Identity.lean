import HttpPipeline.Proofs.Snowflake.Order
import HttpPipeline.Proofs.Text.Letters
import HttpPipeline.Proofs.Text.Pieces
import HttpPipeline.Serving.Chain

/-!
# The choice of an identifier

Whatever identifier is chosen for a request is acceptable, be it the client's or a new one
(`chooseId_spec`). So it is a value that a response can carry, and the stage that assigns it always
edits the headers of the response (`carryId_chooseId`).
-/

namespace HttpPipeline

theorem isAcceptableId_iff {value : Bytes} :
    isAcceptableId value = true ↔
      1 ≤ value.length ∧ value.length ≤ 256 ∧ ∀ b ∈ value, 0x20 ≤ b ∧ b ≤ 0x7e := by
  have hsome : (!value.isEmpty) = true ↔ 1 ≤ value.length := by
    cases value <;> simp
  rw [isAcceptableId, Bool.and_eq_true, Bool.and_eq_true, hsome, and_assoc, decide_eq_true_eq,
    List.all_eq_true]
  simp only [Bool.and_eq_true, decide_eq_true_eq]
  rfl

/-- An identifier that was generated: its digits are printable. -/
theorem SnowflakeId.text_spec (id : SnowflakeId) :
    isAcceptableId (Bytes.ofString id.text) = true ∧ ∀ c ∈ id.text.toList, isVisible c = true := by
  have hdigits : ∀ digit < 16, 0x20 ≤ (Nat.digitChar digit).toNat ∧
      (Nat.digitChar digit).toNat ≤ 0x7e := by decide
  have hchars : ∀ c ∈ id.digits, 0x20 ≤ c.toNat ∧ c.toNat ≤ 0x7e := by
    intro c hc
    obtain ⟨digit, hdigit, rfl⟩ := Text.mem_hex hc
    exact hdigits digit hdigit
  have hascii : ∀ c ∈ id.digits, c.toNat < 128 :=
    fun c hc => (hchars c hc).2.trans_lt (by decide)
  have hlength : id.digits.length = 16 := Text.length_hex 16 id.value
  rw [text, Bytes.ofString, String.toList_ofList, ofChars_ascii hascii]
  refine ⟨isAcceptableId_iff.mpr ?_, fun c hc => ?_⟩
  · rw [List.length_map, hlength]
    refine ⟨by decide, by decide, fun b hb => ?_⟩
    obtain ⟨c, hc, rfl⟩ := List.mem_map.mp hb
    rw [UInt8.le_iff_toNat_le, UInt8.le_iff_toNat_le, toNat_byte (hascii c hc)]
    exact hchars c hc
  · have hc' := hchars c hc
    simp only [isVisible, Bool.or_eq_true, Bool.and_eq_true, decide_eq_true_eq]
    omega

/-- **The identifier of a request** is acceptable, and can be read from a header as it is. -/
theorem chooseId_spec (generator : Generator) (headers : Headers) (world : World) :
    isAcceptableId (Bytes.ofString (chooseId generator headers world).1) = true ∧
      visibleText? (Bytes.ofString (chooseId generator headers world).1)
        = some (chooseId generator headers world).1 := by
  have hread {id : String} (hid : ∀ c ∈ id.toList, isVisible c = true) :
      visibleText? (Bytes.ofString id) = some id := by
    rw [Bytes.ofString, visibleText?_ofChars hid, String.ofList_toList]
  unfold chooseId
  split
  · rename_i id hinbound
    obtain ⟨htext, hacceptable⟩ := Option.filter_eq_some_iff.mp hinbound
    obtain ⟨value, -, hvalue⟩ := Option.bind_eq_some_iff.mp htext
    exact ⟨hacceptable, hread (isVisible_of_visibleText? hvalue)⟩
  · obtain ⟨hacceptable, hvisible⟩ := (generator.issue world.clock).id.text_spec
    exact ⟨hacceptable, hread hvisible⟩

/-- **Whatever is chosen** can be written into the response. -/
theorem isFieldValue_chooseId (generator : Generator) (headers : Headers) (world : World) :
    isFieldValue (Bytes.ofString (chooseId generator headers world).1) = true := by
  obtain ⟨hacceptable, -⟩ := chooseId_spec generator headers world
  obtain ⟨-, -, hprintable⟩ := isAcceptableId_iff.mp hacceptable
  refine List.all_eq_true.mpr fun b hb => ?_
  obtain ⟨hlow, hhigh⟩ := hprintable b hb
  have hne : b ≠ 127 := by
    rintro rfl
    exact absurd hhigh (by decide)
  rw [decide_eq_true hlow, bne_iff_ne.mpr hne]
  rfl

/-- The response carries the identifier that is chosen. -/
theorem carryId_chooseId {ω : Type} [Sink ω] (generator : Generator) (headers : Headers)
    (world : World) (w : ω) :
    carryId (chooseId generator headers world).1 w
      = Sink.editHeaders w fun h =>
        h.insert idHeader (Bytes.ofString (chooseId generator headers world).1) :=
  if_pos (isFieldValue_chooseId generator headers world)

/-- **Serving** behind the stage that assigns an identifier. -/
theorem Chain.serve_requestId {τ σ : Type} [MemberStream τ] [Sink σ] (generator : Generator)
    (inner : List (Stage τ)) (handler : Handler τ σ) (request : Request) (s : Stack)
    (w : s.Writer τ σ) (world : World) :
    serve (.requestId generator :: inner) handler request s w world =
      let chosen := chooseId generator request.headers world
      let run := serve inner handler { request with id := some chosen.1 } s
        (Sink.editHeaders w fun h => h.insert idHeader (Bytes.ofString chosen.1)) chosen.2.2
      (run.1, .requestId chosen.2.1 :: run.2) := by
  simp only [serve, carryId_chooseId]

end HttpPipeline
