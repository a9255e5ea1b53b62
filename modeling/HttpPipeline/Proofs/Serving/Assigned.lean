import HttpPipeline.Proofs.Response.Spared
import HttpPipeline.Proofs.Serving.Identity
import HttpPipeline.Proofs.Snowflake.Sharing

/-!
# The identifier that a request is given

The stage that assigns identifiers looks at the first value that a client sends along, of which
nothing is known but that it is a field value. Three filters stand in its way: it has to be readable
as text, it has to be short and printable (`isAcceptableId`), and what is chosen has to be a field
value again, or else the response would go without it. They agree (`inboundId?_eq_some_iff`,
`isFieldValue_chooseId`): a value that passes the second passes the first, it is the same bytes when
it is written into the response, and whatever is chosen passes the third.

A value that does not pass is replaced by an identifier of a generator. The generator may have
served anybody before, in any order and over any clock, which is what `Sharing.Reached` says. It is
at the place of the last identifier that it issued, and an issue advances it, so the new identifier
is above all of these (`Sharing.Reached.fresh`) and the generator is not what it was
(`Generator.issue_ne`). With that `Chain.serve_assigns` describes what the stages further in are
given.
-/

namespace HttpPipeline

/-! ### Identifiers from a client -/

/-- **An identifier to be reused**: the first value of the header, if it is 1 to 256 bytes of
printable ASCII. -/
structure Brings (headers : Headers) (value : Bytes) : Prop where
  first : (headers.values idHeader).head? = some value
  nonempty : 1 ≤ value.length
  short : value.length ≤ 256
  printable : ∀ b ∈ value, 0x20 ≤ b ∧ b ≤ 0x7e

theorem Brings.ofString_toAscii {headers : Headers} {value : Bytes} (h : Brings headers value) :
    Bytes.ofString value.toAscii = value := by
  refine Bytes.ofString_toAscii fun b hb => ?_
  exact (UInt8.le_iff_toNat_le.mp (h.printable b hb).2).trans_lt (by decide)

/-- **What is reused** are the bytes that the client sent. The filter for readable text and the one
for printable text come to the same as the latter. -/
theorem inboundId?_eq_some_iff {headers : Headers} {id : String} :
    inboundId? headers = some id ↔ ∃ value, Brings headers value ∧ id = value.toAscii := by
  constructor
  · intro h
    obtain ⟨htext, hacceptable⟩ := Option.filter_eq_some_iff.mp h
    obtain ⟨value, hfirst, hvalue⟩ := Option.bind_eq_some_iff.mp htext
    -- readable text is ASCII, and so is the same in bytes and in characters
    unfold visibleText? at hvalue
    split_ifs at hvalue with hvisible
    obtain rfl := Option.some.inj hvalue
    rw [ofString_toAscii_of_visible hvisible] at hacceptable
    obtain ⟨hnonempty, hshort, hprintable⟩ := isAcceptableId_iff.mp hacceptable
    exact ⟨value, ⟨hfirst, hnonempty, hshort, hprintable⟩, rfl⟩
  · rintro ⟨value, h, rfl⟩
    have hvisible : value.all isVisibleByte = true := by
      refine List.all_eq_true.mpr fun b hb => ?_
      obtain ⟨hlow, hhigh⟩ := h.printable b hb
      have hlt : b < 127 := UInt8.lt_of_le_of_lt hhigh (by decide)
      rw [isVisibleByte, decide_eq_true hlow, decide_eq_true hlt]
      rfl
    have htext : headers.text? idHeader = some value.toAscii := by
      rw [Headers.text?, Headers.get?, h.first, Option.bind_some, visibleText?, if_pos hvisible]
    refine Option.filter_eq_some_iff.mpr ⟨htext, ?_⟩
    rw [h.ofString_toAscii]
    exact isAcceptableId_iff.mpr ⟨h.nonempty, h.short, h.printable⟩

theorem inboundId?_eq_none_iff {headers : Headers} :
    inboundId? headers = none ↔ ¬∃ value, Brings headers value := by
  constructor
  · rintro h ⟨value, hvalue⟩
    rw [inboundId?_eq_some_iff.mpr ⟨value, hvalue, rfl⟩] at h
    exact Option.some_ne_none _ h
  · intro h
    refine Option.eq_none_iff_forall_ne_some.mpr fun id hid => ?_
    obtain ⟨value, hvalue, -⟩ := inboundId?_eq_some_iff.mp hid
    exact h ⟨value, hvalue⟩

theorem chooseId_of_some {headers : Headers} {id : String} (h : inboundId? headers = some id)
    (generator : Generator) (world : World) :
    chooseId generator headers world = (id, generator, world) := by
  rw [chooseId, h]

theorem chooseId_of_none {headers : Headers} (h : inboundId? headers = none)
    (generator : Generator) (world : World) :
    (chooseId generator headers world).1 = (generator.issue world.clock).id.text ∧
      (chooseId generator headers world).2.1 = (generator.issue world.clock).generator := by
  rw [chooseId, h]
  exact ⟨rfl, rfl⟩

/-! ### Identifiers from a generator -/

/-- An issue leaves another generator behind. -/
theorem Generator.issue_ne (g : Generator) (clock : Clock) : (g.issue clock).generator ≠ g := by
  intro h
  obtain ⟨hadv, -⟩ := g.issue_advances clock
  rw [h] at hadv
  rcases hadv.later with ⟨hlt, -⟩ | ⟨-, hnext⟩
  · exact Nat.lt_irrefl _ hlt
  · omega

/-- The text of an identifier is 16 digits in lower case. -/
theorem SnowflakeId.text_digits (id : SnowflakeId) :
    id.text.length = 16 ∧ ∀ c ∈ id.text.toList, c ∈ "0123456789abcdef".toList := by
  rw [text, String.length_ofList, String.toList_ofList]
  refine ⟨Text.length_hex 16 id.value, fun c hc => ?_⟩
  obtain ⟨digit, hdigit, rfl⟩ := Text.mem_hex hc
  have hall : ∀ n < 16, Nat.digitChar n ∈ "0123456789abcdef".toList := by decide
  exact hall digit hdigit

namespace Sharing

variable {κ : Type} {settings : GeneratorSettings} {host : Option Bytes} {clock : Clock}
  {history : Sharing κ}

/-- **A new identifier** is none of those that were issued before, whatever the clock shows. -/
theorem Reached.fresh (h : Reached (start settings host clock) history) (reading : Clock)
    (hlast : (history.generator.issue reading).generator.last < 2 ^ 41) :
    ∀ p ∈ history.issued, p.2.text ≠ (history.generator.issue reading).id.text := by
  obtain ⟨hadv, hid⟩ := history.generator.issue_advances reading
  have hord := h.ordered (start_ordered settings host clock) (hadv.last_le.trans_lt hlast)
  have hnew : (history.generator.issue reading).id
      = (history.generator.issue reading).generator.lastId := by
    rw [hid, ← hadv.machine_eq]
    rfl
  intro p hp heq
  -- the earlier one is not above the last place, and the new one is
  have hlt : p.2.value < (history.generator.issue reading).id.value :=
    calc p.2.value ≤ history.generator.lastId.value := hord.le_lastId p hp
      _ < (history.generator.issue reading).generator.lastId.value :=
        hadv.lastId_lt hord.sequence_le hlast
      _ = (history.generator.issue reading).id.value := congrArg SnowflakeId.value hnew.symm
  have htext := SnowflakeId.text_lt_text_iff.mpr hlt
  rw [heq] at htext
  exact absurd htext (String.lt_irrefl _)

/-- **The history goes on**: whoever holds the lock is served, or else a caller that takes it. -/
theorem Reached.goes_on {start : Sharing κ} (h : Reached start history) (caller : κ)
    (reading : Clock) :
    ∃ later who, Reached start later ∧
      later.generator = (history.generator.issue reading).generator ∧
      later.issued = history.issued ++ [(who, (history.generator.issue reading).id)] := by
  have hclock := h.step (Step.clock reading)
  cases hholder : history.holder with
  | none =>
    have htaken := hclock.step (Step.take caller hholder)
    exact ⟨_, caller, htaken.step (Step.serve rfl), rfl, rfl⟩
  | some who => exact ⟨_, who, hclock.step (Step.serve hholder), rfl, rfl⟩

/-- **What a request is given**, and what it does to the history of the generator. -/
structure Assigns (start history : Sharing κ) (headers : Headers) (id : String)
    (generator : Generator) : Prop where
  /-- What the client sent is taken byte for byte. -/
  reused : ∀ value, Brings headers value → Bytes.ofString id = value
  /-- Anything else is replaced by 16 digits in lower case. -/
  digits : (¬∃ value, Brings headers value) →
    id.length = 16 ∧ ∀ c ∈ id.toList, c ∈ "0123456789abcdef".toList
  /-- These were not issued before, as long as timestamps fit into their 41 bits. -/
  fresh : (¬∃ value, Brings headers value) → generator.last < 2 ^ 41 →
    ∀ p ∈ history.issued, p.2.text ≠ id
  /-- They are issued now. -/
  recorded : (¬∃ value, Brings headers value) → ∃ later who issued, Reached start later ∧
    later.generator = generator ∧ later.issued = history.issued ++ [(who, issued)] ∧
    issued.text = id
  /-- The generator is used if and only if nothing is reused. -/
  used : generator ≠ history.generator ↔ ¬∃ value, Brings headers value

/-- **Choosing** an identifier over any history. -/
theorem Reached.assigns (h : Reached (start settings host clock) history) (caller : κ)
    (headers : Headers) (world : World) :
    Assigns (start settings host clock) history headers
      (chooseId history.generator headers world).1
      (chooseId history.generator headers world).2.1 := by
  cases hinbound : inboundId? headers with
  | some id =>
    obtain ⟨value, hvalue, rfl⟩ := inboundId?_eq_some_iff.mp hinbound
    have hbrings : ∃ value, Brings headers value := ⟨value, hvalue⟩
    rw [chooseId_of_some hinbound]
    refine ⟨fun other hother => ?_, absurd hbrings, absurd hbrings, absurd hbrings, ?_⟩
    · -- there is only one first value
      have hsame : other = value := Option.some.inj (hother.first.symm.trans hvalue.first)
      rw [hsame, hvalue.ofString_toAscii]
    · exact iff_of_false (not_not_intro rfl) (not_not_intro hbrings)
  | none =>
    have hnone := inboundId?_eq_none_iff.mp hinbound
    obtain ⟨hid, hgenerator⟩ := chooseId_of_none hinbound history.generator world
    rw [hid, hgenerator]
    refine ⟨fun value hvalue => absurd ⟨value, hvalue⟩ hnone, fun _ => SnowflakeId.text_digits _,
      fun _ => h.fresh _, fun _ => ?_, iff_of_true (Generator.issue_ne _ _) hnone⟩
    obtain ⟨later, who, hlater, hnext, hissued⟩ := h.goes_on caller world.clock
    exact ⟨later, who, _, hlater, hnext, hissued, rfl⟩

end Sharing

/-! ### What is handed on -/

namespace Chain

variable {τ σ κ : Type} [MemberStream τ] [Sink σ] {settings : GeneratorSettings}
    {host : Option Bytes}
  {clock : Clock} {history : Sharing κ}

/-- **The identifier of a request**, over any history of the generator. The stages further in and
the handler find it in the request, and as the only value of its header in the response, which it
can always be. It is what the client sent if the first value of the header is 1 to 256 bytes of
printable ASCII, and then the generator stays as it is. Otherwise it is an identifier of 16 digits
that the generator has not issued before and issues now. -/
theorem serve_assigns
    (hset : ∀ (w : σ) headers, Sink.headers (Sink.setHeaders w headers) = headers)
    (hreached : Sharing.Reached (.start settings host clock) history) (caller : κ)
    (request : Request) (s : Stack) (w : s.Writer τ σ) (world : World) :
    ∃ (id : String) (generator : Generator) (handed : s.Writer τ σ) (after : World),
      (∀ (inner : List (Stage τ)) (handler : Handler τ σ),
        serve (.requestId history.generator :: inner) handler request s w world =
          let next := serve inner handler { request with id := some id } s handed after
          (next.1, .requestId generator :: next.2)) ∧
      isFieldValue (Bytes.ofString id) = true ∧
      (Sink.headers handed).values idHeader = [Bytes.ofString id] ∧
      Sharing.Assigns (.start settings host clock) history request.headers id generator := by
  let chosen := chooseId history.generator request.headers world
  let handed := Sink.editHeaders w fun h => h.insert idHeader (Bytes.ofString chosen.1)
  have hheaders : Sink.headers handed
      = (Sink.headers w).insert idHeader (Bytes.ofString chosen.1) := by
    rw [s.headers_base, s.base_editHeaders, Sink.editHeaders, hset, ← s.headers_base]
  refine ⟨chosen.1, chosen.2.1, handed, chosen.2.2, fun inner handler => ?_,
    isFieldValue_chooseId _ _ _, ?_, hreached.assigns caller request.headers world⟩
  · exact serve_requestId history.generator inner handler request s w world
  · rw [hheaders]
    exact Headers.values_insert_self _ _ _

/-- Two values are sent along, of which the first is beyond ASCII. The generator has issued an
identifier before, and its clock was set back since. -/
theorem serve_assigns_setBack :
    ∃ (history : Sharing String) (id : String),
      Sharing.Reached (.start { machine := some 7 } none (.standing 5000)) history ∧
      history.issued.map (·.2.text) = ["00000009c4000380"] ∧
      (∀ p ∈ history.issued, p.2.text ≠ id) ∧ id.length = 16 ∧
      let request : Request :=
        { headers := ⟨[("x-request-id", [0xc3, 0xa9]), ("x-request-id", Bytes.ofString "abc")]⟩ }
      let handler : Handler Stored Recorder := fun _ _ w world => .returned [] w world
      let run := serve [.requestId history.generator] handler request .bottom ({} : Recorder) {}
      (Sink.headers run.1.writer).values "x-request-id" = [Bytes.ofString id] := by
  let start : Sharing String := .start { machine := some 7 } none (.standing 5000)
  let taken : Sharing String := { start with holder := some "left" }
  let history : Sharing String := taken.serve "left"
  have htaken : Sharing.Reached start taken :=
    Sharing.Reached.refl.step (Sharing.Step.take (s := start) "left" rfl)
  have hreached : Sharing.Reached start history :=
    htaken.step (Sharing.Step.serve (s := taken) rfl)
  let request : Request :=
    { headers := ⟨[("x-request-id", [0xc3, 0xa9]), ("x-request-id", Bytes.ofString "abc")]⟩ }
  let handler : Handler Stored Recorder := fun _ _ w world => .returned [] w world
  obtain ⟨id, generator, handed, after, hserve, -, hvalues, hassigns⟩ :=
    serve_assigns (τ := Stored) (fun (w : Recorder) headers => rfl) hreached "right" request .bottom
      ({} : Recorder) {}
  -- neither value is visible text, so the request brings no identifier
  have hnone : ¬∃ value, Brings request.headers value := by
    rw [← inboundId?_eq_none_iff]
    decide +kernel
  -- the timestamp is held where it was before the clock was set back
  have hrun := hserve [] handler
  have hgenerator : ({ machine := 7, tolerance := 500, last := 5000, sequence := 1 } : Generator)
      = generator := by
    have hstages : [Stage.requestId { machine := 7, tolerance := 500, last := 5000, sequence := 1 }]
        = [Stage.requestId generator] := congrArg Prod.snd hrun
    exact Stage.requestId.inj (List.head_eq_of_cons_eq hstages)
  refine ⟨history, id, hreached, by decide +kernel, hassigns.fresh hnone ?_,
    (hassigns.digits hnone).1, ?_⟩
  · rw [← hgenerator]
    decide
  · show (Sink.headers (serve _ handler request .bottom _ _).1.writer).values idHeader = _
    rw [hrun]
    exact hvalues

end Chain

end HttpPipeline
