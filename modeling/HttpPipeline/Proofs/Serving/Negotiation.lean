import HttpPipeline.Proofs.Http.CodingLists
import HttpPipeline.Proofs.Serving.Handing

/-!
# Who is served compressed

Whether a response is compressed depends on the lists of codings that the request carries. A list
that names `gzip` and never with a weight of zero is served compressed, and one that does not name
it is not. A weight of zero is heeded if it is the first that its field says about `gzip`, and the
first that every other field says too (`Chain.serve_negotiates`). A later one is not, and then it
can matter how a list is divided into fields (`AcceptEncoding.division_iff`,
`Chain.serve_refused`).
-/

namespace HttpPipeline

namespace AcceptEncoding

variable {members : List Member} {lists : List (List Member)}

theorem accepted_iff :
    accepted members = true ↔ ∃ m, members.find? Member.names = some m ∧ m.refuses = false := by
  rw [accepted, Option.any_eq_true]
  simp only [Bool.not_eq_true']

/-- A list is not accepted if all it says of `gzip` is that it is refused. -/
theorem not_accepted (h : ∀ m ∈ members, m.names = true → m.refuses = true) :
    accepted members = false := by
  rw [← Bool.not_eq_true, accepted_iff]
  rintro ⟨m, hfind, hrefuses⟩
  have hnames : m.names = true := by simpa using List.find?_some hfind
  exact Bool.false_ne_true (hrefuses.symm.trans (h m (List.mem_of_find?_eq_some hfind) hnames))

/-- **Lists that name `gzip`** and do not refuse it. -/
theorem any_accepted (hnames : ∃ m ∈ lists.flatten, m.names = true)
    (hrefuses : ∀ m ∈ lists.flatten, m.names = true → m.refuses = false) :
    lists.any accepted = true := by
  obtain ⟨m, hm, hname⟩ := hnames
  obtain ⟨members, hmembers, hmem⟩ := List.mem_flatten.mp hm
  obtain ⟨first, hfirst⟩ := Option.isSome_iff_exists.mp
    (List.find?_isSome.mpr ⟨m, hmem, hname⟩)
  refine List.any_eq_true.mpr ⟨members, hmembers, accepted_iff.mpr ⟨first, hfirst, ?_⟩⟩
  exact hrefuses first (List.mem_flatten.mpr ⟨members, hmembers, List.mem_of_find?_eq_some hfirst⟩)
    (by simpa using List.find?_some hfirst)

/-- **Lists that do nothing but refuse**, if they name `gzip` at all. -/
theorem not_any_accepted (h : ∀ m ∈ lists.flatten, m.names = true → m.refuses = true) :
    lists.any accepted = false := by
  refine List.any_eq_false.mpr fun members hmembers => ?_
  rw [Bool.not_eq_true]
  exact not_accepted fun m hm => h m (List.mem_flatten.mpr ⟨members, hmembers, hm⟩)

/-- No list is accepted if in each the first member that names `gzip` refuses it. -/
theorem not_any_accepted_iff :
    lists.any accepted = false ↔
      ∀ members ∈ lists, ∀ m, members.find? Member.names = some m → m.refuses = true := by
  simp only [List.any_eq_false, accepted_iff, not_exists, not_and, Bool.not_eq_false]

/-- What one field accepts is accepted however it is divided. -/
theorem any_accepted_of_flatten (h : accepted lists.flatten = true) :
    lists.any accepted = true := by
  obtain ⟨m, hfind, hrefuses⟩ := accepted_iff.mp h
  rw [List.find?_flatten] at hfind
  obtain ⟨members, hmembers, hfirst⟩ := List.exists_of_findSome?_eq_some hfind
  exact List.any_eq_true.mpr ⟨members, hmembers, accepted_iff.mpr ⟨m, hfirst, hrefuses⟩⟩

/-- **Dividing a list into fields** makes no difference if it is accepted in one field or if it
does nothing but refuse, and otherwise it does. -/
theorem division_iff (members : List Member) :
    (∀ lists headers, Written lists headers → lists.flatten = members →
        requestAcceptsGzip headers = accepted members) ↔
      accepted members = true ∨ ∀ m ∈ members, m.names = true → m.refuses = true := by
  constructor
  · intro h
    by_contra hneither
    push Not at hneither
    obtain ⟨hrefused, m, hm, hnames, hrefuses⟩ := hneither
    -- a member to a field
    obtain ⟨headers, hwritten⟩ := exists_written (members.map fun m => [m])
    have hsame := h _ headers hwritten (List.flatMap_singleton' members)
    rw [requestAcceptsGzip_written hwritten] at hsame
    refine hrefused (hsame ▸ List.any_eq_true.mpr ⟨[m], List.mem_map_of_mem hm, ?_⟩)
    exact accepted_iff.mpr ⟨m, by simp [hnames], by simpa using hrefuses⟩
  · rintro h lists headers hwritten rfl
    rw [requestAcceptsGzip_written hwritten]
    rcases h with haccepted | hrefuses
    · rw [haccepted, any_accepted_of_flatten haccepted]
    · rw [not_accepted hrefuses, not_any_accepted hrefuses]

end AcceptEncoding

/-! ### Layers that compress -/

/-- How many layers of a tower compress. -/
def Stack.compressors : Stack → ℕ
  | .bottom => 0
  | .status below | .commit below | .pass below => below.compressors
  | .gzip below => below.compressors + 1

/-- Whether a stage compresses for those who accept it. -/
def Stage.offersGzip {τ : Type} : Stage τ → Bool
  | .compression .. => true
  | _ => false

namespace Chain

open AcceptEncoding

variable {τ σ : Type} [MemberStream τ] [Sink σ] {request : Request} {world : World}

/-- **The layers that a handler is given**: one for each stage that offers to compress if the
request accepts that, and otherwise none. -/
theorem entry_compressors {stages : List (Stage τ)} {s : Stack} {w : s.Writer τ σ}
    {e : Entry τ σ s} (h : entry stages request s w world = some e) :
    e.shape.compressors = s.compressors +
      if requestAcceptsGzip request.headers then stages.countP Stage.offersGzip else 0 := by
  -- on the stages: a stage may put a layer around the writer, and only compression's layer counts
  induction stages generalizing request s w world with
  | nil =>
    obtain rfl := Option.some.inj h
    simp
  | cons stage inner ih =>
    cases stage with
    | recovery =>
      obtain ⟨e', he', rfl⟩ := Option.map_eq_some_iff.mp h
      have hinner := ih he'
      exact hinner
    | requestId generator =>
      simp only [entry] at h
      have hinner := ih h
      exact hinner
    | logging =>
      obtain ⟨e', he', rfl⟩ := Option.map_eq_some_iff.mp h
      have hinner := ih he'
      exact hinner
    | cors policy =>
      simp only [entry] at h
      split at h
      · exact ih h
      · split_ifs at h
        exact ih h
    | rateLimit bucket =>
      simp only [entry] at h
      split at h
      · exact ih h
      · exact absurd h (by simp)
    | compression minSize pool =>
      simp only [entry] at h
      split_ifs at h with haccepts
      · obtain ⟨e', he', rfl⟩ := Option.map_eq_some_iff.mp h
        have hinner := ih he'
        rw [if_pos haccepts] at hinner ⊢
        rw [List.countP_cons_of_pos rfl]
        exact hinner.trans (Nat.add_right_comm _ _ _)
      · have hinner := ih h
        rw [if_neg haccepts] at hinner ⊢
        exact hinner
    | custom stage =>
      simp only [entry] at h
      split at h
      · exact absurd h (by simp)
      · have hinner := ih h
        exact hinner

/-- **Who is served compressed.** A request carries lists of codings. If it accepts `gzip`, a stage
that compresses puts a layer in front of the response, and otherwise it only announces what it goes
by; so the handler of a whole chain is given layers that compress, or none.

A request that names `gzip` and never refuses it accepts it, and one that does not name it does
not. A request does not accept it either if it is refused by the first member of each list that
names it, and only then. How a list is divided into fields makes no difference, unless it refuses
`gzip` first and names it again without refusing it. -/
theorem serve_negotiates {lists : List (List Member)} (hwritten : Written lists request.headers)
    (minSize : Nat) (pool : EncoderPool τ) (inner : List (Stage τ)) (handler : Handler τ σ)
    (s : Stack) (w : s.Writer τ σ) (world : World) :
    let accepts := requestAcceptsGzip request.headers
    let members := lists.flatten
    (serve (.compression minSize pool :: inner) handler request s w world).1
        = (if accepts then
            (Compression.leave pool.acquire.2 (serve inner handler request (.gzip s)
              (GzipLayer.around (Compression.announce w) pool.acquire.1 minSize) world).1).1
          else (serve inner handler request s (Compression.announce w) world).1) ∧
      (∀ (stages : List (Stage τ)) (e : Entry τ σ s), entry stages request s w world = some e →
        e.shape.compressors
          = s.compressors + if accepts then stages.countP Stage.offersGzip else 0) ∧
      ((∃ m ∈ members, m.names = true) → (∀ m ∈ members, m.names = true → m.refuses = false) →
        accepts = true) ∧
      ((∀ m ∈ members, m.names = false) → accepts = false) ∧
      (accepts = false ↔
        ∀ list ∈ lists, ∀ m, list.find? Member.names = some m → m.refuses = true) ∧
      ((∀ lists headers, Written lists headers → lists.flatten = members →
          requestAcceptsGzip headers = accepted members) ↔
        accepted members = true ∨ ∀ m ∈ members, m.names = true → m.refuses = true) := by
  intro accepts members
  have haccepts : accepts = lists.any accepted := requestAcceptsGzip_written hwritten
  refine ⟨?_, fun stages e => entry_compressors, fun hnames hrefuses => ?_, fun hnames => ?_, ?_,
    division_iff members⟩
  · by_cases h : accepts = true
    · rw [if_pos h]
      exact serve_compressing h inner handler s w
    · rw [if_neg h]
      exact serve_announcing h inner handler s w
  · rw [haccepts, any_accepted hnames hrefuses]
  · rw [haccepts]
    exact not_any_accepted fun m hm hname =>
      absurd (hname.symm.trans (hnames m hm)) Bool.true_eq_false.mp
  · rw [haccepts, not_any_accepted_iff]

/-- A client that prefers something else to `gzip`. Its response goes through one layer. -/
theorem serve_negotiates_weighted :
    let request : Request :=
      { headers := ⟨[("accept-encoding", Bytes.ofString "br, GZIP ; q=0.5")]⟩ }
    let stages : List (Stage Stored) := [.compression 4 (.ofSettings 6 1)]
    let sink : Stack.bottom.Writer Stored Recorder := ({} : Recorder)
    ∃ e, entry stages request .bottom sink {} = some e ∧ e.shape.compressors = 1 := by
  intro request stages sink
  obtain ⟨e, hentry⟩ : ∃ e, entry stages request .bottom sink {} = some e :=
    Option.isSome_iff_exists.mp (by decide +kernel)
  let brotli : Member := { coding := "br".toList }
  let gzip : Member := { coding := "GZIP".toList, weight := some { decimals := some [5] } }
  -- the header as the two members that it lists
  have hwrites : Writes [brotli, gzip] "br, GZIP ; q=0.5".toList := by
    refine ⟨["br".toList, " GZIP ; q=0.5".toList], .cons (Padded.refl _) (.cons ?_ .nil), by decide⟩
    exact ⟨" GZIP ".toList, 'q', " q".toList, "0.5".toList, ⟨[' '], [' '], by simp, rfl⟩, .inl rfl,
      ⟨[' '], [], by simp, rfl⟩, Padded.refl _, rfl⟩
  have hwritten : Written [[brotli, gzip]] request.headers := .cons ⟨_, hwrites, rfl⟩ .nil
  obtain ⟨-, hlayers, haccepts, -⟩ := serve_negotiates hwritten 4 (.ofSettings 6 1) []
    (Script.handler []) .bottom sink {}
  have hneither : ∀ m ∈ [brotli, gzip], m.names = true → m.refuses = false :=
    List.forall_mem_cons.mpr ⟨by decide, List.forall_mem_singleton.mpr (by decide)⟩
  have haccepts' := haccepts ⟨gzip, by simp, by decide⟩ hneither
  refine ⟨e, hentry, ?_⟩
  rw [hlayers stages e hentry, if_pos haccepts']
  rfl

/-- **A weight of zero that is not heeded.** A list names `gzip` and then refuses it, and a layer
that compresses is put in front of the response. If it refuses `gzip` first, there is such a layer
or not, as the list is divided into fields. -/
theorem serve_refused :
    let gzip : Member := { coding := "gzip".toList }
    let refused : Member := { coding := "gzip".toList, weight := some {} }
    let stages : List (Stage Stored) := [.compression 4 (.ofSettings 6 1)]
    let sink : Stack.bottom.Writer Stored Recorder := ({} : Recorder)
    let later : Headers := ⟨[("accept-encoding", Bytes.ofString "gzip, gzip;q=0")]⟩
    let joined : Headers := ⟨[("accept-encoding", Bytes.ofString "gzip;q=0, gzip")]⟩
    let divided : Headers := ⟨[("accept-encoding", Bytes.ofString "gzip;q=0"),
      ("accept-encoding", Bytes.ofString "gzip")]⟩
    let layers (headers : Headers) : Option ℕ :=
      (entry stages { headers } .bottom sink {}).map fun e => e.shape.compressors
    refused.names = true ∧ refused.refuses = true ∧
      Written [[gzip, refused]] later ∧ layers later = some 1 ∧
      Written [[refused, gzip]] joined ∧ layers joined = some 0 ∧
      Written [[refused], [gzip]] divided ∧ layers divided = some 1 := by
  intro gzip refused stages sink later joined divided layers
  have hplain : gzip.Writes "gzip".toList := Padded.refl _
  have hspaced : gzip.Writes " gzip".toList := ⟨[' '], [], by simp, rfl⟩
  have hzero : refused.Writes "gzip;q=0".toList :=
    ⟨"gzip".toList, 'q', ['q'], ['0'], Padded.refl _, .inl rfl, Padded.refl _, Padded.refl _, rfl⟩
  have hspacedZero : refused.Writes " gzip;q=0".toList :=
    ⟨" gzip".toList, 'q', ['q'], ['0'], ⟨[' '], [], by simp, rfl⟩, .inl rfl, Padded.refl _,
      Padded.refl _, rfl⟩
  have hlater : Written [[gzip, refused]] later :=
    .cons ⟨_, ⟨_, .cons hplain (.cons hspacedZero .nil), rfl⟩, rfl⟩ .nil
  have hjoined : Written [[refused, gzip]] joined :=
    .cons ⟨_, ⟨_, .cons hzero (.cons hspaced .nil), rfl⟩, rfl⟩ .nil
  have hdivided : Written [[refused], [gzip]] divided :=
    .cons ⟨_, ⟨_, .cons hzero .nil, rfl⟩, rfl⟩ (.cons ⟨_, ⟨_, .cons hplain .nil, rfl⟩, rfl⟩ .nil)
  exact ⟨by decide, by decide, hlater, by decide +kernel, hjoined, by decide +kernel, hdivided,
    by decide +kernel⟩

end Chain

end HttpPipeline
