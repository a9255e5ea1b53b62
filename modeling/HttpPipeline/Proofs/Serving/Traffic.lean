import HttpPipeline.Proofs.Gzip.Reuse
import HttpPipeline.Proofs.Serving.Alike
import HttpPipeline.Response.Polled
import HttpPipeline.Serving.Traffic
import Mathlib.Data.List.Perm.Basic

/-!
# A shared pool does not show

A stream comes back to its pool in whatever state the request has left it, in the middle of a
block, without a trailer, or with output that its sink has not taken. It is reset, and what a reset
leaves are the level, which is that of the pool, and the room in the buffer, which makes no
difference to any operation. So what waits in the pool is as new, and whoever takes it might as well
have made a stream of its own.

That nobody can tell is a matter of two runs. With a stream from the pool and with a new one, a
request meets two towers that are the same but for these streams, and neither its handler nor any
stage tells them apart (`Visit.settle_serveWith`).

This is so after any history (`Traffic.history_isolates`): nothing that a request sends, and
nothing else that comes of it, depends on the requests before it or beside it.
-/

namespace HttpPipeline

open ChunkedStream (InUse)

variable {κ σ : Type} [Compressor κ] [Sink σ] {level : Nat}

/-! ### One request -/

namespace Visit

variable (v : Visit κ σ)

/-- Of two towers with a request's layer somewhere in them, the streams of that layer are not told
apart, and all others are the same. -/
def Twins (level n : Nat) : InUse κ → InUse κ → Prop :=
  if n = v.shape.height then InUse.Twin level else Eq

theorem twins (n : Nat) : MemberStream.Twins (v.Twins level n) := by
  unfold Twins
  split_ifs
  · exact InUse.twins
  · exact MemberStream.twins_eq

theorem twins_below {n : Nat} (hn : n < v.shape.height) : v.Twins level n = Eq :=
  if_neg (Nat.ne_of_lt hn)

theorem twins_beyond {n : Nat} (hn : v.shape.height < n) : v.Twins level n = Eq :=
  if_neg (Nat.ne_of_gt hn)

/-- **A stream from the pool serves as well as a new one.** What comes of a request is the same, and
the streams that it leaves are not told apart. -/
theorem settle_serveWith {stream : ChunkedStream κ} (h : stream.AsNew level) :
    (Compression.settle (v.serveWith stream)).1
        = (Compression.settle (v.serveWith (.new level))).1 ∧
      InUse.Twin level (Compression.settle (v.serveWith stream)).2
        (Compression.settle (v.serveWith (.new level))).2 := by
  have hself (n : Nat) (hn : n ≥ v.shape.height + 1) (x : InUse κ) : v.Twins level n x x := by
    rw [v.twins_beyond hn]
  have hwriter : v.shape.Alike (v.Twins level) Eq (Compression.announce v.writer)
      (Compression.announce v.writer) :=
    Stack.alike_refl (fun n hn x => by rw [v.twins_below hn]) rfl
  have hstreams : v.Twins level v.shape.height (.ready stream) (.ready (.new level)) := by
    rw [Twins, if_pos rfl]
    exact .asNew h (ChunkedStream.asNew_new level)
  -- the two towers that the stages further in are given
  have htowers : (Stack.gzip v.shape).Alike (v.Twins level) Eq
      (GzipLayer.around (Compression.announce v.writer) (.ready stream) v.minSize)
      (GzipLayer.around (Compression.announce v.writer) (.ready (.new level)) v.minSize) :=
    .mk hstreams hwriter
  have hserve := Chain.serve_alike v.twins Sink.mirrors_eq v.conduct v.inner v.request
    (s := .gzip v.shape) v.world hself htowers
  obtain ⟨hrun, hleft⟩ := Compression.settle_alike (v.twins v.shape.height)
    (Stack.mirrors v.twins Sink.mirrors_eq v.shape) hserve
  have hsame := hrun.writer.eq fun n hn x x' hx => by rwa [v.twins_below hn] at hx
  rw [Twins, if_pos rfl] at hleft
  exact ⟨Run.Alike.eq ⟨hrun.ending, hrun.replies, hrun.world, hsame⟩, hleft⟩

/-- Alone, a request is served with a new stream if it needs one. -/
theorem alone_of_compresses (h : v.compresses = true) (level maxIdle : Nat) :
    v.alone level maxIdle = (Compression.settle (v.serveWith (.new (min level 9)))).1 := by
  have haccepts : AcceptEncoding.requestAcceptsGzip v.request.headers = true := h
  unfold alone
  simp only [Chain.serve]
  rw [if_pos haccepts]
  rfl

theorem alone_of_not_compresses (h : ¬v.compresses = true) (level maxIdle : Nat) :
    v.alone level maxIdle = v.servePlain := by
  have haccepts : ¬AcceptEncoding.requestAcceptsGzip v.request.headers = true := h
  unfold alone
  simp only [Chain.serve]
  rw [if_neg haccepts]
  rfl

end Visit

namespace Traffic

variable {maxIdle : Nat} {visits : List (Visit κ σ)} {t : Traffic κ σ}

/-! ### The pool in good order -/

/-- **A pool in good order**, after some requests have arrived. -/
structure Sound (level maxIdle : Nat) (visits : List (Visit κ σ)) (t : Traffic κ σ) : Prop where
  ofLevel : t.pool.level = min level 9
  ofSize : t.pool.maxIdle = maxIdle
  idle : ∀ stream ∈ t.pool.idle, stream.AsNew (min level 9)
  bounded : t.pool.idle.length ≤ maxIdle
  /-- Each idle stream has a serial number. -/
  numbered : t.idle.length = t.pool.idle.length
  /-- No stream is idle or lent out twice, or both. -/
  distinct : (t.idle ++ t.flights.map Flight.serial).Nodup
  known : ∀ serial ∈ t.idle ++ t.flights.map Flight.serial, serial < t.made
  lent : ∀ flight ∈ t.flights,
    flight.visit.compresses = true ∧ flight.stream.AsNew (min level 9)
  served : ∀ request ∈ t.served, request.run = request.visit.alone level maxIdle
  /-- Who has arrived is on the way, was served or was stopped. -/
  arrived : (t.served.map Served.visit ++ t.stopped ++ t.flights.map Flight.visit).Perm visits

namespace Sound

theorem start (level maxIdle : Nat) :
    Sound level maxIdle [] ({ pool := .ofSettings level maxIdle } : Traffic κ σ) :=
  ⟨rfl, rfl, by simp [EncoderPool.ofSettings], Nat.zero_le _, rfl, List.nodup_nil, by simp,
    by simp, by simp, .nil⟩

/-- **A request takes off** with a new stream, under a number that no other request has. -/
theorem takeOff (h : Sound level maxIdle visits t) {v : Visit κ σ} (hv : v.compresses = true)
    (pool : EncoderPool (ChunkedStream κ)) (hlevel : pool.level = t.pool.level)
    (hsize : pool.maxIdle = t.pool.maxIdle) (hstreams : pool.idle.Sublist t.pool.idle)
    {stream : ChunkedStream κ} (hstream : stream.AsNew (min level 9))
    {serial made : Nat} {idle : List Nat} (hnumbered : idle.length = pool.idle.length)
    (hdistinct : (serial :: (idle ++ t.flights.map Flight.serial)).Nodup)
    (hknown : ∀ n ∈ serial :: (idle ++ t.flights.map Flight.serial), n < made) :
    Sound level maxIdle (visits ++ [v])
      { t with pool, idle, made, flights := t.flights ++ [⟨v, serial, stream⟩] } := by
  -- the number goes from the front to the end
  have hserials : (idle ++ (t.flights ++ [(⟨v, serial, stream⟩ : Flight κ σ)]).map
      Flight.serial).Perm (serial :: (idle ++ t.flights.map Flight.serial)) := by
    rw [List.map_append, ← List.append_assoc]
    exact List.perm_append_singleton serial _
  refine ⟨hlevel.trans h.ofLevel, hsize.trans h.ofSize, fun s hs => h.idle s (hstreams.subset hs),
    Nat.le_trans hstreams.length_le h.bounded, hnumbered, hserials.nodup_iff.mpr hdistinct,
    fun n hn => hknown n (hserials.mem_iff.mp hn), fun flight hflight => ?_, h.served, ?_⟩
  · rcases List.mem_append.mp hflight with hold | hnew
    · exact h.lent flight hold
    · rw [List.mem_singleton.mp hnew]
      exact ⟨hv, hstream⟩
  · rw [List.map_append, ← List.append_assoc]
    exact h.arrived.append_right [v]

/-- **A request arrives.** -/
theorem arrive (h : Sound level maxIdle visits t) (v : Visit κ σ) :
    Sound level maxIdle (visits ++ [v]) (t.arrive v) := by
  by_cases hv : v.compresses = true
  · have hnumbered := h.numbered
    have hdistinct := h.distinct
    have hknown := h.known
    rw [Traffic.arrive, if_pos hv]
    cases hidle : t.idle with
    | nil =>
      rw [hidle] at hnumbered hdistinct hknown
      -- a stream is made, and its number is beyond all others
      have hacquire : t.pool.acquire = (.new t.pool.level, t.pool) := by
        rw [EncoderPool.acquire, List.eq_nil_of_length_eq_zero hnumbered.symm]
        rfl
      rw [hacquire]
      refine h.takeOff hv t.pool rfl rfl (List.Sublist.refl _) 
        (h.ofLevel ▸ ChunkedStream.asNew_new t.pool.level) hnumbered ?_ ?_
      · exact List.nodup_cons.mpr ⟨fun hmem => absurd (hknown _ hmem) (Nat.lt_irrefl _), hdistinct⟩
      · intro n hn
        rcases List.mem_cons.mp hn with rfl | hn
        · exact Nat.lt_succ_self _
        · exact Nat.lt_succ_of_lt (hknown n hn)
    | cons serial idle =>
      rw [hidle] at hnumbered hdistinct hknown
      -- the first of the idle streams is lent
      obtain ⟨stream, streams, hpool⟩ : ∃ stream streams, t.pool.idle = stream :: streams :=
        List.exists_cons_of_length_eq_add_one hnumbered.symm
      have hacquire : t.pool.acquire = (stream, { t.pool with idle := streams }) := by
        rw [EncoderPool.acquire, hpool]
      have hstreams : streams.Sublist t.pool.idle := by
        rw [hpool]
        exact List.sublist_cons_self stream streams
      have hnew := h.idle stream (hpool ▸ List.mem_cons_self)
      rw [hpool] at hnumbered
      rw [hacquire]
      exact h.takeOff hv { t.pool with idle := streams } rfl rfl hstreams hnew
        (Nat.succ.inj hnumbered) hdistinct hknown
  · rw [Traffic.arrive, if_neg hv]
    refine ⟨h.ofLevel, h.ofSize, h.idle, h.bounded, h.numbered, h.distinct, h.known, h.lent,
      fun request hrequest => ?_, ?_⟩
    · rcases List.mem_append.mp hrequest with hold | hnew
      · exact h.served request hold
      · rw [List.mem_singleton.mp hnew]
        exact (v.alone_of_not_compresses hv level maxIdle).symm
    · -- the request goes from the middle to the end
      rw [List.map_append, List.append_assoc, List.append_assoc]
      refine (List.Perm.append_left _ List.perm_append_comm).trans ?_
      rw [← List.append_assoc, ← List.append_assoc]
      exact h.arrived.append_right [v]

/-- A stream that is as new after a reset is so once it has come back. -/
theorem release (h : Sound level maxIdle visits t) {stream : ChunkedStream κ}
    (hstream : stream.reset.AsNew (min level 9)) :
    (∀ s ∈ (t.pool.release stream).idle, s.AsNew (min level 9)) ∧
      (t.pool.release stream).idle.length ≤ maxIdle ∧
      (t.pool.release stream).idle.length
        = if t.pool.idle.length < t.pool.maxIdle then t.pool.idle.length + 1
          else t.pool.idle.length := by
  unfold EncoderPool.release
  split_ifs with hroom
  · refine ⟨fun s hs => ?_, ?_, rfl⟩
    · rcases List.mem_cons.mp hs with rfl | hold
      · exact hstream
      · exact h.idle s hold
    · rw [h.ofSize] at hroom
      exact hroom
  · exact ⟨h.idle, h.bounded, rfl⟩

/-- **A stream comes back** from a request that was served or stopped. -/
theorem land (h : Sound level maxIdle visits t) {place : Nat} {flight : Flight κ σ}
    (hflight : t.flights[place]? = some flight) {stream : ChunkedStream κ}
    (hstream : stream.reset.AsNew (min level 9)) {served : List (Served κ σ)}
    {stopped : List (Visit κ σ)}
    (hserved : ∀ request ∈ served, request.run = request.visit.alone level maxIdle)
    (hgone : (served.map Served.visit ++ stopped).Perm
      (t.served.map Served.visit ++ t.stopped ++ [flight.visit])) :
    Sound level maxIdle visits
      { t.land place flight stream with served, stopped } := by
  obtain ⟨hplace, rfl⟩ := List.getElem?_eq_some_iff.mp hflight
  set flight := t.flights[place]
  have hothers : (flight :: t.flights.eraseIdx place).Perm t.flights :=
    List.getElem_cons_eraseIdx_perm hplace
  obtain ⟨hidle, hbounded, hlength⟩ := h.release hstream
  have hsettings : (t.pool.release stream).level = t.pool.level ∧
      (t.pool.release stream).maxIdle = t.pool.maxIdle := by
    unfold EncoderPool.release
    split_ifs <;> exact ⟨rfl, rfl⟩
  -- the number of the stream is idle now, or is not used any more
  have hserials : (flight.serial :: (t.idle ++ (t.flights.eraseIdx place).map Flight.serial)).Perm
      (t.idle ++ t.flights.map Flight.serial) :=
    List.perm_middle.symm.trans (List.Perm.append_left _ (hothers.map Flight.serial))
  have hnow : ((if t.pool.idle.length < t.pool.maxIdle then flight.serial :: t.idle else t.idle)
      ++ (t.flights.eraseIdx place).map Flight.serial).Sublist
      (flight.serial :: (t.idle ++ (t.flights.eraseIdx place).map Flight.serial)) := by
    split_ifs
    · exact List.Sublist.refl _
    · exact List.sublist_cons_self _ _
  refine ⟨hsettings.1.trans h.ofLevel, hsettings.2.trans h.ofSize, hidle, hbounded, ?_,
    (hserials.nodup_iff.mpr h.distinct).sublist hnow,
    fun serial hserial => h.known serial (hserials.mem_iff.mp (hnow.subset hserial)),
    fun other hother => h.lent other (hothers.subset (List.mem_cons_of_mem _ hother)),
    hserved, ?_⟩
  · show (if t.pool.idle.length < t.pool.maxIdle then flight.serial :: t.idle else t.idle).length
      = (t.pool.release stream).idle.length
    rw [hlength]
    split_ifs
    · exact congrArg Nat.succ h.numbered
    · exact h.numbered
  · -- the request goes from those on the way to those that are gone
    refine (hgone.append_right _).trans (List.Perm.trans ?_ h.arrived)
    rw [List.append_assoc]
    exact List.Perm.append_left _ (hothers.map Flight.visit)

/-- **A request leaves**, with what comes of it alone. -/
theorem leave (h : Sound level maxIdle visits t) (place : Nat) :
    Sound level maxIdle visits (t.leave place) := by
  unfold Traffic.leave
  cases hflight : t.flights[place]? with
  | none => exact h
  | some flight =>
    obtain ⟨hcompresses, hlent⟩ := h.lent flight (List.mem_of_getElem? hflight)
    obtain ⟨hrun, hleft⟩ := flight.visit.settle_serveWith hlent
    rw [← flight.visit.alone_of_compresses hcompresses level maxIdle] at hrun
    simp only
    rcases hsettle : Compression.settle (flight.visit.serveWith flight.stream)
      with ⟨run, stream | _⟩
    · rw [hsettle] at hrun hleft
      -- the stream that comes back fits, so that it is as new after its reset
      have hstream : stream.reset.AsNew (min level 9) := hleft.fits.reset
      refine h.land hflight hstream (fun request hrequest => ?_) ?_
      · rcases List.mem_append.mp hrequest with hold | hnew
        · exact h.served request hold
        · rw [List.mem_singleton.mp hnew]
          exact hrun
      · rw [List.map_append, List.append_assoc, List.append_assoc]
        exact List.Perm.append_left _ List.perm_append_comm
    · exact h

/-- **A request is stopped.** -/
theorem stop (h : Sound level maxIdle visits t) (place : Nat) (wreck : ChunkedStream κ)
    (grown : Bool) : Sound level maxIdle visits (t.stop place wreck grown) := by
  unfold Traffic.stop
  cases hflight : t.flights[place]? with
  | none => exact h
  | some flight =>
    have hlevel := (h.lent flight (List.mem_of_getElem? hflight)).2.level_eq
    let stream : ChunkedStream κ := { wreck with
      level := flight.stream.level
      capacity := if grown then 2 * ChunkedStream.chunk else ChunkedStream.chunk }
    have hcapacity : stream.capacity = ChunkedStream.chunk ∨
        stream.capacity = 2 * ChunkedStream.chunk := by
      cases grown
      · exact .inl rfl
      · exact .inr rfl
    have hstream : stream.reset.AsNew (min level 9) := ChunkedStream.reset_asNew hlevel hcapacity
    exact h.land hflight hstream h.served (.of_eq (List.append_assoc _ _ _).symm)

/-- **One event.** -/
theorem next (h : Sound level maxIdle visits t) (event : Event κ σ) :
    Sound level maxIdle (visits ++ arrivals [event]) (t.next event) := by
  cases event with
  | arrives visit => exact h.arrive visit
  | leaves place =>
    have hleft := h.leave place
    rwa [← List.append_nil visits] at hleft
  | stops place wreck grown =>
    have hstopped := h.stop place wreck grown
    rwa [← List.append_nil visits] at hstopped

/-- **Any number of events.** -/
theorem foldl (h : Sound level maxIdle visits t) (events : List (Event κ σ)) :
    Sound level maxIdle (visits ++ arrivals events) (events.foldl Traffic.next t) := by
  induction events generalizing visits t with
  | nil =>
    rw [← List.append_nil visits] at h
    exact h
  | cons event events ih =>
    have hall : arrivals (event :: events) = arrivals [event] ++ arrivals events :=
      List.filterMap_append (l := [event])
    have hrest := ih (h.next event)
    rw [List.append_assoc, ← hall] at hrest
    exact hrest

end Sound

/-! ### Any history -/

/-- **Requests are kept apart.** After any history of a pool, in which requests arrive, leave and
are stopped in any order, served by any stages and handlers and however they end:

* every stream that waits in the pool is as new: it has the level of the pool, nothing has entered
  it, and any operations on it, over any sink, come to what they come to on a new one;
* no more wait than there may be;
* no stream is lent to two requests at once, none is lent that waits, and each was as new when it
  was lent;
* who has arrived is on the way, was served or was stopped, and what came of a request that was
  served, with all that it has sent, is what comes of it alone. -/
theorem history_isolates (level maxIdle : Nat) (events : List (Event κ σ)) :
    let t := history level maxIdle events
    (∀ stream ∈ t.pool.idle, stream.AsNew (min level 9) ∧ stream.level = min level 9 ∧
      stream.isPristine = (ChunkedStream.new (min level 9) : ChunkedStream κ).isPristine ∧
      ∀ {ω : Type} [Sink ω] (operations : List GzipStream.Operation) (sink : ω), operations ≠ [] →
        ChunkedStream.performAll operations stream sink
          = ChunkedStream.performAll operations (.new (min level 9)) sink) ∧
      t.pool.idle.length ≤ maxIdle ∧
      t.idle.length = t.pool.idle.length ∧
      (t.idle ++ t.flights.map Flight.serial).Nodup ∧
      (∀ flight ∈ t.flights, flight.stream.AsNew (min level 9)) ∧
      (t.served.map Served.visit ++ t.stopped ++ t.flights.map Flight.visit).Perm
        (arrivals events) ∧
      ∀ request ∈ t.served, request.run = request.visit.alone level maxIdle := by
  intro t
  have h : Sound level maxIdle (arrivals events) t := (Sound.start level maxIdle).foldl events
  refine ⟨fun stream hstream => ?_, h.bounded, h.numbered, h.distinct,
    fun flight hflight => (h.lent flight hflight).2, h.arrived, h.served⟩
  have hnew := h.idle stream hstream
  exact ⟨hnew, hnew.level_eq, hnew.isPristine_eq,
    fun operations sink hsome => hnew.performAll hsome sink⟩

/-- Two requests at once, both of which are stopped halfway, and a pool that keeps one stream. It
keeps that of the request that is stopped first, without the byte in its buffer, and a third request
takes it. -/
example :
    let visit : Visit (Metered StoredBlocks) Polled := {
      minSize := 2
      inner := [.logging]
      conduct := Step.conductAll [.call (.write [1, 2, 3])]
      request := { headers := Headers.empty.insert "accept-encoding" (Bytes.ofString "gzip") }
      shape := .bottom
      writer := ({} : Polled)
      world := {} }
    let wreck : ChunkedStream (Metered StoredBlocks) := { ChunkedStream.new 3 with out := [7] }
    let t := history 6 1
      [.arrives visit, .arrives visit, .stops 1 wreck true, .stops 0 wreck false, .arrives visit]
    t.made = 2 ∧ t.idle = [] ∧ t.flights.map Flight.serial = [1] ∧ t.stopped.length = 2 ∧
      t.flights.map (fun flight => (flight.stream.level, flight.stream.out, flight.stream.capacity))
        = [(6, [], 2 * ChunkedStream.chunk)] :=
  ⟨rfl, rfl, rfl, rfl, rfl⟩

end Traffic

end HttpPipeline
