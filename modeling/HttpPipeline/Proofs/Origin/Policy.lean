import HttpPipeline.Origin.Policy
import Mathlib.Data.List.Basic
import Mathlib.Tactic.SplitIfs

/-!
# What a policy for other origins allows

A policy is prepared from configured entries and checks, and a check may be any function. Of the
entries that pass every check (`CorsSettings.Passes`) the empty one says nothing, `*` is the
wildcard, and the others list host names (`CorsSettings.Lists`). From these two notions follows
all that the matcher of the policy is: which host names it knows, whether it has the wildcard, and
whether it has credentials. It never has the last two together.

What a response says about credentials is decided with that. An origin that is echoed was matched
by its host name, so it is not `*`, which is the host name of nothing; and a host name that is
empty is never listed.
-/

namespace HttpPipeline

namespace CorsSettings

variable (s : CorsSettings) (checks : List OriginCheck)

/-- An entry that passes every check. -/
def Passes (entry : String) : Prop :=
  entry ∈ s.allowedOrigins ∧ ∀ check ∈ checks, check.error? entry.toList = none

/-- An entry that lists a host name. -/
def Lists (entry : String) : Prop := s.Passes checks entry ∧ entry ≠ "" ∧ entry ≠ "*"

/-- Apart from empty entries the wildcard passes, and nothing else. -/
def OnlyWildcard : Prop :=
  s.Passes checks "*" ∧ ∀ entry, s.Passes checks entry → entry ≠ "" → entry = "*"

theorem onlyWildcard_iff :
    s.OnlyWildcard checks ↔ s.Passes checks "*" ∧ ∀ entry, ¬s.Lists checks entry := by
  constructor
  · rintro ⟨hpasses, honly⟩
    exact ⟨hpasses, fun entry ⟨hentry, hempty, hstar⟩ => hstar (honly entry hentry hempty)⟩
  · rintro ⟨hpasses, hnone⟩
    refine ⟨hpasses, fun entry hentry hempty => ?_⟩
    by_contra hstar
    exact hnone entry ⟨hentry, hempty, hstar⟩

/-- The wildcard is in effect: it passes, and does not give way to listed host names that get
credentials. -/
def WildcardInEffect : Prop :=
  s.Passes checks "*" ∧ (s.allowCredentials = true → ∀ entry, ¬s.Lists checks entry)

end CorsSettings

/-- The warnings among some events. -/
def Event.warnings (events : List Event) : List Event :=
  events.filter fun event => event.severity == .warn

theorem Event.warnings_append (events later : List Event) :
    warnings (events ++ later) = warnings events ++ warnings later :=
  List.filter_append events later

namespace OriginMatcher

variable (checks : List OriginCheck)

/-- **Sifting** keeps the entries that pass every check. -/
theorem mem_sift {entries : List String} {e : List Char} :
    e ∈ (sift checks entries).1 ↔
      ∃ entry ∈ entries, (∀ check ∈ checks, check.error? entry.toList = none) ∧
        entry.toList = e := by
  simp only [sift, OriginCheck.firstError?, List.mem_filterMap, Option.ite_none_right_eq_some,
    Option.isNone_iff_eq_none, List.findSome?_eq_none_iff, Option.some.injEq]

/-- Sifting reports entries that were left out, and each is an error. -/
theorem warnings_sift (entries : List String) : Event.warnings (sift checks entries).2 = [] := by
  refine List.filter_eq_nil_iff.mpr fun event hmem => ?_
  obtain ⟨entry, -, hevent⟩ := List.mem_filterMap.mp hmem
  obtain ⟨cause, -, rfl⟩ := Option.map_eq_some_iff.mp hevent
  exact Bool.false_ne_true

variable (s : CorsSettings)

/-- The matcher of some settings. -/
def ofSettings : OriginMatcher := (ofEntries checks s.allowedOrigins s.allowCredentials).1

theorem mem_sift_settings (entry : String) :
    entry.toList ∈ (sift checks s.allowedOrigins).1 ↔ s.Passes checks entry := by
  rw [mem_sift]
  constructor
  · rintro ⟨other, hother, hchecks, heq⟩
    obtain rfl := String.toList_inj.mp heq
    exact ⟨hother, hchecks⟩
  · rintro ⟨hentry, hchecks⟩
    exact ⟨entry, hentry, hchecks, rfl⟩

/-- The host names are those that are listed, in lower case. -/
def hosts : List (List Char) :=
  ((sift checks s.allowedOrigins).1.filter fun e => e != [] && e != ['*']).map Text.lower

theorem mem_hosts {host : List Char} :
    host ∈ hosts checks s ↔ ∃ entry, s.Lists checks entry ∧ Text.lower entry.toList = host := by
  simp only [hosts, List.mem_map, List.mem_filter, Bool.and_eq_true, bne_iff_ne, ne_eq]
  constructor
  · rintro ⟨e, ⟨hmem, hempty, hstar⟩, rfl⟩
    obtain ⟨entry, hentry, hchecks, rfl⟩ := (mem_sift checks).mp hmem
    refine ⟨entry, ⟨⟨hentry, hchecks⟩, fun h => hempty ?_, fun h => hstar ?_⟩, rfl⟩
    · rw [h]
      rfl
    · rw [h]
      rfl
  · rintro ⟨entry, ⟨hpasses, hempty, hstar⟩, rfl⟩
    refine ⟨entry.toList, ⟨(mem_sift_settings checks s entry).mpr hpasses, fun h => hempty ?_,
      fun h => hstar ?_⟩, rfl⟩
    · exact String.toList_eq_nil_iff.mp h
    · exact String.toList_inj.mp (h.trans (by decide))

theorem hosts_isEmpty : (hosts checks s).isEmpty = true ↔ ∀ entry, ¬s.Lists checks entry := by
  rw [List.isEmpty_iff, List.eq_nil_iff_forall_not_mem]
  constructor
  · exact fun hnone entry hentry => hnone _ ((mem_hosts checks s).mpr ⟨entry, hentry, rfl⟩)
  · intro hnone host hhost
    obtain ⟨entry, hentry, -⟩ := (mem_hosts checks s).mp hhost
    exact hnone entry hentry

/-- Whether the wildcard passes. -/
theorem contains_star :
    (sift checks s.allowedOrigins).1.contains ['*'] = true ↔ s.Passes checks "*" := by
  rw [List.contains_iff_mem]
  exact mem_sift_settings checks s "*"

theorem onlyWildcard_iff :
    ((sift checks s.allowedOrigins).1.contains ['*'] && (hosts checks s).isEmpty) = true ↔
      s.OnlyWildcard checks := by
  rw [Bool.and_eq_true, contains_star, hosts_isEmpty, s.onlyWildcard_iff checks]

/-- **What a matcher is made of.** Credentials are dropped if there is only the wildcard, with a
warning, and the wildcard is dropped if there are credentials. -/
theorem ofEntries_settings :
    let only := (sift checks s.allowedOrigins).1.contains ['*'] && (hosts checks s).isEmpty
    (ofSettings checks s).hostnames = hosts checks s ∧
    (ofSettings checks s).credentials = (s.allowCredentials && !only) ∧
    (ofSettings checks s).wildcard = ((sift checks s.allowedOrigins).1.contains ['*'] &&
      (!s.allowCredentials || (hosts checks s).isEmpty)) ∧
    Event.warnings (ofEntries checks s.allowedOrigins s.allowCredentials).2
      = if s.allowCredentials && only then [.credentialsDropped] else [] := by
  have hmatcher : ofEntries checks s.allowedOrigins s.allowCredentials =
      let wildcard := (sift checks s.allowedOrigins).1.contains ['*']
      let hostnames := hosts checks s
      let events := (sift checks s.allowedOrigins).2
      if s.allowCredentials then
        if wildcard && hostnames.isEmpty then
          ({ hostnames, wildcard, credentials := false }, events ++ [.credentialsDropped])
        else ({ hostnames, wildcard := false, credentials := s.allowCredentials }, events)
      else ({ hostnames, wildcard, credentials := s.allowCredentials }, events) := rfl
  have hsift := warnings_sift checks s.allowedOrigins
  have hwarning : Event.warnings [.credentialsDropped] = [.credentialsDropped] := rfl
  rw [ofSettings, hmatcher]
  -- nothing else is known of the entries than these
  generalize (sift checks s.allowedOrigins).1.contains ['*'] = wildcard
  generalize hosts checks s = hostnames
  generalize (sift checks s.allowedOrigins).2 = events at hsift
  cases s.allowCredentials with
  | false => simp [hsift]
  | true =>
    cases wildcard <;> cases hostnames <;> simp [hsift, hwarning, Event.warnings_append]

/-- **Credentials are dropped** if there is only the wildcard. -/
theorem credentials_iff : (ofSettings checks s).credentials = true ↔
    s.allowCredentials = true ∧ ¬s.OnlyWildcard checks := by
  rw [(ofEntries_settings checks s).2.1, Bool.and_eq_true, Bool.not_eq_true', ← Bool.not_eq_true,
    onlyWildcard_iff]

theorem wildcard_iff : (ofSettings checks s).wildcard = true ↔ s.WildcardInEffect checks := by
  rw [(ofEntries_settings checks s).2.2.1, Bool.and_eq_true, contains_star, Bool.or_eq_true,
    hosts_isEmpty, Bool.not_eq_true', CorsSettings.WildcardInEffect]
  cases s.allowCredentials <;> simp

/-- **Never both**: what has credentials does not match every origin. -/
theorem not_wildcard_of_credentials (h : (ofSettings checks s).credentials = true) :
    (ofSettings checks s).wildcard = false := by
  obtain ⟨hasked, honly⟩ := (credentials_iff checks s).mp h
  rw [← Bool.not_eq_true, wildcard_iff]
  rintro ⟨hpasses, hnone⟩
  exact honly ((s.onlyWildcard_iff checks).mpr ⟨hpasses, hnone hasked⟩)

/-! ### What matches

All of this is so for any reader of URLs. -/

section Matches

variable {reader : Url.Reader} {origin : String}

/-- **What matches by its host name** has one that is listed. -/
theorem check_exact (h : (ofSettings checks s).checkBy reader origin = .exact) :
    ∃ entry, s.Lists checks entry ∧
      Text.lower entry.toList = Url.hostnameBy reader origin.toList := by
  unfold checkBy at h
  split_ifs at h with hwildcard hmem
  rw [(ofEntries_settings checks s).1, List.contains_iff_mem] at hmem
  exact (mem_hosts checks s).mp hmem

theorem check_wildcard (h : (ofSettings checks s).checkBy reader origin = .wildcard) :
    (ofSettings checks s).wildcard = true := by
  unfold checkBy at h
  split_ifs at h with hwildcard hmem
  exact hwildcard

/-- Without the wildcard there is no other way to match. -/
theorem check_exact_iff (hno : ¬s.Passes checks "*") :
    (ofSettings checks s).checkBy reader origin = .exact ↔
      ∃ entry, s.Lists checks entry ∧
        Text.lower entry.toList = Url.hostnameBy reader origin.toList := by
  refine ⟨check_exact checks s, fun hlisted => ?_⟩
  have hwildcard : (ofSettings checks s).wildcard = false :=
    Bool.eq_false_iff.mpr fun h => hno ((wildcard_iff checks s).mp h).1
  have hmem := (mem_hosts checks s).mpr hlisted
  rw [← (ofEntries_settings checks s).1] at hmem
  rw [checkBy, hwildcard, if_neg Bool.false_ne_true, if_pos (List.contains_iff_mem.mpr hmem)]

/-- Then what does not match is denied. -/
theorem check_denied (hno : ¬s.Passes checks "*")
    (h : (ofSettings checks s).checkBy reader origin ≠ .exact) :
    (ofSettings checks s).checkBy reader origin = .denied := by
  cases hcheck : (ofSettings checks s).checkBy reader origin with
  | denied => rfl
  | wildcard => exact absurd ((wildcard_iff checks s).mp (check_wildcard checks s hcheck)).1 hno
  | exact => exact absurd hcheck h

/-- **An origin without a host name** does not match by it. -/
theorem check_nameless (h : Url.hostnameBy reader origin.toList = []) :
    (ofSettings checks s).checkBy reader origin ≠ .exact := by
  intro hexact
  obtain ⟨entry, ⟨-, hempty, -⟩, hname⟩ := check_exact checks s hexact
  exact hempty (String.toList_eq_nil_iff.mp (List.map_eq_nil_iff.mp (hname.trans h)))

end Matches

end OriginMatcher

namespace CorsPolicy

/-! ### Headers about other origins -/

/-- Headers with which a response tells what other origins may do. -/
def isCorsName (name : String) : Bool := "access-control-".toList.isPrefixOf name.toList

theorem ne_of_isCorsName {name other : String} (h : isCorsName name = true)
    (hother : isCorsName other = false) : name ≠ other := by
  rintro rfl
  exact absurd h (by simp [hother])

theorem values_vary {name : String} (h : isCorsName name = true) (headers : Headers)
    (other : String) : (vary headers other).values name = headers.values name :=
  headers.values_append_of_ne _ (ne_of_isCorsName h (by decide))

theorem values_insertSome_of_ne (h : Headers) {name other : String} (value : Option Bytes)
    (hne : other ≠ name) : (insertSome h name value).values other = h.values other := by
  cases value with
  | none => rfl
  | some value => exact h.values_insert_of_ne value hne

variable (p : CorsPolicy)

/-- The response names the origin that it allows. -/
theorem values_grant_origin (origin : Bytes) (h : Headers) :
    (p.grant origin h).values "access-control-allow-origin" = [origin] := by
  rw [grant, values_insertSome_of_ne _ _ (by decide)]
  split_ifs
  · rw [Headers.values_insert_of_ne _ _ (by decide), Headers.values_insert_self]
  · rw [Headers.values_insert_self]

/-- Credentials are allowed if the policy has them. -/
theorem values_grant_credentials (origin : Bytes) {h : Headers}
    (hnone : h.values "access-control-allow-credentials" = []) :
    (p.grant origin h).values "access-control-allow-credentials"
      = if p.matcher.credentials then [Bytes.ofString "true"] else [] := by
  rw [grant, values_insertSome_of_ne _ _ (by decide)]
  split_ifs
  · rw [Headers.values_insert_self]
  · rw [Headers.values_insert_of_ne _ _ (by decide), hnone]

/-- A grant leaves alone what says nothing of other origins. -/
theorem values_grant_other (origin : Bytes) (h : Headers) {name : String}
    (hname : isCorsName name = false) : (p.grant origin h).values name = h.values name := by
  have hne {other : String} (hother : isCorsName other = true) : name ≠ other :=
    (ne_of_isCorsName hother hname).symm
  rw [grant, values_insertSome_of_ne _ _ (hne (by decide))]
  split_ifs
  · rw [Headers.values_insert_of_ne _ _ (hne (by decide)),
      Headers.values_insert_of_ne _ _ (hne (by decide))]
  · rw [Headers.values_insert_of_ne _ _ (hne (by decide))]

/-- An answer to a preflight says the same of the origin and of credentials. -/
theorem values_announce (h : Headers) {name : String} (hname : isCorsName name = true)
    (hmethods : name ≠ "access-control-allow-methods")
    (hheaders : name ≠ "access-control-allow-headers") (hage : name ≠ "access-control-max-age") :
    (p.announce h).values name = h.values name := by
  rw [announce, values_insertSome_of_ne _ _ hage, values_insertSome_of_ne _ _ hheaders,
    values_insertSome_of_ne _ _ hmethods, values_vary hname, values_vary hname]

/-! ### What a response may say -/

/-- The host name in the value of an `Origin` header; empty if there is none. -/
def hostOf (origin : Bytes) : List Char := Url.hostname ((visibleText? origin).getD "").toList

/-- A value that cannot be read as text has no host name. -/
theorem hostOf_invisible {origin : Bytes} (h : visibleText? origin = none) :
    hostOf origin = [] := by
  rw [hostOf, h]
  decide

/-- **Guarded responses.** What a response says about other origins, given the settings of the
policy and the headers of the request. -/
structure Guards (s : CorsSettings) (checks : List OriginCheck) (request response : Headers) :
    Prop where
  /-- Every origin is never allowed together with credentials. -/
  exclusive : ¬(Bytes.ofString "*" ∈ response.values "access-control-allow-origin" ∧
    Bytes.ofString "true" ∈ response.values "access-control-allow-credentials")
  /-- With credentials the origin of the request is echoed, and its host name is listed. -/
  credentialed : Bytes.ofString "true" ∈ response.values "access-control-allow-credentials" →
    ∃ origin entry, request.nonempty? "origin" = some origin ∧
      response.values "access-control-allow-origin" = [origin] ∧
      s.Lists checks entry ∧ hostOf origin = Text.lower entry.toList
  /-- Nothing is said to an origin that is not listed. -/
  unlisted : ¬s.WildcardInEffect checks →
    (∀ origin entry, request.nonempty? "origin" = some origin → s.Lists checks entry →
      hostOf origin ≠ Text.lower entry.toList) →
    ∀ name, isCorsName name = true → response.values name = []
  /-- Nor to one without a host name. -/
  nameless : ¬s.WildcardInEffect checks →
    (∀ origin, request.nonempty? "origin" = some origin → hostOf origin = []) →
    ∀ name, isCorsName name = true → response.values name = []

variable {s : CorsSettings} {checks : List OriginCheck} {request response : Headers}

/-- A response that says nothing is guarded. -/
theorem guards_of_silent (h : ∀ name, isCorsName name = true → response.values name = []) :
    Guards s checks request response where
  exclusive := by
    rintro ⟨hstar, -⟩
    rw [h _ (by decide)] at hstar
    exact absurd hstar List.not_mem_nil
  credentialed := by
    intro htrue
    rw [h _ (by decide)] at htrue
    exact absurd htrue List.not_mem_nil
  unlisted := fun _ _ => h
  nameless := fun _ _ => h

/-- **An allowed origin** is `*`, by the wildcard, or that of the request, by its host name. -/
theorem allowedOrigin?_cases {allowed : Bytes}
    (h : (ofSettings s checks).1.allowedOrigin? request = some allowed) :
    ∃ origin, request.nonempty? "origin" = some origin ∧
      ((allowed = Bytes.ofString "*" ∧ (ofSettings s checks).1.matcher.wildcard = true) ∨
        (allowed = origin ∧ ∃ entry, s.Lists checks entry ∧
          hostOf origin = Text.lower entry.toList)) := by
  obtain ⟨origin, horigin, hmatch⟩ := Option.bind_eq_some_iff.mp h
  refine ⟨origin, horigin, ?_⟩
  split at hmatch
  · exact absurd hmatch (by simp)
  · rename_i hcheck
    exact .inl ⟨(Option.some.inj hmatch).symm, OriginMatcher.check_wildcard checks s hcheck⟩
  · rename_i hcheck
    obtain ⟨entry, hlists, hname⟩ := OriginMatcher.check_exact checks s hcheck
    exact .inr ⟨(Option.some.inj hmatch).symm, entry, hlists, hname.symm⟩

/-- **A response to an allowed origin** is guarded. -/
theorem guards_of_allowed {allowed : Bytes}
    (h : (ofSettings s checks).1.allowedOrigin? request = some allowed)
    (horigin : response.values "access-control-allow-origin" = [allowed])
    (hcredentials : response.values "access-control-allow-credentials"
      = if (ofSettings s checks).1.matcher.credentials then [Bytes.ofString "true"] else []) :
    Guards s checks request response := by
  obtain ⟨origin, hrequest, hallowed⟩ := allowedOrigin?_cases h
  -- with credentials the wildcard is not in effect
  have hechoed (htrue : Bytes.ofString "true"
      ∈ response.values "access-control-allow-credentials") :
      allowed = origin ∧ ∃ entry, s.Lists checks entry ∧
        hostOf origin = Text.lower entry.toList := by
    refine hallowed.resolve_left fun ⟨_, hwildcard⟩ => ?_
    rw [hcredentials] at htrue
    split_ifs at htrue with hhas
    · have hnot : (ofSettings s checks).1.matcher.wildcard = false :=
        OriginMatcher.not_wildcard_of_credentials checks s hhas
      rw [hnot] at hwildcard
      exact absurd hwildcard Bool.false_ne_true
    · exact absurd htrue List.not_mem_nil
  have hlisted {entry : String} (hentry : s.Lists checks entry) :
      Text.lower entry.toList ≠ [] := fun hnil =>
    hentry.2.1 (String.toList_eq_nil_iff.mp (List.map_eq_nil_iff.mp hnil))
  -- nobody is allowed without the wildcard or a listed host name
  have hreason (hwildcard : ¬s.WildcardInEffect checks) :
      ∃ entry, s.Lists checks entry ∧ hostOf origin = Text.lower entry.toList :=
    (hallowed.resolve_left fun ⟨_, hin⟩ =>
      hwildcard ((OriginMatcher.wildcard_iff checks s).mp hin)).2
  refine ⟨?_, fun htrue => ?_, fun hwildcard hnone => ?_, fun hwildcard hnone => ?_⟩
  · rintro ⟨hstar, htrue⟩
    obtain ⟨rfl, entry, hentry, hname⟩ := hechoed htrue
    rw [horigin, List.mem_singleton] at hstar
    -- the star is the host name of nothing
    subst hstar
    exact hlisted hentry (hname.symm.trans (by decide))
  · obtain ⟨rfl, entry, hentry, hname⟩ := hechoed htrue
    exact ⟨allowed, entry, hrequest, horigin, hentry, hname⟩
  · obtain ⟨entry, hentry, hname⟩ := hreason hwildcard
    exact absurd hname (hnone origin entry hrequest hentry)
  · obtain ⟨entry, hentry, hname⟩ := hreason hwildcard
    exact absurd (hname.symm.trans (hnone origin hrequest)) (hlisted hentry)

/-- **Dropped credentials** are the only thing that a policy warns of. -/
theorem warnings_ofSettings (s : CorsSettings) (checks : List OriginCheck) :
    Event.warnings (ofSettings s checks).2
      = if s.allowCredentials && !(ofSettings s checks).1.matcher.credentials
        then [.credentialsDropped] else [] := by
  have hlist (field : String) (entries : List String) :
      Event.warnings (listValue field entries).2 = [] := by
    unfold listValue
    simp only
    split_ifs <;> rfl
  have hmatcher := OriginMatcher.ofEntries_settings checks s
  have hcredentials : (ofSettings s checks).1.matcher.credentials
      = (OriginMatcher.ofSettings checks s).credentials := rfl
  have hevents : (ofSettings s checks).2
      = (OriginMatcher.ofEntries checks s.allowedOrigins s.allowCredentials).2
        ++ (listValue "allowed_methods" s.allowedMethods).2
        ++ (listValue "allowed_headers" s.allowedHeaders).2
        ++ (listValue "exposed_headers" s.exposedHeaders).2 := rfl
  rw [hevents, Event.warnings_append, Event.warnings_append, Event.warnings_append, hlist, hlist,
    hlist, hmatcher.2.2.2, hcredentials, hmatcher.2.1]
  cases s.allowCredentials <;> simp

/-- **Credentials are dropped**, with one warning, if they were asked for and there is only the
wildcard, and otherwise they are as they were asked for, without one. -/
theorem credentials_ofSettings (s : CorsSettings) (checks : List OriginCheck) :
    (s.allowCredentials = true ∧ s.OnlyWildcard checks →
      (ofSettings s checks).1.matcher.credentials = false ∧
        Event.warnings (ofSettings s checks).2 = [.credentialsDropped]) ∧
    (¬(s.allowCredentials = true ∧ s.OnlyWildcard checks) →
      (ofSettings s checks).1.matcher.credentials = s.allowCredentials ∧
        Event.warnings (ofSettings s checks).2 = []) := by
  have hhas : (ofSettings s checks).1.matcher.credentials = true ↔
      s.allowCredentials = true ∧ ¬s.OnlyWildcard checks := OriginMatcher.credentials_iff checks s
  rw [warnings_ofSettings]
  constructor
  · rintro ⟨hasked, honly⟩
    have hdropped : (ofSettings s checks).1.matcher.credentials = false :=
      Bool.eq_false_iff.mpr fun h => (hhas.mp h).2 honly
    simp [hdropped, hasked]
  · intro hnot
    have hkept : (ofSettings s checks).1.matcher.credentials = s.allowCredentials := by
      rw [Bool.eq_iff_iff, hhas]
      exact ⟨And.left, fun hasked => ⟨hasked, fun honly => hnot ⟨hasked, honly⟩⟩⟩
    simp [hkept]

end CorsPolicy

end HttpPipeline
