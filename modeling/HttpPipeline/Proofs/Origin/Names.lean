import HttpPipeline.Proofs.Origin.Written

/-!
# Entries that an origin can match

Whatever stands in an `Origin` header, its host name is made of visible characters of ASCII that
have no other meaning in a URL, or it is an address in its one writing, and every such name is the
host name of an origin. An entry is listed as it stands. So the entries that an origin can match
are those that are written so already (`OriginMatcher.matchable_iff`).

The checks of entries allow for more than that. An entry with a space, with letters outside ASCII or
with brackets passes them and is listed, and no origin ever matches it
(`OriginMatcher.unmatchable`).

The reader of this project keeps to the rules for the writing of hosts (`Url.writesHosts_host?`):
the host of a URL went through Punycode, through the reading of addresses or through
percent-encoding.
-/

namespace HttpPipeline

/-! ### Punycode -/

namespace Punycode

theorem digit_plain {n : ℕ} (h : n < 36) : Host.isPlainChar (digit n) = true :=
  (by decide +kernel : ∀ n < 36, Host.isPlainChar (digit n) = true) n h

/-- An instruction is written in letters and digits. -/
theorem mem_number {bias place n : ℕ} {c : Char} (h : c ∈ number bias place n) :
    Host.isPlainChar c = true := by
  induction place, n using number.induct bias with
  | case1 place n t hlt =>
    have hle := threshold_le place bias
    rw [number, if_pos hlt] at h
    obtain rfl := List.mem_singleton.mp h
    exact digit_plain (by omega)
  | case2 place n t hlt ih =>
    have hle : t ≤ 26 := threshold_le place bias
    rw [number, if_neg hlt] at h
    rcases List.mem_cons.mp h with rfl | h
    · have hmod : (n - t) % (36 - t) < 36 - t := Nat.mod_lt _ (by omega)
      exact digit_plain (show t + (n - t) % (36 - t) < 36 by omega)
    · exact ih h

namespace Writing

variable {P : Char → Prop} {basic code : ℕ} {label : List Char}

/-- What is written grows by letters and digits. -/
theorem forall_pass (hplain : ∀ c, Host.isPlainChar c = true → P c) {w : Writing}
    (hw : ∀ c ∈ w.text, P c) (d : Char) : ∀ c ∈ (pass basic code w d).text, P c := by
  rw [pass]
  split
  · exact hw
  split
  · exact List.forall_mem_append.mpr ⟨hw, fun c hc => hplain c (mem_number hc)⟩
  · exact hw

theorem forall_insertAll (hplain : ∀ c, Host.isPlainChar c = true → P c) {codes : List ℕ}
    {next : ℕ} {w : Writing} (hw : ∀ c ∈ w.text, P c) :
    ∀ c ∈ (insertAll label basic codes next w).text, P c := by
  induction codes, next, w using insertAll.induct label basic with
  | case1 => exact hw
  | case2 code codes next w _ _ ih =>
    refine ih (List.foldlRecOn (motive := fun w : Writing => ∀ c ∈ w.text, P c) label _ hw ?_)
    exact fun w hw d _ => forall_pass hplain hw d

end Writing

/-- **Punycode** is made of the characters of ASCII in the label, and of letters, digits and
hyphens. -/
theorem forall_encode {P : Char → Prop} (hplain : ∀ c, Host.isPlainChar c = true → P c)
    {label : List Char} (hlabel : ∀ c ∈ label, c.toNat < 128 → P c) : ∀ c ∈ encode label, P c := by
  refine Writing.forall_insertAll hplain fun c hc => ?_
  have hbasic : ∀ c ∈ label.filter (·.toNat < firstCode), P c := fun c hc =>
    hlabel c (List.mem_filter.mp hc).1 (of_decide_eq_true (List.mem_filter.mp hc).2)
  dsimp only at hc
  split_ifs at hc
  · exact absurd hc List.not_mem_nil
  · rcases List.mem_append.mp hc with hc | hc
    · exact hbasic c hc
    · obtain rfl := List.mem_singleton.mp hc
      exact hplain _ (by decide)

end Punycode

/-! ### Domains -/

/-- The results of a partial function come from members. -/
theorem exists_of_mem_mapM {α β : Type} {f : α → Option β} {xs : List α} {ys : List β}
    (h : xs.mapM f = some ys) {y : β} (hy : y ∈ ys) : ∃ x ∈ xs, f x = some y := by
  induction xs generalizing ys with
  | nil =>
    obtain rfl := Option.some.inj h
    exact absurd hy List.not_mem_nil
  | cons x xs ih =>
    rw [List.mapM_cons] at h
    obtain ⟨z, hz, h⟩ := Option.bind_eq_some_iff.mp h
    obtain ⟨zs, hzs, h⟩ := Option.bind_eq_some_iff.mp h
    obtain rfl := Option.some.inj h
    rcases List.mem_cons.mp hy with rfl | hy
    · exact ⟨x, List.mem_cons_self, hz⟩
    · obtain ⟨x', hx', hf⟩ := ih hzs hy
      exact ⟨x', List.mem_cons_of_mem x hx', hf⟩

namespace Host

theorem isVisible_of_isNameChar {c : Char} (h : isNameChar c = true) : isVisible c = true := by
  obtain ⟨hlow, hhigh, -⟩ := isNameChar_iff.mp h
  simp only [isVisible, Bool.or_eq_true, Bool.and_eq_true, decide_eq_true_eq]
  exact .inl ⟨hlow.le, hhigh⟩

end Host

namespace Ipv6

/-- The digits of an address may stand in a name. -/
theorem isNameChar_of_isGroupChar {c : Char} (h : isGroupChar c = true) :
    Host.isNameChar c = true := by
  refine Host.isNameChar_of_isDotted ?_
  simp only [isGroupChar, Bool.or_eq_true, Bool.and_eq_true, decide_eq_true_eq] at h
  rcases h with hdigit | hletter
  · simp [Host.isDotted, Host.isPlainChar, hdigit]
  · have hlast : c ≤ 'z' := Char.le_trans hletter.2 (by decide)
    simp [Host.isDotted, Host.isPlainChar, Text.isLetter, hletter.1, hlast]

/-- What is so of every character that may stand in an address. -/
theorem forall_mem_text {P : Char → Prop} (hcolon : P ':')
    (h : ∀ c, Host.isNameChar c = true → P c) {groups : List ℕ} {c : Char}
    (hc : c ∈ text groups) : P c := by
  rcases mem_text hc with hc | rfl
  · exact h c (isNameChar_of_isGroupChar hc)
  · exact hcolon

end Ipv6

namespace Domain

/-- What a domain may hold is part of a name. -/
theorem isNameChar_of_ascii {c : Char} (hascii : c.toNat < 128) (h : isForbidden c = false) :
    Host.isNameChar c = true := by
  have hbounds : 0x20 < c.toNat ∧ c.toNat ≠ 0x7f := by
    simp only [isForbidden, Bool.or_eq_false_iff, decide_eq_false_iff_not, beq_eq_false_iff_ne] at h
    exact ⟨Nat.lt_of_not_le h.1.1, h.1.2⟩
  -- whatever is forbidden in a host is forbidden in a domain
  have hallowed : Host.isForbidden c = false :=
    Text.contains_of_class (p := fun c => !isForbidden c) (by decide) (by rw [h]; rfl)
  exact Host.isNameChar_iff.mpr ⟨hbounds.1, by omega, hallowed⟩

/-- A label that is meant to be in ASCII stands in the name as it is. -/
theorem eq_of_meant? {label meant : List Char} (h : meant? label = some meant)
    (hascii : meant.all (·.toNat < 0x80) = true) : meant = label := by
  unfold meant? at h
  split_ifs at h with hace
  · simp only [unmasked?, Option.bind_eq_bind, Option.bind_none] at h
    split_ifs at h with hlong
    obtain ⟨decoded, -, h⟩ := Option.bind_eq_some_iff.mp h
    split_ifs at h with hall hplain
    obtain rfl := Option.some.inj h
    exact absurd hascii hall
  · exact (Option.some.inj h).symm

/-- **The ASCII form of a domain name** is a name. -/
theorem mem_toAscii? {name domain : List Char} (h : toAscii? name = some domain) :
    ∀ c ∈ domain, Host.isNameChar c = true := by
  simp only [toAscii?, Option.bind_eq_bind, Option.bind_none] at h
  obtain ⟨mapped, -, h⟩ := Option.bind_eq_some_iff.mp h
  split_ifs at h with hforbidden
  obtain ⟨labels, hlabels, h⟩ := Option.bind_eq_some_iff.mp h
  split_ifs at h with hformed
  obtain ⟨forms, hforms, h⟩ := Option.bind_eq_some_iff.mp h
  obtain rfl := Option.some.inj h
  simp only [Bool.or_eq_true, Bool.not_eq_true', not_or, Bool.not_eq_false] at hformed
  refine Text.forall_intercalate (by decide) fun form hform => ?_
  obtain ⟨label, hlabel, hform⟩ := exists_of_mem_mapM hforms hform
  obtain ⟨piece, hpiece, hmeant⟩ := exists_of_mem_mapM hlabels hlabel
  unfold form? at hform
  split_ifs at hform with hascii hlong
  · -- nothing was done to a label in ASCII
    obtain rfl := Option.some.inj hform
    obtain rfl := eq_of_meant? hmeant hascii
    intro c hc
    refine isNameChar_of_ascii (of_decide_eq_true (List.all_eq_true.mp hascii c hc)) ?_
    by_contra hnot
    exact hforbidden (List.any_eq_true.mpr
      ⟨c, Text.mem_of_mem_splitOn hpiece c hc, (Bool.not_eq_false _).mp hnot⟩)
  · obtain rfl := Option.some.inj hform
    have hwell : wellFormed label = true := List.all_eq_true.mp hformed.1 label hlabel
    simp only [wellFormed, hascii, Bool.false_or, Bool.and_eq_true, Bool.not_eq_true'] at hwell
    have hace : ∀ c ∈ acePrefix, Host.isNameChar c = true := List.all_eq_true.mp (by decide)
    refine List.forall_mem_append.mpr ⟨hace, Punycode.forall_encode (fun c hc => ?_) ?_⟩
    · exact Host.isNameChar_of_isDotted (by rw [Host.isDotted, hc]; rfl)
    · intro c hc hsmall
      exact isNameChar_of_ascii hsmall (Bool.eq_false_iff.mpr (List.any_eq_false.mp hwell.2 c hc))

end Domain

/-! ### Hosts -/

namespace Host

theorem written_bracketed {name host : List Char} (h : bracketed? name = some host) :
    Written host := by
  unfold bracketed? at h
  split at h
  · split_ifs at h
    obtain ⟨groups, hgroups, rfl⟩ := Option.map_eq_some_iff.mp h
    exact .address (Ipv6.isAddress_of_parse? hgroups)
  · cases h

/-- An address of four numbers in writing. -/
theorem mem_ipv4 {address : ℕ} {c : Char} (h : c ∈ Ipv4.text address) : isNameChar c = true := by
  have hpart {n : ℕ} {c : Char} (hc : c ∈ (Text.decimal n).toList) : isNameChar c = true := by
    refine isNameChar_of_isDotted ?_
    simp [isDotted, isPlainChar, Text.isDigit_of_mem_decimal hc]
  simp only [Ipv4.text, List.mem_append, List.mem_cons] at h
  rcases h with ((h | rfl | h) | rfl | h) | rfl | h
  · exact hpart h
  · decide
  · exact hpart h
  · decide
  · exact hpart h
  · decide
  · exact hpart h

theorem written_ofDomain {name host : List Char} (h : ofDomain? name = some host) :
    Written host := by
  unfold ofDomain? at h
  split_ifs at h
  · exact written_bracketed h
  · simp only [Option.bind_eq_bind] at h
    obtain ⟨text, -, h⟩ := Option.bind_eq_some_iff.mp h
    obtain ⟨domain, hdomain, h⟩ := Option.bind_eq_some_iff.mp h
    split_ifs at h
    · obtain ⟨address, -, rfl⟩ := Option.map_eq_some_iff.mp h
      exact .name fun c => mem_ipv4
    · obtain rfl := Option.some.inj h
      exact .name (Domain.mem_toAscii? hdomain)

theorem written_ofOpaque {name host : List Char} (h : ofOpaque? name = some host) :
    Written host := by
  unfold ofOpaque? at h
  split_ifs at h with hbracket hforbidden
  · exact written_bracketed h
  · obtain rfl := Option.some.inj h
    refine .name fun c hc => ?_
    obtain ⟨b, hb, hc⟩ := List.mem_flatMap.mp hc
    split_ifs at hc with hprintable
    · -- a printable byte is a character of the name
      obtain rfl := List.mem_singleton.mp hc
      simp only [Bool.and_eq_true, decide_eq_true_eq, UInt8.le_iff_toNat_le,
        UInt8.lt_iff_toNat_lt] at hprintable
      have hlow : 32 ≤ b.toNat := hprintable.1
      have hhigh : b.toNat < 127 := hprintable.2
      obtain ⟨d, hd, heq⟩ := Bytes.mem_ofChars hb (by omega)
      rw [← heq, Char.ofNat_toNat]
      have hallowed : isForbidden d = false := Bool.eq_false_iff.mpr fun h =>
        hforbidden (List.any_eq_true.mpr ⟨d, hd, h⟩)
      have hspace : d.toNat ≠ 0x20 := fun h => by
        rw [← Char.ofNat_toNat d, h] at hallowed
        exact absurd hallowed (by decide)
      exact isNameChar_iff.mpr ⟨by omega, by omega, hallowed⟩
    · rcases List.mem_cons.mp hc with rfl | hc
      · decide
      · obtain ⟨d, hd, rfl⟩ := List.mem_map.mp hc
        have hname : ∀ digit < 16, isNameChar (Text.upperChar (Nat.digitChar digit)) = true := by
          decide
        obtain ⟨digit, hdigit, rfl⟩ := Text.mem_hex hd
        exact hname digit hdigit

end Host

namespace Url

theorem written_host? {text host : List Char} (h : host? text = some host) :
    Host.Written host := by
  -- all but files have their host in an authority
  have hauthority {kind : SchemeKind} {rest host : List Char}
      (h : authorityHost? kind rest = some host) : Host.Written host := by
    unfold authorityHost? at h
    simp only at h
    split_ifs at h
    cases kind with
    | other => exact Host.written_ofOpaque h
    | web => exact Host.written_ofDomain h
    | file => exact Host.written_ofDomain h
  have hfile {rest host : List Char} (h : fileHost? rest = some host) : Host.Written host := by
    -- a name behind two slashes, unless a drive stands in its place
    unfold fileHost? at h
    split at h
    · split_ifs at h
      dsimp only at h
      split_ifs at h
      split at h
      · cases h
      · rename_i hhost
        split_ifs at h
        obtain rfl := Option.some.inj h
        exact Host.written_ofDomain hhost
    · cases h
  simp only [host?, Option.bind_eq_bind] at h
  obtain ⟨⟨scheme, rest⟩, -, h⟩ := Option.bind_eq_some_iff.mp h
  dsimp only at h
  split at h
  · exact hauthority h
  · exact hfile h
  · split at h
    · exact hauthority h
    · cases h

/-- Between brackets a colon does not end the host. -/
theorem spanHost_inside {inside : List Char} (hclose : ']' ∉ inside) :
    spanHost true (inside ++ [']']) = (inside ++ [']'], []) := by
  induction inside with
  | nil => rfl
  | cons c inside ih =>
    obtain ⟨hc, hrest⟩ := not_or.mp (mt List.mem_cons.mpr hclose)
    have hopen : (if c == '[' then true else if c == ']' then false else true) = true := by
      simp [Ne.symm hc]
    simp only [List.cons_append, spanHost, hopen, ih hrest]
    simp

/-- An address in brackets is read as it is written. -/
theorem bracketed?_text {groups : List ℕ} (h : Ipv6.IsAddress groups) :
    Host.bracketed? ('[' :: (Ipv6.text groups ++ [']']))
      = some ('[' :: (Ipv6.text groups ++ [']'])) := by
  simp [Host.bracketed?, Ipv6.parse?_text h]

/-- **Hosts are written** as names or as addresses. -/
theorem writesHosts_host? : WritesHosts host? where
  written := written_host?
  address {scheme groups} hscheme hgroups := by
    have hchars : ∀ c ∈ '[' :: (Ipv6.text groups ++ [']']), isAuthorityChar c = true ∧ c ≠ '@' :=
      List.forall_mem_cons.mpr ⟨by decide, List.forall_mem_append.mpr ⟨fun c hc =>
        Ipv6.forall_mem_text (P := fun c => isAuthorityChar c = true ∧ c ≠ '@') (by decide)
          (fun c hc => ⟨isAuthorityChar_of_isNameChar hc, Text.ne_of_class hc (by decide)⟩) hc,
        List.forall_mem_singleton.mpr (by decide)⟩⟩
    -- the digits and colons of an address do not close the bracket
    have hclose : ']' ∉ Ipv6.text groups := fun hmem =>
      Ipv6.forall_mem_text (P := fun c => c ≠ ']') (by decide)
        (fun c hc => Text.ne_of_class hc (by decide)) hmem rfl
    have hspan : spanHost false ('[' :: (Ipv6.text groups ++ [']']))
        = ('[' :: (Ipv6.text groups ++ [']']), []) := by
      have hopen : (if '[' == '[' then true else if '[' == ']' then false else false) = true := rfl
      simp only [spanHost, hopen, spanHost_inside hclose]
      rfl
    rw [host?_authority_self hscheme (List.cons_ne_nil _ _) fun c hc => (hchars c hc).1,
      authorityHost?_span (fun c hc => endsAuthority_of_isAuthorityChar (hchars c hc).1)
        (fun hmem => (hchars _ hmem).2 rfl) hspan (List.cons_ne_nil _ _) rfl]
    split_ifs
    · rw [Host.ofOpaque?, List.head?_cons, if_pos rfl, bracketed?_text hgroups]
    · rw [Host.ofDomain?, List.head?_cons, if_pos rfl, bracketed?_text hgroups]

end Url

/-! ### Entries that an origin can match -/

namespace OriginMatcher

section Entry

variable {entry : String}
  (hentry : ∀ check ∈ OriginCheck.hostname, check.error? entry.toList = none) (credentials : Bool)

include hentry

theorem ne_of_passing : entry ≠ "" ∧ entry ≠ "*" := by
  constructor
  · rintro rfl
    exact absurd (hentry .notEmpty (by simp [OriginCheck.hostname])) (by decide)
  · rintro rfl
    exact absurd (hentry .noWildcard (by simp [OriginCheck.hostname])) (by decide)

/-- An entry that passes the checks gives no event, -/
theorem events_passing : (ofEntries OriginCheck.hostname [entry] credentials).2 = [] := by
  have hfine : OriginCheck.firstError? OriginCheck.hostname entry.toList = none :=
    List.findSome?_eq_none_iff.mpr hentry
  have hsift : sift OriginCheck.hostname [entry] = ([entry.toList], []) := by simp [sift, hfine]
  have hstar : [entry.toList].contains ['*'] = false := by
    rw [List.contains_eq_mem, decide_eq_false_iff_not, List.mem_singleton]
    exact fun h => (ne_of_passing hentry).2 (String.toList_inj.mp h.symm)
  rw [ofEntries, hsift]
  simp only [hstar, Bool.false_and, Bool.false_eq_true, if_false]
  split <;> rfl

/-- and is listed as it stands, in lower case. -/
theorem check_passing (reader : Url.Reader) (origin : String) :
    (ofEntries OriginCheck.hostname [entry] credentials).1.checkBy reader origin = .exact ↔
      Url.hostnameBy reader origin.toList = Text.lower entry.toList := by
  let s : CorsSettings := { allowedOrigins := [entry], allowCredentials := credentials }
  obtain ⟨hsome, hstar⟩ := ne_of_passing hentry
  have hpasses {other : String} : s.Passes OriginCheck.hostname other ↔ other = entry := by
    refine ⟨fun h => List.mem_singleton.mp h.1, ?_⟩
    rintro rfl
    exact ⟨List.mem_singleton_self _, hentry⟩
  have hno : ¬s.Passes OriginCheck.hostname "*" := fun h => hstar (hpasses.mp h).symm
  refine (check_exact_iff OriginCheck.hostname s hno).trans ⟨?_, fun h => ?_⟩
  · rintro ⟨other, ⟨hother, -, -⟩, hname⟩
    rw [← hname, hpasses.mp hother]
  · exact ⟨entry, ⟨hpasses.mpr rfl, hsome, hstar⟩, h.symm⟩

/-- **An entry in brackets** is matched by nothing, whoever reads the origin: the host name of an
origin has lost its brackets, and the entry has not. -/
theorem check_bracketed (hbracket : entry.toList.head? = some '[') (reader : Url.Reader)
    (origin : String) :
    (ofEntries OriginCheck.hostname [entry] credentials).1.checkBy reader origin ≠ .exact := by
  intro hmatch
  have hname := (check_passing hentry credentials reader origin).mp hmatch
  refine Url.head?_hostnameBy reader origin.toList ?_
  rw [hname, Text.lower, List.head?_map, hbracket]
  rfl

end Entry

/-- **What an entry has to be** for any origin to match it: a name made of visible characters of
ASCII, or an address in its one writing. Of all that the checks let pass, without an event, nothing
else is ever matched. -/
theorem matchable_iff {reader : Url.Reader} (hnames : Url.TakesNames reader)
    (hwrites : Url.WritesHosts reader) {entry : String}
    (hentry : ∀ check ∈ OriginCheck.hostname, check.error? entry.toList = none)
    (credentials : Bool) :
    let matcher := ofEntries OriginCheck.hostname [entry] credentials
    matcher.2 = [] ∧
    ((∃ value origin, visibleText? value = some origin ∧
        matcher.1.checkBy reader origin = .exact) ↔
      (∀ c ∈ entry.toList, Host.isNameChar c = true) ∨
        ∃ groups, Ipv6.IsAddress groups ∧ Text.lower entry.toList = Ipv6.text groups) := by
  have hexact := check_passing hentry credentials reader
  refine ⟨events_passing hentry credentials, ?_, ?_⟩
  -- whatever the reader writes is made of name characters or is an address in brackets
  · rintro ⟨value, origin, -, hmatch⟩
    have hname := (hexact origin).mp hmatch
    rcases hwrites.hostnameBy_cases origin.toList with hchars | ⟨groups, hgroups, haddress⟩
    · rw [hname] at hchars
      refine .inl fun c hc => ?_
      rw [← Host.isNameChar_lowerChar]
      exact hchars _ (List.mem_map_of_mem hc)
    · exact .inr ⟨groups, hgroups, hname.symm.trans haddress⟩
  · have hscheme : Url.IsRemote ['a'] :=
      ⟨by decide, List.all_eq_true.mp (by decide), by decide⟩
    -- an origin whose host is the entry, as a header value
    have hreach {authority : List Char} (hvisible : ∀ c ∈ authority, isVisible c = true)
        (hname : Url.hostnameBy reader (Url.located ['a'] authority) = Text.lower entry.toList) :
        ∃ value origin, visibleText? value = some origin ∧
          (ofEntries OriginCheck.hostname [entry] credentials).1.checkBy reader origin
            = .exact := by
      have hall : ∀ c ∈ Url.located ['a'] authority, isVisible c = true :=
        List.forall_mem_append.mpr ⟨List.all_eq_true.mp (by decide), List.forall_mem_cons.mpr
          ⟨by decide, List.forall_mem_cons.mpr ⟨by decide, List.forall_mem_cons.mpr
            ⟨by decide, hvisible⟩⟩⟩⟩
      refine ⟨_, _, visibleText?_ofChars hall, ?_⟩
      rw [hexact, String.toList_ofList, hname]
    rintro (hchars | ⟨groups, hgroups, haddress⟩)
    · have hsome : entry.toList ≠ [] := fun hnil =>
        (ne_of_passing hentry).1 (String.toList_eq_nil_iff.mp hnil)
      exact hreach (fun c hc => Host.isVisible_of_isNameChar (hchars c hc))
        (Url.hostnameBy_name (hnames.other hscheme (by decide) hsome hchars) hchars)
    · refine hreach ?_
        ((Url.hostnameBy_address (hwrites.address hscheme hgroups)).trans haddress.symm)
      refine List.forall_mem_cons.mpr ⟨by decide, List.forall_mem_append.mpr
        ⟨fun c hc => ?_, List.forall_mem_singleton.mpr (by decide)⟩⟩
      exact Ipv6.forall_mem_text (P := fun c => isVisible c = true) (by decide)
        (fun c => Host.isVisible_of_isNameChar) hc

theorem matchable_iff_address :
    (∀ check ∈ OriginCheck.hostname, check.error? "2001:DB8::1".toList = none) ∧
    ∃ value origin, visibleText? value = some origin ∧
      (ofEntries OriginCheck.hostname ["2001:DB8::1"] true).1.check origin = .exact := by
  have hentry : ∀ check ∈ OriginCheck.hostname, check.error? "2001:DB8::1".toList = none := by
    decide
  refine ⟨hentry, (matchable_iff Url.takesNames_host? Url.writesHosts_host? hentry true).2.mpr
    (.inr ⟨[0x2001, 0xdb8, 0, 0, 0, 0, 0, 1], ?_⟩)⟩
  exact ⟨⟨rfl, by decide⟩, by decide +kernel⟩

/-- **Entries that nothing matches.** The checks let an address in brackets pass without an event,
and no origin matches it, whoever reads the origin. So it is with a space, with letters outside
ASCII, and with colons that are not those of an address. -/
theorem unmatchable :
    (∀ entry ∈ ["[::1]", "my host", "bücher.example", "a:b:c"],
      (∀ check ∈ OriginCheck.hostname, check.error? entry.toList = none) ∧
        ∀ credentials, (ofEntries OriginCheck.hostname [entry] credentials).2 = []) ∧
    (∀ credentials reader origin,
      (ofEntries OriginCheck.hostname ["[::1]"] credentials).1.checkBy reader origin ≠ .exact) ∧
    ∀ entry ∈ ["[::1]", "my host", "bücher.example", "a:b:c"], ∀ credentials origin,
      (ofEntries OriginCheck.hostname [entry] credentials).1.check origin ≠ .exact := by
  have hpassing : ∀ entry ∈ ["[::1]", "my host", "bücher.example", "a:b:c"],
      ∀ check ∈ OriginCheck.hostname, check.error? entry.toList = none := by decide
  -- neither a name nor an address
  have hneither : ∀ entry ∈ ["[::1]", "my host", "bücher.example", "a:b:c"],
      (Text.lower entry.toList).all Host.isNameChar = false ∧
        Ipv6.parse? (Text.lower entry.toList) = none := by decide +kernel
  refine ⟨fun entry hmem => ⟨hpassing entry hmem, events_passing (hpassing entry hmem)⟩,
    fun credentials => check_bracketed (hpassing "[::1]" (by simp)) credentials (by decide),
    fun entry hmem credentials origin hmatch => ?_⟩
  have hname := (check_passing (hpassing entry hmem) credentials Url.host? origin).mp hmatch
  obtain ⟨hchar, hparse⟩ := hneither entry hmem
  rw [← hname] at hchar hparse
  rcases Url.writesHosts_host?.hostnameBy_cases origin.toList with
    hchars | ⟨groups, hgroups, haddress⟩
  · rw [List.all_eq_true.mpr hchars] at hchar
    exact Bool.false_ne_true hchar.symm
  · rw [haddress, Ipv6.parse?_text hgroups] at hparse
    cases hparse

end OriginMatcher

end HttpPipeline
