import HttpPipeline.Proofs.Origin.Policy
import HttpPipeline.Proofs.Origin.Readers

/-!
# Origins as they are written

An origin that is put together from a scheme, a host and other parts has its host for a host name,
whatever the other parts are (`WrittenOrigin.IsPlain.hostnameBy_text`). This is so for every reader
of URLs that keeps the parts apart and takes names as they are: one rule takes away what follows the
authority, one the user, one the port, and the name that is left stands for itself.

A matcher lists its entries in lower case and reads nothing into them. For plain hosts that is the
same thing, and an origin matches if its host is listed, whatever the case of the letters
(`OriginMatcher.check_written`).

The reader of this project keeps to the rules (`Url.separates_host?`, `Url.takesNames_host?`): each
part ends at a separator that does not occur in it.
-/

namespace HttpPipeline

/-- An origin as it is written: `scheme://user@host:port/path?query`, of which all but the scheme
and the host may be missing. -/
structure WrittenOrigin where
  scheme : List Char
  user : Option (List Char) := none
  host : List Char
  port : Option ℕ := none
  path : Option (List Char) := none
  query : Option (List Char) := none
  deriving DecidableEq

namespace WrittenOrigin

/-- The host with its port. -/
def place (o : WrittenOrigin) : List Char :=
  o.host ++ o.port.elim [] fun n => ':' :: (Text.decimal n).toList

/-- What stands between the slashes in front and the path. -/
def authority (o : WrittenOrigin) : List Char := o.user.elim [] (· ++ ['@']) ++ o.place

/-- What follows the authority. -/
def tail (o : WrittenOrigin) : List Char :=
  o.path.elim [] ('/' :: ·) ++ o.query.elim [] ('?' :: ·)

/-- **The origin in writing.** -/
def text (o : WrittenOrigin) : List Char := Url.located o.scheme (o.authority ++ o.tail)

/-- **A plain origin**: its scheme is one, though not that of files, its host is plain, its port is
one, and all else is made of letters, digits, dots and hyphens. -/
structure IsPlain (o : WrittenOrigin) : Prop extends Url.IsRemote o.scheme where
  user : ∀ user ∈ o.user, ∀ c ∈ user, Host.isDotted c = true
  host : Host.isPlain o.host = true
  port : ∀ port ∈ o.port, port ≤ 65535
  path : ∀ path ∈ o.path, ∀ c ∈ path, Host.isDotted c = true
  query : ∀ query ∈ o.query, ∀ c ∈ query, Host.isDotted c = true

/-- Whether an origin is plain can be computed. -/
instance IsPlain.decidable (o : WrittenOrigin) : Decidable o.IsPlain :=
  let dotted (part : Option (List Char)) : Bool := part.all (·.all Host.isDotted)
  have hdotted (part : Option (List Char)) :
      dotted part = true ↔ ∀ text ∈ part, ∀ c ∈ text, Host.isDotted c = true := by
    cases part <;> simp [dotted]
  decidable_of_iff
    ((o.scheme.head?.any Text.isLetter && o.scheme.all Url.isSchemeChar &&
      Text.lower o.scheme != "file".toList && dotted o.user && Host.isPlain o.host &&
      o.port.all (· ≤ 65535) && dotted o.path && dotted o.query) = true)
    (by
      simp only [Bool.and_eq_true, hdotted, List.all_eq_true, bne_iff_ne, Option.all_eq_true,
        decide_eq_true_eq, and_assoc]
      exact ⟨fun ⟨h1, h2, h3, h4, h5, h6, h7, h8⟩ => ⟨⟨h1, h2, h3⟩, h4, h5, h6, h7, h8⟩,
        fun h => ⟨h.letter, h.chars, h.remote, h.user, h.host, h.port, h.path, h.query⟩⟩)

variable {o : WrittenOrigin} {reader : Url.Reader}

/-- What is in a part that may be missing. -/
theorem mem_elim {α : Type} {part : Option α} {f : α → List Char} {c : Char}
    (h : c ∈ part.elim [] f) : ∃ a, part = some a ∧ c ∈ f a := by
  cases part with
  | none => exact absurd h List.not_mem_nil
  | some a => exact ⟨a, rfl, h⟩

/-- The characters of a plain host may stand in an authority. -/
theorem isAuthorityChar_of_isDotted {c : Char} (h : Host.isDotted c = true) :
    Url.isAuthorityChar c = true := by
  obtain ⟨hlow, hhigh⟩ := Host.bounds_of_isDotted h
  have hplain : "/?#\\".toList.contains c = false := Text.contains_of_class (by decide) h
  simp only [Url.isAuthorityChar, hplain, Bool.not_false, Bool.and_true, Bool.and_eq_true,
    decide_eq_true_eq]
  omega

theorem isDotted_of_mem_decimal {n : ℕ} {c : Char} (hc : c ∈ (Text.decimal n).toList) :
    Host.isDotted c = true := by
  simp [Host.isDotted, Host.isPlainChar, Text.isDigit_of_mem_decimal hc]

/-- What follows the authority begins with a separator, if there is anything. -/
theorem head_tail (o : WrittenOrigin) : ∀ c ∈ o.tail.head?, c = '/' ∨ c = '?' := by
  intro c hc
  rw [tail] at hc
  cases hpath : o.path with
  | some path =>
    rw [hpath] at hc
    exact .inl (Option.some.inj hc).symm
  | none =>
    rw [hpath] at hc
    cases hquery : o.query with
    | some query =>
      rw [hquery] at hc
      exact .inr (Option.some.inj hc).symm
    | none =>
      rw [hquery] at hc
      exact absurd hc (by simp)

namespace IsPlain

theorem place_ne_nil (h : o.IsPlain) : o.place ≠ [] := fun hnil =>
  Host.ne_nil_of_isPlain h.host (List.append_eq_nil_iff.mp hnil).1

theorem head_place (h : o.IsPlain) : o.place.head? ≠ some ':' := by
  intro hhead
  rw [place, List.head?_append_of_ne_nil _ (Host.ne_nil_of_isPlain h.host)] at hhead
  exact Host.notMem_of_isPlain h.host (by decide) (List.mem_of_mem_head? hhead)

theorem mem_place (h : o.IsPlain) {c : Char} (hc : c ∈ o.place) :
    Url.isAuthorityChar c = true ∧ c ≠ '@' := by
  have hdotted {c : Char} (hc : Host.isDotted c = true) : Url.isAuthorityChar c = true ∧ c ≠ '@' :=
    ⟨isAuthorityChar_of_isDotted hc, Text.ne_of_class hc (by decide)⟩
  rcases List.mem_append.mp hc with hhost | hport
  · exact hdotted (Host.isDotted_of_isPlain h.host c hhost)
  · obtain ⟨n, -, hc⟩ := mem_elim hport
    rcases List.mem_cons.mp hc with rfl | hdigit
    · decide
    · exact hdotted (isDotted_of_mem_decimal hdigit)

theorem mem_authority (h : o.IsPlain) {c : Char} (hc : c ∈ o.authority) :
    Url.isAuthorityChar c = true := by
  rcases List.mem_append.mp hc with huser | hplace
  · obtain ⟨user, huser, hc⟩ := mem_elim huser
    rcases List.mem_append.mp hc with hc | hc
    · exact isAuthorityChar_of_isDotted (h.user user huser c hc)
    · obtain rfl := List.mem_singleton.mp hc
      decide
  · exact (h.mem_place hplace).1

theorem mem_tail (h : o.IsPlain) {c : Char} (hc : c ∈ o.tail) :
    0x20 < c.toNat ∧ c.toNat < 0x7f := by
  have hdotted {c : Char} (hc : Host.isDotted c = true) : 0x20 < c.toNat ∧ c.toNat < 0x7f := by
    obtain ⟨hlow, hhigh⟩ := Host.bounds_of_isDotted hc
    omega
  rcases List.mem_append.mp hc with hpath | hquery
  · obtain ⟨path, hpath, hc⟩ := mem_elim hpath
    rcases List.mem_cons.mp hc with rfl | hc
    · decide
    · exact hdotted (h.path path hpath c hc)
  · obtain ⟨query, hquery, hc⟩ := mem_elim hquery
    rcases List.mem_cons.mp hc with rfl | hc
    · decide
    · exact hdotted (h.query query hquery c hc)

/-! One rule after the other takes away a part, until the host is left. -/

theorem reader_authority (hparts : Url.Separates reader) (h : o.IsPlain) :
    reader o.text = reader (Url.located o.scheme o.authority) := by
  have hsome : o.authority ≠ [] := fun hnil =>
    h.place_ne_nil (List.append_eq_nil_iff.mp hnil).2
  exact hparts.tail h.toIsRemote hsome (fun c => h.mem_authority) (fun c => h.mem_tail) o.head_tail

theorem reader_place (hparts : Url.Separates reader) (h : o.IsPlain) :
    reader (Url.located o.scheme o.authority) = reader (Url.located o.scheme o.place) := by
  rw [authority]
  cases huser : o.user with
  | none => rfl
  | some user =>
    rw [Option.elim_some, List.append_assoc, List.singleton_append]
    exact hparts.user h.toIsRemote
      (fun c hc => isAuthorityChar_of_isDotted (h.user user huser c hc)) h.place_ne_nil
      h.head_place fun c => h.mem_place

theorem reader_host (hparts : Url.Separates reader) (h : o.IsPlain) :
    reader (Url.located o.scheme o.place) = reader (Url.located o.scheme o.host) := by
  rw [place]
  cases hport : o.port with
  | none => rw [Option.elim_none, List.append_nil]
  | some port =>
    exact hparts.port h.toIsRemote (Host.ne_nil_of_isPlain h.host)
      (Host.isNameChar_of_isPlain h.host) (h.port port hport)

/-- **The host of a plain origin**, which is in lower case already if the scheme is one of the
web. -/
theorem reader_text (hparts : Url.Separates reader) (hnames : Url.TakesNames reader)
    (h : o.IsPlain) : reader o.text = some o.host ∨ reader o.text = some (Text.lower o.host) := by
  rw [h.reader_authority hparts, h.reader_place hparts, h.reader_host hparts]
  rcases h.toIsRemote.kindOf_cases with hweb | hother
  · exact .inr (hnames.web h.toIsRemote hweb h.host)
  · exact .inl (hnames.other h.toIsRemote hother (Host.ne_nil_of_isPlain h.host)
      (Host.isNameChar_of_isPlain h.host))

/-- **The host name of a plain origin** is its host, whatever the other parts are. -/
theorem hostnameBy_text (hparts : Url.Separates reader) (hnames : Url.TakesNames reader)
    (h : o.IsPlain) : Url.hostnameBy reader o.text = Text.lower o.host := by
  have hchars := Host.isNameChar_of_isPlain h.host
  rcases h.reader_text hparts hnames with hhost | hhost
  · exact Url.hostnameBy_name hhost hchars
  · have hlower : ∀ c ∈ Text.lower o.host, Host.isNameChar c = true :=
      List.forall_mem_map.mpr fun c hc => (Host.isNameChar_lowerChar c).trans (hchars c hc)
    rw [Url.hostnameBy_name hhost hlower, Text.lower_lower]

end IsPlain

end WrittenOrigin

/-! ### A reader that keeps to the rules -/

namespace Url

variable {scheme host port place : List Char} {kind : SchemeKind}

/-- What lies beyond the blank is read as it stands. -/
theorem cleaned_of_forall {text : List Char} (h : ∀ c ∈ text, 0x20 < c.toNat) :
    cleaned text = text := by
  have htrim : Text.trimBy (·.toNat ≤ 0x20) text = text :=
    Text.trimBy_eq_self fun c hc => decide_eq_false (Nat.not_le.mpr (h c hc))
  rw [cleaned, htrim, List.filter_eq_self]
  intro c hc
  have hne {d : Char} (hd : d.toNat ≤ 0x20) : c ≠ d := by
    rintro rfl
    exact absurd (h c hc) (Nat.not_lt.mpr hd)
  simp only [Bool.and_eq_true, bne_iff_ne]
  exact ⟨⟨hne (by decide), hne (by decide)⟩, hne (by decide)⟩

/-- **The scheme** stands before the first colon. -/
theorem scheme?_append (hhead : scheme.head?.any Text.isLetter = true)
    (hscheme : ∀ c ∈ scheme, isSchemeChar c = true) (rest : List Char) :
    scheme? (scheme ++ ':' :: rest) = some (String.ofList (Text.lower scheme), rest) := by
  cases scheme with
  | nil => exact absurd hhead Bool.false_ne_true
  | cons c scheme =>
    have hletter : Text.isLetter c = true := hhead
    have htake : (c :: scheme ++ ':' :: rest).takeWhile isSchemeChar = c :: scheme := by
      rw [List.takeWhile_append_of_pos hscheme, List.takeWhile_cons_of_neg (by decide),
        List.append_nil]
    have hdrop : (c :: scheme ++ ':' :: rest).dropWhile isSchemeChar = ':' :: rest := by
      rw [List.dropWhile_append_of_pos hscheme, List.dropWhile_cons_of_neg (by decide)]
    rw [List.cons_append] at htake hdrop ⊢
    simp only [scheme?, hletter, if_true, htake, hdrop]

/-- Without an `@` there is nothing to leave out. -/
theorem afterLastAt_of_notMem (h : '@' ∉ place) : afterLastAt place = place := by
  rw [afterLastAt, List.takeWhile_eq_self_iff.mpr, List.reverse_reverse]
  intro c hc
  rw [bne_iff_ne]
  rintro rfl
  exact h (List.mem_reverse.mp hc)

/-- **What stands before the last `@`** is of no account. -/
theorem afterLastAt_append (h : '@' ∉ place) (user : List Char) :
    afterLastAt (user ++ '@' :: place) = place := by
  have hreverse : (user ++ '@' :: place).reverse = place.reverse ++ '@' :: user.reverse := by simp
  have hplace : ∀ c ∈ place.reverse, (c != '@') = true := by
    intro c hc
    rw [bne_iff_ne]
    rintro rfl
    exact h (List.mem_reverse.mp hc)
  rw [afterLastAt, hreverse, List.takeWhile_append_of_pos hplace,
    List.takeWhile_cons_of_neg (by decide), List.append_nil, List.reverse_reverse]

/-- **The host** ends at the first colon, if there are no brackets. -/
theorem spanHost_append (hhost : ∀ c ∈ host, c ≠ ':' ∧ c ≠ '[')
    (hport : ∀ c ∈ port.head?, c = ':') : spanHost false (host ++ port) = (host, port) := by
  induction host with
  | nil =>
    cases port with
    | nil => rfl
    | cons c port =>
      obtain rfl := hport c rfl
      rfl
  | cons c host ih =>
    obtain ⟨⟨hcolon, hbracket⟩, hrest⟩ := List.forall_mem_cons.mp hhost
    have hopen : (if c == '[' then true else if c == ']' then false else false) = false := by
      simp [hbracket]
    simp only [List.cons_append, spanHost, hopen, ih hrest]
    simp [hcolon]

/-- **A port** in decimal. -/
theorem portFits_decimal {n : ℕ} (hn : n ≤ 65535) :
    portFits (':' :: (Text.decimal n).toList) = true := by
  have hdigits : ∀ c ∈ (Text.decimal n).toList, Text.isDigit c = true :=
    fun c => Text.isDigit_of_mem_decimal
  have htake : (Text.decimal n).toList.takeWhile (· != '\\') = (Text.decimal n).toList := by
    refine List.takeWhile_eq_self_iff.mpr fun c hc => ?_
    rw [bne_iff_ne]
    rintro rfl
    exact absurd (hdigits _ hc) (by decide)
  have hvalue : (Text.decimal n).toList.foldl (fun n c => 10 * n + (c.toNat - '0'.toNat)) 0
      = n := by
    rw [Text.decimal, Nat.toString_eq_ofList_toDigits, String.toList_ofList]
    exact Nat.ofDigitChars_ten_toDigits
  simp only [portFits, htake, hvalue, Bool.and_eq_true, List.all_eq_true, decide_eq_true_eq]
  exact ⟨hdigits, by omega⟩

/-- What stands before the first separator. -/
theorem takeWhile_authority {authority tail : List Char}
    (hauthority : ∀ c ∈ authority, endsAuthority kind c = false)
    (htail : ∀ c ∈ tail.head?, endsAuthority kind c = true) :
    (authority ++ tail).takeWhile (fun c => !endsAuthority kind c) = authority := by
  rw [List.takeWhile_append_of_pos fun c hc => by rw [hauthority c hc]; rfl]
  cases tail with
  | nil => exact List.append_nil _
  | cons c tail => rw [List.takeWhile_cons_of_neg (by simp [htail c rfl]), List.append_nil]

theorem takeWhile_authority_self {authority : List Char}
    (hauthority : ∀ c ∈ authority, endsAuthority kind c = false) :
    authority.takeWhile (fun c => !endsAuthority kind c) = authority :=
  List.takeWhile_eq_self_iff.mpr fun c hc => by rw [hauthority c hc]; rfl

/-- **The host of an authority** that comes apart into a host and what follows it. -/
theorem authorityHost?_span {authority : List Char}
    (hauthority : ∀ c ∈ authority, endsAuthority kind c = false) (hat : '@' ∉ authority)
    (hspan : spanHost false authority = (host, port)) (hsome : host ≠ [])
    (hfits : portFits port = true) :
    authorityHost? kind authority
      = if kind = .other then Host.ofOpaque? host else Host.ofDomain? host := by
  simp only [authorityHost?, takeWhile_authority_self hauthority, afterLastAt_of_notMem hat, hspan,
    List.isEmpty_eq_false_iff.mpr hsome, hfits, Bool.not_true, Bool.or_self, Bool.false_eq_true,
    if_false]
  cases kind <;> rfl

/-- A character that may stand in an authority does not end it. -/
theorem endsAuthority_of_isAuthorityChar {c : Char} (h : isAuthorityChar c = true) :
    endsAuthority kind c = false := by
  have hne {d : Char} (hd : isAuthorityChar d = false) : (c == d) = false :=
    beq_false_of_ne (Text.ne_of_class h hd)
  rw [endsAuthority, hne (by decide), hne (by decide), hne (by decide), hne (by decide)]
  simp

theorem visible_of_isAuthorityChar {c : Char} (h : isAuthorityChar c = true) : 0x20 < c.toNat := by
  simp only [isAuthorityChar, Bool.and_eq_true, decide_eq_true_eq] at h
  exact h.1.1

/-- A name may stand in an authority. -/
theorem isAuthorityChar_of_isNameChar {c : Char} (h : Host.isNameChar c = true) :
    isAuthorityChar c = true := by
  obtain ⟨hlow, hhigh, -⟩ := Host.isNameChar_iff.mp h
  have hplain : "/?#\\".toList.contains c = false := Text.contains_of_class (by decide) h
  simp only [isAuthorityChar, hplain, Bool.not_false, Bool.and_true, Bool.and_eq_true,
    decide_eq_true_eq]
  exact ⟨hlow, hhigh⟩

/-- Nothing in a scheme is white space. -/
theorem visible_of_isSchemeChar {c : Char} (h : isSchemeChar c = true) : 0x20 < c.toNat := by
  simp only [isSchemeChar, Bool.or_eq_true, beq_iff_eq] at h
  have hdotted (h : Host.isDotted c = true) : 0x20 < c.toNat :=
    Nat.lt_of_lt_of_le (by decide) (Host.bounds_of_isDotted h).1
  rcases h with (((hc | hc) | rfl) | rfl) | rfl
  · exact hdotted (by simp [Host.isDotted, Host.isPlainChar, hc])
  · exact hdotted (by simp [Host.isDotted, Host.isPlainChar, hc])
  all_goals decide

/-- **What follows the slashes** is an authority, if it does not begin with a slash of its own. -/
theorem host?_located (hscheme : IsRemote scheme) {rest : List Char}
    (hrest : ∀ c ∈ rest, 0x20 < c.toNat) (hhead : ∀ c ∈ rest.head?, c ≠ '/' ∧ c ≠ '\\') :
    host? (located scheme rest) = authorityHost? (kindOf scheme) rest := by
  have hvisible : ∀ c ∈ located scheme rest, 0x20 < c.toNat := by
    refine List.forall_mem_append.mpr ⟨fun c hc => visible_of_isSchemeChar (hscheme.chars c hc), ?_⟩
    simp only [List.forall_mem_cons]
    exact ⟨by decide, by decide, by decide, hrest⟩
  -- all slashes behind the scheme are dropped, and there are just two
  have hslashes : ('/' :: '/' :: rest).dropWhile (fun c => c == '/' || c == '\\') = rest := by
    rw [List.dropWhile_cons_of_pos (by decide), List.dropWhile_cons_of_pos (by decide)]
    cases rest with
    | nil => rfl
    | cons c rest =>
      obtain ⟨hslash, hback⟩ := hhead c rfl
      rw [List.dropWhile_cons_of_neg (by simp [hslash, hback])]
  rw [host?, cleaned_of_forall hvisible, located, scheme?_append hscheme.letter hscheme.chars]
  simp only [Option.bind_eq_bind, Option.bind_some]
  rcases hscheme.kindOf_cases with hkind | hkind
  · rw [hkind]
    rw [kindOf] at hkind
    rw [hkind]
    dsimp only
    rw [hslashes]
  · rw [hkind]
    rw [kindOf] at hkind
    rw [hkind]

/-- So it is with characters of an authority, and what follows them. -/
theorem host?_authority (hscheme : IsRemote scheme) {authority tail : List Char}
    (hsome : authority ≠ []) (hauthority : ∀ c ∈ authority, isAuthorityChar c = true)
    (htail : ∀ c ∈ tail, 0x20 < c.toNat) :
    host? (located scheme (authority ++ tail))
      = authorityHost? (kindOf scheme) (authority ++ tail) := by
  refine host?_located hscheme (List.forall_mem_append.mpr
    ⟨fun c hc => visible_of_isAuthorityChar (hauthority c hc), htail⟩) fun c hc => ?_
  rw [List.head?_append_of_ne_nil _ hsome] at hc
  have hchar := hauthority c (List.mem_of_mem_head? hc)
  exact ⟨Text.ne_of_class hchar (by decide), Text.ne_of_class hchar (by decide)⟩

theorem host?_authority_self (hscheme : IsRemote scheme) {authority : List Char}
    (hsome : authority ≠ []) (hauthority : ∀ c ∈ authority, isAuthorityChar c = true) :
    host? (located scheme authority) = authorityHost? (kindOf scheme) authority := by
  have hwhole : host? (located scheme (authority ++ [])) = _ :=
    host?_authority hscheme hsome hauthority (by simp)
  rwa [List.append_nil] at hwhole

/-- **The parts stand apart.** -/
theorem separates_host? : Separates host? where
  tail {scheme authority tail} hscheme hsome hauthority hvisible hhead := by
    have hplain : ∀ c ∈ authority, endsAuthority (kindOf scheme) c = false := fun c hc =>
      endsAuthority_of_isAuthorityChar (hauthority c hc)
    have hends : ∀ c ∈ tail.head?, endsAuthority (kindOf scheme) c = true := by
      intro c hc
      rcases hhead c hc with rfl | rfl <;> rfl
    rw [host?_authority hscheme hsome hauthority fun c hc => (hvisible c hc).1,
      host?_authority_self hscheme hsome hauthority]
    simp only [authorityHost?, takeWhile_authority hplain hends, takeWhile_authority_self hplain]
  user {scheme user place} hscheme huser hsome _ hplace := by
    -- the '@' that ends the user is the last one
    have hat : '@' ∉ place := fun hmem => (hplace _ hmem).2 rfl
    have hchars : ∀ c ∈ user ++ '@' :: place, isAuthorityChar c = true :=
      List.forall_mem_append.mpr
        ⟨huser, List.forall_mem_cons.mpr ⟨by decide, fun c hc => (hplace c hc).1⟩⟩
    have hplain : ∀ c ∈ user ++ '@' :: place, endsAuthority (kindOf scheme) c = false := fun c hc =>
      endsAuthority_of_isAuthorityChar (hchars c hc)
    rw [host?_authority_self hscheme (by simp) hchars,
      host?_authority_self hscheme hsome fun c hc => (hplace c hc).1]
    simp only [authorityHost?, takeWhile_authority_self hplain, afterLastAt_append hat,
      afterLastAt_of_notMem hat, takeWhile_authority_self fun c hc =>
        hplain c (List.mem_append_right user (List.mem_cons_of_mem _ hc))]
  port {scheme name port} hscheme hsome hname hport := by
    have hdigits : ∀ c ∈ (Text.decimal port).toList, Host.isDotted c = true := fun c =>
      WrittenOrigin.isDotted_of_mem_decimal
    have hchars : ∀ c ∈ name ++ ':' :: (Text.decimal port).toList, isAuthorityChar c = true :=
      List.forall_mem_append.mpr ⟨fun c hc => isAuthorityChar_of_isNameChar (hname c hc),
        List.forall_mem_cons.mpr ⟨by decide, fun c hc =>
          isAuthorityChar_of_isNameChar (Host.isNameChar_of_isDotted (hdigits c hc))⟩⟩
    have hat : '@' ∉ name ++ ':' :: (Text.decimal port).toList := by
      rw [List.mem_append, List.mem_cons, not_or, not_or]
      exact ⟨Host.notMem_of_isNameChar hname (by decide), by decide,
        fun hmem => Text.ne_of_class (hdigits _ hmem) (by decide) rfl⟩
    -- nothing in a name ends the host or opens a bracket
    have hends : ∀ c ∈ name, c ≠ ':' ∧ c ≠ '[' := fun c hc =>
      ⟨Text.ne_of_class (hname c hc) (by decide), Text.ne_of_class (hname c hc) (by decide)⟩
    have halone : spanHost false (name ++ []) = (name, []) := spanHost_append hends (by simp)
    rw [List.append_nil] at halone
    have hplain : ∀ c ∈ name, isAuthorityChar c = true := fun c hc =>
      isAuthorityChar_of_isNameChar (hname c hc)
    rw [host?_authority_self hscheme (by simp) hchars, host?_authority_self hscheme hsome hplain,
      authorityHost?_span (fun c hc => endsAuthority_of_isAuthorityChar (hchars c hc)) hat
        (spanHost_append hends fun c hc => (Option.some.inj hc).symm) hsome
        (portFits_decimal hport),
      authorityHost?_span (fun c hc => endsAuthority_of_isAuthorityChar (hplain c hc))
        (Host.notMem_of_isNameChar hname (by decide)) halone hsome rfl]

/-- A host without separators is the whole authority. -/
theorem host?_name (hscheme : IsRemote scheme) {name : List Char} (hsome : name ≠ [])
    (hname : ∀ c ∈ name, Host.isNameChar c = true) :
    host? (located scheme name)
      = if kindOf scheme = .other then Host.ofOpaque? name else Host.ofDomain? name := by
  have hplain : ∀ c ∈ name, isAuthorityChar c = true := fun c hc =>
    isAuthorityChar_of_isNameChar (hname c hc)
  have hspan : spanHost false (name ++ []) = (name, []) := spanHost_append (fun c hc =>
    ⟨Text.ne_of_class (hname c hc) (by decide), Text.ne_of_class (hname c hc) (by decide)⟩)
    (by simp)
  rw [List.append_nil] at hspan
  rw [host?_authority_self hscheme hsome hplain]
  exact authorityHost?_span (fun c hc => endsAuthority_of_isAuthorityChar (hplain c hc))
    (Host.notMem_of_isNameChar hname (by decide)) hspan hsome rfl

/-- **Names are taken as they are.** -/
theorem takesNames_host? : TakesNames host? where
  web hscheme hweb hhost := by
    rw [host?_name hscheme (Host.ne_nil_of_isPlain hhost) (Host.isNameChar_of_isPlain hhost), hweb,
      if_neg (by decide), Host.ofDomain?_plain hhost]
  other hscheme hother hsome hname := by
    rw [host?_name hscheme hsome hname, if_pos hother, Host.ofOpaque?_name hname]

end Url

namespace OriginMatcher

/-- The checks for host names find nothing wrong with a plain host. -/
theorem error?_plain {host : List Char} (h : Host.isPlain host = true) {check : OriginCheck}
    (hcheck : check ∈ OriginCheck.hostname) : check.error? host = none := by
  have hcolon : ':' ∉ host := Host.notMem_of_isPlain h (by decide)
  have hoccurs {needle : List Char} (hmem : ':' ∈ needle) : ¬Text.occurs needle host = true :=
    fun hoccurs => hcolon ((Text.occurs_iff.mp hoccurs).subset hmem)
  simp only [OriginCheck.hostname, List.mem_cons, List.not_mem_nil, or_false] at hcheck
  rcases hcheck with rfl | rfl | rfl | rfl | rfl
  · exact if_neg (hoccurs (by decide))
  · exact if_neg fun hslash =>
      Host.notMem_of_isPlain h (by decide) (List.contains_iff_mem.mp hslash)
  · refine if_neg fun hport => ?_
    rcases Bool.or_eq_true_iff.mp hport with hone | hclose
    · rw [List.count_eq_zero.mpr hcolon] at hone
      exact absurd hone (by decide)
    · exact hoccurs (by decide) hclose
  · refine if_neg ?_
    rintro rfl
    exact absurd h (by decide)
  · exact if_neg (Host.ne_nil_of_isPlain h)

/-- **What matches among plain origins**, by any reader that keeps to the rules. The host has to be
one of the entries that pass the checks, whatever the case of its letters; scheme, port and all
other parts make no difference. The checks for host names let every plain entry pass. -/
theorem check_written {reader : Url.Reader} (hparts : Url.Separates reader)
    (hnames : Url.TakesNames reader) (checks : List OriginCheck) {entries : List String}
    (credentials : Bool) (hentries : ∀ entry ∈ entries, Host.isPlain entry.toList = true)
    {o : WrittenOrigin} (h : o.IsPlain) :
    let m := (ofEntries checks entries credentials).1
    let origin := String.ofList o.text
    (m.checkBy reader origin = .exact ↔
      ∃ entry ∈ entries, (∀ check ∈ checks, check.error? entry.toList = none) ∧
        Text.sameIgnoringCase entry.toList o.host = true) ∧
    ((∀ check ∈ checks, check ∈ OriginCheck.hostname) →
      (m.checkBy reader origin = .exact ↔
        ∃ entry ∈ entries, Text.sameIgnoringCase entry.toList o.host = true)) ∧
    (m.checkBy reader origin ≠ .exact → m.checkBy reader origin = .denied) := by
  intro m origin
  let s : CorsSettings := { allowedOrigins := entries, allowCredentials := credentials }
  have hno : ¬s.Passes checks "*" := fun hstar => absurd (hentries "*" hstar.1) (by decide)
  -- a plain entry is neither the wildcard nor empty, so to be listed is to pass
  have hlists (entry : String) : s.Lists checks entry ↔ s.Passes checks entry := by
    refine ⟨And.left, fun hpasses => ⟨hpasses, ?_, ?_⟩⟩
    · rintro rfl
      exact absurd (hentries "" hpasses.1) (by decide)
    · rintro rfl
      exact hno hpasses
  have hexact : m.checkBy reader origin = .exact ↔
      ∃ entry ∈ entries, (∀ check ∈ checks, check.error? entry.toList = none) ∧
        Text.sameIgnoringCase entry.toList o.host = true := by
    refine (check_exact_iff checks s hno).trans (exists_congr fun entry => ?_)
    rw [hlists, String.toList_ofList, h.hostnameBy_text hparts hnames, CorsSettings.Passes,
      and_assoc, Text.sameIgnoringCase, beq_iff_eq]
  refine ⟨hexact, fun hstock => hexact.trans (exists_congr fun entry => ?_),
    check_denied checks s hno⟩
  refine and_congr_right fun hentry => and_iff_right fun check hcheck => ?_
  exact error?_plain (hentries entry hentry) (hstock check hcheck)

theorem check_written_user :
    let m := (ofEntries OriginCheck.hostname ["App.example"] true).1
    let other : WrittenOrigin :=
      { scheme := "HTTP".toList, user := some "app.example".toList
        host := "www.app.EXAMPLE".toList, port := some 8080
        path := some "app.example".toList, query := some "app.example".toList }
    let listed : WrittenOrigin :=
      { scheme := "git+ssh".toList, host := "APP.example".toList, port := some 22 }
    m.check (String.ofList other.text) = .denied ∧
      m.check (String.ofList listed.text) = .exact := by
  intro m other listed
  have hentries : ∀ entry ∈ ["App.example"], Host.isPlain entry.toList = true := by decide
  have hother : other.IsPlain := by decide
  have hlisted : listed.IsPlain := by decide
  obtain ⟨-, hexact, hdenied⟩ := check_written Url.separates_host? Url.takesNames_host?
    OriginCheck.hostname true hentries hother
  refine ⟨hdenied fun h => absurd ((hexact fun _ => id).mp h) (by decide), ?_⟩
  obtain ⟨-, hexact, -⟩ := check_written Url.separates_host? Url.takesNames_host?
    OriginCheck.hostname true hentries hlisted
  exact (hexact fun _ => id).mpr (by decide)

/-- **Capital letters** do not keep a label from being a number or from saying that it is the form
of another. So it is not enough that the last label does not begin with `0x` and no label with
`xn--`: such an entry is listed as it stands, and an origin with just this host is denied. -/
theorem denied_capital :
    (∀ name ∈ ["0X1", "XN--"], (Text.splitOn '.' name.toList).all (fun label => !label.isEmpty &&
      label.all Host.isPlainChar && !Domain.acePrefix.isPrefixOf label) = true ∧
      (Text.splitOn '.' name.toList).getLast?.any (fun label =>
        !label.all Text.isDigit && !"0x".toList.isPrefixOf label) = true) ∧
    ∀ name ∈ ["0X1", "XN--"], (ofEntries OriginCheck.hostname [name] false).2 = [] ∧
      (ofEntries OriginCheck.hostname [name] false).1.check ("http://" ++ name) = .denied := by
  decide +kernel

end OriginMatcher

end HttpPipeline
