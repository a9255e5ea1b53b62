import HttpPipeline.Origin.Url
import HttpPipeline.Proofs.Origin.Addresses
import HttpPipeline.Proofs.Origin.Plain

/-!
# Readers of URLs

Which host an origin has is decided by a reader of URLs, and a matcher knows nothing of how a reader
works. What it relies on are rules that hold of URLs on the web, whoever reads them. They are stated
here for any reader, rule by rule, and everything about matching is proved from them.

* The parts of `scheme://user@host:port/path?query` stand apart: neither what comes before the last
  `@` nor a port nor whatever follows the authority has a part in the host (`Url.Separates`).
* A plain host is taken in lower case if the scheme is one of the web, and with any other scheme a
  name stands for itself (`Url.TakesNames`).
* A host that is found is a name, or an address in brackets in its one writing, and every address in
  that writing is found (`Url.WritesHosts`).

Nothing is assumed of the scheme of files, where a host is often none, of characters outside ASCII,
or of white space.
-/

namespace HttpPipeline

namespace Host

/-- Visible characters of ASCII that have no other meaning in a URL. -/
def isNameChar (c : Char) : Bool := 0x20 < c.toNat && c.toNat < 0x7f && !isForbidden c

theorem isNameChar_iff {c : Char} :
    isNameChar c = true ↔ 0x20 < c.toNat ∧ c.toNat < 0x7f ∧ isForbidden c = false := by
  simp only [isNameChar, Bool.and_eq_true, decide_eq_true_eq, Bool.not_eq_true', and_assoc]

theorem isNameChar_of_isDotted {c : Char} (h : isDotted c = true) : isNameChar c = true := by
  obtain ⟨hlow, hhigh⟩ := bounds_of_isDotted h
  exact isNameChar_iff.mpr ⟨by omega, by omega, isForbidden_of_isDotted h⟩

/-- The case of letters does not matter. -/
theorem isNameChar_lowerChar (c : Char) : isNameChar (Text.lowerChar c) = isNameChar c := by
  by_cases hdotted : isDotted c = true
  · rw [isNameChar_of_isDotted hdotted,
      isNameChar_of_isDotted ((isDotted_lowerChar c).trans hdotted)]
  · -- what is not in a plain host is no letter
    rw [Text.lowerChar, if_neg]
    intro hupper
    exact hdotted (by simp [isDotted, isPlainChar, Text.isLetter, hupper])

theorem isNameChar_of_isPlain {host : List Char} (h : isPlain host = true) :
    ∀ c ∈ host, isNameChar c = true := fun c hc =>
  isNameChar_of_isDotted (isDotted_of_isPlain h c hc)

theorem notMem_of_isNameChar {name : List Char} (h : ∀ c ∈ name, isNameChar c = true) {c : Char}
    (hc : isNameChar c = false) : c ∉ name := fun hmem => Text.ne_of_class (h c hmem) hc rfl

/-- **A name stands for itself** where nothing is known of hosts. -/
theorem ofOpaque?_name {name : List Char} (h : ∀ c ∈ name, isNameChar c = true) :
    ofOpaque? name = some name := by
  have hhead : ¬name.head? = some '[' := fun hhead =>
    notMem_of_isNameChar h (by decide) (List.mem_of_mem_head? hhead)
  have hallowed : ¬name.any isForbidden = true := by
    rw [Bool.not_eq_true, List.any_eq_false]
    exact fun c hc => Bool.eq_false_iff.mp (isNameChar_iff.mp (h c hc)).2.2
  have hprintable : ∀ c ∈ name, 0x20 ≤ c.toNat ∧ c.toNat < 0x7f := fun c hc =>
    ⟨(isNameChar_iff.mp (h c hc)).1.le, (isNameChar_iff.mp (h c hc)).2.1⟩
  rw [ofOpaque?, if_neg hhead, if_neg hallowed, percentEncode_printable hprintable]

/-- **A host in writing** is a name, or an address in brackets. -/
inductive Written : List Char → Prop
  | name {host : List Char} (h : ∀ c ∈ host, isNameChar c = true) : Written host
  | address {groups : List ℕ} (h : Ipv6.IsAddress groups) :
    Written ('[' :: (Ipv6.text groups ++ [']']))

end Host

namespace Url

/-! ### The rules -/

/-- The kind of a scheme, in whatever letters it is written. -/
def kindOf (scheme : List Char) : SchemeKind := .ofName (String.ofList (Text.lower scheme))

/-- **A remote scheme**: a letter, and then letters, digits and some signs, but not that of
files. -/
structure IsRemote (scheme : List Char) : Prop where
  letter : scheme.head?.any Text.isLetter = true
  chars : ∀ c ∈ scheme, isSchemeChar c = true
  remote : Text.lower scheme ≠ "file".toList

/-- A remote scheme is one of the web, or nothing is known of it. -/
theorem IsRemote.kindOf_cases {scheme : List Char} (h : IsRemote scheme) :
    kindOf scheme = .web ∨ kindOf scheme = .other := by
  rw [kindOf, SchemeKind.ofName]
  split_ifs with hweb hfile
  · exact .inl rfl
  · rw [beq_iff_eq] at hfile
    refine absurd ?_ h.remote
    rw [← hfile, String.toList_ofList]
  · exact .inr rfl

/-- A URL by its scheme and what follows the two slashes. -/
def located (scheme rest : List Char) : List Char := scheme ++ ':' :: '/' :: '/' :: rest

/-- Visible characters of ASCII that do not end an authority, whatever the scheme. -/
def isAuthorityChar (c : Char) : Bool :=
  0x20 < c.toNat && c.toNat < 0x7f && !"/?#\\".toList.contains c

variable {reader : Reader} {scheme : List Char}

/-- **The parts of a URL stand apart.** -/
structure Separates (reader : Reader) : Prop where
  /-- What follows an authority has no part in the host. -/
  tail {scheme authority tail : List Char} : IsRemote scheme → authority ≠ [] →
    (∀ c ∈ authority, isAuthorityChar c = true) →
    (∀ c ∈ tail, 0x20 < c.toNat ∧ c.toNat < 0x7f) → (∀ c ∈ tail.head?, c = '/' ∨ c = '?') →
    reader (located scheme (authority ++ tail)) = reader (located scheme authority)
  /-- Nor has what comes before the last `@`. -/
  user {scheme user place : List Char} : IsRemote scheme →
    (∀ c ∈ user, isAuthorityChar c = true) → place ≠ [] → place.head? ≠ some ':' →
    (∀ c ∈ place, isAuthorityChar c = true ∧ c ≠ '@') →
    reader (located scheme (user ++ '@' :: place)) = reader (located scheme place)
  /-- Nor has a port. -/
  port {scheme name : List Char} {port : ℕ} : IsRemote scheme → name ≠ [] →
    (∀ c ∈ name, Host.isNameChar c = true) → port ≤ 65535 →
    reader (located scheme (name ++ ':' :: (Text.decimal port).toList))
      = reader (located scheme name)

/-- **Names are taken as they are**, but for the case of letters where the scheme is one of the
web. -/
structure TakesNames (reader : Reader) : Prop where
  web {scheme host : List Char} : IsRemote scheme → kindOf scheme = .web →
    Host.isPlain host = true → reader (located scheme host) = some (Text.lower host)
  other {scheme name : List Char} : IsRemote scheme → kindOf scheme = .other → name ≠ [] →
    (∀ c ∈ name, Host.isNameChar c = true) → reader (located scheme name) = some name

/-- **Hosts are written** as names or as addresses, and every address is a host. -/
structure WritesHosts (reader : Reader) : Prop where
  written {text host : List Char} : reader text = some host → Host.Written host
  address {scheme : List Char} {groups : List ℕ} : IsRemote scheme → Ipv6.IsAddress groups →
    reader (located scheme ('[' :: (Ipv6.text groups ++ [']'])))
      = some ('[' :: (Ipv6.text groups ++ [']']))

/-! ### Brackets -/

theorem dropWhile_of_notMem {cs : List Char} {d : Char} (h : d ∉ cs) :
    cs.dropWhile (· == d) = cs := by
  cases cs with
  | nil => rfl
  | cons c cs =>
    rw [List.dropWhile_cons_of_neg]
    rw [beq_iff_eq]
    rintro rfl
    exact h List.mem_cons_self

/-- A host without brackets. -/
theorem withoutBrackets_of_notMem {host : List Char} (hopen : '[' ∉ host) (hclose : ']' ∉ host) :
    withoutBrackets host = host := by
  rw [withoutBrackets, dropWhile_of_notMem hopen,
    dropWhile_of_notMem fun h => hclose (List.mem_reverse.mp h), List.reverse_reverse]

/-- The brackets of an address are taken away. -/
theorem withoutBrackets_bracketed {inside : List Char} (hopen : '[' ∉ inside)
    (hclose : ']' ∉ inside) : withoutBrackets ('[' :: (inside ++ [']'])) = inside := by
  have hkept : '[' ∉ inside ++ [']'] := by simp [hopen]
  rw [withoutBrackets, List.dropWhile_cons_of_pos (by decide), dropWhile_of_notMem hkept,
    List.reverse_append, List.reverse_singleton, List.singleton_append,
    List.dropWhile_cons_of_pos (by decide),
    dropWhile_of_notMem (fun h => hclose (List.mem_reverse.mp h)), List.reverse_reverse]

theorem withoutBrackets_address (groups : List ℕ) :
    withoutBrackets ('[' :: (Ipv6.text groups ++ [']'])) = Ipv6.text groups := by
  have hdigit {c : Char} (hcolon : c ≠ ':') (hc : Ipv6.isGroupChar c = false) :
      c ∉ Ipv6.text groups := by
    intro hmem
    rw [(Ipv6.mem_text hmem).resolve_right hcolon] at hc
    exact Bool.false_ne_true hc.symm
  exact withoutBrackets_bracketed (hdigit (by decide) (by decide)) (hdigit (by decide) (by decide))

/-- **No brackets stay** at the ends, whatever the host is. -/
theorem head?_withoutBrackets (host : List Char) : (withoutBrackets host).head? ≠ some '[' := by
  intro hhead
  -- what is left begins as the host does behind its brackets in front
  have hbegins : withoutBrackets host <+: host.dropWhile (· == '[') := by
    rw [withoutBrackets, ← List.reverse_suffix, List.reverse_reverse]
    exact List.dropWhile_suffix _
  cases hrest : host.dropWhile (· == '[') with
  | nil =>
    rw [hrest, List.prefix_nil] at hbegins
    rw [hbegins] at hhead
    cases hhead
  | cons c rest =>
    have hc : ¬(c == '[') = true := by
      have hnot := List.head?_dropWhile_not (· == '[') host
      rw [hrest] at hnot
      simpa using hnot
    cases hleft : withoutBrackets host with
    | nil =>
      rw [hleft] at hhead
      cases hhead
    | cons d left =>
      rw [hleft] at hhead
      rw [hleft, hrest] at hbegins
      obtain ⟨rfl, -⟩ := List.cons_prefix_cons.mp hbegins
      exact hc (beq_iff_eq.mpr (Option.some.inj hhead))

/-! ### Host names -/

/-- The host name of a URL whose host is a name. -/
theorem hostnameBy_name {text name : List Char} (h : reader text = some name)
    (hname : ∀ c ∈ name, Host.isNameChar c = true) : hostnameBy reader text = Text.lower name := by
  rw [hostnameBy, h]
  exact congrArg Text.lower (withoutBrackets_of_notMem
    (Host.notMem_of_isNameChar hname (by decide)) (Host.notMem_of_isNameChar hname (by decide)))

/-- The host name of a URL whose host is an address. -/
theorem hostnameBy_address {text : List Char} {groups : List ℕ}
    (h : reader text = some ('[' :: (Ipv6.text groups ++ [']']))) :
    hostnameBy reader text = Ipv6.text groups := by
  rw [hostnameBy, h]
  dsimp only
  rw [withoutBrackets_address, Ipv6.lower_text]

/-- **A host name** is a name, which may be empty, or an address. -/
theorem WritesHosts.hostnameBy_cases (h : WritesHosts reader) (origin : List Char) :
    (∀ c ∈ hostnameBy reader origin, Host.isNameChar c = true) ∨
      ∃ groups, Ipv6.IsAddress groups ∧ hostnameBy reader origin = Ipv6.text groups := by
  cases hhost : reader origin with
  | none => exact .inl (by simp [hostnameBy, hhost])
  | some host =>
    cases h.written hhost with
    | name hname =>
      rw [hostnameBy_name hhost hname]
      refine .inl (List.forall_mem_map.mpr fun c hc => ?_)
      rw [Host.isNameChar_lowerChar, hname c hc]
    | address hgroups =>
      rw [hostnameBy_address hhost]
      exact .inr ⟨_, hgroups, rfl⟩

/-- **A host name begins with no bracket**, whatever the reader is. -/
theorem head?_hostnameBy (reader : Reader) (origin : List Char) :
    (hostnameBy reader origin).head? ≠ some '[' := by
  rw [hostnameBy]
  cases reader origin with
  | none => simp
  | some host =>
    intro hhead
    obtain ⟨c, hc, hlower⟩ := Option.map_eq_some_iff.mp (List.head?_map.symm.trans hhead)
    -- no other character is a bracket in lower case
    have hbracket : c = '[' := by
      by_contra hne
      have hclass := Text.lowerChar_class (f := (· == '[')) (by decide) c
      rw [hlower, beq_self_eq_true] at hclass
      exact hne (beq_iff_eq.mp hclass.symm)
    exact head?_withoutBrackets host (hbracket ▸ hc)

end Url

end HttpPipeline
