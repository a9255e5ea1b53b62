import HttpPipeline.Origin.Host
import HttpPipeline.Proofs.Text.Letters
import HttpPipeline.Proofs.Text.Pieces

/-!
# Plain hosts

Before a host is compared with a list, it goes through percent-decoding, the mapping of domain
names, Punycode and the reading of addresses. A host that is written in letters, digits and hyphens
alone comes out of all this as it went in, but for the case of its letters
(`Host.ofDomain?_plain`). Two kinds of labels have to be left aside: one that says that it is the
form of another label, and a last label that is a number or begins like one (`Host.isPlain`).
Case makes no difference to that, since a host is in lower case by the time it is looked at.
-/

namespace HttpPipeline

namespace Host

/-- Letters, digits and hyphens. -/
def isPlainChar (c : Char) : Bool := Text.isLetter c || Text.isDigit c || c == '-'

/-- A label of such characters, unless it says that it is the form of another label. -/
def isPlainLabel (label : List Char) : Bool :=
  !label.isEmpty && label.all isPlainChar && !Domain.acePrefix.isPrefixOf (Text.lower label)

/-- A label that is no number in decimal and does not begin like one in hexadecimal. -/
def isWord (label : List Char) : Bool :=
  !label.all Text.isDigit && !"0x".toList.isPrefixOf (Text.lower label)

/-- **A plain host**: plain labels with dots between them, the last of which is a word. -/
def isPlain (host : List Char) : Bool :=
  (Text.splitOn '.' host).all isPlainLabel && (Text.splitOn '.' host).getLast?.any isWord

/-- The characters of a plain host. -/
def isDotted (c : Char) : Bool := isPlainChar c || c == '.'

/-- They stand between the hyphen and the last of the letters. -/
theorem bounds_of_isDotted {c : Char} (h : isDotted c = true) :
    0x2d ≤ c.toNat ∧ c.toNat ≤ 0x7a := by
  have hbounds {d e : Char} (hd : 0x2d ≤ d.toNat) (he : e.toNat ≤ 0x7a) (hc : d ≤ c ∧ c ≤ e) :
      0x2d ≤ c.toNat ∧ c.toNat ≤ 0x7a :=
    ⟨hd.trans (Text.toNat_le hc.1), (Text.toNat_le hc.2).trans he⟩
  simp only [isDotted, isPlainChar, Text.isLetter, Text.isDigit, Bool.or_eq_true, Bool.and_eq_true,
    decide_eq_true_eq, beq_iff_eq] at h
  rcases h with (((hlower | hupper) | hdigit) | rfl) | rfl
  · exact hbounds (by decide) (by decide) hlower
  · exact hbounds (by decide) (by decide) hupper
  · exact hbounds (by decide) (by decide) hdigit
  · decide
  · decide

/-- The case of letters does not matter. -/
theorem isDotted_lowerChar (c : Char) : isDotted (Text.lowerChar c) = isDotted c :=
  Text.lowerChar_class (by decide) c

/-- None of them is forbidden. -/
theorem isForbidden_of_isDotted {c : Char} (h : isDotted c = true) : isForbidden c = false :=
  Text.contains_of_class (by decide) h

end Host

/-! ### Domain names in ASCII -/

/-- A partial function that is defined on every member. -/
theorem mapM_of_forall {α β : Type} {f : α → Option β} {g : α → β} {xs : List α}
    (h : ∀ x ∈ xs, f x = some (g x)) : xs.mapM f = some (xs.map g) := by
  induction xs with
  | nil => rfl
  | cons x xs ih =>
    obtain ⟨hx, hxs⟩ := List.forall_mem_cons.mp h
    rw [List.mapM_cons, hx, ih hxs]
    rfl

namespace Domain

theorem isForbidden_of_isDotted {c : Char} (h : Host.isDotted c = true) :
    isForbidden c = false := by
  obtain ⟨hlow, hhigh⟩ := Host.bounds_of_isDotted h
  simp only [isForbidden, Bool.or_eq_false_iff, decide_eq_false_iff_not, beq_eq_false_iff_ne]
  exact ⟨⟨by omega, by omega⟩, Text.contains_of_class (by decide) h⟩

/-- The labels of a name in lower case. -/
theorem splitOn_lower (name : List Char) :
    Text.splitOn '.' (Text.lower name) = (Text.splitOn '.' name).map Text.lower :=
  Text.splitOn_map (Text.lowerChar_class (f := (· == '.')) (by decide)) name

/-- **A name in ASCII** whose labels stand for themselves is its own ASCII form, in lower case. -/
theorem toAscii?_of_ascii {name : List Char} (hascii : ∀ c ∈ name, c.toNat < 128)
    (hallowed : ∀ c ∈ name, isForbidden (Text.lowerChar c) = false)
    (hlabels : ∀ label ∈ Text.splitOn '.' (Text.lower name), acePrefix.isPrefixOf label = false) :
    toAscii? name = some (Text.lower name) := by
  -- every character is mapped to its lower case, and there is nothing to compose
  have hmapped : name.mapM mapped? = some (name.map fun c => [Text.lowerChar c]) :=
    mapM_of_forall fun c hc => if_pos (hascii c hc)
  have hflat : (name.map fun c => [Text.lowerChar c]).flatten = Text.lower name := by
    rw [← List.flatMap_def]
    exact List.map_eq_flatMap.symm
  have hlower : ∀ c ∈ Text.lower name, c.toNat < 128 := by
    refine List.forall_mem_map.mpr fun c hc => ?_
    have hcase : decide ((Text.lowerChar c).toNat < 128) = decide (c.toNat < 128) :=
      Text.lowerChar_class (f := fun c => decide (c.toNat < 128)) (by decide) c
    exact of_decide_eq_true (hcase.trans (decide_eq_true (hascii c hc)))
  have hcomposed : Text.compose (Text.lower name) = Text.lower name :=
    if_pos (List.all_eq_true.mpr fun c hc => decide_eq_true (hlower c hc))
  have hpermitted : (Text.lower name).any isForbidden = false := by
    refine List.any_eq_false.mpr fun c hc => ?_
    obtain ⟨d, hd, rfl⟩ := List.mem_map.mp hc
    rw [hallowed d hd]
    exact Bool.false_ne_true
  have hjoined : List.intercalate ['.'] (Text.splitOn '.' (Text.lower name)) = Text.lower name := by
    rw [Text.splitOn_eq, List.intercalate_splitOn]
  -- the rest is about the labels, and nothing is known of them but that they are in ASCII
  generalize Text.lower name = text at *
  generalize hsplit : Text.splitOn '.' text = labels at *
  have hplain : ∀ label ∈ labels, label.all (·.toNat < 0x80) = true := by
    intro label hlabel
    refine List.all_eq_true.mpr fun c hc => decide_eq_true (hlower c ?_)
    exact Text.mem_of_mem_splitOn (hsplit ▸ hlabel) c hc
  have hmeant : labels.mapM meant? = some (labels.map id) :=
    mapM_of_forall fun label hlabel => if_neg (by simp [hlabels label hlabel])
  have hformed : labels.all wellFormed = true := by
    refine List.all_eq_true.mpr fun label hlabel => ?_
    rw [wellFormed, hplain label hlabel]
    rfl
  have hturns : directionsFit labels = true := by
    have hnone : labels.any (fun label => label.any turns) = false := by
      refine List.any_eq_false.mpr fun label hlabel => ?_
      rw [List.any_eq_true]
      rintro ⟨c, hc, hturns⟩
      have hc' := List.all_eq_true.mp (hplain label hlabel) c hc
      simp only [turns, Bool.and_eq_true, decide_eq_true_eq] at hc' hturns
      omega
    rw [directionsFit, hnone]
    rfl
  have hforms : labels.mapM form? = some (labels.map id) :=
    mapM_of_forall fun label hlabel => if_pos (hplain label hlabel)
  simp only [toAscii?, hmapped, Option.bind_eq_bind, Option.bind_some, hflat, hcomposed,
    hpermitted, hsplit, hmeant, List.map_id, hformed, hturns, hforms, hjoined]
  rfl

end Domain

/-! ### Numbers -/

namespace Ipv4

theorem isDigit_of_hexValue? {c : Char} {base : Nat} (hbase : base ≤ 10)
    (h : (Text.hexValue? c).any (· < base) = true) : Text.isDigit c = true := by
  obtain ⟨n, hn, hlt⟩ := (Option.any_eq_true _ _).mp h
  unfold Text.hexValue? at hn
  split_ifs at hn with hdigit
  · exact hdigit
  -- a letter counts ten at least
  all_goals
    simp only [Option.some.injEq, decide_eq_true_eq] at hn hlt
    omega

/-- **A word is no number.** -/
theorem number?_eq_none {label : List Char} (hx : ¬"0x".toList <+: Text.lower label)
    (hdigits : label.all Text.isDigit = false) : number? label = none := by
  -- a text with something else than digits is no number to a base up to ten
  have hread {digits : List Char} {base : Nat} (hbase : base ≤ 10)
      (h : digits.all Text.isDigit = false) :
      (digits.all fun c => (Text.hexValue? c).any (· < base)) = false := by
    obtain ⟨c, hc, hnot⟩ := List.all_eq_false.mp h
    exact List.all_eq_false.mpr ⟨c, hc, fun hvalue => hnot (isDigit_of_hexValue? hbase hvalue)⟩
  unfold number?
  split
  · exact absurd hdigits.symm Bool.false_ne_true
  · exact absurd ⟨_, rfl⟩ hx
  · exact absurd ⟨_, rfl⟩ hx
  · rename_i d digits _ _
    have hrest : (d :: digits).all Text.isDigit = false := by
      rw [List.all_cons] at hdigits
      exact hdigits
    simp only [List.isEmpty_cons, Bool.false_eq_true, if_false,
      hread (by decide : 8 ≤ 10) hrest]
  · rename_i hne _ _ _
    simp only [List.isEmpty_iff, hread (Nat.le_refl 10) hdigits, Bool.false_eq_true, if_false]
    exact if_neg hne

end Ipv4

namespace Host

/-! ### Percent signs -/

/-- Without percent signs there is nothing to decode. -/
theorem percentDecode_of_notMem {name : List Char} (h : '%' ∉ name) :
    percentDecode name = Bytes.ofChars name := by
  induction name with
  | nil => rfl
  | cons c rest ih =>
    obtain ⟨hc, hrest⟩ := not_or.mp (mt List.mem_cons.mpr h)
    rw [percentDecode.eq_3]
    · rw [ih hrest]
      rfl
    · rintro a b rest' rfl
      exact absurd rfl hc

/-- Printable characters of ASCII are not encoded. -/
theorem percentEncode_printable {name : List Char}
    (h : ∀ c ∈ name, 0x20 ≤ c.toNat ∧ c.toNat < 0x7f) : percentEncode name = name := by
  rw [percentEncode, ofChars_ascii fun c hc => (h c hc).2.trans (by decide), List.flatMap_map]
  refine (List.flatMap_congr fun c hc => ?_).trans (List.flatMap_singleton' name)
  have hbyte : (UInt8.ofNat c.toNat).toNat = c.toNat := toNat_byte ((h c hc).2.trans (by decide))
  have hprintable : (0x20 ≤ UInt8.ofNat c.toNat && UInt8.ofNat c.toNat < 0x7f) = true := by
    simp only [UInt8.le_iff_toNat_le, UInt8.lt_iff_toNat_lt, hbyte, Bool.and_eq_true,
      decide_eq_true_eq]
    exact h c hc
  rw [if_pos hprintable, hbyte, Char.ofNat_toNat]

/-! ### Reading a plain host -/

section Plain

variable {host : List Char}

theorem isDotted_of_isPlain (h : isPlain host = true) : ∀ c ∈ host, isDotted c = true := by
  have hjoined : List.intercalate ['.'] (Text.splitOn '.' host) = host := by
    rw [Text.splitOn_eq, List.intercalate_splitOn]
  rw [← hjoined]
  refine Text.forall_intercalate (by decide) fun label hlabel c hc => ?_
  have hplain := List.all_eq_true.mp (Bool.and_eq_true_iff.mp h).1 label hlabel
  simp only [isPlainLabel, Bool.and_eq_true, List.all_eq_true] at hplain
  rw [isDotted, hplain.1.2 c hc]
  rfl

theorem ne_nil_of_isPlain (h : isPlain host = true) : host ≠ [] := by
  rintro rfl
  exact absurd h (by decide)

theorem notMem_of_isPlain (h : isPlain host = true) {c : Char} (hc : isDotted c = false) :
    c ∉ host := fun hmem =>
  Text.ne_of_class (isDotted_of_isPlain h c hmem) hc rfl

theorem head_of_isPlain (h : isPlain host = true) : host.head? ≠ some '[' := fun hhead =>
  notMem_of_isPlain h (by decide) (List.mem_of_mem_head? hhead)

theorem toAscii?_plain (h : isPlain host = true) :
    Domain.toAscii? host = some (Text.lower host) := by
  have hdotted := isDotted_of_isPlain h
  have hascii : ∀ c ∈ host, c.toNat < 128 := fun c hc =>
    Nat.lt_of_le_of_lt (bounds_of_isDotted (hdotted c hc)).2 (by decide)
  refine Domain.toAscii?_of_ascii hascii (fun c hc => ?_) fun label hlabel => ?_
  · exact Domain.isForbidden_of_isDotted ((isDotted_lowerChar c).trans (hdotted c hc))
  · rw [Domain.splitOn_lower] at hlabel
    obtain ⟨piece, hpiece, rfl⟩ := List.mem_map.mp hlabel
    have hplain := List.all_eq_true.mp (Bool.and_eq_true_iff.mp h).1 piece hpiece
    rw [isPlainLabel, Bool.and_eq_true, Bool.not_eq_true'] at hplain
    exact hplain.2

/-- A plain host is no address. -/
theorem endsInNumber_plain (h : isPlain host = true) :
    Ipv4.endsInNumber (Text.lower host) = false := by
  obtain ⟨hlabels, hlast⟩ := Bool.and_eq_true_iff.mp h
  obtain ⟨last, hget, hword⟩ := (Option.any_eq_true _ _).mp hlast
  have hplain := List.all_eq_true.mp hlabels last (List.mem_of_getLast? hget)
  simp only [isPlainLabel, Bool.and_eq_true, Bool.not_eq_true'] at hplain
  simp only [isWord, Bool.and_eq_true, Bool.not_eq_true'] at hword
  have hpieces : (Text.splitOn '.' (Text.lower host)).getLast? = some (Text.lower last) := by
    rw [Domain.splitOn_lower, List.getLast?_map, hget]
    rfl
  -- a last label that is a word is not empty and no number, so the text is a name
  have hempty : Text.lower last ≠ [] := fun hnil => by
    rw [List.map_eq_nil_iff.mp hnil] at hplain
    exact absurd hplain.1.1 (by decide)
  have hdigits : (Text.lower last).all Text.isDigit = false := by
    rw [Text.lower, List.all_map, ← hword.1]
    exact congrArg last.all (funext fun c => Text.lowerChar_class (by decide) c)
  have hnumber : Ipv4.number? (Text.lower last) = none := by
    refine Ipv4.number?_eq_none ?_ hdigits
    rw [Text.lower_lower, ← List.isPrefixOf_iff_prefix, hword.2]
    exact Bool.false_ne_true
  have hends : Ipv4.labels (Text.lower host) = Text.splitOn '.' (Text.lower host) := by
    rw [Ipv4.labels]
    exact if_neg fun hnil => hempty (Option.some.inj (hpieces.symm.trans hnil))
  rw [Ipv4.endsInNumber, hends, hpieces]
  simp only [hdigits, hnumber, Bool.and_false, Option.isSome_none, Bool.or_false]

/-- **A plain host is its own domain**, in lower case. -/
theorem ofDomain?_plain (h : isPlain host = true) : ofDomain? host = some (Text.lower host) := by
  have hsome : (Text.lower host).isEmpty = false := by
    rw [List.isEmpty_eq_false_iff]
    exact fun hnil => ne_nil_of_isPlain h (List.map_eq_nil_iff.mp hnil)
  rw [ofDomain?, if_neg (head_of_isPlain h),
    percentDecode_of_notMem (notMem_of_isPlain h (by decide)), Bytes.text?_ofChars]
  simp only [Option.bind_eq_bind, Option.bind_some, String.toList_ofList, toAscii?_plain h, hsome,
    endsInNumber_plain h, Bool.false_eq_true, if_false]

end Plain

end Host

end HttpPipeline
