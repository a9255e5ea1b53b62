import HttpPipeline.Http.AcceptEncoding
import HttpPipeline.Proofs.Number.Numerals
import HttpPipeline.Proofs.Text.Pieces
import Mathlib.Data.List.Forall2

/-!
# Lists of codings

A client writes a list of codings with optional weights into one or several header fields
(`AcceptEncoding.Written`): in letters of either case, with blanks around every word, and with up
to three decimals to a weight. `AcceptEncoding.requestAcceptsGzip` reads what was written. Of each
field the first member that names `gzip` decides, and it accepts if its weight is not zero; it is
enough that one field accepts (`AcceptEncoding.requestAcceptsGzip_written`).
-/

namespace HttpPipeline.AcceptEncoding

/-! ### Members of a list -/

/-- **A weight**: zero or one, with at most three decimals after a point. No weight exceeds one. -/
structure Weight where
  one : Bool := false
  decimals : Option (List (Fin 10)) := none
  short : (decimals.getD []).length ≤ 3 := by decide
  atMost : one = true → (decimals.getD []).all (· == 0) = true := by decide

namespace Weight

/-- The digits before the point. -/
def whole (w : Weight) : List ℕ := [w.one.toNat]

/-- The digits after the point, if there is one. -/
def fraction (w : Weight) : Option (List ℕ) := w.decimals.map (·.map Fin.val)

/-- A weight as it is written. -/
def text (w : Weight) : List Char := Binary64.numeral w.whole w.fraction

/-- Whether a weight is zero. -/
def isZero (w : Weight) : Bool := !w.one && (w.decimals.getD []).all (· == 0)

theorem whole_lt (w : Weight) : ∀ d ∈ w.whole, d < 10 := by
  intro d hd
  rw [List.mem_singleton.mp hd]
  exact (Bool.toNat_le w.one).trans_lt (by decide)

theorem fraction_lt (w : Weight) : ∀ digits ∈ w.fraction, ∀ d ∈ digits, d < 10 := by
  intro digits hdigits d hd
  obtain ⟨decimals, -, rfl⟩ := Option.map_eq_some_iff.mp hdigits
  obtain ⟨d', -, rfl⟩ := List.mem_map.mp hd
  exact d'.isLt

theorem getD_fraction (w : Weight) :
    w.fraction.getD [] = (w.decimals.getD []).map Fin.val := by
  cases hdecimals : w.decimals <;> simp [fraction, hdecimals]

/-- **A weight is read** as a zero if it is written as one, and only then. -/
theorem isZero_parse? (w : Weight) : (Binary64.parse? w.text).any Binary64.isZero = w.isZero := by
  have hdigits : ∀ d ∈ w.whole ++ w.fraction.getD [], d < 10 := by
    intro d hd
    rcases List.mem_append.mp hd with hd | hd
    · exact w.whole_lt d hd
    · rw [getD_fraction] at hd
      obtain ⟨d', -, rfl⟩ := List.mem_map.mp hd
      exact d'.isLt
  have hlength : (w.fraction.getD []).length ≤ 3 := by
    rw [getD_fraction, List.length_map]
    exact w.short
  have hzero := Binary64.isZero_ofDecimal hdigits (-(w.fraction.getD []).length)
    (by omega) (by rw [List.length_append, whole, List.length_singleton]; omega)
  rw [text, Binary64.parse?_numeral w.whole_lt (List.cons_ne_nil _ _) w.fraction_lt,
    Option.any_some, hzero, getD_fraction, List.all_append, isZero, whole]
  congr 1
  · cases w.one <;> rfl
  · simp [List.all_eq]

end Weight

/-- Characters that separate nothing. -/
def isPlain (c : Char) : Bool := isVisible c && c != ',' && c != ';'

/-- **A member of a list**: a coding, with or without a weight. A list may have empty members. -/
structure Member where
  coding : List Char
  weight : Option Weight := none
  word : coding.all (fun c => isPlain c && !Text.isBlank c) = true := by decide

namespace Member

theorem plain_word (m : Member) : ∀ c ∈ m.coding, isPlain c = true ∧ Text.isBlank c = false := by
  intro c hc
  simpa using List.all_eq_true.mp m.word c hc

/-- Whether a member is about `gzip`. -/
def names (m : Member) : Bool := Text.sameIgnoringCase m.coding "gzip".toList

/-- Whether a member has a weight of zero. -/
def refuses (m : Member) : Bool := m.weight.any Weight.isZero

end Member

/-! ### Writing -/

/-- A word with optional white space around it. -/
def Padded (word text : List Char) : Prop :=
  ∃ before after, (∀ c ∈ before ++ after, c = ' ' ∨ c = '\t') ∧ text = before ++ word ++ after

/-- **A member as a text.** -/
def Member.Writes (m : Member) (text : List Char) : Prop :=
  match m.weight with
  | none => Padded m.coding text
  | some w =>
    ∃ coding q key value, Padded m.coding coding ∧ (q = 'q' ∨ q = 'Q') ∧ Padded [q] key ∧
      Padded w.text value ∧ text = coding ++ ';' :: (key ++ '=' :: value)

/-- **A list as a text**, its members separated by commas. -/
def Writes (members : List Member) (line : List Char) : Prop :=
  ∃ texts, List.Forall₂ Member.Writes members texts ∧ line = [','].intercalate texts

/-- **The fields of a request** that say what it accepts, one list each. -/
def Written (lists : List (List Member)) (headers : Headers) : Prop :=
  List.Forall₂ (fun members value => ∃ line, Writes members line ∧ value = Bytes.ofChars line)
    lists (headers.values "accept-encoding")

/-! ### What texts consist of -/

section Characters

variable {word text line : List Char} {members : List Member}

theorem Weight.plain_text (w : Weight) :
    ∀ c ∈ w.text, isPlain c = true ∧ Text.isBlank c = false := by
  have hdigit : ∀ d < 10, isPlain (Nat.digitChar d) = true ∧
      Text.isBlank (Nat.digitChar d) = false := by decide
  intro c hc
  rw [text, Binary64.numeral, List.mem_append] at hc
  rcases hc with hc | hc
  · obtain ⟨d, hd, rfl⟩ := List.mem_map.mp hc
    exact hdigit d (w.whole_lt d hd)
  · cases hfraction : w.fraction with
    | none => simp [hfraction] at hc
    | some digits =>
      rw [hfraction, Option.elim_some, List.mem_cons] at hc
      rcases hc with rfl | hc
      · decide
      · obtain ⟨d, hd, rfl⟩ := List.mem_map.mp hc
        exact hdigit d (w.fraction_lt digits hfraction d hd)

namespace Padded

/-- A word may stand alone. -/
theorem refl (word : List Char) : Padded word word :=
  ⟨[], [], by simp, by simp⟩

/-- What holds of white space and of the characters of the word. -/
theorem all {P : Char → Prop} (h : Padded word text) (hspace : P ' ') (htab : P '\t')
    (hword : ∀ c ∈ word, P c) : ∀ c ∈ text, P c := by
  obtain ⟨before, after, hpad, rfl⟩ := h
  have hblank : ∀ c ∈ before ++ after, P c := by
    intro c hc
    rcases hpad c hc with rfl | rfl
    exacts [hspace, htab]
  intro c hc
  rcases List.mem_append.mp hc with hc | hc
  · rcases List.mem_append.mp hc with hc | hc
    exacts [hblank c (List.mem_append_left _ hc), hword c hc]
  · exact hblank c (List.mem_append_right _ hc)

/-- **A padded word** is trimmed to the word. -/
theorem trim (h : Padded word text) (hword : ∀ c ∈ word, Text.isBlank c = false) :
    Text.trim text = word := by
  obtain ⟨before, after, hpad, rfl⟩ := h
  have hblank : ∀ c ∈ before ++ after, Text.isBlank c = true := by
    intro c hc
    rcases hpad c hc with rfl | rfl <;> decide
  exact Text.trim_padded (fun c hc => hblank c (List.mem_append_left _ hc)) hword
    fun c hc => hblank c (List.mem_append_right _ hc)

end Padded

end Characters

/-! ### Reading -/

section Reading

variable {m : Member} {text line : List Char} {members : List Member}

/-- A separator is not among characters that separate nothing. -/
theorem notMem_of_plain {sep : Char} (hsep : isPlain sep = false)
    (h : ∀ c ∈ text, isPlain c = true) : sep ∉ text :=
  fun hmem => Bool.false_ne_true (hsep.symm.trans (h sep hmem))

/-- **A weight between blanks**, with or without those at its end. -/
theorem isZeroWeight_padded {w : Weight} {q : Char} {key value : List Char}
    (hq : q = 'q' ∨ q = 'Q') (hkey : Padded [q] key) (hvalue : Text.trim value = w.text) :
    isZeroWeight (key ++ '=' :: value) = w.isZero := by
  have hcut : Text.cut? '=' (key ++ '=' :: value) = some (key, value) := by
    refine Text.cut?_append_cons (fun hmem => ?_) value
    have hother : q ≠ '=' := by rcases hq with rfl | rfl <;> decide
    exact hkey.all (P := (· ≠ '=')) (by decide) (by decide) (by simpa using hother) _ hmem rfl
  have hblank : Text.isBlank q = false := by rcases hq with rfl | rfl <;> decide
  have htrim : Text.trim key = [q] := hkey.trim (by simpa using hblank)
  have hsame : Text.sameIgnoringCase [q] ['q'] = true := by rcases hq with rfl | rfl <;> decide
  rw [isZeroWeight, hcut]
  simp only [Option.getD_some, htrim, hsame, hvalue, w.isZero_parse?, Bool.true_and]

/-- A coding between blanks separates nothing, -/
theorem Member.plain_coding (m : Member) (h : Padded m.coding text) :
    ∀ c ∈ text, isPlain c = true :=
  h.all (by decide) (by decide) fun c hc => (m.plain_word c hc).1

/-- and neither does a weight with its key. -/
theorem Weight.plain_parameter {w : Weight} {q : Char} {key value : List Char}
    (hq : q = 'q' ∨ q = 'Q') (hkey : Padded [q] key) (hvalue : Padded w.text value) :
    ∀ c ∈ key ++ '=' :: value, isPlain c = true := by
  have hplain : isPlain q = true := by rcases hq with rfl | rfl <;> decide
  have hkey' : ∀ c ∈ key, isPlain c = true :=
    hkey.all (by decide) (by decide) (by simpa using hplain)
  have hvalue' : ∀ c ∈ value, isPlain c = true :=
    hvalue.all (by decide) (by decide) fun c hc => (w.plain_text c hc).1
  intro c hc
  rcases List.mem_append.mp hc with hc | hc
  · exact hkey' c hc
  · rcases List.mem_cons.mp hc with rfl | hc
    exacts [by decide, hvalue' c hc]

/-- **Within a member** nothing separates but the semicolon before its weight. -/
theorem Member.Writes.plain (h : m.Writes text) : ∀ c ∈ text, isPlain c = true ∨ c = ';' := by
  unfold Member.Writes at h
  cases hweight : m.weight with
  | none =>
    rw [hweight] at h
    exact fun c hc => .inl (m.plain_coding h c hc)
  | some w =>
    rw [hweight] at h
    obtain ⟨before, q, key, value, hbefore, hq, hkey, hvalue, rfl⟩ := h
    intro c hc
    rcases List.mem_append.mp hc with hc | hc
    · exact .inl (m.plain_coding hbefore c hc)
    · rcases List.mem_cons.mp hc with rfl | hc
      exacts [.inr rfl, .inl (Weight.plain_parameter hq hkey hvalue c hc)]

/-- **A coding without a weight**, between blanks. -/
theorem Member.verdict?_bare (m : Member) (h : Padded m.coding text) :
    AcceptEncoding.verdict? text = if m.names then some true else none := by
  have hblank : ∀ c ∈ m.coding, Text.isBlank c = false := fun c hc => (m.plain_word c hc).2
  have hsplit : Text.splitOn ';' m.coding = [m.coding] :=
    Text.splitOn_of_notMem (notMem_of_plain (by decide) (m.plain_coding (Padded.refl m.coding)))
  rw [AcceptEncoding.verdict?, h.trim hblank, hsplit]
  simp only [(Padded.refl m.coding).trim hblank, List.any_nil]
  rfl

/-- **A coding with a weight**, each word of it between blanks. -/
theorem Member.verdict?_weighted (m : Member) {w : Weight} {q : Char}
    {before key value : List Char} (hbefore : Padded m.coding before) (hq : q = 'q' ∨ q = 'Q')
    (hkey : Padded [q] key) (hvalue : Padded w.text value) :
    AcceptEncoding.verdict? (before ++ ';' :: (key ++ '=' :: value))
      = if m.names then some (!w.isZero) else none := by
  -- the blanks at both ends are taken off first
  let word := before.dropWhile Text.isBlank
  let parameter := key ++ '=' :: value.rdropWhile Text.isBlank
  have htrim : Text.trim (before ++ ';' :: (key ++ '=' :: value)) = word ++ ';' :: parameter := by
    rw [Text.trim_append_cons (by decide), Text.rdropWhile_append_cons (by decide)]
  have hsplit : Text.splitOn ';' (word ++ ';' :: parameter) = [word, parameter] := by
    have hbefore' : ';' ∉ before := notMem_of_plain (by decide) (m.plain_coding hbefore)
    have hafter : ';' ∉ key ++ '=' :: value :=
      notMem_of_plain (by decide) (Weight.plain_parameter hq hkey hvalue)
    have hparameter : List.Sublist parameter (key ++ '=' :: value) :=
      (List.Sublist.refl key).append ((List.rdropWhile_prefix _ value).sublist.cons_cons '=')
    exact Text.splitOn_append_cons (fun hmem => hbefore' ((List.dropWhile_sublist _).subset hmem))
      fun hmem => hafter (hparameter.subset hmem)
  have hword : Text.trim word = m.coding :=
    (Text.trim_dropWhile before).trans (hbefore.trim fun c hc => (m.plain_word c hc).2)
  have hzero : isZeroWeight parameter = w.isZero := by
    refine isZeroWeight_padded hq hkey ?_
    rw [Text.trim_rdropWhile]
    exact hvalue.trim fun c hc => (w.plain_text c hc).2
  rw [AcceptEncoding.verdict?, htrim, hsplit]
  simp only [hword, List.any_cons, List.any_nil, Bool.or_false, hzero]
  rfl

/-- **A member is read** as it is written. -/
theorem Member.Writes.verdict? (h : m.Writes text) :
    AcceptEncoding.verdict? text = if m.names then some (!m.refuses) else none := by
  unfold Member.Writes at h
  rw [Member.refuses]
  cases hweight : m.weight with
  | none =>
    rw [hweight] at h
    exact m.verdict?_bare h
  | some w =>
    rw [hweight] at h
    obtain ⟨before, q, key, value, hbefore, hq, hkey, hvalue, rfl⟩ := h
    exact m.verdict?_weighted hbefore hq hkey hvalue

/-! ### Lists and fields -/

/-- **What a list says as the fields of a request are read**: the first of its members that names
`gzip` decides. -/
def accepted (members : List Member) : Bool := (members.find? Member.names).any (!·.refuses)

theorem findSome?_verdict? {texts : List (List Char)}
    (h : List.Forall₂ Member.Writes members texts) :
    (texts.findSome? AcceptEncoding.verdict?).getD false = accepted members := by
  induction h with
  | nil => rfl
  | @cons m text members texts hm h ih =>
    rw [List.findSome?_cons, hm.verdict?, accepted, List.find?_cons]
    cases hnames : m.names with
    | true => rfl
    | false => exact ih

/-- Nothing separates within the members of a list but semicolons. -/
theorem plain_members {texts : List (List Char)} (h : List.Forall₂ Member.Writes members texts) :
    ∀ text ∈ texts, ∀ c ∈ text, isPlain c = true ∨ c = ';' := by
  induction h with
  | nil => simp
  | cons hm _ ih => exact List.forall_mem_cons.mpr ⟨hm.plain, ih⟩

/-- **A list is read** as it is written. -/
theorem Writes.acceptsGzip (h : Writes members line) :
    AcceptEncoding.acceptsGzip line = accepted members := by
  obtain ⟨texts, htexts, rfl⟩ := h
  by_cases hsome : texts = []
  · subst hsome
    cases htexts
    decide
  · have hcomma : ∀ text ∈ texts, ',' ∉ text := fun text htext hmem =>
      absurd (plain_members htexts text htext ',' hmem) (by decide)
    rw [AcceptEncoding.acceptsGzip, Text.splitOn_intercalate _ hcomma hsome,
      findSome?_verdict? htexts]

/-- A list is a text of printable ASCII. -/
theorem Writes.visible (h : Writes members line) : ∀ c ∈ line, isVisible c = true := by
  obtain ⟨texts, htexts, rfl⟩ := h
  refine Text.forall_intercalate (by decide) fun text htext c hc => ?_
  rcases plain_members htexts text htext c hc with hplain | rfl
  · simp only [isPlain, Bool.and_eq_true] at hplain
    exact hplain.1.1
  · decide

/-- **The fields of a request** accept `gzip` if one of them does. -/
theorem requestAcceptsGzip_written {lists : List (List Member)} {headers : Headers}
    (h : Written lists headers) : requestAcceptsGzip headers = lists.any accepted := by
  rw [requestAcceptsGzip]
  revert h
  rw [Written]
  generalize headers.values "accept-encoding" = values
  intro h
  induction h with
  | nil => rfl
  | @cons members value lists values hline h ih =>
    obtain ⟨line, hline, rfl⟩ := hline
    rw [List.filterMap_cons_some (visibleText?_ofChars hline.visible), List.any_cons, ih,
      String.toList_ofList, hline.acceptsGzip, List.any_cons]

/-! ### All lists can be written -/

theorem Member.exists_writes (m : Member) : ∃ text, m.Writes text := by
  obtain ⟨coding, weight, hword⟩ := m
  cases weight with
  | none => exact ⟨coding, Padded.refl coding⟩
  | some w =>
    exact ⟨_, coding, 'q', ['q'], w.text, Padded.refl coding, .inl rfl, Padded.refl _,
      Padded.refl _, rfl⟩

theorem exists_writes (members : List Member) : ∃ line, Writes members line := by
  have htexts : ∃ texts, List.Forall₂ Member.Writes members texts := by
    induction members with
    | nil => exact ⟨[], .nil⟩
    | cons m members ih =>
      obtain ⟨text, htext⟩ := m.exists_writes
      obtain ⟨texts, htexts⟩ := ih
      exact ⟨text :: texts, .cons htext htexts⟩
  obtain ⟨texts, htexts⟩ := htexts
  exact ⟨_, texts, htexts, rfl⟩

/-- **Some request** has these lists. -/
theorem exists_written (lists : List (List Member)) : ∃ headers, Written lists headers := by
  induction lists with
  | nil => exact ⟨.empty, .nil⟩
  | cons members lists ih =>
    obtain ⟨line, hline⟩ := exists_writes members
    obtain ⟨headers, hheaders⟩ := ih
    -- the first list is the first field
    refine ⟨⟨("accept-encoding", Bytes.ofChars line) :: headers.fields⟩, ?_⟩
    exact .cons ⟨line, hline, rfl⟩ hheaders

end Reading

end HttpPipeline.AcceptEncoding
