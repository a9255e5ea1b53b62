import HttpPipeline.Http.Headers
import Mathlib.Data.List.DropRight

/-!
# Pieces of a text

A text that is put together from pieces comes apart into the same pieces: at a separator that is
in none of them (`Text.splitOn_intercalate`, `Text.cut?_append_cons`), and by trimming, if they are
words between blanks (`Text.trim_padded`). It makes no difference if the whole is trimmed before it
is taken apart, since that takes nothing but blanks from the first piece and the last
(`Text.trim_append_cons`).

A text of printable ASCII is a field value as it stands (`visibleText?_ofChars`).
-/

namespace HttpPipeline

namespace Text

/-! ### Separators -/

section Separators

variable {α : Type} [BEq α] {sep : α}

theorem splitOn_eq (sep : α) (xs : List α) : splitOn sep xs = xs.splitOn sep := by
  induction xs with
  | nil => rfl
  | cons x xs ih =>
    rw [splitOn, ih, List.splitOn_eq_splitOnP, List.splitOn_eq_splitOnP,
      List.splitOnP_cons_eq_if_modifyHead]
    by_cases hx : (x == sep) = true
    · rw [if_pos hx, if_pos hx]
    · rw [if_neg hx, if_neg hx]
      cases hpieces : xs.splitOnP (· == sep) with
      | nil => exact absurd hpieces (List.splitOnP_ne_nil _ _)
      | cons piece pieces => rfl

variable [LawfulBEq α]

/-- **Pieces joined by a separator** that is in none of them. -/
theorem splitOn_intercalate (pieces : List (List α)) (h : ∀ piece ∈ pieces, sep ∉ piece)
    (hsome : pieces ≠ []) : splitOn sep ([sep].intercalate pieces) = pieces := by
  rw [splitOn_eq, List.splitOn_intercalate sep h hsome]

theorem splitOn_of_notMem {xs : List α} (h : sep ∉ xs) : splitOn sep xs = [xs] := by
  have hpieces : ∀ piece ∈ [xs], sep ∉ piece := List.forall_mem_singleton.mpr h
  simpa using splitOn_intercalate [xs] hpieces (List.cons_ne_nil _ _)

theorem splitOn_append_cons {before after : List α} (hbefore : sep ∉ before)
    (hafter : sep ∉ after) : splitOn sep (before ++ sep :: after) = [before, after] := by
  have hpieces : ∀ piece ∈ [before, after], sep ∉ piece :=
    List.forall_mem_cons.mpr ⟨hbefore, List.forall_mem_singleton.mpr hafter⟩
  have hjoined : before ++ sep :: after = [sep].intercalate [before, after] := by
    simp [List.intercalate]
  rw [hjoined, splitOn_intercalate _ hpieces (List.cons_ne_nil _ _)]

omit [BEq α] [LawfulBEq α] in
/-- What holds of the separator and of every piece. -/
theorem forall_intercalate {P : α → Prop} (hsep : P sep) {pieces : List (List α)}
    (h : ∀ piece ∈ pieces, ∀ x ∈ piece, P x) : ∀ x ∈ [sep].intercalate pieces, P x := by
  induction pieces with
  | nil => simp
  | cons piece pieces ih =>
    obtain ⟨hpiece, hpieces⟩ := List.forall_mem_cons.mp h
    cases pieces with
    | nil => simpa using hpiece
    | cons next pieces =>
      rw [List.intercalate_cons_cons]
      simp only [List.forall_mem_append, List.forall_mem_singleton]
      exact ⟨⟨hpiece, hsep⟩, ih hpieces⟩

omit [LawfulBEq α] in
/-- A piece is a part of the whole. -/
theorem mem_of_mem_splitOn {xs piece : List α} (h : piece ∈ splitOn sep xs) :
    ∀ x ∈ piece, x ∈ xs := by
  induction xs generalizing piece with
  | nil =>
    obtain rfl := List.mem_singleton.mp h
    exact fun x hx => absurd hx List.not_mem_nil
  | cons x xs ih =>
    -- a separator begins a new piece, and anything else is the head of the first piece
    rw [splitOn] at h
    split_ifs at h
    · rcases List.mem_cons.mp h with rfl | h
      · exact fun x hx => absurd hx List.not_mem_nil
      · exact fun y hy => List.mem_cons_of_mem _ (ih h y hy)
    · cases hpieces : splitOn sep xs with
      | nil =>
        rw [hpieces] at h
        obtain rfl := List.mem_singleton.mp h
        exact fun y hy => List.mem_cons.mpr (.inl (List.mem_singleton.mp hy))
      | cons first pieces =>
        rw [hpieces] at h ih
        rcases List.mem_cons.mp h with rfl | h
        · exact fun y hy =>
            List.mem_cons.mpr ((List.mem_cons.mp hy).imp_right (ih List.mem_cons_self y))
        · exact fun y hy => List.mem_cons_of_mem _ (ih (List.mem_cons_of_mem _ h) y hy)

omit [LawfulBEq α] in
/-- Dividing commutes with a change of the elements that keeps the separators. -/
theorem splitOn_map {f : α → α} (hf : ∀ x, (f x == sep) = (x == sep)) (xs : List α) :
    splitOn sep (xs.map f) = (splitOn sep xs).map (·.map f) := by
  induction xs with
  | nil => rfl
  | cons x xs ih =>
    simp only [List.map_cons, splitOn, hf, ih]
    split_ifs
    · rfl
    · cases splitOn sep xs <;> rfl

/-- **An occurrence** is a part of the list. -/
theorem occurs_iff {needle xs : List α} : occurs needle xs = true ↔ needle <:+: xs := by
  induction xs with
  | nil => rw [occurs, List.isEmpty_iff, List.infix_nil]
  | cons x xs ih =>
    rw [occurs, Bool.or_eq_true, List.isPrefixOf_iff_prefix, ih, List.infix_cons_iff]

/-- **The first separator** is the one with none before it. -/
theorem cut?_append_cons {before : List α} (h : sep ∉ before) (after : List α) :
    cut? sep (before ++ sep :: after) = some (before, after) := by
  induction before with
  | nil => simp [cut?]
  | cons x before ih =>
    have hx : x ≠ sep := fun heq => h (heq ▸ List.mem_cons_self)
    have hbefore : sep ∉ before := fun hmem => h (List.mem_cons_of_mem x hmem)
    simp [cut?, hx, ih hbefore]

end Separators

/-! ### Trimming -/

section Trim

variable {p : Char → Bool} {before word after : List Char} {sep : Char}

theorem trimBy_append_left (h : ∀ c ∈ before, p c = true) (cs : List Char) :
    trimBy p (before ++ cs) = trimBy p cs := by
  rw [trimBy, List.dropWhile_append_of_pos h, trimBy]

theorem trimBy_append_right (h : ∀ c ∈ after, p c = true) (cs : List Char) :
    trimBy p (cs ++ after) = trimBy p cs := by
  rw [trimBy, trimBy, List.dropWhile_append]
  split_ifs with hnil
  · rw [List.isEmpty_iff.mp hnil, List.dropWhile_eq_nil_iff.mpr h]
  · have hreverse : ∀ c ∈ after.reverse, p c = true := fun c hc => h c (List.mem_reverse.mp hc)
    rw [List.reverse_append, List.dropWhile_append_of_pos hreverse]

/-- What has none of the characters is not trimmed. -/
theorem trimBy_eq_self (h : ∀ c ∈ word, p c = false) : trimBy p word = word := by
  have hkeep {cs : List Char} (hcs : ∀ c ∈ cs, p c = false) : cs.dropWhile p = cs := by
    cases cs with
    | nil => rfl
    | cons c cs => rw [List.dropWhile_cons_of_neg (by simp [hcs c List.mem_cons_self])]
  rw [trimBy, hkeep h, hkeep fun c hc => h c (List.mem_reverse.mp hc), List.reverse_reverse]

/-- **A word between blanks.** -/
theorem trim_padded (hbefore : ∀ c ∈ before, isBlank c = true)
    (hword : ∀ c ∈ word, isBlank c = false) (hafter : ∀ c ∈ after, isBlank c = true) :
    trim (before ++ word ++ after) = word := by
  rw [trim, trimBy_append_right hafter, trimBy_append_left hbefore, trimBy_eq_self hword]

/-- It makes no difference if a text was trimmed in front, -/
theorem trim_dropWhile (cs : List Char) : trim (cs.dropWhile isBlank) = trim cs := by
  rw [trim, trimBy, List.dropWhile_idempotent, trim, trimBy]

/-- or at its end. -/
theorem trim_rdropWhile (cs : List Char) : trim (cs.rdropWhile isBlank) = trim cs := by
  have hblank : ∀ c ∈ cs.rtakeWhile isBlank, isBlank c = true := fun c => List.mem_rtakeWhile_imp
  calc trim (cs.rdropWhile isBlank)
      = trim (cs.rdropWhile isBlank ++ cs.rtakeWhile isBlank) := (trimBy_append_right hblank _).symm
    _ = trim cs := by rw [List.rdropWhile_append_rtakeWhile]

theorem dropWhile_append_cons (h : p sep = false) (before after : List Char) :
    (before ++ sep :: after).dropWhile p = before.dropWhile p ++ sep :: after := by
  rw [List.dropWhile_append]
  split_ifs with hnil
  · rw [List.isEmpty_iff.mp hnil, List.dropWhile_cons_of_neg (by simp [h])]
    rfl
  · rfl

theorem rdropWhile_append_cons (h : p sep = false) (before after : List Char) :
    (before ++ sep :: after).rdropWhile p = before ++ sep :: after.rdropWhile p := by
  have hreverse : (before ++ sep :: after).reverse = after.reverse ++ sep :: before.reverse := by
    simp
  rw [List.rdropWhile, hreverse, dropWhile_append_cons h, List.rdropWhile]
  simp

/-- **Trimming around a separator**: the text before it is trimmed in front, the text after it at
its end. -/
theorem trim_append_cons (h : isBlank sep = false) (before after : List Char) :
    trim (before ++ sep :: after)
      = before.dropWhile isBlank ++ sep :: after.rdropWhile isBlank := by
  rw [trim, trimBy, dropWhile_append_cons h]
  exact rdropWhile_append_cons h _ _

end Trim

end Text

/-! ### Field values -/

/-- Printable ASCII and the tab, as characters. -/
def isVisible (c : Char) : Bool := (32 ≤ c.toNat && c.toNat < 127) || c.toNat == 9

theorem isVisible_ascii {c : Char} (h : isVisible c = true) : c.toNat < 128 := by
  simp only [isVisible, Bool.or_eq_true, Bool.and_eq_true, decide_eq_true_eq, beq_iff_eq] at h
  omega

/-- A character of ASCII as a byte. -/
theorem toNat_byte {c : Char} (h : c.toNat < 128) : (UInt8.ofNat c.toNat).toNat = c.toNat := by
  rw [UInt8.toNat_ofNat']
  exact Nat.mod_eq_of_lt (h.trans (by decide))

/-- A byte as a character. -/
theorem toNat_char (b : UInt8) : (Char.ofNat b.toNat).toNat = b.toNat := by
  have hvalid : b.toNat.isValidChar := .inl (b.toNat_lt.trans (by decide))
  rw [Char.ofNat, dif_pos hvalid]
  rfl

theorem ofChars_ascii {cs : List Char} (h : ∀ c ∈ cs, c.toNat < 128) :
    Bytes.ofChars cs = cs.map fun c => UInt8.ofNat c.toNat := by
  induction cs with
  | nil => rfl
  | cons c cs ih =>
    have hsize : c.utf8Size = 1 := by
      have hc : c.toNat < 128 := h c List.mem_cons_self
      rw [Char.utf8Size_eq_one_iff, UInt32.le_iff_toNat_le]
      exact Nat.le_of_lt_succ hc
    rw [Bytes.ofChars, List.flatMap_cons, String.utf8EncodeChar_eq_singleton hsize, List.map_cons,
      ← Bytes.ofChars, ih fun c hc => h c (List.mem_cons_of_mem _ hc)]
    rfl

/-- The bytes of ASCII in a text are its characters of ASCII. -/
theorem Bytes.mem_ofChars {cs : List Char} {b : UInt8} (hb : b ∈ ofChars cs)
    (hascii : b.toNat < 128) : ∃ c ∈ cs, c.toNat = b.toNat := by
  obtain ⟨c, hc, hb⟩ := List.mem_flatMap.mp hb
  refine ⟨c, hc, ?_⟩
  -- every byte of a longer character is beyond ASCII
  have hlong {n : Nat} (hn : 128 ≤ n % 256) (h : b = UInt8.ofNat n) : c.toNat = b.toNat := by
    rw [h, UInt8.toNat_ofNat'] at hascii
    omega
  simp only [String.utf8EncodeChar] at hb
  split_ifs at hb with hone htwo hthree
  all_goals simp only [List.mem_cons, List.not_mem_nil, or_false] at hb
  · rw [hb, UInt8.toNat_ofNat', Char.toNat]
    omega
  · rcases hb with hb | hb <;> exact hlong (by omega) hb
  · rcases hb with hb | hb | hb <;> exact hlong (by omega) hb
  · rcases hb with hb | hb | hb | hb <;> exact hlong (by omega) hb

/-- **Bytes of ASCII as a text** are its bytes again. -/
theorem Bytes.ofString_toAscii {value : Bytes} (h : ∀ b ∈ value, b.toNat < 128) :
    ofString value.toAscii = value := by
  have hascii : ∀ c ∈ value.map fun b => Char.ofNat b.toNat, c.toNat < 128 := by
    intro c hc
    obtain ⟨b, hb, rfl⟩ := List.mem_map.mp hc
    rw [toNat_char]
    exact h b hb
  rw [toAscii, ofString, String.toList_ofList, ofChars_ascii hascii, List.map_map]
  refine (List.map_congr_left fun b _ => ?_).trans (List.map_id value)
  rw [Function.comp_apply, toNat_char, UInt8.ofNat_toNat]
  rfl

/-- A text of bytes of ASCII is a text of characters of ASCII. -/
theorem Bytes.forall_ofChars_ascii {cs : List Char} :
    (∀ b ∈ ofChars cs, b.toNat < 128) ↔ ∀ c ∈ cs, c.toNat < 128 := by
  constructor
  · intro h c hc
    -- the first byte of a character tells which one it is, if it is a byte of ASCII
    obtain ⟨b, hb⟩ : ∃ b, b ∈ String.utf8EncodeChar c := by
      refine List.exists_mem_of_length_pos ?_
      rw [String.length_utf8EncodeChar]
      exact c.utf8Size_pos
    have hascii : b.toNat < 128 := h b (List.mem_flatMap_of_mem hc hb)
    have hone : b ∈ ofChars [c] := List.mem_flatMap_of_mem (List.mem_singleton.mpr rfl) hb
    obtain ⟨d, hd, hvalue⟩ := mem_ofChars hone hascii
    rw [← List.mem_singleton.mp hd, hvalue]
    exact hascii
  · intro h b hb
    rw [ofChars_ascii h] at hb
    obtain ⟨c, hc, rfl⟩ := List.mem_map.mp hb
    rw [UInt8.toNat_ofNat']
    exact (Nat.mod_le _ _).trans_lt (h c hc)

/-- **The bytes of a text** are read as that text. -/
theorem Bytes.text?_ofChars (cs : List Char) :
    Bytes.text? (Bytes.ofChars cs) = some (String.ofList cs) := by
  have hbytes : (⟨(Bytes.ofChars cs).toArray⟩ : ByteArray) = (String.ofList cs).toByteArray := by
    rw [String.toByteArray_ofList]
    refine ByteArray.ext ?_
    rw [List.utf8Encode, List.data_toByteArray]
    rfl
  rw [Bytes.text?, hbytes, String.fromUTF8?, dif_pos (String.ofList cs).isValidUTF8]
  rfl

/-- What is visible is ASCII. -/
theorem isVisibleByte_ascii {b : UInt8} (h : isVisibleByte b = true) : b.toNat < 128 := by
  simp only [isVisibleByte, Bool.or_eq_true, Bool.and_eq_true, decide_eq_true_eq, beq_iff_eq,
    UInt8.lt_iff_toNat_lt] at h
  rcases h with ⟨-, hlt⟩ | rfl
  · exact hlt.trans (by decide)
  · decide

/-- **A visible value** has a text, and the bytes of that text are the value. -/
theorem ofString_toAscii_of_visible {value : Bytes} (h : value.all isVisibleByte = true) :
    Bytes.ofString value.toAscii = value :=
  Bytes.ofString_toAscii fun b hb => isVisibleByte_ascii (List.all_eq_true.mp h b hb)

/-- What is read as text is printable ASCII. -/
theorem isVisible_of_visibleText? {value : Bytes} {text : String}
    (h : visibleText? value = some text) : ∀ c ∈ text.toList, isVisible c = true := by
  have hbyte : ∀ n < 256, isVisible (Char.ofNat n) = isVisibleByte (UInt8.ofNat n) := by
    decide +kernel
  unfold visibleText? at h
  split_ifs at h with hvalue
  obtain rfl := Option.some.inj h
  rw [Bytes.toAscii, String.toList_ofList]
  intro c hc
  obtain ⟨b, hb, rfl⟩ := List.mem_map.mp hc
  rw [hbyte b.toNat b.toNat_lt, UInt8.ofNat_toNat]
  exact List.all_eq_true.mp hvalue b hb

/-- **A text of printable ASCII** is read as it was written. -/
theorem visibleText?_ofChars {cs : List Char} (h : ∀ c ∈ cs, isVisible c = true) :
    visibleText? (Bytes.ofChars cs) = some (String.ofList cs) := by
  -- a visible character is one byte, which is its code
  have hbyte : ∀ c ∈ cs, (UInt8.ofNat c.toNat).toNat = c.toNat := by
    intro c hc
    exact toNat_byte (isVisible_ascii (h c hc))
  have hvisible : (cs.map fun c => UInt8.ofNat c.toNat).all isVisibleByte = true := by
    rw [List.all_map, List.all_eq_true]
    intro c hc
    have hc' := h c hc
    simp only [isVisible, Function.comp_apply, isVisibleByte, UInt8.le_iff_toNat_le,
      UInt8.lt_iff_toNat_lt, hbyte c hc, beq_iff_eq, Bool.or_eq_true, Bool.and_eq_true,
      decide_eq_true_eq, ← UInt8.toNat_inj] at hc' ⊢
    exact hc'
  have hchars : (cs.map fun c => UInt8.ofNat c.toNat).map (fun b => Char.ofNat b.toNat) = cs := by
    rw [List.map_map]
    refine (List.map_congr_left fun c hc => ?_).trans (List.map_id cs)
    rw [Function.comp_apply, hbyte c hc, Char.ofNat_toNat]
    rfl
  rw [visibleText?, ofChars_ascii fun c hc => isVisible_ascii (h c hc), if_pos hvisible,
    Bytes.toAscii, hchars]

end HttpPipeline
