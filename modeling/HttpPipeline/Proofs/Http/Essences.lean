import HttpPipeline.Http.MediaType
import HttpPipeline.Proofs.Text.Letters
import HttpPipeline.Proofs.Text.Pieces

/-!
# The essence of a content type

A content type is read by a parser if the parser accepts it, and otherwise no further than its first
semicolon. Which of the two readings applies may depend on the last character of the parameters, and
a response must not be compressed or left alone on account of that.

It is not, whatever parser it is, as long as it reads content types (`MediaType.Reads`): what it
accepts has a media type in front, which is two tokens with a slash between them and nothing but
blanks after them up to a semicolon or the end, and it gives that media type in lower case. No
character of a media type is a blank or a semicolon (`MediaType.isTokenChar_bounds`). So trimming
takes nothing away from it, and both readings give the same essence
(`MediaType.Reads.eq_plainEssence`). The essence of a content type is therefore a matter of its
front alone (`MediaType.isCompressed_front`).

The parser that the pipeline runs with reads content types (`MediaType.reads_essence?`).
-/

namespace HttpPipeline.MediaType

/-- What stands before the first semicolon of a content type, or all of it. -/
def front (contentType : String) : List Char := contentType.toList.takeWhile (· != ';')

/-! ### Characters -/

variable {c : Char} {text word rest : List Char}

/-- The characters of a token are printable ASCII, and no blanks. -/
theorem isTokenChar_bounds (h : isTokenChar c = true) : 32 < c.toNat ∧ c.toNat < 127 := by
  have hranges {low high : Char} (hc : low ≤ c ∧ c ≤ high) (hlow : 32 < low.toNat)
      (hhigh : high.toNat < 127) : 32 < c.toNat ∧ c.toNat < 127 :=
    ⟨hlow.trans_le (Text.toNat_le hc.1), (Text.toNat_le hc.2).trans_lt hhigh⟩
  simp only [isTokenChar, Text.isDigit, Text.isLetter, Bool.or_eq_true, Bool.and_eq_true,
    decide_eq_true_eq] at h
  rcases h with (hdigit | hsmall | hcapital) | hsign
  · exact hranges hdigit (by decide) (by decide)
  · exact hranges hsmall (by decide) (by decide)
  · exact hranges hcapital (by decide) (by decide)
  · have hsigns : ("!#$%&'*+-.^_\x60|~".toList.all fun d => 32 < d.toNat && d.toNat < 127) = true :=
      by decide
    simpa using List.all_eq_true.mp hsigns c (List.contains_iff_mem.mp hsign)

/-- A character of a media type: of one of its tokens, or the slash between them. -/
def isEssenceChar (c : Char) : Bool := isTokenChar c || c == '/'

theorem isBlank_of_isEssenceChar (h : isEssenceChar c = true) : Text.isBlank c = false := by
  have hbounds : 32 < c.toNat ∧ c.toNat < 127 := by
    rcases Bool.or_eq_true_iff.mp h with htoken | hslash
    · exact isTokenChar_bounds htoken
    · rw [beq_iff_eq.mp hslash]
      decide
  simp only [Text.isBlank, Bool.or_eq_false_iff, Bool.and_eq_false_iff, decide_eq_false_iff_not,
    beq_eq_false_iff_ne]
  omega

/-! ### Parsers of content types -/

/-- **A media type in front** of a text: two tokens with a slash between them, and after them,
behind blanks if there are any, a semicolon or nothing. -/
inductive Leads : (media text : List Char) → Prop
  | intro {type subtype blanks rest : List Char}
    (htype : ∀ c ∈ type, isTokenChar c = true) (hsubtype : ∀ c ∈ subtype, isTokenChar c = true)
    (hblanks : ∀ c ∈ blanks, Text.isBlank c = true) (hrest : ∀ c ∈ rest.head?, c = ';') :
    Leads (type ++ '/' :: subtype) (type ++ '/' :: subtype ++ blanks ++ rest)

/-- **A parser of content types.** Nobody has to know which parameters it accepts. If it accepts a
text, then a media type is in front, and that in lower case is the essence. -/
structure Reads (parse? : List Char → Option (List Char)) : Prop where
  leads : ∀ {text essence : List Char}, parse? text = some essence →
    ∃ media, Leads media text ∧ essence = Text.lower media

theorem Leads.isEssenceChar {media : List Char} (h : Leads media text) :
    ∀ c ∈ media, isEssenceChar c = true := by
  intro c hc
  obtain ⟨htype, hsubtype, -, -⟩ := h
  rw [MediaType.isEssenceChar, Bool.or_eq_true]
  rcases List.mem_append.mp hc with hc | hc
  · exact .inl (htype c hc)
  · rcases List.mem_cons.mp hc with rfl | hc
    · exact .inr rfl
    · exact .inl (hsubtype c hc)

/-- **A media type in front** is all that is left of the text when it is cut at the first semicolon
and trimmed. -/
theorem Leads.trim_eq {media : List Char} (h : Leads media text) :
    Text.trim (text.takeWhile (· != ';')) = media := by
  have hmedia := h.isEssenceChar
  obtain ⟨-, -, hblanks, hrest⟩ := h
  rename_i type subtype blanks rest
  have hsemicolon : ∀ c ∈ type ++ '/' :: subtype ++ blanks, (c != ';') = true := by
    intro c hc
    rw [bne_iff_ne]
    rcases List.mem_append.mp hc with hc | hc
    · exact Text.ne_of_class (hmedia c hc) (by decide)
    · exact Text.ne_of_class (hblanks c hc) (by decide)
  have hstops : rest.takeWhile (· != ';') = [] := by
    cases rest with
    | nil => rfl
    | cons c rest => rw [hrest c rfl, List.takeWhile_cons_of_neg (by simp)]
  calc Text.trim ((type ++ '/' :: subtype ++ blanks ++ rest).takeWhile (· != ';'))
      = Text.trim ([] ++ (type ++ '/' :: subtype) ++ blanks) := by
        rw [List.takeWhile_append_of_pos hsemicolon, hstops, List.append_nil, List.nil_append]
    _ = type ++ '/' :: subtype :=
        Text.trim_padded (by simp) (fun c hc => isBlank_of_isEssenceChar (hmedia c hc)) hblanks

/-- **A parser** finds what is found by looking for the first semicolon. -/
theorem Reads.eq_plainEssence {parse? : List Char → Option (List Char)} (hparse : Reads parse?)
    {essence : List Char} (h : parse? text = some essence) : essence = plainEssence text := by
  obtain ⟨media, hleads, rfl⟩ := hparse.leads h
  rw [plainEssence, hleads.trim_eq]

/-- So the essence of any content type is what is found that way. -/
theorem Reads.essenceBy_eq {parse? : List Char → Option (List Char)} (hparse : Reads parse?)
    (text : List Char) : essenceBy parse? text = plainEssence text := by
  unfold essenceBy
  cases haccepted : parse? text with
  | none => rfl
  | some found => exact hparse.eq_plainEssence haccepted

/-! ### The grammar -/

/-- **The parser of the pipeline** reads content types. -/
theorem reads_essence? : Reads essence? where
  leads := by
    intro text essence h
    have htext := List.takeWhile_append_dropWhile (p := isTokenChar) (l := text)
    have htoken {cs : List Char} : ∀ c ∈ cs.takeWhile isTokenChar, isTokenChar c = true :=
      fun c hc => List.mem_takeWhile_imp hc
    unfold essence? at h
    split at h
    · rename_i sub hslash
      have hsub := List.takeWhile_append_dropWhile (p := isTokenChar) (l := sub)
      rw [hslash] at htext
      have hleads (rest : List Char) (hrest : ∀ c ∈ rest.head?, c = ';') :
          Leads (text.takeWhile isTokenChar ++ '/' :: sub.takeWhile isTokenChar)
            (text.takeWhile isTokenChar ++ '/' :: sub.takeWhile isTokenChar ++ [] ++ rest) :=
        .intro htoken htoken (by simp) hrest
      split_ifs at h
      split at h
      · -- nothing follows the second token
        rename_i hend
        rw [hend, List.append_nil] at hsub
        have hall := hleads [] (by simp)
        rw [hsub, htext, List.append_nil, List.append_nil] at hall
        exact ⟨text, hall, (Option.some.inj h).symm⟩
      · -- a semicolon does
        rename_i parameters hsemicolon
        rw [hsemicolon] at hsub
        split_ifs at h
        have hwhole : text.takeWhile isTokenChar ++ '/' :: sub.takeWhile isTokenChar
            ++ ';' :: parameters = text := by
          rw [List.append_assoc, List.cons_append, hsub, htext]
        have htake : text.take (text.length - (parameters.length + 1))
            = text.takeWhile isTokenChar ++ '/' :: sub.takeWhile isTokenChar := by
          conv_lhs => rw [← hwhole]
          rw [List.length_append, List.length_cons, Nat.add_sub_cancel, List.take_left]
        have hfound := hleads (';' :: parameters) (by simp)
        rw [List.append_nil, hwhole] at hfound
        rw [htake] at h
        exact ⟨_, hfound, (Option.some.inj h).symm⟩
      · exact absurd h (by simp)
    · exact absurd h (by simp)

/-! ### The front -/

theorem plainEssence_front (contentType : String) :
    plainEssence contentType.toList = Text.lower (Text.trim (front contentType)) := rfl

/-- Whatever follows the first semicolon, the front is the same. -/
theorem front_append (contentType : String) (rest : List Char) :
    front (String.ofList (front contentType ++ ';' :: rest)) = front contentType := by
  have hsemicolon : ∀ c ∈ front contentType, (c != ';') = true := fun c => List.mem_takeWhile_imp
  rw [front, String.toList_ofList, List.takeWhile_append_of_pos hsemicolon,
    List.takeWhile_cons_of_neg (by simp), List.append_nil]

/-- **Whether a content is compressed already** is a matter of what stands before the first
semicolon, trimmed and in lower case. It is on the list or not, and whatever follows the semicolon
does not matter: parameters, blanks, or characters that belong to neither. Where the parser accepts
the text, it gives that same essence. -/
theorem isCompressed_front {parse? : List Char → Option (List Char)} (hparse : Reads parse?)
    (contentType : String) :
    (isCompressedBy parse? contentType = true ↔
      String.ofList (Text.lower (Text.trim (front contentType))) ∈ compressedTypes) ∧
    (∀ rest : List Char, isCompressedBy parse? (String.ofList (front contentType ++ ';' :: rest))
      = isCompressedBy parse? contentType) ∧
    (parse? contentType.toList = none ∨
      parse? contentType.toList = some (Text.lower (Text.trim (front contentType)))) := by
  have hlisted (other : String) : isCompressedBy parse? other
      = compressedTypes.contains (String.ofList (Text.lower (Text.trim (front other)))) := by
    rw [isCompressedBy, hparse.essenceBy_eq, plainEssence_front]
  refine ⟨?_, fun rest => ?_, ?_⟩
  · rw [hlisted, List.contains_iff_mem]
  · rw [hlisted, hlisted, front_append]
  · cases haccepted : parse? contentType.toList with
    | none => exact .inl rfl
    | some found =>
      rw [← plainEssence_front, hparse.eq_plainEssence haccepted]
      exact .inr rfl

/-- The parser of the pipeline accepts a content type with a complete parameter, and not if the
parameter ends in the middle. Its content is taken for compressed either way. -/
theorem isCompressed_front_quoted :
    essence? "Image/PNG; name=\"x\"".toList = some "image/png".toList ∧
      essence? "Image/PNG; name=\"x".toList = none ∧
      isCompressed "Image/PNG; name=\"x\"" = true ∧ isCompressed "Image/PNG; name=\"x" = true := by
  have hfront {contentType : String} (h : String.ofList (Text.lower (Text.trim (front contentType)))
      = "image/png") : isCompressed contentType = true := by
    refine (isCompressed_front reads_essence? contentType).1.mpr ?_
    rw [h]
    decide
  exact ⟨by decide +kernel, by decide +kernel, hfront (by decide +kernel),
    hfront (by decide +kernel)⟩

end HttpPipeline.MediaType
