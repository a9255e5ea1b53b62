import HttpPipeline.Origin.Ipv6
import HttpPipeline.Proofs.Text.Digits
import HttpPipeline.Proofs.Text.Pieces

/-!
# Addresses and their writing

An address of eight groups has one writing, and this writing is read as the address again
(`Ipv6.parse?_text`). Reading goes from group to group: a group ends at a colon, and a second colon
right after it stands for the run of zeros that was left out. Such a run stands where the writing
says, with zeros and nothing else (`Ipv6.eq_of_longestZeros`).

Whatever is read is an address: there are eight groups of 16 bits (`Ipv6.isAddress_of_parse?`).
-/

namespace HttpPipeline.Ipv6

/-- **An address**: eight groups of 16 bits. -/
structure IsAddress (groups : List ℕ) : Prop where
  length : groups.length = 8
  small : ∀ n ∈ groups, n < 65536

/-! ### Digits -/

/-- The digits of a group, which are hexadecimal and in lower case. -/
def isGroupChar (c : Char) : Bool := Text.isDigit c || ('a' ≤ c && c ≤ 'f')

theorem isHexDigit_of_isGroupChar {c : Char} (h : isGroupChar c = true) :
    Text.isHexDigit c = true :=
  Bool.or_eq_true_iff.mpr (.inl h)

theorem lowerChar_of_isGroupChar {c : Char} (h : isGroupChar c = true) : Text.lowerChar c = c := by
  refine if_neg fun hupper => ?_
  simp only [isGroupChar, Text.isDigit, Bool.or_eq_true, Bool.and_eq_true, decide_eq_true_eq] at h
  rcases h with hdigit | hletter
  · exact absurd (Char.le_trans hupper.1 hdigit.2) (by decide)
  · exact absurd (Char.le_trans hletter.1 hupper.2) (by decide)

theorem digitChar_spec {n : ℕ} (h : n < 16) :
    isGroupChar n.digitChar = true ∧ Text.hexValue? n.digitChar = some n := by
  have hall : ∀ n < 16, isGroupChar (Nat.digitChar n) = true := by decide
  exact ⟨hall n h, (Text.hexValue?_digitChar h).2⟩

/-- **The digits of a number** write that number. -/
theorem toDigits_spec (n : ℕ) :
    (∀ c ∈ Nat.toDigits 16 n, isGroupChar c = true) ∧
      Text.hexNumber (Nat.toDigits 16 n) = n := by
  induction n using Nat.strong_induction_on with
  | _ n ih =>
    by_cases hsmall : n < 16
    · obtain ⟨hchar, hvalue⟩ := digitChar_spec hsmall
      rw [Nat.toDigits_of_lt_base hsmall]
      exact ⟨List.forall_mem_singleton.mpr hchar, by simp [Text.hexNumber, hvalue]⟩
    · obtain ⟨hchars, hnumber⟩ := ih (n / 16) (by omega)
      obtain ⟨hchar, hvalue⟩ := digitChar_spec (Nat.mod_lt n (by decide : 0 < 16))
      rw [Nat.toDigits_of_base_le (by decide) (Nat.le_of_not_lt hsmall)]
      refine ⟨List.forall_mem_append.mpr ⟨hchars, List.forall_mem_singleton.mpr hchar⟩, ?_⟩
      rw [Text.hexNumber_append_singleton, hnumber, hvalue, Option.getD_some]
      omega

/-- **A group in front** is read up to the first character that is no digit. -/
theorem group_toDigits {n : ℕ} (hn : n < 65536) {rest : List Char}
    (hrest : ∀ c ∈ rest.head?, Text.isHexDigit c = false) :
    group (Nat.toDigits 16 n ++ rest) = ((Nat.toDigits 16 n).length, n, rest) := by
  obtain ⟨hchars, hnumber⟩ := toDigits_spec n
  have hlength : (Nat.toDigits 16 n).length ≤ 4 :=
    (Nat.length_toDigits_le_iff (by decide) (by decide)).mpr hn
  have hstop (k : ℕ) : (rest.take k).takeWhile Text.isHexDigit = [] := by
    cases rest with
    | nil => simp
    | cons c rest =>
      cases k with
      | zero => rfl
      | succ k => rw [List.take_succ_cons, List.takeWhile_cons_of_neg (by simp [hrest c rfl])]
  have hdigits : ((Nat.toDigits 16 n ++ rest).take 4).takeWhile Text.isHexDigit
      = Nat.toDigits 16 n := by
    rw [List.take_append, List.take_of_length_le hlength,
      List.takeWhile_append_of_pos fun c hc => isHexDigit_of_isGroupChar (hchars c hc), hstop,
      List.append_nil]
  rw [group]
  simp only [hdigits, hnumber, List.drop_left]

/-! ### Groups in writing -/

theorem joined_eq (groups : List ℕ) :
    joined groups = [':'].intercalate (groups.map (Nat.toDigits 16)) := by
  rw [joined, String.toList_intercalate, List.map_map]
  exact congrArg _ (List.map_congr_left fun n _ => String.toList_ofList)

theorem joined_singleton (n : ℕ) : joined [n] = Nat.toDigits 16 n := by
  rw [joined_eq]
  simp

theorem joined_cons_cons (n m : ℕ) (groups : List ℕ) :
    joined (n :: m :: groups) = Nat.toDigits 16 n ++ ':' :: joined (m :: groups) := by
  rw [joined_eq, joined_eq, List.map_cons, List.map_cons, List.intercalate_cons_cons]
  simp

/-- A writing of groups begins with a digit. -/
theorem joined_cons (n : ℕ) (groups : List ℕ) :
    ∃ c rest, joined (n :: groups) = c :: rest ∧ isGroupChar c = true := by
  obtain ⟨hchars, -⟩ := toDigits_spec n
  cases hdigits : Nat.toDigits 16 n with
  | nil => exact absurd hdigits Nat.toDigits_ne_nil
  | cons c digits =>
    have hc : isGroupChar c = true := hchars c (hdigits ▸ List.mem_cons_self)
    cases groups with
    | nil => exact ⟨c, digits, (joined_singleton n).trans hdigits, hc⟩
    | cons m groups =>
      exact ⟨c, digits ++ ':' :: joined (m :: groups), by rw [joined_cons_cons, hdigits]; rfl, hc⟩

/-! ### Reading groups -/

section Reading

variable {fuel count n : ℕ} {gap : Option ℕ} {rest : List Char}

theorem toDigits_append_ne (n : ℕ) (rest : List Char) :
    Nat.toDigits 16 n ++ rest ≠ [] ∧ ∀ cs, Nat.toDigits 16 n ++ rest ≠ ':' :: cs := by
  obtain ⟨hchars, -⟩ := toDigits_spec n
  cases hdigits : Nat.toDigits 16 n with
  | nil => exact absurd hdigits Nat.toDigits_ne_nil
  | cons c digits =>
    refine ⟨List.cons_ne_nil _ _, fun cs hcolon => ?_⟩
    have hc : isGroupChar c = true := hchars c (hdigits ▸ List.mem_cons_self)
    rw [List.head_eq_of_cons_eq hcolon] at hc
    exact absurd hc (by decide)

/-- The last group. -/
theorem groups?_last (hcount : count ≠ 8) (hn : n < 65536) :
    groups? (fuel + 1) count gap (Nat.toDigits 16 n) = some ([n], gap) := by
  have hgroup : group (Nat.toDigits 16 n ++ []) = _ := group_toDigits hn (by simp)
  obtain ⟨hsome, hcolon⟩ := toDigits_append_ne n []
  rw [List.append_nil] at hgroup hsome hcolon
  rw [groups?.eq_4 _ _ _ _ hsome hcolon, if_neg hcount, hgroup]

/-- A group and a colon, with more to follow. -/
theorem groups?_more (hcount : count ≠ 8) (hn : n < 65536) (hrest : rest ≠ []) :
    groups? (fuel + 1) count gap (Nat.toDigits 16 n ++ ':' :: rest)
      = (groups? fuel (count + 1) gap rest).map fun (ns, gap) => (n :: ns, gap) := by
  have hstop : ∀ c ∈ (':' :: rest).head?, Text.isHexDigit c = false := by
    intro c hc
    obtain rfl := Option.some.inj hc
    decide
  have hgroup := group_toDigits hn hstop
  obtain ⟨hsome, hcolon⟩ := toDigits_append_ne n (':' :: rest)
  rw [groups?.eq_4 _ _ _ _ hsome hcolon, if_neg hcount, hgroup]
  cases rest with
  | nil => exact absurd rfl hrest
  | cons c rest => rfl

/-- A second colon stands for a run of zeros. -/
theorem groups?_run (hcount : count ≠ 8) :
    groups? (fuel + 1) count none (':' :: rest)
      = (groups? fuel (count + 1) (some (count + 1)) rest).map fun (ns, gap) => (0 :: ns, gap) := by
  rw [groups?.eq_3, if_neg hcount]
  rfl

/-- **Groups in writing** are read as these groups. -/
theorem groups?_joined {ns : List ℕ} (hsmall : ∀ n ∈ ns, n < 65536)
    (hcount : count + ns.length ≤ 8) (hfuel : ns.length < fuel) :
    groups? fuel count gap (joined ns) = some (ns, gap) := by
  induction ns generalizing fuel count with
  | nil =>
    have hnil : joined [] = [] := joined_eq []
    rw [hnil, groups?.eq_2 _ _ _ (Nat.ne_of_gt hfuel)]
  | cons n ns ih =>
    obtain ⟨fuel, rfl⟩ : ∃ k, fuel = k + 1 := ⟨fuel - 1, by omega⟩
    obtain ⟨hn, hns⟩ := List.forall_mem_cons.mp hsmall
    rw [List.length_cons] at hcount hfuel
    cases ns with
    | nil => rw [joined_singleton, groups?_last (by omega) hn]
    | cons m ns =>
      obtain ⟨c, rest, hjoined, -⟩ := joined_cons m ns
      rw [joined_cons_cons, groups?_more (by omega) hn (by simp [hjoined]),
        ih hns (by omega) (by omega)]
      rfl

/-- **Groups around a run** that is left out: one zero stands in for it. -/
theorem groups?_around {front back : List ℕ} (hfront : ∀ n ∈ front, n < 65536)
    (hback : ∀ n ∈ back, n < 65536) (hsome : front ≠ [])
    (hcount : count + front.length + back.length < 8)
    (hfuel : front.length + back.length + 1 < fuel) :
    groups? fuel count none (joined front ++ "::".toList ++ joined back)
      = some (front ++ 0 :: back, some (count + front.length + 1)) := by
  -- on the groups in front of the gap: the last of them meets it
  induction front generalizing fuel count with
  | nil => exact absurd rfl hsome
  | cons n front ih =>
    obtain ⟨fuel, rfl⟩ : ∃ k, fuel = k + 1 := ⟨fuel - 1, by omega⟩
    obtain ⟨hn, hns⟩ := List.forall_mem_cons.mp hfront
    rw [List.length_cons] at hcount hfuel
    cases front with
    | nil =>
      obtain ⟨fuel, rfl⟩ : ∃ k, fuel = k + 1 := ⟨fuel - 1, by omega⟩
      rw [List.length_nil] at hcount hfuel
      have hcolons : joined [n] ++ "::".toList ++ joined back
          = Nat.toDigits 16 n ++ ':' :: ':' :: joined back := by
        rw [joined_singleton]
        simp
      rw [hcolons, groups?_more (by omega) hn (List.cons_ne_nil _ _), groups?_run (by omega),
        groups?_joined hback (by omega) (by omega)]
      rfl
    | cons m front =>
      have hcolon : joined (n :: m :: front) ++ "::".toList ++ joined back
          = Nat.toDigits 16 n ++ ':' :: (joined (m :: front) ++ "::".toList ++ joined back) := by
        rw [joined_cons_cons]
        simp
      rw [hcolon, groups?_more (by omega) hn (by simp), ih hns (List.cons_ne_nil _ _) (by omega)
        (by omega), Option.map_some]
      simp only [Option.some.injEq, Prod.mk.injEq, List.cons_append, List.length_cons, true_and]
      omega

end Reading

/-! ### Reading addresses -/

theorem length_joined (groups : List ℕ) : groups.length ≤ (joined groups).length := by
  have hpos (n : ℕ) : 0 < (Nat.toDigits 16 n).length :=
    List.length_pos_iff.mpr Nat.toDigits_ne_nil
  induction groups with
  | nil => exact Nat.zero_le _
  | cons n groups ih =>
    have hn := hpos n
    cases groups with
    | nil =>
      rw [joined_singleton]
      exact hn
    | cons m groups =>
      rw [joined_cons_cons, List.length_append, List.length_cons, List.length_cons (a := ':')]
      omega

theorem joined_cons_ne (n : ℕ) (groups : List ℕ) (rest cs : List Char) :
    joined (n :: groups) ++ rest ≠ ':' :: cs := by
  obtain ⟨c, digits, hjoined, hc⟩ := joined_cons n groups
  rw [hjoined]
  intro hcolon
  rw [List.head_eq_of_cons_eq hcolon] at hc
  exact absurd hc (by decide)

/-- **Eight groups in writing** are an address. -/
theorem parse?_joined {groups : List ℕ} (h : IsAddress groups) :
    parse? (joined groups) = some groups := by
  obtain ⟨hlength, hsmall⟩ := h
  have hread : groups? ((joined groups).length + 1) 0 none (joined groups) = some (groups, none) :=
    groups?_joined hsmall (by omega) (Nat.lt_succ_of_le (length_joined groups))
  cases groups with
  | nil => exact absurd hlength (by decide)
  | cons n groups =>
    have hcolon (cs : List Char) : joined (n :: groups) ≠ ':' :: cs := by
      simpa using joined_cons_ne n groups [] cs
    rw [parse?.eq_3 _ (fun _ => hcolon _) hcolon, hread]
    exact if_pos hlength

/-- **An address with a run left out** has zeros there. -/
theorem parse?_around {front back : List ℕ} (hfront : ∀ n ∈ front, n < 65536)
    (hback : ∀ n ∈ back, n < 65536) (hlength : front.length + back.length < 8) :
    parse? (joined front ++ "::".toList ++ joined back)
      = some (front ++ List.replicate (8 - (front.length + back.length)) 0 ++ back) := by
  have hlong := length_joined front
  have hlong' := length_joined back
  -- the zero that was read is the first of the run
  have hrun : front ++ List.replicate (8 - (front.length + back.length)) 0 ++ back
      = (front ++ 0 :: back).take (front.length + 1)
        ++ List.replicate (8 - (front ++ 0 :: back).length) 0
        ++ (front ++ 0 :: back).drop (front.length + 1) := by
    have hcount : 8 - (front.length + back.length) = 8 - (front ++ 0 :: back).length + 1 := by
      rw [List.length_append, List.length_cons]
      omega
    have htake : front.take (front.length + 1) = front := List.take_of_length_le (Nat.le_succ _)
    have hdrop : front.drop (front.length + 1) = [] := List.drop_of_length_le (Nat.le_succ _)
    rw [hcount, List.replicate_succ]
    simp [List.take_append, List.drop_append, htake, hdrop]
  rw [hrun]
  -- a text that starts with the colons is read by a branch of its own
  cases front with
  | nil =>
    rw [List.length_nil] at hlength
    have hread : groups? ((':' :: ':' :: joined back).length + 1) 1 (some 1) (joined back)
        = some (back, some 1) :=
      groups?_joined hback (by omega) (by rw [List.length_cons, List.length_cons]; omega)
    have hcolons : joined [] ++ "::".toList ++ joined back = ':' :: ':' :: joined back := by
      rw [joined_eq]
      rfl
    rw [hcolons, parse?.eq_1, hread]
    rfl
  | cons n front =>
    have hcolon (cs : List Char) :
        joined (n :: front) ++ "::".toList ++ joined back ≠ ':' :: cs := by
      rw [List.append_assoc]
      exact joined_cons_ne n front _ cs
    have hfuel : (n :: front).length + back.length + 1
        < (joined (n :: front) ++ "::".toList ++ joined back).length + 1 := by
      have hcolons : "::".toList.length = 2 := rfl
      rw [List.length_append, List.length_append, hcolons]
      omega
    rw [parse?.eq_3 _ (fun _ => hcolon _) hcolon,
      groups?_around hfront hback (List.cons_ne_nil _ _) (by omega) hfuel, Nat.zero_add]
    rfl

/-! ### The run of zeros -/

theorem drop_zerosInFront (groups : List ℕ) :
    groups = List.replicate (zerosInFront groups) 0 ++ groups.drop (zerosInFront groups) := by
  induction groups with
  | nil => rfl
  | cons n groups ih =>
    by_cases hn : n = 0
    · subst hn
      rw [zerosInFront, List.takeWhile_cons_of_pos (by decide), List.length_cons,
        List.replicate_succ, List.drop_succ_cons, List.cons_append]
      exact congrArg _ ih
    · rw [zerosInFront, List.takeWhile_cons_of_neg (by simp [hn])]
      rfl

/-- **The run that is left out** is one of zeros. -/
theorem eq_of_longestZeros {groups : List ℕ} {place length : ℕ}
    (h : longestZeros groups = some (place, length)) :
    2 ≤ length ∧ groups = groups.take place ++ List.replicate length 0
      ++ groups.drop (place + length) := by
  -- whatever place is the best one so far, its run was counted from there
  have hbest : ∀ best ∈ longestZeros groups,
      2 ≤ best.2 ∧ best.2 = zerosInFront (groups.drop best.1) := by
    rw [longestZeros]
    refine List.foldlRecOn (motive := fun best : Option (ℕ × ℕ) => ∀ run ∈ best,
      2 ≤ run.2 ∧ run.2 = zerosInFront (groups.drop run.1)) _ _
      (fun run hrun => absurd hrun (by simp)) fun best ih i hi => ?_
    intro run hrun
    cases best with
    | none =>
      dsimp only at hrun
      split_ifs at hrun with hlong
      · obtain rfl := Option.some.inj hrun
        exact ⟨hlong, rfl⟩
      · exact absurd hrun (by simp)
    | some best =>
      dsimp only at hrun
      split_ifs at hrun with hmore
      · obtain rfl := Option.some.inj hrun
        exact ⟨(ih best rfl).1.trans hmore.le, rfl⟩
      · exact ih run hrun
  obtain ⟨hlong, hlength⟩ := hbest (place, length) h
  refine ⟨hlong, ?_⟩
  have hzeros := drop_zerosInFront (groups.drop place)
  rw [← hlength, List.drop_drop] at hzeros
  rw [List.append_assoc, ← hzeros, List.take_append_drop]

/-- **The writing of an address** is read as that address. -/
theorem parse?_text {groups : List ℕ} (h : IsAddress groups) :
    parse? (text groups) = some groups := by
  rw [text]
  cases hzeros : longestZeros groups with
  | none => exact parse?_joined h
  | some run =>
    obtain ⟨place, length⟩ := run
    obtain ⟨hlong, hgroups⟩ := eq_of_longestZeros hzeros
    -- the zeros left out are just as many as there are groups missing
    have htake : (groups.take place).length + (groups.drop (place + length)).length
        = 8 - length ∧ length ≤ 8 := by
      have hlength := congrArg List.length hgroups
      rw [List.length_append, List.length_append, List.length_replicate, h.length] at hlength
      omega
    have hread := parse?_around (fun n (hn : n ∈ groups.take place) =>
        h.small n (List.mem_of_mem_take hn))
      (fun n (hn : n ∈ groups.drop (place + length)) => h.small n (List.mem_of_mem_drop hn))
      (by omega)
    have hrun : 8 - ((groups.take place).length + (groups.drop (place + length)).length)
        = length := by omega
    rw [hrun, ← hgroups] at hread
    exact hread

/-! ### Whatever is read -/

theorem group_lt (cs : List Char) : (group cs).2.1 < 65536 := by
  have hlength : ((cs.take 4).takeWhile Text.isHexDigit).length ≤ 4 :=
    ((List.takeWhile_sublist _).length_le).trans (List.length_take_le 4 cs)
  exact (Text.hexNumber_lt _).trans_le (Nat.pow_le_pow_right (by decide) hlength)

theorem octet?_le {cs rest : List Char} {n : ℕ} (h : octet? cs = some (n, rest)) : n ≤ 255 := by
  rw [octet?] at h
  split_ifs at h with hbad
  obtain ⟨rfl, -⟩ := Prod.mk.inj (Option.some.inj h)
  simp only [Bool.or_eq_true, decide_eq_true_eq, not_or] at hbad
  omega

theorem quad?_lt {cs : List Char} {hi lo : ℕ} (h : quad? cs = some (hi, lo)) :
    hi < 65536 ∧ lo < 65536 := by
  simp only [quad?, Option.bind_eq_bind] at h
  obtain ⟨⟨a, _⟩, ha, h⟩ := Option.bind_eq_some_iff.mp h
  split at h; swap; · cases h
  obtain ⟨⟨b, _⟩, hb, h⟩ := Option.bind_eq_some_iff.mp h
  split at h; swap; · cases h
  obtain ⟨⟨c, _⟩, hc, h⟩ := Option.bind_eq_some_iff.mp h
  split at h; swap; · cases h
  obtain ⟨⟨d, _⟩, hd, h⟩ := Option.bind_eq_some_iff.mp h
  split_ifs at h
  obtain ⟨rfl, rfl⟩ := Prod.mk.inj (Option.some.inj h)
  have ha := octet?_le ha
  have hb := octet?_le hb
  have hc := octet?_le hc
  have hd := octet?_le hd
  constructor <;> dsimp only <;> omega

/-- **Groups that are read** have 16 bits, and there are not more than eight. -/
theorem groups?_spec {fuel count : ℕ} {gap gap' : Option ℕ} {cs : List Char} {ns : List ℕ}
    (hcount : count ≤ 8) (h : groups? fuel count gap cs = some (ns, gap')) :
    count + ns.length ≤ 8 ∧ ∀ n ∈ ns, n < 65536 := by
  -- one more group in front
  have hcons {count n : ℕ} {ns : List ℕ} (hn : n < 65536)
      (hns : count + 1 + ns.length ≤ 8 ∧ ∀ n ∈ ns, n < 65536) :
      count + (n :: ns).length ≤ 8 ∧ ∀ m ∈ n :: ns, m < 65536 := by
    rw [List.length_cons]
    exact ⟨by omega, List.forall_mem_cons.mpr ⟨hn, hns.2⟩⟩
  -- along the calls of the reader: the cases left out read nothing
  fun_induction groups? fuel count gap cs generalizing ns gap' with
  | case2 =>
    obtain ⟨rfl, -⟩ := Prod.mk.inj (Option.some.inj h)
    exact ⟨hcount, by simp⟩
  | case5 fuel count gap hnot rest hgap hsome ih =>
    obtain ⟨⟨ms, gap⟩, hread, hms⟩ := Option.map_eq_some_iff.mp h
    obtain ⟨rfl, -⟩ := Prod.mk.inj hms
    exact hcons (by decide) (ih (by omega) hread)
  | case7 fuel count gap hnot cs hcolon length n rest hroom hsome hgroup =>
    obtain ⟨⟨hi, lo⟩, hquad, hms⟩ := Option.map_eq_some_iff.mp h
    obtain ⟨rfl, -⟩ := Prod.mk.inj hms
    obtain ⟨hhi, hlo⟩ := quad?_lt hquad
    simp only [Bool.or_eq_true, decide_eq_true_eq, not_or] at hroom
    exact hcons hhi (hcons hlo ⟨by rw [List.length_nil]; omega, by simp⟩)
  | case9 fuel count gap hnot cs hcolon length n rest hmore hsome hgroup ih =>
    obtain ⟨⟨ms, gap⟩, hread, hms⟩ := Option.map_eq_some_iff.mp h
    obtain ⟨rfl, -⟩ := Prod.mk.inj hms
    have hn := group_lt cs
    rw [hgroup] at hn
    exact hcons hn (ih (by omega) hread)
  | case10 fuel count gap hnot cs hcolon length n hsome hgroup =>
    obtain ⟨rfl, -⟩ := Prod.mk.inj (Option.some.inj h)
    have hn := group_lt cs
    rw [hgroup] at hn
    exact hcons hn ⟨by rw [List.length_nil]; omega, by simp⟩
  | _ => cases h

/-- A run of zeros fills an address up. -/
theorem isAddress_filled {ns : List ℕ} (hlength : ns.length ≤ 8) (hsmall : ∀ n ∈ ns, n < 65536)
    (gap : ℕ) : IsAddress (ns.take gap ++ List.replicate (8 - ns.length) 0 ++ ns.drop gap) := by
  constructor
  · simp only [List.length_append, List.length_take, List.length_replicate, List.length_drop]
    omega
  · simp only [List.forall_mem_append]
    refine ⟨⟨fun m hm => hsmall m (List.mem_of_mem_take hm), fun m hm => ?_⟩,
      fun m hm => hsmall m (List.mem_of_mem_drop hm)⟩
    obtain rfl := List.eq_of_mem_replicate hm
    decide

/-- **Whatever is read** is an address. -/
theorem isAddress_of_parse? {cs : List Char} {groups : List ℕ} (h : parse? cs = some groups) :
    IsAddress groups := by
  -- an address without a gap has to have all of its groups
  have hwhole {ns : List ℕ} (hsmall : ∀ n ∈ ns, n < 65536)
      (hgroups : (if ns.length = 8 then some ns else none) = some groups) : IsAddress groups := by
    split_ifs at hgroups with hlength
    obtain rfl := Option.some.inj hgroups
    exact ⟨hlength, hsmall⟩
  rw [parse?.eq_def] at h
  split at h
  · obtain ⟨all, hall, hgroups⟩ := Option.bind_eq_some_iff.mp h
    obtain ⟨⟨ns, gap⟩, hread, rfl⟩ := Option.map_eq_some_iff.mp hall
    obtain ⟨hlength, hsmall⟩ := groups?_spec (by decide) hread
    have hsmall' : ∀ n ∈ 0 :: ns, n < 65536 := List.forall_mem_cons.mpr ⟨by decide, hsmall⟩
    cases gap with
    | none => exact hwhole hsmall' hgroups
    | some gap =>
      obtain rfl := Option.some.inj hgroups
      refine isAddress_filled ?_ hsmall' _
      rw [List.length_cons]
      omega
  · cases h
  · obtain ⟨⟨ns, gap⟩, hread, hgroups⟩ := Option.bind_eq_some_iff.mp h
    obtain ⟨hlength, hsmall⟩ := groups?_spec (Nat.zero_le 8) hread
    cases gap with
    | none => exact hwhole hsmall hgroups
    | some gap =>
      obtain rfl := Option.some.inj hgroups
      exact isAddress_filled (by omega) hsmall gap

/-! ### The characters of a writing -/

/-- An address is written in digits and colons. -/
theorem mem_text {groups : List ℕ} {c : Char} (h : c ∈ text groups) :
    isGroupChar c = true ∨ c = ':' := by
  have hjoined {groups : List ℕ} : ∀ c ∈ joined groups, isGroupChar c = true ∨ c = ':' := by
    rw [joined_eq]
    refine Text.forall_intercalate (.inr rfl) fun piece hpiece c hc => ?_
    obtain ⟨n, -, rfl⟩ := List.mem_map.mp hpiece
    exact .inl ((toDigits_spec n).1 c hc)
  rw [text] at h
  split at h
  · exact hjoined c h
  · rcases List.mem_append.mp h with h | h
    · rcases List.mem_append.mp h with h | h
      · exact hjoined c h
      · exact .inr (by simpa using h)
    · exact hjoined c h

/-- The letters are in lower case. -/
theorem lower_text (groups : List ℕ) : Text.lower (text groups) = text groups := by
  refine (List.map_congr_left fun c hc => ?_).trans (List.map_id _)
  rcases mem_text hc with hc | rfl
  · exact lowerChar_of_isGroupChar hc
  · decide

end HttpPipeline.Ipv6
