/-
SecurityGroups/Proofs/AddressForms.lean

What texts stand for an address.

`Text.WritesNumber`, `Ipv6.WritesGroup`, `Ipv6.WrittenBy` and `Cidr.WrittenBy` say
what each text stands for, without a reader:

* an IPv4 address is written in one way only, as its text;
* a group of an IPv6 address is at most four hexadecimal digits, of either case and
  with zeros before them or without;
* an IPv6 address is eight groups with colons between them, of which a run of zeros
  may be left out at a double colon and the last two may be an IPv4 address;
* an address may have a slash and a length behind it, which is a number with zeros or
  a plus sign before it or without.

The readers find exactly that (`Ipv4.read?_eq_some_iff`, `Ipv6.read?_eq_some_iff`,
`Cidr.readIn_eq_ok`).
-/
import Mathlib.Data.List.Forall2
import Mathlib.Data.List.Induction
import SecurityGroups.Proofs.AddressTexts
import SecurityGroups.Text.AsciiCase

namespace SecurityGroups

variable {cs : List Char}

/-! ### Numbers -/

namespace Text

variable {base n d max : Nat} {c : Char}

/-- The text of a number: its digits, with any number of zeros before them. -/
def WritesNumber (base : Nat) (cs : List Char) (n : Nat) : Prop :=
  ∃ zeros, cs = List.replicate zeros '0' ++ Nat.toDigits base n

theorem WritesNumber.ne_nil (h : WritesNumber base cs n) : cs ≠ [] := by
  obtain ⟨zeros, rfl⟩ := h
  simp [Nat.toDigits_ne_nil]

theorem writesNumber_digit (hd : d < base) : WritesNumber base [Nat.digitChar d] d :=
  ⟨0, (Nat.toDigits_of_lt_base hd).symm⟩

/-- One digit more makes the text of a number into that of a greater one. -/
theorem WritesNumber.concat (hbase : 1 < base) (h : WritesNumber base cs n) (hd : d < base) :
    WritesNumber base (cs ++ [Nat.digitChar d]) (n * base + d) := by
  obtain ⟨zeros, rfl⟩ := h
  rcases Nat.eq_zero_or_pos n with rfl | hn
  · refine ⟨zeros + 1, ?_⟩
    rw [Nat.zero_mul, Nat.zero_add, Nat.toDigits_of_lt_base hd, Nat.toDigits_zero,
      List.replicate_succ']
  · refine ⟨zeros, ?_⟩
    rw [← Nat.toDigits_of_lt_base hd, List.append_assoc,
      Nat.toDigits_append_toDigits hbase hn hd, Nat.mul_comm]

theorem isDigit_iff : c.isDigit = true ↔ 48 ≤ c.toNat ∧ c.toNat ≤ 57 := by
  simp [Char.isDigit, UInt32.le_iff_toNat_le]

theorem exists_of_isDigit (h : c.isDigit = true) : ∃ d < 10, c = Nat.digitChar d := by
  have hc := isDigit_iff.1 h
  refine ⟨c.toNat - 48, by omega, Char.toNat_inj.1 ?_⟩
  rw [Nat.toNat_digitChar_of_lt_ten (by omega)]
  omega

/-- **A natural number is read from the texts that write it**, and from no others. -/
theorem natural?_iff_writesNumber : natural? cs = some n ↔ WritesNumber 10 cs n := by
  rw [natural?_eq_some_iff]
  constructor
  · rintro ⟨hne, hdigits, rfl⟩
    -- from the last digit on, as the digits before it write what is left of the number
    induction cs using List.reverseRecOn with
    | nil => exact absurd rfl hne
    | append_singleton cs c ih =>
      obtain ⟨d, hd, rfl⟩ := exists_of_isDigit (hdigits c (by simp))
      rw [Nat.ofDigitChars_append, Nat.ofDigitChars_cons_digitChar_of_lt_ten hd,
        Nat.ofDigitChars_nil, Nat.mul_comm]
      rcases eq_or_ne cs [] with rfl | hcs
      · simpa using writesNumber_digit hd
      · exact (ih hcs fun c hc => hdigits c (by simp [hc])).concat (by decide) hd
  · rintro ⟨zeros, rfl⟩
    refine ⟨WritesNumber.ne_nil ⟨zeros, rfl⟩, fun c hc => ?_, ?_⟩
    · rcases List.mem_append.1 hc with hc | hc
      · obtain rfl := List.eq_of_mem_replicate hc
        decide
      · exact isDigit_of_mem_decimal hc
    · rw [Nat.ofDigitChars_append, Nat.ofDigitChars_replicate_zero, Nat.mul_zero,
        Nat.ofDigitChars_ten_toDigits]

theorem WritesNumber.isDigit (h : WritesNumber 10 cs n) : ∀ c ∈ cs, c.isDigit = true :=
  (natural?_eq_some_iff.1 (natural?_iff_writesNumber.2 h)).2.1

/-- Digits without a needless zero are the text of their number. -/
theorem WritesNumber.eq_decimal (h : WritesNumber 10 cs n)
    (hzero : cs.head? = some '0' → cs.length = 1) : cs = decimal n := by
  obtain ⟨zeros, rfl⟩ := h
  cases zeros with
  | zero => rfl
  | succ zeros =>
    have hlength := hzero rfl
    have hpos := List.length_pos_iff.2 (decimal_ne_nil n)
    simp only [List.length_append, List.length_replicate] at hlength
    rw [decimal] at hpos
    omega

/-- The digits of a number, perhaps after a plus sign, are read up to a bound. -/
theorem unsigned?_iff_writesNumber : unsigned? max cs = some n ↔
    ∃ sign digits, cs = sign ++ digits ∧ (sign = [] ∨ sign = ['+']) ∧ WritesNumber 10 digits n ∧
      n ≤ max := by
  simp only [unsigned?_eq_some_iff, natural?_iff_writesNumber]

/-- A hexadecimal digit is that of its value, in either case. -/
theorem hexDigit?_eq_some_iff : hexDigit? c = some d ↔ d < 16 ∧ c.toLower = Nat.digitChar d := by
  have hdigit : ∀ d < 16, (Nat.digitChar d).toNat = if d < 10 then 48 + d else 87 + d := by decide
  have hsmall : 'a' ≤ c ∧ c ≤ 'f' ↔ 97 ≤ c.toNat ∧ c.toNat ≤ 102 := by
    simp [Char.le_def, UInt32.le_iff_toNat_le]
  have hcapital : 'A' ≤ c ∧ c ≤ 'F' ↔ 65 ≤ c.toNat ∧ c.toNat ≤ 70 := by
    simp [Char.le_def, UInt32.le_iff_toNat_le]
  simp only [hexDigit?, isDigit_iff, hsmall, hcapital]
  constructor
  · intro h
    have hvalue : d < 16 ∧ c.toLower.toNat = if d < 10 then 48 + d else 87 + d := by
      rw [toNat_toLower]
      grind
    exact ⟨hvalue.1, Char.toNat_inj.1 (hvalue.2.trans (hdigit d hvalue.1).symm)⟩
  · rintro ⟨hd, h⟩
    have hvalue := congrArg Char.toNat h
    rw [toNat_toLower, hdigit d hd] at hvalue
    grind

theorem toLower_toLower (c : Char) : c.toLower.toLower = c.toLower := by
  rw [← Char.toNat_inj, toNat_toLower c.toLower, toNat_toLower]
  grind

theorem hexDigit?_toLower (c : Char) : hexDigit? c.toLower = hexDigit? c := by
  refine Option.ext fun d => ?_
  rw [hexDigit?_eq_some_iff, hexDigit?_eq_some_iff, toLower_toLower]

theorem hexadecimal?_toLower (cs : List Char) :
    hexadecimal? (cs.map Char.toLower) = hexadecimal? cs := by
  simp only [hexadecimal?, List.map_eq_nil_iff, List.foldlM_map, hexDigit?_toLower]

theorem hexadecimal?_concat (hcs : cs ≠ []) (c : Char) : hexadecimal? (cs ++ [c]) =
    (hexadecimal? cs).bind fun n => (hexDigit? c).map fun d => n * 16 + d := by
  simp [hexadecimal?, hcs]

/-- **A hexadecimal number is read from the texts that write it in either case**, and from no
others. -/
theorem hexadecimal?_iff_writesNumber :
    hexadecimal? cs = some n ↔ WritesNumber 16 (cs.map Char.toLower) n := by
  constructor
  · intro h
    -- from the last digit on, as the digits before it write what is left of the number
    induction cs using List.reverseRecOn generalizing n with
    | nil => simp [hexadecimal?] at h
    | append_singleton cs c ih =>
      rcases eq_or_ne cs [] with rfl | hcs
      · have hdigit : hexDigit? c = some n := by simpa [hexadecimal?] using h
        obtain ⟨hd, hc⟩ := hexDigit?_eq_some_iff.1 hdigit
        simpa [hc] using writesNumber_digit hd
      · rw [hexadecimal?_concat hcs, Option.bind_eq_some_iff] at h
        obtain ⟨m, hm, h⟩ := h
        obtain ⟨d, hdigit, rfl⟩ := Option.map_eq_some_iff.1 h
        obtain ⟨hd, hc⟩ := hexDigit?_eq_some_iff.1 hdigit
        rw [List.map_append, List.map_singleton, hc]
        exact (ih hm).concat (by decide) hd
  · rintro ⟨zeros, h⟩
    have hzeros : ∀ zeros, (List.replicate zeros '0').foldlM
        (fun n c => (hexDigit? c).map fun d => n * 16 + d) 0 = some 0 := by
      intro zeros
      induction zeros with
      | zero => rfl
      | succ zeros ih => exact ih
    have hdigits := hexadecimal?_hexadecimal n
    rw [hexadecimal?, if_neg (hexadecimal_ne_nil n)] at hdigits
    rw [← hexadecimal?_toLower, h, hexadecimal?, if_neg (WritesNumber.ne_nil ⟨zeros, rfl⟩),
      List.foldlM_append, hzeros]
    exact hdigits

end Text

/-! ### IPv4 -/

namespace Ipv4

/-- Each of the four numbers has one text. -/
theorem part?_eq_some_iff {n : UInt8} : part? cs = some n ↔ cs = Text.decimal n.toNat := by
  refine ⟨fun h => ?_, fun h => h ▸ part?_decimal n⟩
  unfold part? at h
  split at h
  · rename_i hform
    obtain ⟨m, hm, rfl⟩ := Option.map_eq_some_iff.1 h
    obtain ⟨hm, hle⟩ := Option.filter_eq_some_iff.1 hm
    rw [UInt8.toNat_ofNat_of_lt' (Nat.lt_succ_of_le (of_decide_eq_true hle))]
    exact (Text.natural?_iff_writesNumber.1 hm).eq_decimal hform.2
  · cases h

/-- **An IPv4 address is written in one way only.** -/
theorem read?_eq_some_iff {ip : Ipv4} : read? cs = some ip ↔ cs = ip.text := by
  refine ⟨fun h => ?_, fun h => h ▸ read?_text ip⟩
  unfold read? at h
  split at h
  · rename_i a b c d hsplit
    simp only [Option.pure_def, Option.bind_eq_bind, Option.bind_eq_some_iff, Option.some.injEq,
      part?_eq_some_iff] at h
    obtain ⟨na, rfl, nb, rfl, nc, rfl, nd, rfl, rfl⟩ := h
    rw [← Text.join_split '.' cs, hsplit, text]
  · cases h

end Ipv4

/-! ### IPv6 -/

namespace Ipv6

variable {ps : List (List Char)} {gs : List UInt16} {g : UInt16} {ip : Ipv6} {c : Char}

/-- The text of a group: at most four hexadecimal digits, of either case. -/
def WritesGroup (cs : List Char) (g : UInt16) : Prop :=
  cs.length ≤ 4 ∧ Text.WritesNumber 16 (cs.map Char.toLower) g.toNat

/-- The texts of groups, the last two of which may be written as an IPv4 address. -/
inductive WritesTail : List (List Char) → List UInt16 → Prop
  | nil : WritesTail [] []
  | dotted (ip : Ipv4) : WritesTail [ip.text] ip.toGroups
  | cons {piece : List Char} {g : UInt16} {ps : List (List Char)} {gs : List UInt16}
      (hpiece : WritesGroup piece g) (hrest : WritesTail ps gs) : WritesTail (piece :: ps) (g :: gs)

/-- The text of an address: its groups with colons between them, without some zero groups if there
is a double colon. -/
inductive WrittenBy : List Char → Ipv6 → Prop
  | full {ps : List (List Char)} {ip : Ipv6} (h : WritesTail ps ip.groups) :
      WrittenBy (Text.join ':' ps) ip
  | compressed {ps qs : List (List Char)} {head tail : List UInt16} {zeros : Nat} {ip : Ipv6}
      (hhead : List.Forall₂ WritesGroup ps head) (htail : WritesTail qs tail) (hzeros : 1 ≤ zeros)
      (hgroups : ip.groups = head ++ List.replicate zeros 0 ++ tail) :
      WrittenBy (Text.join ':' ps ++ ':' :: ':' :: Text.join ':' qs) ip

/-! #### Groups -/

theorem group?_eq_some_iff : group? cs = some g ↔ WritesGroup cs g := by
  rw [group?, Option.ite_none_right_eq_some, WritesGroup, Option.map_eq_some_iff]
  refine and_congr_right fun hlength => ?_
  simp only [Text.hexadecimal?_iff_writesNumber]
  constructor
  · rintro ⟨n, hn, rfl⟩
    have hlt : n < 16 ^ 4 := by
      obtain ⟨zeros, h⟩ := hn
      have hdigits : (Nat.toDigits 16 n).length ≤ 4 := by
        have hcount := congrArg List.length h
        simp only [List.length_map, List.length_append, List.length_replicate] at hcount
        omega
      exact (Nat.length_toDigits_le_iff (by decide) (by decide)).1 hdigits
    rwa [UInt16.toNat_ofNat_of_lt' hlt]
  · exact fun h => ⟨g.toNat, h, UInt16.ofNat_toNat⟩

theorem WritesGroup.ne_nil (h : WritesGroup cs g) : cs ≠ [] :=
  fun hnil => h.2.ne_nil (by simp [hnil])

/-- There are only hexadecimal digits in a group. -/
theorem WritesGroup.not_mem (h : WritesGroup cs g) (hc : Text.hexDigit? c = none) : c ∉ cs := by
  intro hmem
  obtain ⟨-, zeros, h⟩ := h
  have hlower : c.toLower ∈ List.replicate zeros '0' ++ Text.hexadecimal g.toNat :=
    h ▸ List.mem_map_of_mem hmem
  obtain ⟨d, hd, hdigit⟩ : ∃ d < 16, c.toLower = Nat.digitChar d := by
    rcases List.mem_append.1 hlower with hzero | hdigit
    · exact ⟨0, by decide, List.eq_of_mem_replicate hzero⟩
    · exact Text.exists_of_mem_hexadecimal hdigit
  rw [Text.hexDigit?_eq_some_iff.2 ⟨hd, hdigit⟩] at hc
  cases hc

theorem groups?_eq_some_iff : groups? ps = some gs ↔ List.Forall₂ WritesGroup ps gs := by
  induction ps generalizing gs with
  | nil => cases gs <;> simp [groups?]
  | cons piece ps ih =>
    simp only [groups?, Option.pure_def, Option.bind_eq_bind, Option.bind_eq_some_iff,
      Option.some.injEq, group?_eq_some_iff, ih, List.forall₂_cons_left_iff]
    constructor
    · rintro ⟨g, hpiece, gs, hrest, rfl⟩
      exact ⟨g, gs, hpiece, hrest, rfl⟩
    · rintro ⟨g, gs, hpiece, hrest, rfl⟩
      exact ⟨g, hpiece, gs, hrest, rfl⟩

theorem groupsWithTail?_eq_some_iff : groupsWithTail? ps = some gs ↔ WritesTail ps gs := by
  constructor
  · intro h
    fun_induction groupsWithTail? ps generalizing gs with
    | case1 =>
      obtain rfl := Option.some.inj h
      exact .nil
    | case2 piece ip hip =>
      obtain rfl := Option.some.inj h
      rw [Ipv4.read?_eq_some_iff.1 hip]
      exact .dotted ip
    | case3 piece hip =>
      obtain ⟨g, hg, rfl⟩ := Option.map_eq_some_iff.1 h
      exact .cons (group?_eq_some_iff.1 hg) .nil
    | case4 piece rest hrest ih =>
      simp only [Option.pure_def, Option.bind_eq_bind, Option.bind_eq_some_iff,
        Option.some.injEq] at h
      obtain ⟨g, hg, gs, hgs, rfl⟩ := h
      exact .cons (group?_eq_some_iff.1 hg) (ih hgs)
  · intro h
    induction h with
    | nil => rfl
    | dotted ip => rw [groupsWithTail?, Ipv4.read?_text]
    | @cons piece g ps gs hpiece hrest ih =>
      have hgroup := group?_eq_some_iff.2 hpiece
      cases ps with
      | nil =>
        -- the last piece, which has no dots, is a group and no IPv4 address
        obtain rfl := Option.some.inj ih
        rw [groupsWithTail?, Ipv4.read?_eq_none_of_not_mem (hpiece.not_mem (by decide)), hgroup]
        rfl
      | cons next ps =>
        rw [groupsWithTail?, hgroup, ih]
        · rfl
        · exact List.cons_ne_nil next ps

/-- The pieces of an address hold no colon and no slash, and none of them is empty. -/
theorem WritesTail.plain (h : WritesTail ps gs) :
    ∀ piece ∈ ps, piece ≠ [] ∧ ':' ∉ piece ∧ '/' ∉ piece := by
  induction h with
  | nil => exact fun piece hpiece => nomatch hpiece
  | dotted ip =>
    intro piece hpiece
    obtain rfl := List.mem_singleton.1 hpiece
    refine ⟨fun hnil => ?_, Ipv4.not_mem_text (by decide) (by decide) ip,
      Ipv4.not_mem_text (by decide) (by decide) ip⟩
    have hread := Ipv4.read?_text ip
    rw [hnil] at hread
    cases hread
  | cons hpiece _ ih =>
    exact List.forall_mem_cons.2
      ⟨⟨hpiece.ne_nil, hpiece.not_mem (by decide), hpiece.not_mem (by decide)⟩, ih⟩

theorem WritesTail.ne_nil (h : WritesTail ps gs) : ∀ piece ∈ ps, piece ≠ [] :=
  fun piece hpiece => (h.plain piece hpiece).1

theorem WritesTail.colon_not_mem (h : WritesTail ps gs) : ∀ piece ∈ ps, ':' ∉ piece :=
  fun piece hpiece => (h.plain piece hpiece).2.1

theorem WritesTail.of_groups (h : List.Forall₂ WritesGroup ps gs) : WritesTail ps gs := by
  induction h with
  | nil => exact .nil
  | cons hpiece _ ih => exact .cons hpiece ih

/-- At most the last piece is two groups. -/
theorem WritesTail.length_le (h : WritesTail ps gs) : gs.length ≤ ps.length + 1 := by
  induction h with
  | nil => exact Nat.zero_le _
  | dotted ip => exact Nat.le_refl _
  | cons _ _ ih => exact Nat.succ_le_succ ih

theorem WritesTail.pieces_ne_nil (h : WritesTail ps gs) (hgs : 1 < gs.length) : ps ≠ [] :=
  List.length_pos_iff.1 (Nat.lt_of_succ_lt_succ (Nat.lt_of_lt_of_le hgs h.length_le))

/-! #### Whole addresses -/

theorem join_pieces (cs : List Char) : Text.join ':' (pieces cs) = cs := by
  unfold pieces
  split
  · rename_i hnil
    exact hnil.symm
  · exact Text.join_split ':' cs

theorem pieces_join (hne : ∀ piece ∈ ps, piece ≠ []) (hcolon : ∀ piece ∈ ps, ':' ∉ piece) :
    pieces (Text.join ':' ps) = ps := by
  cases ps with
  | nil => rfl
  | cons piece ps =>
    obtain ⟨c, hc⟩ := List.exists_mem_of_ne_nil _ (hne piece List.mem_cons_self)
    have hjoin : Text.join ':' (piece :: ps) ≠ [] :=
      List.ne_nil_of_mem (Text.mem_join_of_mem List.mem_cons_self hc)
    rw [pieces, if_neg hjoin, Text.split_join (List.cons_ne_nil _ _) hcolon]

theorem ofList?_eq_some_iff : ofList? gs = some ip ↔ ip.groups = gs := by
  refine ⟨fun h => ?_, fun h => h ▸ ofList?_groups ip⟩
  unfold ofList? at h
  split at h
  · exact Option.some.inj h ▸ rfl
  · cases h

/-- **An IPv6 address is read from the texts that write it**, and from no others. -/
theorem read?_eq_some_iff : read? cs = some ip ↔ WrittenBy cs ip := by
  constructor
  · intro h
    unfold read? at h
    split at h
    · simp only [Option.bind_eq_bind, Option.bind_eq_some_iff] at h
      obtain ⟨gs, hgs, hip⟩ := h
      obtain rfl := ofList?_eq_some_iff.1 hip
      rw [← Text.join_split ':' cs]
      exact .full (groupsWithTail?_eq_some_iff.1 hgs)
    · rename_i before after hcut
      simp only [Option.bind_eq_bind, Option.bind_eq_some_iff] at h
      obtain ⟨head, hhead, tail, htail, h⟩ := h
      split at h
      · rename_i hle
        rw [Text.splitDouble?_eq_some hcut, ← join_pieces before, ← join_pieces after]
        exact .compressed (groups?_eq_some_iff.1 hhead) (groupsWithTail?_eq_some_iff.1 htail)
          (by omega) (ofList?_eq_some_iff.1 h)
      · cases h
  · intro h
    cases h with
    | @full ps ip h =>
      have hsplit := Text.split_join (h.pieces_ne_nil (by simp [ip.length_eq])) h.colon_not_mem
      have hcut := Text.splitDouble?_join_append h.ne_nil h.colon_not_mem []
      rw [List.append_nil] at hcut
      rw [read?, hcut]
      simp only [hsplit, groupsWithTail?_eq_some_iff.2 h]
      exact ofList?_groups ip
    | @compressed ps qs head tail zeros ip hhead htail hzeros hgroups =>
      have hhead' := WritesTail.of_groups hhead
      have hlength : head.length + zeros + tail.length = 8 := by
        rw [← ip.length_eq, hgroups]
        simp [Nat.add_assoc]
      have hcount : 8 - head.length - tail.length = zeros := by omega
      rw [read?, Text.splitDouble?_join_append hhead'.ne_nil hhead'.colon_not_mem,
        Text.splitDouble?, if_pos ⟨rfl, rfl⟩]
      simp only [Option.map_some, Prod.map, List.append_nil, id_eq, Option.bind_eq_bind,
        pieces_join hhead'.ne_nil hhead'.colon_not_mem, groups?_eq_some_iff.2 hhead,
        pieces_join htail.ne_nil htail.colon_not_mem, groupsWithTail?_eq_some_iff.2 htail,
        Option.bind_some]
      rw [if_pos (by omega), hcount]
      exact ofList?_eq_some_iff.2 hgroups

theorem WrittenBy.colon_mem (h : WrittenBy cs ip) : ':' ∈ cs := by
  cases h with
  | @full ps ip h =>
    obtain ⟨first, rest, rfl⟩ :=
      List.exists_cons_of_ne_nil (h.pieces_ne_nil (by simp [ip.length_eq]))
    have hrest : rest ≠ [] := by
      rintro rfl
      have hlength : 8 ≤ 2 := ip.length_eq ▸ h.length_le
      exact absurd hlength (by decide)
    rw [Text.join_cons hrest]
    simp
  | compressed => simp

theorem WrittenBy.slash_not_mem (h : WrittenBy cs ip) : '/' ∉ cs := by
  have hjoin : ∀ {ps gs}, WritesTail ps gs → '/' ∉ Text.join ':' ps := by
    intro ps gs h hslash
    rcases Text.mem_join hslash with heq | ⟨piece, hpiece, hslash⟩
    · cases heq
    · exact (h.plain piece hpiece).2.2 hslash
  cases h with
  | full h => exact hjoin h
  | compressed hhead htail =>
    simp [hjoin (.of_groups hhead), hjoin htail]

end Ipv6

/-! ### Addresses with a length -/

/-- The text of an address of either family. -/
def Address.WrittenBy (cs : List Char) : Address → Prop
  | .v4 ip => cs = ip.text
  | .v6 ip => Ipv6.WrittenBy cs ip

/-- The text of an address, alone or with a slash and a length behind it that fits its family. -/
inductive Cidr.WrittenBy : List Char → Cidr → Prop
  | alone {cs : List Char} {address : Address} (h : address.WrittenBy cs) :
      WrittenBy cs ⟨address, none⟩
  | withLength {cs sign digits : List Char} {address : Address} {length : UInt8}
      (h : address.WrittenBy cs) (hsign : sign = [] ∨ sign = ['+'])
      (hdigits : Text.WritesNumber 10 digits length.toNat)
      (hle : length.toNat ≤ address.family.bits) :
      WrittenBy (cs ++ '/' :: (sign ++ digits)) ⟨address, some length⟩

namespace Address

variable {address : Address} {s : String}

/-- **An address is read from the texts that write it**, and from no others. -/
theorem read?_eq_some_iff : read? s = some address ↔ address.WrittenBy s.toList := by
  unfold read?
  split
  · rename_i ip hip
    cases address with
    | v4 ip' =>
      rw [Option.some.injEq, v4.injEq, WrittenBy, ← Ipv4.read?_eq_some_iff, hip, Option.some.injEq]
    | v6 ip' =>
      refine iff_of_false (by simp) fun h => ?_
      have hcolon : ':' ∈ ip.text := Ipv4.read?_eq_some_iff.1 hip ▸ Ipv6.WrittenBy.colon_mem h
      exact Ipv4.not_mem_text (by decide) (by decide) ip hcolon
  · rename_i hip
    cases address with
    | v4 ip =>
      refine iff_of_false (by simp) fun h => ?_
      rw [Ipv4.read?_eq_some_iff.2 h] at hip
      cases hip
    | v6 ip => simp [WrittenBy, ← Ipv6.read?_eq_some_iff]

theorem WrittenBy.slash_not_mem {cs : List Char} (h : address.WrittenBy cs) : '/' ∉ cs := by
  cases address with
  | v4 ip => exact h ▸ Ipv4.not_mem_text (by decide) (by decide) ip
  | v6 ip => exact Ipv6.WrittenBy.slash_not_mem h

end Address

namespace Cidr

variable {c : Cidr} {s : String} {family : Family}

/-- **An address with a length or without is read from the texts that write it**, and from no
others. -/
theorem read_eq_ok : read s = .ok c ↔ WrittenBy s.toList c := by
  constructor
  · intro h
    unfold read at h
    split at h
    · rename_i before after hcut
      obtain ⟨-, hs⟩ := Text.splitFirst?_eq_some hcut
      split at h
      · cases h
      · rename_i address haddress
        split at h
        · cases h
        · rename_i n hlength
          obtain ⟨sign, digits, rfl, hsign, hdigits, hmax⟩ :=
            Text.unsigned?_iff_writesNumber.1 hlength
          obtain ⟨rfl, hrange⟩ := ofParts_eq_ok.1 h
          have hn : (UInt8.ofNat n).toNat = n := UInt8.toNat_ofNat_of_lt' (Nat.lt_succ_of_le hmax)
          rw [Address.read?_eq_some_iff, String.toList_ofList] at haddress
          rw [hs]
          exact .withLength haddress hsign (hn.symm ▸ hdigits) (hrange _ rfl)
    · split at h
      · cases h
      · rename_i address haddress
        obtain rfl := Except.ok.inj h
        exact .alone (Address.read?_eq_some_iff.1 haddress)
  · intro h
    generalize hs : s.toList = cs at h
    cases h with
    | alone h =>
      rw [read, hs, Text.splitFirst?_eq_none.2 h.slash_not_mem,
        Address.read?_eq_some_iff.2 (hs ▸ h)]
    | @withLength cs sign digits address length h hsign hdigits hle =>
      have haddress : Address.read? (String.ofList cs) = some address :=
        Address.read?_eq_some_iff.2 (by rwa [String.toList_ofList])
      have hlength : Text.unsigned? 255 (sign ++ digits) = some length.toNat :=
        Text.unsigned?_iff_writesNumber.2
          ⟨sign, digits, rfl, hsign, hdigits, Nat.le_of_lt_succ length.toNat_lt⟩
      rw [read, hs, Text.splitFirst?_append h.slash_not_mem]
      simp only [haddress, hlength, UInt8.ofNat_toNat]
      exact ofParts_eq_ok.2 ⟨rfl, fun n hn => Option.some.inj hn ▸ hle⟩

/-- **An address of one family is read from the texts that write it.** -/
theorem readIn_eq_ok :
    readIn family s = .ok c ↔ WrittenBy s.toList c ∧ c.address.family = family := by
  rw [← read_eq_ok, readIn]
  cases hread : read s with
  | error e => simp
  | ok c' => grind

end Cidr

end SecurityGroups
