/-
SecurityGroups/Proofs/AddressTexts.lean

Texts of addresses read back, with their lengths and without.

For IPv4 each of the four numbers reads back (`Ipv4.part?_decimal`), and so does
the whole (`Ipv4.read?_text`).  The text of an IPv6 address has one of three
forms, and each is read by another way through the reader: an address mapped from
IPv4 by its dotted tail, one with a run of zero groups left out by the double colon
in it, and any other group by group.  What is left out is a run of zeros, and the
first longest one (`Ipv6.longestZeros_zero`, `Ipv6.longestZeros_longest`); two groups
or more, so the reader puts them back (`Ipv6.read?_text`).

No address has a slash in its text, so the length that follows one is read for what
it is.  `addresses_read_back` adds what the readers for one family do.
-/
import SecurityGroups.Network.Cidr

namespace SecurityGroups

variable {cs : List Char}

/-! ### IPv4 -/

namespace Ipv4

/-- One of the four numbers reads back. -/
theorem part?_decimal (n : UInt8) : part? (Text.decimal n.toNat) = some n := by
  have hlength : (Text.decimal n.toNat).length ≤ 3 :=
    Text.length_decimal_le (by decide) (Nat.lt_trans n.toNat_lt (by decide))
  have hzero : (Text.decimal n.toNat).head? = some '0' → (Text.decimal n.toNat).length = 1 := by
    intro h
    rw [Text.head?_decimal h]
    rfl
  rw [part?, if_pos ⟨hlength, hzero⟩, Text.unsignedDigits?, Text.natural?_decimal,
    Option.filter_some, if_pos (decide_eq_true (Nat.le_of_lt_succ n.toNat_lt)), Option.map_some,
    UInt8.ofNat_toNat]

theorem isDigit_of_part? {n : UInt8} (h : part? cs = some n) : ∀ c ∈ cs, c.isDigit = true := by
  unfold part? at h
  split at h
  · obtain ⟨m, hm, -⟩ := Option.map_eq_some_iff.1 h
    exact (Text.natural?_eq_some_iff.1 (Option.filter_eq_some_iff.1 hm).1).2.1
  · cases h

/-- Each piece of an IPv4 address is one of its numbers. -/
theorem exists_part?_of_read? {ip : Ipv4} (h : read? cs = some ip) :
    ∀ piece ∈ Text.split '.' cs, ∃ n, part? piece = some n := by
  unfold read? at h
  split at h
  · rename_i a b c d hsplit
    simp only [Option.pure_def, Option.bind_eq_bind, Option.bind_eq_some_iff] at h
    obtain ⟨na, ha, nb, hb, nc, hc, nd, hd, -⟩ := h
    rw [hsplit]
    simp [ha, hb, hc, hd]
  · cases h

/-- **An IPv4 address reads back from its text.** -/
theorem read?_text (ip : Ipv4) : read? ip.text = some ip := by
  have hdot : ∀ n, '.' ∉ Text.decimal n := Text.not_mem_decimal (by decide)
  rw [read?, text, Text.split_join (by simp) (by simp [hdot])]
  simp [part?_decimal]

/-- What reads as an IPv4 address is digits and dots. -/
theorem mem_of_read? {ip : Ipv4} (h : read? cs = some ip) {c : Char} (hc : c ∈ cs) :
    c = '.' ∨ c.isDigit = true := by
  rw [← Text.join_split '.' cs] at hc
  refine (Text.mem_join hc).imp_right ?_
  rintro ⟨piece, hpiece, hc⟩
  obtain ⟨n, hn⟩ := exists_part?_of_read? h piece hpiece
  exact isDigit_of_part? hn c hc

theorem read?_eq_none_of_not_mem (h : '.' ∉ cs) : read? cs = none := by
  rw [read?, Text.split_of_not_mem h]

/-- There are digits and dots in the text of an IPv4 address. -/
theorem not_mem_text {c : Char} (hdot : c ≠ '.') (hdigit : c.isDigit = false) (ip : Ipv4) :
    c ∉ ip.text := by
  have hdecimal : ∀ n, c ∉ Text.decimal n := Text.not_mem_decimal hdigit
  intro hc
  rcases Text.mem_join hc with hc | ⟨piece, hpiece, hc⟩
  · exact hdot hc
  · simp only [List.mem_cons, List.not_mem_nil, or_false] at hpiece
    rcases hpiece with rfl | rfl | rfl | rfl <;> exact hdecimal _ hc

theorem toGroups_ofGroups (high low : UInt16) : (ofGroups high low).toGroups = [high, low] := by
  have hgroup : ∀ g : UInt16, UInt16.ofNat ((UInt8.ofNat (g.toNat / 256)).toNat * 256 +
      (UInt8.ofNat (g.toNat % 256)).toNat) = g := by
    intro g
    have hhigh : g.toNat / 256 < UInt8.size := Nat.div_lt_of_lt_mul g.toNat_lt
    have hlow : g.toNat % 256 < UInt8.size := Nat.mod_lt _ (by decide)
    rw [UInt8.toNat_ofNat_of_lt' hhigh, UInt8.toNat_ofNat_of_lt' hlow, Nat.div_add_mod',
      UInt16.ofNat_toNat]
  rw [toGroups, ofGroups, hgroup, hgroup]

end Ipv4

/-! ### IPv6 -/

namespace Ipv6

variable {groups : List UInt16}

theorem group?_hexadecimal (g : UInt16) : group? (Text.hexadecimal g.toNat) = some g := by
  have hlength : (Text.hexadecimal g.toNat).length ≤ 4 :=
    Text.length_hexadecimal_le (by decide) (Nat.lt_of_lt_of_le g.toNat_lt (by decide))
  rw [group?, if_pos hlength, Text.hexadecimal?_hexadecimal, Option.map_some, UInt16.ofNat_toNat]

/-- There are no marks in hexadecimal digits. -/
theorem plain_of_mem_hexadecimal {n : Nat} {c : Char} (h : c ∈ Text.hexadecimal n) :
    c ≠ ':' ∧ c ≠ '.' ∧ c ≠ '/' := by
  have hdigits : ∀ d < 16, Nat.digitChar d ≠ ':' ∧ Nat.digitChar d ≠ '.' ∧
      Nat.digitChar d ≠ '/' := by decide
  obtain ⟨d, hd, rfl⟩ := Text.exists_of_mem_hexadecimal h
  exact hdigits d hd

/-- The hexadecimal texts of groups. -/
def groupTexts (groups : List UInt16) : List (List Char) :=
  groups.map fun g => Text.hexadecimal g.toNat

/-- The text of a group is not empty and has no marks in it. -/
theorem plain_of_mem_groupTexts {piece : List Char} (h : piece ∈ groupTexts groups) :
    piece ≠ [] ∧ ':' ∉ piece ∧ '.' ∉ piece ∧ '/' ∉ piece := by
  obtain ⟨g, -, rfl⟩ := List.mem_map.1 h
  refine ⟨Text.hexadecimal_ne_nil _, fun hc => ?_, fun hc => ?_, fun hc => ?_⟩
  · exact (plain_of_mem_hexadecimal hc).1 rfl
  · exact (plain_of_mem_hexadecimal hc).2.1 rfl
  · exact (plain_of_mem_hexadecimal hc).2.2 rfl

theorem groups?_groupTexts (groups : List UInt16) : groups? (groupTexts groups) = some groups := by
  induction groups with
  | nil => rfl
  | cons g groups ih =>
    have hcons : groupTexts (g :: groups) = Text.hexadecimal g.toNat :: groupTexts groups := rfl
    rw [hcons, groups?, group?_hexadecimal, ih]
    rfl

/-- Where there are no dots, there is no IPv4 address at the end. -/
theorem groupsWithTail?_eq_groups? {ps : List (List Char)} (h : ∀ piece ∈ ps, '.' ∉ piece) :
    groupsWithTail? ps = groups? ps := by
  induction ps with
  | nil => rfl
  | cons piece rest ih =>
    have hrest := ih fun p hp => h p (List.mem_cons_of_mem _ hp)
    cases rest with
    | nil =>
      rw [groupsWithTail?, Ipv4.read?_eq_none_of_not_mem (h piece List.mem_cons_self), groups?]
      cases group? piece <;> rfl
    | cons next rest =>
      rw [groupsWithTail?, hrest]
      · rfl
      · exact List.cons_ne_nil next rest

theorem groupsWithTail?_groupTexts (groups : List UInt16) :
    groupsWithTail? (groupTexts groups) = some groups := by
  rw [groupsWithTail?_eq_groups? fun _ h => (plain_of_mem_groupTexts h).2.2.1,
    groups?_groupTexts]

theorem pieces_groupsText (groups : List UInt16) :
    pieces (groupsText groups) = groupTexts groups := by
  cases groups with
  | nil => rfl
  | cons g groups =>
    have hne : groupTexts (g :: groups) ≠ [] := List.cons_ne_nil _ _
    obtain ⟨c, hc⟩ := List.exists_mem_of_ne_nil _ (Text.hexadecimal_ne_nil g.toNat)
    have htext : groupsText (g :: groups) ≠ [] :=
      List.ne_nil_of_mem (Text.mem_join_of_mem List.mem_cons_self hc)
    rw [pieces, if_neg htext]
    exact Text.split_join hne fun _ h => (plain_of_mem_groupTexts h).2.1

/-- Groups written out hold no double colon, nor do they end one. -/
theorem splitDouble?_groupsText (groups : List UInt16) (cs : List Char) :
    Text.splitDouble? ':' (groupsText groups ++ cs) =
      (Text.splitDouble? ':' cs).map (Prod.map (groupsText groups ++ ·) id) :=
  Text.splitDouble?_join_append (fun _ h => (plain_of_mem_groupTexts h).1)
    (fun _ h => (plain_of_mem_groupTexts h).2.1) cs

/-! ### Zero groups -/

theorem leadingZeros_le (groups : List UInt16) : leadingZeros groups ≤ groups.length :=
  (List.takeWhile_prefix _).length_le

theorem take_leadingZeros (groups : List UInt16) :
    groups.take (leadingZeros groups) = List.replicate (leadingZeros groups) 0 := by
  have htake : groups.takeWhile (· == 0) = groups.take (leadingZeros groups) :=
    List.prefix_iff_eq_take.1 (List.takeWhile_prefix _)
  rw [← htake, List.eq_replicate_iff]
  refine ⟨rfl, fun g hg => ?_⟩
  exact beq_iff_eq.1 (List.all_eq_true.1 List.all_takeWhile g hg)

theorem longestZeros_cons (g : UInt16) (groups : List UInt16) : longestZeros (g :: groups) =
    if (longestZeros groups).2 ≤ leadingZeros (g :: groups) then (0, leadingZeros (g :: groups))
    else ((longestZeros groups).1 + 1, (longestZeros groups).2) := rfl

/-- **What is left out is zeros.** -/
theorem longestZeros_zero (groups : List UInt16) :
    (longestZeros groups).1 + (longestZeros groups).2 ≤ groups.length ∧
    (groups.drop (longestZeros groups).1).take (longestZeros groups).2 =
      List.replicate (longestZeros groups).2 0 := by
  induction groups with
  | nil => exact ⟨Nat.le_refl _, rfl⟩
  | cons g groups ih =>
    rw [longestZeros_cons]
    split
    · exact ⟨by rw [Nat.zero_add]; exact leadingZeros_le _, take_leadingZeros _⟩
    · refine ⟨?_, ih.2⟩
      have := ih.1
      simp only [List.length_cons]
      omega

/-- A run of zeros at the start is counted. -/
theorem le_leadingZeros {n : Nat} (hn : n ≤ groups.length)
    (h : groups.take n = List.replicate n 0) : n ≤ leadingZeros groups := by
  induction groups generalizing n with
  | nil => exact hn
  | cons g groups ih =>
    cases n with
    | zero => exact Nat.zero_le _
    | succ n =>
      rw [List.take_succ_cons, List.replicate_succ, List.cons.injEq] at h
      obtain ⟨rfl, h⟩ := h
      exact Nat.succ_le_succ (ih (Nat.le_of_succ_le_succ hn) h)

/-- **No run of zeros is longer, and none of its length comes before it.** -/
theorem longestZeros_longest {start n : Nat} (hn : start + n ≤ groups.length)
    (h : (groups.drop start).take n = List.replicate n 0) :
    n ≤ (longestZeros groups).2 ∧
      (n = (longestZeros groups).2 → (longestZeros groups).1 ≤ start) := by
  induction groups generalizing start with
  | nil =>
    have hzero : start + n = 0 := Nat.le_zero.1 hn
    exact ⟨by simp only [longestZeros]; omega, fun _ => Nat.zero_le _⟩
  | cons g groups ih =>
    rw [longestZeros_cons]
    cases start with
    | zero =>
      have hhere : n ≤ leadingZeros (g :: groups) := le_leadingZeros (by simpa using hn) h
      split
      · exact ⟨hhere, fun _ => Nat.le_refl _⟩
      · simp only
        omega
    | succ start =>
      have hlater := ih (by simp only [List.length_cons] at hn; omega) h
      split
      · exact ⟨by simp only; omega, fun _ => Nat.zero_le _⟩
      · exact ⟨hlater.1, fun heq => Nat.succ_le_succ (hlater.2 heq)⟩

/-! ### Texts of IPv6 addresses -/

theorem ofList?_groups (ip : Ipv6) : ofList? ip.groups = some ip := dif_pos ip.length_eq

theorem read?_mapped (high low : UInt16) :
    read? ("::ffff:".toList ++ (Ipv4.ofGroups high low).text) =
      some ⟨[0, 0, 0, 0, 0, 0xFFFF, high, low], rfl⟩ := by
  have hcut : Text.splitDouble? ':' ("::ffff:".toList ++ (Ipv4.ofGroups high low).text) =
      some ([], "ffff:".toList ++ (Ipv4.ofGroups high low).text) := rfl
  have hcolon : ':' ∉ (Ipv4.ofGroups high low).text := Ipv4.not_mem_text (by decide) (by decide) _
  have hpieces : pieces ("ffff:".toList ++ (Ipv4.ofGroups high low).text) =
      ["ffff".toList, (Ipv4.ofGroups high low).text] := by
    rw [pieces, if_neg (by simp)]
    exact @Text.split_join ':' ["ffff".toList, _] (by simp) (by simp [hcolon])
  have hgroup : group? "ffff".toList = some 0xFFFF := by decide
  rw [read?, hcut]
  simp only [hpieces, groupsWithTail?, hgroup, Ipv4.read?_text, Ipv4.toGroups_ofGroups]
  rfl

/-- **Zeros that are left out are put back.** -/
theorem read?_compressed (ip : Ipv6) {start n : Nat} (hpos : 1 ≤ n) (hn : start + n ≤ 8)
    (hzero : (ip.groups.drop start).take n = List.replicate n 0) :
    read? (groupsText (ip.groups.take start) ++
      ':' :: ':' :: groupsText (ip.groups.drop (start + n))) = some ip := by
  have hcut : Text.splitDouble? ':' (groupsText (ip.groups.take start) ++
      ':' :: ':' :: groupsText (ip.groups.drop (start + n))) =
      some (groupsText (ip.groups.take start), groupsText (ip.groups.drop (start + n))) := by
    rw [splitDouble?_groupsText, Text.splitDouble?, if_pos ⟨rfl, rfl⟩]
    simp
  have hlength := ip.length_eq
  have hstart : (ip.groups.take start).length = start := by simp; omega
  have hend : (ip.groups.drop (start + n)).length = 8 - (start + n) := by simp [hlength]
  have hgroups : ip.groups.take start ++ List.replicate n 0 ++ ip.groups.drop (start + n) =
      ip.groups := by
    rw [← hzero, List.append_assoc, ← List.drop_drop, List.take_append_drop,
      List.take_append_drop]
  have hcount : 8 - start - (8 - (start + n)) = n := by omega
  rw [read?, hcut]
  simp only [pieces_groupsText, groups?_groupTexts, groupsWithTail?_groupTexts,
    Option.bind_eq_bind, Option.bind_some]
  rw [hstart, hend, hcount, hgroups, if_pos (by omega), ofList?_groups]

theorem split_groupsText (ip : Ipv6) :
    Text.split ':' (groupsText ip.groups) = groupTexts ip.groups := by
  refine Text.split_join ?_ fun _ h => (plain_of_mem_groupTexts h).2.1
  intro h
  have hnil : ip.groups = [] := List.map_eq_nil_iff.1 h
  have hlength := ip.length_eq
  rw [hnil] at hlength
  cases hlength

theorem read?_groupsText (ip : Ipv6) : read? (groupsText ip.groups) = some ip := by
  have hcut : Text.splitDouble? ':' (groupsText ip.groups) = none := by
    have := splitDouble?_groupsText ip.groups []
    rwa [List.append_nil] at this
  rw [read?, hcut]
  simp only [split_groupsText, groupsWithTail?_groupTexts]
  exact ofList?_groups ip

/-- **An IPv6 address reads back from its text.** -/
theorem read?_text (ip : Ipv6) : read? ip.text = some ip := by
  unfold text
  split
  · rename_i high low hgroups
    obtain ⟨groups, hlength⟩ := ip
    obtain rfl := hgroups
    exact read?_mapped high low
  · obtain ⟨hlength, hzero⟩ := longestZeros_zero ip.groups
    simp only
    split
    · exact read?_compressed ip (by omega) (ip.length_eq ▸ hlength) hzero
    · exact read?_groupsText ip

/-- There is a colon in the text of an IPv6 address. -/
theorem colon_mem_text (ip : Ipv6) : ':' ∈ ip.text := by
  unfold text
  split
  · exact List.mem_append_left _ (by decide)
  · simp only
    split
    · simp
    · -- without a colon the eight groups would be one piece
      refine Decidable.not_not.1 fun hcolon => ?_
      have hone := congrArg List.length (Text.split_of_not_mem hcolon)
      simp [split_groupsText, groupTexts, ip.length_eq] at hone

theorem slash_not_mem_groupsText (groups : List UInt16) : '/' ∉ groupsText groups := by
  intro h
  rcases Text.mem_join h with h | ⟨piece, hpiece, h⟩
  · exact absurd h (by decide)
  · exact (plain_of_mem_groupTexts hpiece).2.2.2 h

theorem slash_not_mem_text (ip : Ipv6) : '/' ∉ ip.text := by
  have hdotted : ∀ ip : Ipv4, '/' ∉ ip.text := Ipv4.not_mem_text (by decide) (by decide)
  unfold text
  split
  · simp [hdotted]
  · simp only
    split
    · simp [slash_not_mem_groupsText]
    · exact slash_not_mem_groupsText _

end Ipv6

/-! ### Addresses -/

namespace Address

/-- **An address reads back from its text**, and of the two families as its own. -/
theorem read?_text (a : Address) : read? a.text = some a := by
  cases a with
  | v4 ip => rw [read?, text, String.toList_ofList, Ipv4.read?_text]
  | v6 ip =>
    have hnone : Ipv4.read? ip.text = none := by
      refine Option.eq_none_iff_forall_ne_some.2 fun v4 h => ?_
      rcases Ipv4.mem_of_read? h ip.colon_mem_text with hc | hc <;> exact absurd hc (by decide)
    rw [read?, text, String.toList_ofList, hnone, Ipv6.read?_text]
    rfl

theorem slash_not_mem_text (a : Address) : '/' ∉ a.text.toList := by
  cases a with
  | v4 ip => simpa [text] using Ipv4.not_mem_text (by decide) (by decide) ip
  | v6 ip => simpa [text] using ip.slash_not_mem_text

end Address

/-! ### Addresses with a length -/

namespace Cidr

variable {c : Cidr} {s : String} {e : NetworkError}

/-- A length is taken exactly when it fits. -/
theorem ofParts_eq_ok {address : Address} {length? : Option UInt8} :
    ofParts address length? = .ok c ↔ c = ⟨address, length?⟩ ∧ c.InRange := by
  unfold ofParts
  cases length? with
  | none =>
    rw [Except.ok.injEq]
    constructor
    · rintro rfl
      exact ⟨rfl, fun n hn => by cases hn⟩
    · rintro ⟨rfl, -⟩
      rfl
  | some n =>
    simp only
    split
    · rename_i hle
      rw [Except.ok.injEq]
      constructor
      · rintro rfl
        exact ⟨rfl, fun m hm => Option.some.inj hm ▸ hle⟩
      · rintro ⟨rfl, -⟩
        rfl
    · rename_i hle
      refine iff_of_false (by simp) ?_
      rintro ⟨rfl, hrange⟩
      exact hle (hrange n rfl)

/-- **What is in range reads back from its text.** -/
theorem read_text (h : c.InRange) : read c.text = .ok c := by
  obtain ⟨address, length?⟩ := c
  cases length? with
  | none =>
    have hcut := Text.splitFirst?_eq_none.2 address.slash_not_mem_text
    simp only [read, text, hcut, Address.read?_text]
  | some n =>
    have hcut : Text.splitFirst? '/' (text ⟨address, some n⟩).toList =
        some (address.text.toList, Text.decimal n.toNat) := by
      have htext : (text ⟨address, some n⟩).toList =
          address.text.toList ++ '/' :: Text.decimal n.toNat := by simp [text]
      rw [htext, Text.splitFirst?_append address.slash_not_mem_text]
    have hlength : Text.unsigned? 255 (Text.decimal n.toNat) = some n.toNat :=
      Text.unsigned?_eq_some_iff.2 ⟨[], _, rfl, .inl rfl, Text.natural?_decimal _,
        Nat.le_of_lt_succ n.toNat_lt⟩
    rw [read, hcut]
    simp only [String.ofList_toList, Address.read?_text, hlength, UInt8.ofNat_toNat]
    exact ofParts_eq_ok.2 ⟨rfl, h⟩

/-- Only what is in range is read. -/
theorem inRange_of_read (h : read s = .ok c) : c.InRange := by
  unfold read at h
  split at h
  · split at h
    · cases h
    · split at h
      · cases h
      · exact (ofParts_eq_ok.1 h).2
  · split at h
    · cases h
    · rename_i address _
      exact (@ofParts_eq_ok c address none).1 h |>.2

theorem readIn_of_read (h : read s = .ok c) (family : Family) : readIn family s =
    if c.address.family = family then .ok c else .error (.wrongFamily family s) := by
  rw [readIn, h]

theorem readIn_of_read_error (h : read s = .error e) (family : Family) :
    readIn family s = .error e := by
  rw [readIn, h]

end Cidr

/-- **Addresses read back.**  An address, with no length or with one that fits its family, reads
back from its text.  What is read from any text has such a length, the reader for its family reads
it as well, and the reader for the other family refuses it for its family; a text that is refused
is refused by both of them, for the same reason. -/
theorem addresses_read_back (c : Cidr) (s : String) :
    (c.InRange → Cidr.read c.text = .ok c) ∧
    (Cidr.read s = .ok c → c.InRange ∧ Cidr.readIn c.address.family s = .ok c ∧
      ∀ family ≠ c.address.family, Cidr.readIn family s = .error (.wrongFamily family s)) ∧
    ∀ e, Cidr.read s = .error e → ∀ family, Cidr.readIn family s = .error e := by
  refine ⟨Cidr.read_text, fun h => ⟨Cidr.inRange_of_read h, ?_, fun family hfamily => ?_⟩,
    fun _ => Cidr.readIn_of_read_error⟩
  · rw [Cidr.readIn_of_read h, if_pos rfl]
  · rw [Cidr.readIn_of_read h, if_neg hfamily.symm]

/-- An address mapped from IPv4 is one of IPv6, and a length of 33 is none of IPv4. -/
theorem addresses_read_back_mapped :
    Cidr.readIn .ipv6 "::ffff:10.0.0.1/96" =
      .ok ⟨.v6 ⟨[0, 0, 0, 0, 0, 0xFFFF, 0x0A00, 1], rfl⟩, some 96⟩ ∧
    Cidr.readIn .ipv4 "::ffff:10.0.0.1/96" = .error (.wrongFamily .ipv4 "::ffff:10.0.0.1/96") ∧
    Cidr.readIn .ipv6 "10.0.0.1/33" = .error (.invalidLength 33) := by
  have hread : Cidr.read "::ffff:10.0.0.1/96" =
      .ok ⟨.v6 ⟨[0, 0, 0, 0, 0, 0xFFFF, 0x0A00, 1], rfl⟩, some 96⟩ :=
    (addresses_read_back ⟨.v6 ⟨[0, 0, 0, 0, 0, 0xFFFF, 0x0A00, 1], rfl⟩, some 96⟩ "").1 (by decide)
  obtain ⟨-, hown, hother⟩ := (addresses_read_back _ _).2.1 hread
  exact ⟨hown, hother .ipv4 (by decide), (addresses_read_back
    ⟨.v4 ⟨10, 0, 0, 1⟩, some 33⟩ "10.0.0.1/33").2.2 (.invalidLength 33) rfl .ipv6⟩

end SecurityGroups
