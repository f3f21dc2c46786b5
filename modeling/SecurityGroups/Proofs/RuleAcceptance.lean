/-
SecurityGroups/Proofs/RuleAcceptance.lean

Which rules of TCloud are accepted.

The checks of the fields serve several clouds.  Each of them is first said to hold of
just some texts, whatever the cloud: those up to a length (`Check.maxLength_eq_ok`),
those that write ports or an address of a family (`Check.portSpec_eq_ok`,
`Check.cidr_eq_ok`), those that are one of some names up to case
(`Check.oneOfIgnoringCase_eq_ok`).

The check of a protocol takes numbers as well as the names that it is given
(`Check.protocol_eq_ok`).  So a rule of TCloud is accepted in two cases: its fields are
what they have to be (`TCloud.Rule.Fits`), or the protocol alone is not, and is a number
from 0 to 255 instead.  No text is both (`Check.not_isProtocolNumber`).
-/
import SecurityGroups.Proofs.AddressForms
import SecurityGroups.Proofs.PortTexts
import SecurityGroups.Proofs.UpdateChecks

namespace SecurityGroups

/-! ### Letters and integers -/

namespace Text

variable {cs : List Char} {c d : Char} {s t : String}

/-- The same character, or the capital and the small one of a letter from A to Z. -/
def SameLetter (c d : Char) : Prop :=
  c = d ∨ ('A' ≤ c ∧ c ≤ 'Z') ∧ d = c.toLower ∨ ('A' ≤ d ∧ d ≤ 'Z') ∧ c = d.toLower

/-- The same text, up to the case of the letters from A to Z. -/
def SameButCase (s t : String) : Prop := List.Forall₂ SameLetter s.toList t.toList

/-- The text of an integer: the digits of a number, perhaps after a sign. -/
inductive WritesInteger : List Char → Int → Prop
  | unsigned {cs : List Char} {n : Nat} (h : WritesNumber 10 cs n) : WritesInteger cs n
  | plus {cs : List Char} {n : Nat} (h : WritesNumber 10 cs n) : WritesInteger ('+' :: cs) n
  | minus {cs : List Char} {n : Nat} (h : WritesNumber 10 cs n) : WritesInteger ('-' :: cs) (-n)

theorem isAlpha_iff : c.isAlpha = true ↔
    65 ≤ c.toNat ∧ c.toNat ≤ 90 ∨ 97 ≤ c.toNat ∧ c.toNat ≤ 122 := by
  have hletter : c.isAlpha = (decide ('A'.val ≤ c.val ∧ c.val ≤ 'Z'.val) ||
      (decide ('a'.val ≤ c.val) && decide (c.val ≤ 'z'.val))) := rfl
  rw [hletter, Bool.or_eq_true, Bool.and_eq_true]
  simp only [decide_eq_true_eq, UInt32.le_iff_toNat_le]
  rfl

theorem toLower_eq_self (h : ¬('A' ≤ c ∧ c ≤ 'Z')) : c.toLower = c := dif_neg h

theorem toLower_eq_iff_sameLetter : c.toLower = d.toLower ↔ SameLetter c d := by
  constructor
  · intro h
    by_cases hc : 'A' ≤ c ∧ c ≤ 'Z'
    · rcases (toLower_eq_toLower_iff hc).1 h.symm with rfl | rfl
      · exact .inl rfl
      · exact .inr (.inl ⟨hc, rfl⟩)
    · rw [toLower_eq_self hc] at h
      by_cases hd : 'A' ≤ d ∧ d ≤ 'Z'
      · exact .inr (.inr ⟨hd, h⟩)
      · exact .inl (h.trans (toLower_eq_self hd))
  · rintro (rfl | ⟨-, rfl⟩ | ⟨-, rfl⟩)
    · rfl
    · exact (toLower_toLower c).symm
    · exact toLower_toLower d

theorem sameIgnoringCase_iff : sameIgnoringCase s t = true ↔ SameButCase s t := by
  rw [sameIgnoringCase, beq_iff_eq, ← List.forall₂_eq_eq_eq, List.forall₂_map_left_iff,
    List.forall₂_map_right_iff, SameButCase]
  simp only [toLower_eq_iff_sameLetter]

theorem SameButCase.exists_mem (h : SameButCase s t) (hc : c ∈ s.toList) :
    ∃ d ∈ t.toList, SameLetter c d := by
  rw [← sameIgnoringCase_iff, sameIgnoringCase, beq_iff_eq] at h
  have hlower : c.toLower ∈ t.toList.map Char.toLower := h ▸ List.mem_map_of_mem hc
  obtain ⟨d, hd, hsame⟩ := List.mem_map.1 hlower
  exact ⟨d, hd, toLower_eq_iff_sameLetter.1 hsame.symm⟩

/-- What is the same as a letter is a letter. -/
theorem isAlpha_of_sameLetter (h : SameLetter c d) (hc : c.isAlpha = true) : d.isAlpha = true := by
  have hlower := congrArg Char.toNat (toLower_eq_iff_sameLetter.2 h)
  rw [toNat_toLower, toNat_toLower] at hlower
  rw [isAlpha_iff] at hc ⊢
  grind

/-- A number without a minus sign is read as such. -/
theorem int64?_of_unsigned? {n : Nat} (hsign : ∀ digits, cs ≠ '-' :: digits)
    (h : unsigned? (2 ^ 63 - 1) cs = some n) : int64? cs = some (Int64.ofInt n) := by
  unfold int64?
  split
  · exact absurd rfl (hsign _)
  · rw [show Nat.pow 2 63 = 2 ^ 63 from rfl, h]
    rfl

/-- **An integer of 64 bits is read from the texts that write it**, and from no others. -/
theorem int64?_eq_some_iff {n : Int64} : int64? cs = some n ↔ WritesInteger cs n.toInt := by
  constructor
  · intro h
    unfold int64? at h
    split at h <;>
      simp only [Option.map_eq_some_iff, Option.bind_eq_bind, Option.bind_eq_some_iff,
        Option.pure_def, Option.some.injEq] at h <;>
      obtain ⟨_, ⟨m, hm, rfl⟩, rfl⟩ := h
    · obtain ⟨hm, hle⟩ := Option.filter_eq_some_iff.1 hm
      have hle : m ≤ 2 ^ 63 := of_decide_eq_true hle
      rw [Int64.toInt_ofInt_of_le (by omega) (by omega)]
      exact .minus (natural?_iff_writesNumber.1 hm)
    · obtain ⟨sign, digits, rfl, hsign, hdigits, hle⟩ := unsigned?_iff_writesNumber.1 hm
      have hle : m ≤ 2 ^ 63 - 1 := hle
      rw [Int64.toInt_ofInt_of_le (by omega) (by omega)]
      rcases hsign with rfl | rfl
      · exact .unsigned hdigits
      · exact .plus hdigits
  · intro h
    -- the bounds of the type are those of the reader
    have hlow := n.le_toInt
    have hhigh := n.toInt_lt
    generalize hi : n.toInt = i at h hlow hhigh
    obtain rfl : Int64.ofInt i = n := hi ▸ Int64.ofInt_toInt n
    cases h with
    | unsigned h =>
      refine int64?_of_unsigned? ?_ (unsigned?_iff_writesNumber.2
        ⟨[], cs, rfl, .inl rfl, h, by omega⟩)
      rintro digits rfl
      exact absurd (h.isDigit '-' List.mem_cons_self) (by decide)
    | plus h =>
      exact int64?_of_unsigned? (fun _ => by simp) (unsigned?_iff_writesNumber.2
        ⟨['+'], _, rfl, .inr rfl, h, by omega⟩)
    | @minus cs m h =>
      have hle : m ≤ 2 ^ 63 := by omega
      rw [int64?, natural?_iff_writesNumber.2 h, Option.filter_some,
        if_pos (decide_eq_true (show m ≤ Nat.pow 2 63 from hle))]
      rfl

/-- There are no letters in an integer. -/
theorem WritesInteger.not_isAlpha {n : Int} (h : WritesInteger cs n) :
    ∀ c ∈ cs, c.isAlpha = false := by
  have hdigits : ∀ {cs n}, WritesNumber 10 cs n → ∀ c ∈ cs, c.isAlpha = false := by
    intro cs n h c hc
    have hdigit := h.isDigit c hc
    rw [← Bool.not_eq_true, isAlpha_iff]
    rw [isDigit_iff] at hdigit
    omega
  cases h with
  | unsigned h => exact hdigits h
  | plus h => exact List.forall_mem_cons.2 ⟨by decide, hdigits h⟩
  | minus h => exact List.forall_mem_cons.2 ⟨by decide, hdigits h⟩

end Text

/-! ### Checks of one field -/

namespace Check

variable {field value : String} {names : List String} {family : Family} {max : Nat}

/-- The text of a number that a protocol has, from 0 to 255. -/
def IsProtocolNumber (s : String) : Prop :=
  ∃ n : Int, Text.WritesInteger s.toList n ∧ 0 ≤ n ∧ n ≤ 255

theorem maxLength_eq_ok : maxLength field value max = .ok () ↔ value.length ≤ max := by
  rw [maxLength, Verdict.provided_eq_ok, decide_eq_true_eq]

theorem oneOfIgnoringCase_eq_ok : oneOfIgnoringCase field value names = .ok () ↔
    ∃ name ∈ names, Text.SameButCase name value := by
  simp only [oneOfIgnoringCase, Verdict.provided_eq_ok, List.any_eq_true,
    Text.sameIgnoringCase_iff]

theorem readable_eq_ok {α : Type} {result : Except NetworkError α} :
    readable field result = .ok () ↔ ∃ x, result = .ok x := by
  cases result <;> simp [readable]

theorem cidr_eq_ok : readable field (Cidr.readIn family value) = .ok () ↔
    ∃ c, Cidr.WrittenBy value.toList c ∧ c.address.family = family := by
  simp only [readable_eq_ok, Cidr.readIn_eq_ok]

theorem portSpec_eq_ok : portSpec field value true = .ok () ↔ ∃ p, PortSpec.WrittenBy value p := by
  simp only [← PortSpec.read_eq_ok, portSpec]
  cases PortSpec.read value <;> simp [Verdict.provided]

theorem range_eq_ok {n min max : Int64} : range field n min max = .ok () ↔
    min.toInt ≤ n.toInt ∧ n.toInt ≤ max.toInt := by
  rw [range, Verdict.provided_eq_ok, Bool.and_eq_true, decide_eq_true_eq, decide_eq_true_eq,
    Int64.le_iff_toInt_le, Int64.le_iff_toInt_le]

theorem isProtocolNumber_iff : IsProtocolNumber value ↔
    ∃ n : Int64, Text.int64? value.toList = some n ∧ 0 ≤ n.toInt ∧ n.toInt ≤ 255 := by
  simp only [Text.int64?_eq_some_iff]
  constructor
  · rintro ⟨n, hn, hlow, hhigh⟩
    refine ⟨Int64.ofInt n, ?_⟩
    rw [Int64.toInt_ofInt_of_le (by omega) (by omega)]
    exact ⟨hn, hlow, hhigh⟩
  · rintro ⟨n, hn, hrange⟩
    exact ⟨n.toInt, hn, hrange⟩

/-- A text that is the same as a name with a letter in it is no number. -/
theorem int64?_eq_none_of_sameButCase {name : String}
    (hletter : name.toList.any Char.isAlpha = true) (h : Text.SameButCase name value) :
    Text.int64? value.toList = none := by
  obtain ⟨c, hc, hletter⟩ := List.any_eq_true.1 hletter
  obtain ⟨d, hd, hsame⟩ := h.exists_mem hc
  refine Option.eq_none_iff_forall_ne_some.2 fun n hn => ?_
  have hno := (Text.int64?_eq_some_iff.1 hn).not_isAlpha d hd
  rw [Text.isAlpha_of_sameLetter hsame hletter] at hno
  cases hno

/-- **A protocol is checked to be a name or a number**, whatever the names are. -/
theorem protocol_eq_ok (hnames : ∀ name ∈ names, name.toList.any Char.isAlpha = true) :
    protocol field value names = .ok () ↔
      (∃ name ∈ names, Text.SameButCase name value) ∨ IsProtocolNumber value := by
  rw [isProtocolNumber_iff, protocol]
  cases hread : Text.int64? value.toList with
  | none => simp [oneOfIgnoringCase_eq_ok]
  | some n =>
    have hname : ¬ ∃ name ∈ names, Text.SameButCase name value := by
      rintro ⟨name, hname, h⟩
      rw [int64?_eq_none_of_sameButCase (hnames name hname) h] at hread
      cases hread
    simp [hname, range_eq_ok]

/-- No name is a number. -/
theorem not_isProtocolNumber (hnames : ∀ name ∈ names, name.toList.any Char.isAlpha = true)
    (h : ∃ name ∈ names, Text.SameButCase name value) : ¬ IsProtocolNumber value := by
  obtain ⟨name, hname, h⟩ := h
  rw [isProtocolNumber_iff, int64?_eq_none_of_sameButCase (hnames name hname) h]
  simp

end Check

/-! ### Rules of TCloud -/

namespace TCloud

variable {r : Rule}

/-- The name of a protocol of TCloud, in any case. -/
def NamesProtocol (s : String) : Prop :=
  ∃ name ∈ ["tcp", "udp", "icmp", "icmpv6", "gre", "all"], Text.SameButCase name s

/-- What the fields of a rule have to be, but for its protocol. -/
structure Rule.FitsButProtocol (r : Rule) : Prop where
  port : ∀ s ∈ r.port, ∃ p, PortSpec.WrittenBy s p
  ipv4Cidr : ∀ s ∈ r.ipv4Cidr, ∃ c, Cidr.WrittenBy s.toList c ∧ c.address.family = .ipv4
  ipv6Cidr : ∀ s ∈ r.ipv6Cidr, ∃ c, Cidr.WrittenBy s.toList c ∧ c.address.family = .ipv6
  targetGroupId : ∀ s ∈ r.targetGroupId, s.length ≤ 255
  memo : ∀ s ∈ r.memo, s.length ≤ 255
  action : Text.SameButCase "ACCEPT" r.action ∨ Text.SameButCase "DROP" r.action

/-- What the fields of a rule have to be. -/
structure Rule.Fits (r : Rule) : Prop extends r.FitsButProtocol where
  protocol : ∀ s ∈ r.protocol, NamesProtocol s

theorem any_isAlpha_protocols : ∀ name ∈ protocols, name.toList.any Char.isAlpha = true := by
  decide

theorem Rule.check_eq_ok_iff : r.check = .ok () ↔
    r.FitsButProtocol ∧ ∀ s ∈ r.protocol, NamesProtocol s ∨ Check.IsProtocolNumber s := by
  have haction : Check.required "action" r.action = .ok () ∧ checkAction r.action = .ok () ↔
      Text.SameButCase "ACCEPT" r.action ∨ Text.SameButCase "DROP" r.action := by
    -- the empty text is no action, so that it is refused on its own adds nothing
    have h := @Check.required_and_iff "action" r.action checkAction True (by decide)
    simpa [checkAction, Check.oneOfIgnoringCase_eq_ok, actions] using h
  simp only [Rule.check, Verdict.first_cons_eq_ok, Verdict.first_nil, and_true, haction,
    Check.optional_eq_ok, checkProtocol, Check.protocol_eq_ok any_isAlpha_protocols, checkPort,
    Check.portSpec_eq_ok, Check.ipv4Cidr, Check.ipv6Cidr, Check.cidr_eq_ok, checkTarget, checkMemo,
    Check.maxLength_eq_ok]
  constructor
  · rintro ⟨hprotocol, hport, hipv4, hipv6, htarget, hmemo, haction⟩
    exact ⟨⟨hport, hipv4, hipv6, htarget, hmemo, haction⟩, hprotocol⟩
  · rintro ⟨h, hprotocol⟩
    exact ⟨hprotocol, h.port, h.ipv4Cidr, h.ipv6Cidr, h.targetGroupId, h.memo, h.action⟩

theorem Rule.fits_iff :
    r.Fits ↔ r.FitsButProtocol ∧ ∀ s ∈ r.protocol, NamesProtocol s :=
  ⟨fun h => ⟨h.toFitsButProtocol, h.protocol⟩, fun h => ⟨h.1, h.2⟩⟩

end TCloud

/-- **A rule is accepted by the name of its protocol or by the number.**  The check of a rule finds
nothing exactly when the fields are what they have to be, where a number from 0 to 255 does for the
protocol as well.  So a rule whose fields are not what they have to be is accepted in one case: its
protocol is such a number, and nothing else is amiss. -/
theorem rules_are_accepted_by_name_or_number (r : TCloud.Rule) :
    (r.check = .ok () ↔ r.FitsButProtocol ∧
      ∀ s ∈ r.protocol, TCloud.NamesProtocol s ∨ Check.IsProtocolNumber s) ∧
    (r.check = .ok () ∧ ¬ r.Fits ↔
      r.FitsButProtocol ∧ ∃ s ∈ r.protocol, Check.IsProtocolNumber s) := by
  refine ⟨TCloud.Rule.check_eq_ok_iff, ?_⟩
  rw [TCloud.Rule.check_eq_ok_iff, TCloud.Rule.fits_iff, and_assoc]
  refine and_congr_right fun hfits => ?_
  cases r.protocol with
  | none => simp [hfits]
  | some s =>
    have hdisjoint : TCloud.NamesProtocol s → ¬ Check.IsProtocolNumber s :=
      Check.not_isProtocolNumber TCloud.any_isAlpha_protocols
    simp only [Option.mem_def, Option.some.injEq, forall_eq', exists_eq_left', hfits, true_and]
    constructor
    · rintro ⟨hname | hnumber, hnot⟩
      · exact absurd hname hnot
      · exact hnumber
    · exact fun hnumber => ⟨.inr hnumber, fun hname => hdisjoint hname hnumber⟩

/-- The number of a protocol is accepted although it is none of the names. -/
theorem rules_are_accepted_by_name_or_number_six :
    let r : TCloud.Rule := { protocol := some "6", action := "ACCEPT" }
    r.check = .ok () ∧ ¬ r.Fits := by
  intro r
  have haction : Text.SameButCase "ACCEPT" "ACCEPT" :=
    Text.sameIgnoringCase_iff.1 (Text.sameIgnoringCase_refl _)
  have hfits : r.FitsButProtocol := ⟨nofun, nofun, nofun, nofun, nofun, .inl haction⟩
  have hnumber : Check.IsProtocolNumber "6" := ⟨6, .unsigned ⟨0, rfl⟩, by decide, by decide⟩
  exact (rules_are_accepted_by_name_or_number r).2.2 ⟨hfits, "6", rfl, hnumber⟩

end SecurityGroups
