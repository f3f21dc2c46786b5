/-
SecurityGroups/Text/Numeral.lean

Whole numbers in texts: decimal digits, any number of leading zeros, and a
sign where one is allowed.

`natural?_decimal`, `hexadecimal?_hexadecimal`: a number's text reads back as
the number.
-/
namespace SecurityGroups.Text

/-! ### Digits -/

/-- The value of a hexadecimal digit, of either case. -/
def hexDigit? (c : Char) : Option Nat :=
  if c.isDigit then some (c.toNat - 48)
  else if 'a' ≤ c ∧ c ≤ 'f' then some (c.toNat - 87)
  else if 'A' ≤ c ∧ c ≤ 'F' then some (c.toNat - 55)
  else none

/-- The number that a text of at least one decimal digit writes. -/
def natural? (cs : List Char) : Option Nat :=
  if cs ≠ [] ∧ cs.all Char.isDigit then some (Nat.ofDigitChars 10 cs 0) else none

/-- The number that a text of at least one hexadecimal digit writes. -/
def hexadecimal? (cs : List Char) : Option Nat :=
  if cs = [] then none
  else cs.foldlM (fun n c => (hexDigit? c).map fun d => n * 16 + d) 0

/-- The decimal text of a number. -/
def decimal (n : Nat) : List Char := Nat.toDigits 10 n

/-- The hexadecimal text of a number, in lower case. -/
def hexadecimal (n : Nat) : List Char := Nat.toDigits 16 n

/-! ### Texts of numbers -/

/-- What holds of the numbers of one digit, and of a number when it holds of the number without its
last digit, holds of all numbers. -/
theorem digits_induction {base : Nat} {motive : Nat → Prop} (hbase : 1 < base)
    (one : ∀ d < base, motive d) (more : ∀ n, base ≤ n → motive (n / base) → motive n) (n : Nat) :
    motive n := by
  induction n using Nat.strongRecOn with
  | ind n ih =>
    rcases Nat.lt_or_ge n base with hn | hn
    · exact one n hn
    · exact more n hn (ih _ (Nat.div_lt_self (by omega) hbase))

theorem decimal_ne_nil (n : Nat) : decimal n ≠ [] := Nat.toDigits_ne_nil

theorem isDigit_of_mem_decimal {n : Nat} {c : Char} (h : c ∈ decimal n) : c.isDigit = true :=
  Nat.isDigit_of_mem_toDigits (by decide) (by decide) h

theorem not_mem_decimal {c : Char} (h : c.isDigit = false) (n : Nat) : c ∉ decimal n := by
  intro hc
  rw [isDigit_of_mem_decimal hc] at h
  cases h

theorem length_decimal_le {n width : Nat} (hwidth : 0 < width) (h : n < Nat.pow 10 width) :
    (decimal n).length ≤ width :=
  (Nat.length_toDigits_le_iff (by decide) hwidth).2 h

/-- Only the text of zero starts with a zero. -/
theorem head?_decimal {n : Nat} (h : (decimal n).head? = some '0') : n = 0 := by
  induction n using digits_induction (by decide : 1 < 10) with
  | one d hd =>
    have hzero : ∀ d < 10, Nat.digitChar d = '0' → d = 0 := by decide
    rw [decimal, Nat.toDigits_of_lt_base hd] at h
    exact hzero d hd (Option.some.inj h)
  | more n hn ih =>
    -- the first digit is that of the number without its last digit, which is not zero
    have hfirst : (decimal n).head? = (decimal (n / 10)).head? := by
      rw [decimal, Nat.toDigits_of_base_le (by decide) hn, ← decimal, List.head?_append]
      exact Option.or_of_isSome (List.isSome_head?.2 (decimal_ne_nil _))
    have := ih (hfirst ▸ h)
    omega

/-- A number is one digit or more, and has their value. -/
theorem natural?_eq_some_iff {cs : List Char} {n : Nat} : natural? cs = some n ↔
    cs ≠ [] ∧ (∀ c ∈ cs, c.isDigit = true) ∧ Nat.ofDigitChars 10 cs 0 = n := by
  rw [natural?, Option.ite_none_right_eq_some, List.all_eq_true, Option.some.injEq, and_assoc]

/-- A number's decimal text reads back as the number. -/
theorem natural?_decimal (n : Nat) : natural? (decimal n) = some n := by
  have hd : (decimal n).all Char.isDigit = true :=
    List.all_eq_true.2 fun _ h => isDigit_of_mem_decimal h
  have hv : Nat.ofDigitChars 10 (decimal n) 0 = n := Nat.ofDigitChars_ten_toDigits
  simp [natural?, decimal_ne_nil, hd, hv]

theorem hexDigit?_digitChar {d : Nat} (h : d < 16) : hexDigit? (Nat.digitChar d) = some d := by
  revert d
  decide

theorem hexadecimal_ne_nil (n : Nat) : hexadecimal n ≠ [] := Nat.toDigits_ne_nil

theorem exists_of_mem_hexadecimal {n : Nat} {c : Char} (h : c ∈ hexadecimal n) :
    ∃ d < 16, c = Nat.digitChar d := by
  induction n using digits_induction (by decide : 1 < 16) with
  | one d hd =>
    rw [hexadecimal, Nat.toDigits_of_lt_base hd] at h
    exact ⟨d, hd, List.mem_singleton.1 h⟩
  | more n hn ih =>
    rw [hexadecimal, Nat.toDigits_of_base_le (by decide) hn] at h
    rcases List.mem_append.1 h with h | h
    · exact ih h
    · exact ⟨n % 16, Nat.mod_lt n (by decide), List.mem_singleton.1 h⟩

theorem length_hexadecimal_le {n width : Nat} (hwidth : 0 < width) (h : n < Nat.pow 16 width) :
    (hexadecimal n).length ≤ width :=
  (Nat.length_toDigits_le_iff (by decide) hwidth).2 h

/-- A number's hexadecimal text reads back as the number. -/
theorem hexadecimal?_hexadecimal (n : Nat) : hexadecimal? (hexadecimal n) = some n := by
  rw [hexadecimal?, if_neg (hexadecimal_ne_nil n)]
  induction n using digits_induction (by decide : 1 < 16) with
  | one d hd =>
    rw [hexadecimal, Nat.toDigits_of_lt_base hd]
    simp [hexDigit?_digitChar hd]
  | more n hn ih =>
    have hlast := hexDigit?_digitChar (Nat.mod_lt n (by decide : 0 < 16))
    rw [hexadecimal, Nat.toDigits_of_base_le (by decide) hn, ← hexadecimal, List.foldlM_append, ih]
    simp only [Option.bind_eq_bind, Option.bind_some, List.foldlM_cons, List.foldlM_nil, hlast,
      Option.map_some, Option.pure_def, Nat.div_add_mod']

/-! ### Signs -/

/-- A text without a plus sign at its start. -/
def dropPlus : List Char → List Char
  | '+' :: cs => cs
  | cs => cs

/-- A number of at most `max`, without a sign. -/
def unsignedDigits? (max : Nat) (cs : List Char) : Option Nat := (natural? cs).filter (· ≤ max)

/-- A number of at most `max`; a plus sign may stand before it. -/
def unsigned? (max : Nat) (cs : List Char) : Option Nat :=
  unsignedDigits? max (dropPlus cs)

/-- Digits have no sign before them. -/
theorem dropPlus_eq_self {digits : List Char} (h : ∀ c ∈ digits, c.isDigit = true) :
    dropPlus digits = digits := by
  unfold dropPlus
  split
  · exact absurd (h '+' List.mem_cons_self) (by decide)
  · rfl

/-- A number is digits of at most that value, after a plus sign or without one. -/
theorem unsigned?_eq_some_iff {max n : Nat} {cs : List Char} : unsigned? max cs = some n ↔
    ∃ sign digits, cs = sign ++ digits ∧ (sign = [] ∨ sign = ['+']) ∧ natural? digits = some n ∧
      n ≤ max := by
  rw [unsigned?, unsignedDigits?, Option.filter_eq_some_iff, decide_eq_true_eq]
  constructor
  · rintro ⟨h, hmax⟩
    unfold dropPlus at h
    split at h
    · exact ⟨['+'], _, rfl, .inr rfl, h, hmax⟩
    · exact ⟨[], cs, rfl, .inl rfl, h, hmax⟩
  · rintro ⟨sign, digits, rfl, rfl | rfl, h, hmax⟩
    · rw [List.nil_append, dropPlus_eq_self (natural?_eq_some_iff.1 h).2.1]
      exact ⟨h, hmax⟩
    · exact ⟨h, hmax⟩

/-- A 64-bit integer; a sign may stand before it. -/
def int64? (cs : List Char) : Option Int64 :=
  match cs with
  | '-' :: cs => ((natural? cs).filter (· ≤ Nat.pow 2 63)).map fun n => Int64.ofInt (-n)
  | cs => (unsigned? (Nat.pow 2 63 - 1) cs).map fun n => Int64.ofInt n

/-- The decimal text of an integer. -/
def decimalInt (n : Int) : String :=
  String.ofList (if n < 0 then '-' :: decimal n.natAbs else decimal n.natAbs)

end SecurityGroups.Text
