/-
SecurityGroups/Json/Reader.lean

Reading JSON text.

The reader follows RFC 8259 to the letter: four blanks, no control
characters in strings, no lone surrogates, no text after the value.  Two
limits are added: values nest at most `maxDepth` deep, and numbers have to
fit in a double.  A name that an object repeats keeps its last value.

Every function takes the text that is left and answers what it has read
and what is left after it.
-/
import SecurityGroups.Json.Numeral

namespace SecurityGroups.Json

namespace Reader

/-! ### Blanks and digits -/

/-- The blanks that may stand between tokens. -/
def isBlank (c : Char) : Bool := c = ' ' || c = '\t' || c = '\n' || c = '\r'

/-- Drops leading blanks. -/
def skipBlanks (cs : List Char) : List Char := cs.dropWhile isBlank

/-- The value of a decimal digit. -/
def digit (c : Char) : Nat := c.toNat - '0'.toNat

/-- The value of a hexadecimal digit. -/
def hexDigit? (c : Char) : Option Nat :=
  if '0' ≤ c ∧ c ≤ '9' then some (c.toNat - 48)
  else if 'a' ≤ c ∧ c ≤ 'f' then some (c.toNat - 87)
  else if 'A' ≤ c ∧ c ≤ 'F' then some (c.toNat - 55)
  else none

/-- The number that four hexadecimal digits write. -/
def hex4? (a b c d : Char) : Option Nat := do
  return (((← hexDigit? a) * 16 + (← hexDigit? b)) * 16 + (← hexDigit? c)) * 16 + (← hexDigit? d)

/-- A run of decimal digits. -/
def digits (cs : List Char) : List Nat × List Char :=
  ((cs.takeWhile Char.isDigit).map digit, cs.dropWhile Char.isDigit)

/-- A run of at least one decimal digit. -/
def digits1? (cs : List Char) : Option (List Nat × List Char) :=
  match digits cs with
  | ([], _) => none
  | r => some r

/-! ### Numbers -/

/-- The whole part of a number: a zero alone, or digits that start with another. -/
def whole? : List Char → Option (List Nat × List Char)
  | '0' :: cs => some ([0], cs)
  | cs => digits1? cs

/-- The fraction of a number, if a point follows. -/
def fraction? : List Char → Option (List Nat × List Char)
  | '.' :: cs => digits1? cs
  | cs => some ([], cs)

/-- The digits of an exponent, with the sign before them. -/
def signedDigits? : List Char → Option ((Bool × List Nat) × List Char)
  | '-' :: cs => (digits1? cs).map fun (ds, rest) => ((true, ds), rest)
  | '+' :: cs => (digits1? cs).map fun (ds, rest) => ((false, ds), rest)
  | cs => (digits1? cs).map fun (ds, rest) => ((false, ds), rest)

/-- The exponent of a number, if its mark follows. -/
def exponent? (cs : List Char) : Option (Option (Bool × List Nat) × List Char) :=
  match cs with
  | c :: rest =>
    if c = 'e' ∨ c = 'E' then (signedDigits? rest).map fun (e, rest) => (some e, rest)
    else some (none, cs)
  | [] => some (none, [])

/-- A number without its sign. -/
def number? (negative : Bool) (cs : List Char) : Option (Json × List Char) := do
  let (whole, cs) ← whole? cs
  let (fraction, cs) ← fraction? cs
  let (exponent, cs) ← exponent? cs
  let value ← (Numeral.mk negative whole fraction exponent).value
  return (value, cs)

/-! ### Strings -/

/-- The character that a short escape stands for. -/
def shortEscape? : Char → Option Char
  | '"' => some '"'
  | '\\' => some '\\'
  | '/' => some '/'
  | 'b' => some '\x08'
  | 'f' => some '\x0c'
  | 'n' => some '\n'
  | 'r' => some '\r'
  | 't' => some '\t'
  | _ => none

/-- Whether a 16-bit unit is the first half of a surrogate pair. -/
def isLead (u : Nat) : Bool := 0xD800 ≤ u && u ≤ 0xDBFF

/-- Whether a 16-bit unit is the second half of a surrogate pair. -/
def isTrail (u : Nat) : Bool := 0xDC00 ≤ u && u ≤ 0xDFFF

/-- The character of a surrogate pair. -/
def pair (lead trail : Nat) : Char :=
  Char.ofNat (0x10000 + (lead - 0xD800) * 0x400 + (trail - 0xDC00))

/-- The text up to the closing quote; `read` holds what was read before, backwards. -/
def string? (read : List Char) : List Char → Option (String × List Char)
  | '"' :: cs => some (String.ofList read.reverse, cs)
  | '\\' :: 'u' :: a :: b :: c :: d :: cs =>
    match hex4? a b c d with
    | none => none
    | some unit =>
      -- a character beyond the first 65536 takes two escapes; either half alone is refused
      if isLead unit then
        match cs with
        | '\\' :: 'u' :: a :: b :: c :: d :: cs =>
          match hex4? a b c d with
          | some low => if isTrail low then string? (pair unit low :: read) cs else none
          | none => none
        | _ => none
      else if isTrail unit then none
      else string? (Char.ofNat unit :: read) cs
  | '\\' :: c :: cs =>
    match shortEscape? c with
    | some e => string? (e :: read) cs
    | none => none
  -- control characters have to be escaped
  | c :: cs => if c < ' ' then none else string? (c :: read) cs
  | [] => none

/-! ### Values -/

mutual
/-- A value that may hold `depth` more levels of arrays and objects. -/
def value? : Nat → Nat → List Char → Option (Json × List Char)
  | 0, _, _ => none
  | fuel + 1, depth, cs =>
    match skipBlanks cs with
    | 'n' :: 'u' :: 'l' :: 'l' :: rest => some (.null, rest)
    | 't' :: 'r' :: 'u' :: 'e' :: rest => some (.bool true, rest)
    | 'f' :: 'a' :: 'l' :: 's' :: 'e' :: rest => some (.bool false, rest)
    | '"' :: rest => (string? [] rest).map fun (s, rest) => (.str s, rest)
    | '-' :: rest => number? true rest
    | '[' :: rest =>
      match depth with
      | 0 => none
      | depth + 1 =>
        match skipBlanks rest with
        | ']' :: rest => some (.arr [], rest)
        | rest => (items? fuel depth [] rest).map fun (items, rest) => (.arr items, rest)
    | '\x7b' :: rest =>
      match depth with
      | 0 => none
      | depth + 1 =>
        match skipBlanks rest with
        | '\x7d' :: rest => some (.obj [], rest)
        | rest => (members? fuel depth [] rest).map fun (ms, rest) => (.obj ms, rest)
    | rest => number? false rest

/-- The items of an array up to its closing bracket; `read` holds the earlier ones, backwards. -/
def items? : Nat → Nat → List Json → List Char → Option (List Json × List Char)
  | 0, _, _, _ => none
  | fuel + 1, depth, read, cs =>
    match value? fuel depth cs with
    | none => none
    | some (item, rest) =>
      match skipBlanks rest with
      | ',' :: rest => items? fuel depth (item :: read) rest
      | ']' :: rest => some ((item :: read).reverse, rest)
      | _ => none

/-- The members of an object up to its closing brace, added to those already read. -/
def members? : Nat → Nat → Members → List Char → Option (Members × List Char)
  | 0, _, _, _ => none
  | fuel + 1, depth, read, cs =>
    match skipBlanks cs with
    | '"' :: rest =>
      match string? [] rest with
      | none => none
      | some (name, rest) =>
        match skipBlanks rest with
        | ':' :: rest =>
          match value? fuel depth rest with
          | none => none
          | some (v, rest) =>
            match skipBlanks rest with
            | ',' :: rest => members? fuel depth (read.put name v) rest
            | '\x7d' :: rest => some (read.put name v, rest)
            | _ => none
        | _ => none
    | _ => none
end

end Reader

/-- How deep the values of a request may nest. -/
def requestDepth : Nat := 127

/-- The value that a text writes, nested at most `maxDepth` deep; every step of the reader but
one in two consumes a character, so twice the length bounds them. -/
def read? (maxDepth : Nat) (text : String) : Option Json :=
  let cs := text.toList
  match Reader.value? (2 * cs.length + 2) maxDepth cs with
  | some (v, rest) => if (Reader.skipBlanks rest).isEmpty then some v else none
  | none => none

end SecurityGroups.Json
