import NetStack.Address

/-!
# Addresses in text

How a configuration writes addresses. An IPv4 address is four decimal numbers up to 255 with dots
between them, written without leading zeros. A hardware address is six hexadecimal numbers up to 255
with colons between them, in either case, each with an optional plus sign and any number of leading
zeros.
-/

namespace NetStack

namespace Text

/-- The parts of a text between the occurrences of a separator; one part if there is none. -/
def fields (separator : Char) : List Char → List (List Char)
  | [] => [[]]
  | c :: rest =>
    if c = separator then [] :: fields separator rest
    else match fields separator rest with
      | [] => [[c]]
      | first :: others => (c :: first) :: others

/-- The value of a decimal digit. -/
def decimalDigit? (c : Char) : Option Nat :=
  if '0' ≤ c ∧ c ≤ '9' then some (c.toNat - '0'.toNat) else none

/-- The value of a hexadecimal digit of either case. -/
def hexDigit? (c : Char) : Option Nat :=
  if '0' ≤ c ∧ c ≤ '9' then some (c.toNat - '0'.toNat)
  else if 'a' ≤ c ∧ c ≤ 'f' then some (c.toNat - 'a'.toNat + 10)
  else if 'A' ≤ c ∧ c ≤ 'F' then some (c.toNat - 'A'.toNat + 10)
  else none

/-- The number that digits of the given base write, continuing from `value`. -/
def digits? (base : Nat) (digit? : Char → Option Nat) (value : Nat) : List Char → Option Nat
  | [] => some value
  | c :: rest =>
    match digit? c with
    | some d => digits? base digit? (base * value + d) rest
    | none => none

/-- The byte of a value up to 255. -/
def byte? (value : Nat) : Option UInt8 :=
  if value < 256 then some (UInt8.ofNat value) else none

/-- A decimal byte of one to three digits, without leading zeros. -/
def decimalByte? (part : List Char) : Option UInt8 :=
  match part with
  | [] => none
  | c :: rest =>
    -- more than three digits are refused whatever they write
    if part.length > 3 ∨ (c = '0' ∧ rest ≠ []) then none
    else (digits? 10 decimalDigit? 0 part).bind byte?

/-- A hexadecimal byte: an optional plus sign and one or more digits. -/
def hexByte? (part : List Char) : Option UInt8 :=
  let digits := match part with
    | '+' :: rest => rest
    | _ => part
  if digits = [] then none else (digits? 16 hexDigit? 0 digits).bind byte?

end Text

/-- The IPv4 address that a text writes. -/
def Ipv4.ofText? (text : String) : Option Ipv4 :=
  match (Text.fields '.' text.toList).mapM Text.decimalByte? with
  | some [a, b, c, d] => some ⟨a, b, c, d⟩
  | _ => none

/-- The hardware address that a text writes. -/
def Mac.ofText? (text : String) : Option Mac :=
  match (Text.fields ':' text.toList).mapM Text.hexByte? with
  | some [b0, b1, b2, b3, b4, b5] => some ⟨b0, b1, b2, b3, b4, b5⟩
  | _ => none

end NetStack
