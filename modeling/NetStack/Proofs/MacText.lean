import NetStack.Config.Settings
import NetStack.Proofs.Numerals

/-!
# Hardware addresses in text

A configured hardware address is read part by part. The parts are those between the colons
(`fields_eq_splitOn`), and a part is read as the byte that it writes (`hexByte?_eq_some_iff`): it is
an optional plus sign and a hexadecimal number up to 255 (`Writes`). So a text is read as an address
exactly if its parts write the bytes of the address (`Mac.ofText?_eq_some_iff`).

Of its texts an address is shown as one (`Mac.ofText?_text`), and this is the only one whose parts
are pairs of lower-case digits (`Mac.eq_text_of_canonical`).
-/

namespace NetStack

namespace Text

/-! ## Parts -/

/-- The parts of a text are those between the separators. -/
theorem fields_eq_splitOn (separator : Char) (text : List Char) :
    fields separator text = text.splitOn separator := by
  induction text with
  | nil => rfl
  | cons c rest ih =>
    rw [List.splitOn_eq_splitOnP] at ih ⊢
    rw [List.splitOnP_cons_eq_if_modifyHead, fields, ih]
    by_cases hc : c = separator
    · simp only [hc, if_true, beq_self_eq_true]
    · rw [if_neg hc, if_neg (by rwa [beq_iff_eq])]
      cases hparts : rest.splitOnP (· == separator) with
      | nil => exact absurd hparts (List.splitOnP_ne_nil _ _)
      | cons first others => rfl

/-- A list is read if all of its parts are. -/
theorem mapM_eq_some_iff {α β : Type} {read? : α → Option β} {parts : List α} {values : List β} :
    parts.mapM read? = some values ↔
      List.Forall₂ (fun part value => read? part = some value) parts values := by
  induction parts generalizing values with
  | nil =>
    rw [List.mapM_nil, List.forall₂_nil_left_iff]
    exact Option.some_inj.trans eq_comm
  | cons part parts ih =>
    simp only [List.mapM_cons, Option.bind_eq_bind, Option.bind_eq_some_iff, Option.pure_def,
      Option.some_inj, List.forall₂_cons_left_iff, ih]
    constructor
    · rintro ⟨first, hfirst, rest, hrest, rfl⟩
      exact ⟨first, rest, hfirst, hrest, rfl⟩
    · rintro ⟨first, rest, hfirst, hrest, rfl⟩
      exact ⟨first, hfirst, rest, hrest, rfl⟩

/-- Every part stands for some value exactly if the parts together stand for some list. -/
theorem exists_forall₂_iff {α β : Type} {Reads : α → β → Prop} {parts : List α} :
    (∃ values, List.Forall₂ Reads parts values) ↔ ∀ part ∈ parts, ∃ value, Reads part value := by
  induction parts with
  | nil => simp only [List.forall₂_nil_left_iff, exists_eq, List.not_mem_nil, false_implies,
      implies_true]
  | cons part parts ih =>
    rw [List.forall_mem_cons, ← ih]
    constructor
    · rintro ⟨_, h⟩
      cases h with
      | cons hfirst hrest => exact ⟨⟨_, hfirst⟩, ⟨_, hrest⟩⟩
    · rintro ⟨⟨value, hfirst⟩, ⟨values, hrest⟩⟩
      exact ⟨value :: values, .cons hfirst hrest⟩

/-! ## Numbers -/

/-- A part of an address writes a number: one or more digits, with an optional plus sign in front.
-/
inductive Writes : List Char → Nat → Prop where
  /-- There are digits only. -/
  | plain {digits : List Char} {n : Nat} (hne : digits ≠ []) (h : IsNumeral digits n) :
    Writes digits n
  /-- A plus sign stands in front of the digits. -/
  | signed {digits : List Char} {n : Nat} (hne : digits ≠ []) (h : IsNumeral digits n) :
    Writes ('+' :: digits) n

/-- A plus sign is no digit. -/
theorem not_isNumeral_plus {rest : List Char} {n : Nat} : ¬IsNumeral ('+' :: rest) n := by
  intro h
  obtain ⟨d, _, hd, -, -⟩ := isNumeral_cons_iff.1 h
  have hplus : hexDigit? '+' = none := by decide
  rw [hexDigit?_eq_some_iff.2 hd] at hplus
  exact nomatch hplus

/-- Behind a plus sign stand the digits. -/
theorem writes_plus_iff {rest : List Char} {n : Nat} :
    Writes ('+' :: rest) n ↔ rest ≠ [] ∧ IsNumeral rest n := by
  constructor
  · rintro (⟨-, h⟩ | ⟨hne, h⟩)
    · exact absurd h not_isNumeral_plus
    · exact ⟨hne, h⟩
  · rintro ⟨hne, h⟩
    exact .signed hne h

/-- Without a plus sign there are digits only. -/
theorem writes_iff_of_not_plus {part : List Char} {n : Nat} (h : ∀ rest, part ≠ '+' :: rest) :
    Writes part n ↔ part ≠ [] ∧ IsNumeral part n := by
  constructor
  · rintro (⟨hne, hn⟩ | ⟨-, -⟩)
    · exact ⟨hne, hn⟩
    · exact absurd rfl (h _)
  · rintro ⟨hne, hn⟩
    exact .plain hne hn

/-- A byte is read of the numbers up to 255. -/
theorem byte?_eq_some_iff {n : Nat} {byte : UInt8} : byte? n = some byte ↔ n = byte.toNat := by
  have hlt := byte.toNat_lt
  unfold byte?
  split_ifs with h
  · rw [Option.some_inj, ← UInt8.toNat_inj, UInt8.toNat_ofNat_of_lt' h]
  · exact iff_of_false (fun h => nomatch h) (by omega)

/-- Digits without a sign are read as the byte that they write. -/
theorem digits?_bind_byte?_eq_some_iff {digits : List Char} {byte : UInt8} :
    (digits? 16 hexDigit? 0 digits).bind byte? = some byte ↔ IsNumeral digits byte.toNat := by
  simp only [Option.bind_eq_some_iff, digits?_eq_some_iff, byte?_eq_some_iff, Nat.mul_zero,
    Nat.zero_add, exists_eq_right', exists_eq_right]

/-- A part is read as the byte that it writes. -/
theorem hexByte?_eq_some_iff {part : List Char} {byte : UInt8} :
    hexByte? part = some byte ↔ Writes part byte.toNat := by
  have hdigits (digits : List Char) :
      (if digits = [] then none else (digits? 16 hexDigit? 0 digits).bind byte?) = some byte ↔
        digits ≠ [] ∧ IsNumeral digits byte.toNat := by
    rw [Option.ite_none_left_eq_some, digits?_bind_byte?_eq_some_iff]
  unfold hexByte?
  rw [hdigits]
  split
  · rw [writes_plus_iff]
  · next hplus => rw [writes_iff_of_not_plus hplus]

/-- The numbers up to 255 are those of a byte. -/
theorem exists_writes_byte_iff {part : List Char} :
    (∃ byte : UInt8, Writes part byte.toNat) ↔ ∃ n ≤ 255, Writes part n := by
  constructor
  · rintro ⟨byte, h⟩
    exact ⟨byte.toNat, Nat.le_of_lt_succ byte.toNat_lt, h⟩
  · rintro ⟨n, hle, h⟩
    have hvalue : (UInt8.ofNat n).toNat = n := UInt8.toNat_ofNat_of_lt' (Nat.lt_succ_of_le hle)
    exact ⟨UInt8.ofNat n, by rwa [hvalue]⟩

/-- Two lower-case digits. -/
def IsPair (part : List Char) : Prop :=
  ∃ high low : Nat, high < 16 ∧ low < 16 ∧ part = [high.digitChar, low.digitChar]

end Text

/-! ## Addresses -/

namespace Bytes

/-- The digit in which a value is shown. -/
theorem hexDigit_of_lt {value : Nat} (h : value < 16) : hexDigit value = value.digitChar := by
  unfold hexDigit
  rw [Nat.toDigits_of_lt_base h]
  rfl

/-- Two digits show the byte that has them. -/
theorem hexByte_ofNat {high low : Nat} (hhigh : high < 16) (hlow : low < 16) :
    hexByte (UInt8.ofNat (16 * high + low)) = [high.digitChar, low.digitChar] := by
  have hvalue : (UInt8.ofNat (16 * high + low)).toNat = 16 * high + low :=
    UInt8.toNat_ofNat_of_lt' (show 16 * high + low < 256 by omega)
  have hfirst : (16 * high + low) / 16 = high := by omega
  have hsecond : (16 * high + low) % 16 = low := by omega
  unfold hexByte
  rw [hvalue, hfirst, hsecond, hexDigit_of_lt hhigh, hexDigit_of_lt hlow]

/-- A byte is shown by two lower-case digits. -/
theorem exists_hexByte_eq (byte : UInt8) : ∃ high low : Nat, high < 16 ∧ low < 16 ∧
    byte.toNat = 16 * high + low ∧ hexByte byte = [high.digitChar, low.digitChar] := by
  have hlt := byte.toNat_lt
  refine ⟨byte.toNat / 16, byte.toNat % 16, by omega, by omega, by omega, ?_⟩
  unfold hexByte
  rw [hexDigit_of_lt (by omega), hexDigit_of_lt (by omega)]

/-- What a byte is shown as writes it. -/
theorem writes_hexByte (byte : UInt8) : Text.Writes (hexByte byte) byte.toNat := by
  obtain ⟨high, low, hhigh, hlow, hvalue, hshown⟩ := exists_hexByte_eq byte
  rw [hshown, hvalue]
  refine .plain (List.cons_ne_nil _ _) ⟨[high, low], ?_, ?_⟩
  · exact .cons ⟨hhigh, .inl rfl⟩ (.cons ⟨hlow, .inl rfl⟩ .nil)
  · rw [List.reverse_cons, List.reverse_singleton, List.singleton_append, Nat.ofDigits_cons,
      Nat.ofDigits_singleton]
    omega

/-- A pair of lower-case digits is what the byte that it writes is shown as. -/
theorem eq_hexByte_of_writes {part : List Char} {byte : UInt8} (hpair : Text.IsPair part)
    (h : Text.Writes part byte.toNat) : part = hexByte byte := by
  obtain ⟨high, low, hhigh, hlow, rfl⟩ := hpair
  rw [← hexByte_ofNat hhigh hlow] at h ⊢
  -- the byte that is shown is written too, and one byte only is read
  have hread := Text.hexByte?_eq_some_iff.2 h
  rw [Text.hexByte?_eq_some_iff.2 (writes_hexByte _), Option.some_inj] at hread
  rw [hread]

/-- A byte is shown without a colon. -/
theorem colon_notMem_hexByte (byte : UInt8) : ':' ∉ hexByte byte := by
  have hdigit : ∀ value : Fin 16, ':' ≠ Nat.digitChar value := by decide
  obtain ⟨high, low, hhigh, hlow, -, hshown⟩ := exists_hexByte_eq byte
  rw [hshown]
  simp only [List.mem_cons, List.not_mem_nil, or_false, not_or]
  exact ⟨hdigit ⟨high, hhigh⟩, hdigit ⟨low, hlow⟩⟩

end Bytes

namespace Mac

/-- A text is read if its parts are read as the bytes of an address. -/
theorem ofText?_eq_some_iff_mapM {text : String} {mac : Mac} :
    ofText? text = some mac ↔
      (Text.fields ':' text.toList).mapM Text.hexByte? = some mac.toBytes := by
  obtain ⟨b0, b1, b2, b3, b4, b5⟩ := mac
  unfold ofText?
  split
  · next hparts =>
    rw [hparts]
    simp [toBytes]
  · next hnot => exact iff_of_false (fun h => nomatch h) (hnot _ _ _ _ _ _)

/-- A text is read as the address whose bytes the parts between the colons write. -/
theorem ofText?_eq_some_iff {text : String} {mac : Mac} :
    ofText? text = some mac ↔
      List.Forall₂ (fun part (byte : UInt8) => Text.Writes part byte.toNat)
        (text.toList.splitOn ':') mac.toBytes := by
  rw [ofText?_eq_some_iff_mapM, Text.mapM_eq_some_iff, Text.fields_eq_splitOn]
  simp only [Text.hexByte?_eq_some_iff]

/-- A text is read as some address if its parts write six numbers up to 255. -/
theorem exists_ofText?_eq_some_iff {text : String} :
    (∃ mac, ofText? text = some mac) ↔
      (text.toList.splitOn ':').length = 6 ∧
        ∀ part ∈ text.toList.splitOn ':', ∃ n ≤ 255, Text.Writes part n := by
  simp only [ofText?_eq_some_iff, ← Text.exists_writes_byte_iff]
  rw [← Text.exists_forall₂_iff]
  constructor
  · rintro ⟨mac, h⟩
    exact ⟨h.length_eq, _, h⟩
  · rintro ⟨hlength, bytes, h⟩
    -- six bytes are those of an address
    match bytes, h.length_eq.symm.trans hlength, h with
    | [b0, b1, b2, b3, b4, b5], _, h => exact ⟨⟨b0, b1, b2, b3, b4, b5⟩, h⟩

/-- The parts of the text that an address is shown as show its bytes. -/
theorem splitOn_text (mac : Mac) :
    mac.text.toList.splitOn ':' = mac.toBytes.map Bytes.hexByte := by
  unfold text
  rw [String.toList_ofList]
  refine List.splitOn_intercalate ':' ?_ (List.cons_ne_nil _ _)
  exact List.forall_mem_map.2 fun byte _ => Bytes.colon_notMem_hexByte byte

/-- An address is read from the text that it is shown as. -/
theorem ofText?_text (mac : Mac) : ofText? mac.text = some mac := by
  rw [ofText?_eq_some_iff, splitOn_text, List.forall₂_map_left_iff]
  exact List.forall₂_same.2 fun byte _ => Bytes.writes_hexByte byte

/-- A text whose parts are pairs of lower-case digits. -/
def Canonical (text : String) : Prop :=
  ∀ part ∈ text.toList.splitOn ':', Text.IsPair part

/-- An address is shown as a canonical text. -/
theorem canonical_text (mac : Mac) : Canonical mac.text := by
  unfold Canonical
  rw [splitOn_text, List.forall_mem_map]
  intro byte _
  obtain ⟨high, low, hhigh, hlow, -, hshown⟩ := Bytes.exists_hexByte_eq byte
  exact ⟨high, low, hhigh, hlow, hshown⟩

/-- An address has no other canonical text. -/
theorem eq_text_of_canonical {text : String} {mac : Mac} (h : ofText? text = some mac)
    (hcanonical : Canonical text) : text = mac.text := by
  have hparts : text.toList.splitOn ':' = mac.toBytes.map Bytes.hexByte := by
    rw [← List.forall₂_eq_eq_eq, List.forall₂_map_right_iff]
    refine List.Forall₂.imp ?_ ((List.forall₂_and_left _ _).2 ⟨hcanonical, ofText?_eq_some_iff.1 h⟩)
    rintro part byte ⟨hpair, hwrites⟩
    exact Bytes.eq_hexByte_of_writes hpair hwrites
  have hchars : text.toList = mac.text.toList := by
    calc text.toList
        = [':'].intercalate (text.toList.splitOn ':') := (List.intercalate_splitOn ':').symm
      _ = [':'].intercalate (mac.text.toList.splitOn ':') := by rw [hparts, splitOn_text]
      _ = mac.text.toList := List.intercalate_splitOn ':'
  exact String.toList_inj.1 hchars

end Mac

namespace Config

/-- A hardware address under a key is that of its text. -/
theorem checkMac_eq_ok_iff {key text : String} {mac : Mac} :
    checkMac key text = .ok mac ↔ Mac.ofText? text = some mac := by
  unfold checkMac
  split
  · next hread => rw [hread, Except.ok.injEq, Option.some_inj]
  · next hread =>
    rw [hread]
    exact iff_of_false (fun h => nomatch h) (fun h => nomatch h)

/-- Which texts are accepted as hardware addresses under a key, and as which ones. -/
structure ReadsMac (key : String) : Prop where
  /-- Those are accepted that have six parts between their colons, each writing a number up to 255.
  -/
  accepts : ∀ text, (∃ mac, checkMac key text = .ok mac) ↔
    (text.toList.splitOn ':').length = 6 ∧
      ∀ part ∈ text.toList.splitOn ':', ∃ n ≤ 255, Text.Writes part n
  /-- The bytes of the address are the numbers that the parts write, in their order. -/
  bytes : ∀ text mac, checkMac key text = .ok mac ↔
    List.Forall₂ (fun part (byte : UInt8) => Text.Writes part byte.toNat)
      (text.toList.splitOn ':') mac.toBytes
  /-- An address is read from the text that it is shown as. -/
  shown : ∀ mac : Mac, checkMac key mac.text = .ok mac
  /-- Every accepted text has a canonical form, which is read as the same address: the text that the
  address is shown as, and no other. -/
  canonical : ∀ text mac, checkMac key text = .ok mac →
    checkMac key mac.text = .ok mac ∧ (Mac.Canonical text ↔ text = mac.text)

/-- Hardware addresses are read from their texts, and from the one that they are shown as. -/
theorem readsMac (key : String) : ReadsMac key := by
  constructor
  · intro text
    simp only [checkMac_eq_ok_iff]
    exact Mac.exists_ofText?_eq_some_iff
  · intro text mac
    exact checkMac_eq_ok_iff.trans Mac.ofText?_eq_some_iff
  · intro mac
    exact checkMac_eq_ok_iff.2 mac.ofText?_text
  · intro text mac h
    refine ⟨checkMac_eq_ok_iff.2 mac.ofText?_text, ?_⟩
    constructor
    · exact Mac.eq_text_of_canonical (checkMac_eq_ok_iff.1 h)
    · rintro rfl
      exact mac.canonical_text

-- signs, leading zeros and upper-case digits are read, but not shown
example : Mac.ofText? "+0052:54:0:12:aB:+FF" = some ⟨0x52, 0x54, 0x00, 0x12, 0xab, 0xff⟩ ∧
    (⟨0x52, 0x54, 0x00, 0x12, 0xab, 0xff⟩ : Mac).text = "52:54:00:12:ab:ff" := by
  decide

end Config

end NetStack
