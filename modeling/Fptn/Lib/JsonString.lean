import Mathlib.Tactic.Common

/-!
# Strings in JSON texts

The scanner for the strings of a JSON text, which are bytes in UTF-8.  What
has been read of a string takes at least as many bytes in the text, with or
without the spaces, and more unless the text has the string as it is.
-/

namespace Fptn.Json

/-! ## Characters of a string -/

/-- The character at the front, if it is well-formed. -/
def decodeChar (text : List UInt8) : Option Char :=
  text.toByteArray.utf8DecodeChar? 0

inductive Scanned where
  | closing (rest : List UInt8)
  | char (bytes rest : List UInt8)

def hexDigit (byte : UInt8) : Option Nat :=
  if 0x30 ≤ byte ∧ byte ≤ 0x39 then
    some (byte.toNat - 0x30)
  else if 0x41 ≤ byte ∧ byte ≤ 0x46 then
    some (byte.toNat - 0x41 + 10)
  else if 0x61 ≤ byte ∧ byte ≤ 0x66 then
    some (byte.toNat - 0x61 + 10)
  else
    none

/-- Four hexadecimal digits. -/
def scanHex : List UInt8 → Option (Nat × List UInt8)
  | first :: second :: third :: fourth :: rest =>
      match hexDigit first, hexDigit second, hexDigit third,
          hexDigit fourth with
      | some a, some b, some c, some d =>
          some (((a * 16 + b) * 16 + c) * 16 + d, rest)
      | _, _, _, _ => none
  | _ => none

/-- A code point behind `\u`; surrogates come in pairs. -/
def scanCodePoint (text : List UInt8) : Option (Nat × List UInt8) :=
  match scanHex text with
  | none => none
  | some (high, rest) =>
      if 0xD800 ≤ high ∧ high ≤ 0xDBFF then
        match rest with
        | 0x5C :: 0x75 :: rest =>
            match scanHex rest with
            | none => none
            | some (low, rest) =>
                if 0xDC00 ≤ low ∧ low ≤ 0xDFFF then
                  some
                    (0x10000 + (high - 0xD800) * 0x400 + (low - 0xDC00),
                      rest)
                else
                  none
        | _ => none
      else if 0xDC00 ≤ high ∧ high ≤ 0xDFFF then
        none
      else
        some (high, rest)

/-- What stands for itself or for a control character behind a backslash. -/
def simpleEscape (byte : UInt8) : Option UInt8 :=
  [(0x22, 0x22), (0x5C, 0x5C), (0x2F, 0x2F), (0x62, 0x08), (0x66, 0x0C),
    (0x6E, 0x0A), (0x72, 0x0D), (0x74, 0x09)].lookup byte

def scanEscape : List UInt8 → Option Scanned
  | [] => none
  | byte :: rest =>
      if byte = 0x75 then
        match scanCodePoint rest with
        | none => none
        | some (codePoint, rest) =>
            some (.char (String.utf8EncodeChar (Char.ofNat codePoint)) rest)
      else
        match simpleEscape byte with
        | none => none
        | some meant => some (.char [meant] rest)

/-- The next character of a string, or its end. -/
def scanChar : List UInt8 → Option Scanned
  | [] => none
  | byte :: rest =>
      if byte = 0x22 then
        some (.closing rest)
      else if byte = 0x5C then
        scanEscape rest
      else if byte < 0x20 then
        none
      else
        match decodeChar (byte :: rest) with
        | none => none
        | some char =>
            some
              (.char (String.utf8EncodeChar char)
                ((byte :: rest).drop char.utf8Size))

/-! ## Counting bytes -/

/-- The number of bytes, with the spaces or without. -/
def weight (spaces : Bool) (bytes : List UInt8) : Nat :=
  bytes.countP fun byte => spaces || byte != 0x20

theorem weight_true (bytes : List UInt8) :
    weight true bytes = bytes.length := by
  simp [weight]

variable {spaces : Bool}

theorem weight_le_length (bytes : List UInt8) :
    weight spaces bytes ≤ bytes.length :=
  List.countP_le_length

theorem weight_append (front back : List UInt8) :
    weight spaces (front ++ back) =
      weight spaces front + weight spaces back :=
  List.countP_append

theorem weight_cons_of_ne {byte : UInt8} (rest : List UInt8)
    (nonspace : byte ≠ 0x20) :
    weight spaces (byte :: rest) = weight spaces rest + 1 := by
  simp [weight, nonspace]

theorem weight_le_cons (byte : UInt8) (rest : List UInt8) :
    weight spaces rest ≤ weight spaces (byte :: rest) :=
  (List.sublist_cons_self byte rest).countP_le

theorem weight_drop_le (size : Nat) (bytes : List UInt8) :
    weight spaces (bytes.drop size) ≤ weight spaces bytes :=
  (List.drop_sublist size bytes).countP_le

theorem weight_encode_le (char : Char) :
    weight spaces (String.utf8EncodeChar char) ≤ 4 := by
  have bound :
      weight spaces (String.utf8EncodeChar char) ≤
        (String.utf8EncodeChar char).length :=
    weight_le_length _
  have four := char.utf8Size_le_four
  rw [String.length_utf8EncodeChar] at bound
  exact Nat.le_trans bound four

/-! ## Characters which stand for themselves -/

def Unescaped (char : Char) : Prop :=
  0x20 ≤ char.val ∧ char ≠ '"' ∧ char ≠ '\\'

instance (char : Char) : Decidable (Unescaped char) :=
  inferInstanceAs (Decidable (_ ∧ _))

/-- Bytes which stand for themselves in a string. -/
def Plain (bytes : List UInt8) : Prop :=
  ∃ chars : List Char, (∀ char ∈ chars, Unescaped char) ∧
    bytes = chars.flatMap String.utf8EncodeChar

theorem unescaped_of_all {chars : List Char}
    (all : chars.all (fun char => decide (Unescaped char)) = true) :
    ∀ char ∈ chars, Unescaped char := by
  intro char member
  exact of_decide_eq_true (List.all_eq_true.mp all char member)

theorem plain_nil : Plain [] := ⟨[], by simp, rfl⟩

theorem Plain.encode {char : Char} {bytes : List UInt8}
    (unescaped : Unescaped char) (plain : Plain bytes) :
    Plain (String.utf8EncodeChar char ++ bytes) := by
  obtain ⟨chars, all, rfl⟩ := plain
  refine ⟨char :: chars, ?_, List.flatMap_cons.symm⟩
  intro other member
  cases List.mem_cons.mp member with
  | inl same =>
      rw [same]
      exact unescaped
  | inr later => exact all other later

/-- The first byte of a character is the character, or none of ASCII. -/
theorem encode_head (char : Char) :
    ∃ byte rest, String.utf8EncodeChar char = byte :: rest ∧
      (byte.toNat = char.val.toNat ∨
        0x80 ≤ byte.toNat ∧ 0x80 ≤ char.val.toNat) := by
  rw [String.utf8EncodeChar]
  split
  · refine ⟨_, _, rfl, Or.inl ?_⟩
    rw [UInt8.toNat_ofNat']
    omega
  · split
    · refine ⟨_, _, rfl, Or.inr ⟨?_, by omega⟩⟩
      rw [UInt8.toNat_ofNat']
      omega
    · split
      · refine ⟨_, _, rfl, Or.inr ⟨?_, by omega⟩⟩
        rw [UInt8.toNat_ofNat']
        omega
      · refine ⟨_, _, rfl, Or.inr ⟨?_, by omega⟩⟩
        rw [UInt8.toNat_ofNat']
        omega

theorem char_eq_iff {char other : Char} :
    char = other ↔ char.val.toNat = other.val.toNat := by
  rw [← Char.val_inj, ← UInt32.toNat_inj]

/-- Whether a character stands for itself can be seen at its first byte. -/
theorem unescaped_iff_head {char : Char} {byte : UInt8}
    {rest : List UInt8}
    (encoded : String.utf8EncodeChar char = byte :: rest) :
    Unescaped char ↔ byte ≠ 0x22 ∧ byte ≠ 0x5C ∧ ¬ byte < 0x20 := by
  obtain ⟨first, others, split, head⟩ := encode_head char
  rw [encoded] at split
  obtain ⟨rfl, rfl⟩ := List.cons.inj split
  rw [Unescaped, ne_eq, ne_eq, char_eq_iff, char_eq_iff,
    UInt32.le_iff_toNat_le, ← UInt8.toNat_inj.ne, ← UInt8.toNat_inj.ne,
    UInt8.lt_iff_toNat_lt]
  have quote : '"'.val.toNat = 0x22 := rfl
  have backslash : '\\'.val.toNat = 0x5C := rfl
  have space : (0x20 : UInt32).toNat = 0x20 := rfl
  rw [quote, backslash, space]
  change
    _ ↔ byte.toNat ≠ 0x22 ∧ byte.toNat ≠ 0x5C ∧ ¬ byte.toNat < 0x20
  omega

theorem decodeChar_encode (char : Char) (rest : List UInt8) :
    decodeChar (String.utf8EncodeChar char ++ rest) = some char := by
  rw [decodeChar, List.toByteArray_append]
  exact ByteArray.utf8DecodeChar?_utf8EncodeChar_append

/-- A well-formed character is what the text begins with. -/
theorem eq_of_decodeChar {char : Char} {text : List UInt8}
    (found : decodeChar text = some char) :
    text = String.utf8EncodeChar char ++ text.drop char.utf8Size := by
  obtain ⟨rest, split⟩ := ByteArray.exists_of_utf8DecodeChar?_eq_some found
  have bytes : text = String.utf8EncodeChar char ++ rest.data.toList := by
    have data := congrArg (fun array => array.data.toList) split
    simpa using data
  rw [bytes, List.drop_left' (String.length_utf8EncodeChar char)]

theorem hexDigit_nonspace {byte : UInt8} {value : Nat}
    (digit : hexDigit byte = some value) : byte ≠ 0x20 := by
  rintro rfl
  cases digit

theorem scanHex_weight (spaces : Bool) {text rest : List UInt8} {value : Nat}
    (scanned : scanHex text = some (value, rest)) :
    weight spaces text = weight spaces rest + 4 := by
  unfold scanHex at scanned
  split at scanned
  · split at scanned
    · rename_i first second third fourth
      obtain ⟨_, rfl⟩ := Prod.mk.inj (Option.some.inj scanned)
      rw [weight_cons_of_ne _ (hexDigit_nonspace first),
        weight_cons_of_ne _ (hexDigit_nonspace second),
        weight_cons_of_ne _ (hexDigit_nonspace third),
        weight_cons_of_ne _ (hexDigit_nonspace fourth)]
    · cases scanned
  · cases scanned

theorem scanCodePoint_weight (spaces : Bool) {text rest : List UInt8}
    {codePoint : Nat}
    (scanned : scanCodePoint text = some (codePoint, rest)) :
    weight spaces rest + 4 ≤ weight spaces text := by
  rw [scanCodePoint] at scanned
  split at scanned
  · cases scanned
  · rename_i high behind first
    have front := scanHex_weight spaces first
    split at scanned
    · split at scanned
      · split at scanned
        · cases scanned
        · rename_i low others second
          have back := scanHex_weight spaces second
          split at scanned
          · obtain ⟨_, rfl⟩ := Prod.mk.inj (Option.some.inj scanned)
            rw [weight_cons_of_ne _ (by decide),
              weight_cons_of_ne _ (by decide)] at front
            omega
          · cases scanned
      · cases scanned
    · split at scanned
      · cases scanned
      · obtain ⟨_, rfl⟩ := Prod.mk.inj (Option.some.inj scanned)
        omega

/-- An escape has more bytes than it stands for, even without its
backslash or with no more. -/
theorem scanEscape_weight (spaces : Bool) {text bytes rest : List UInt8}
    (scanned : scanEscape text = some (.char bytes rest)) :
    weight spaces bytes + weight spaces rest ≤ weight spaces text := by
  cases text with
  | nil => cases scanned
  | cons byte tail =>
      rw [scanEscape] at scanned
      split at scanned
      · rename_i unicode
        split at scanned
        · cases scanned
        · rename_i codePoint behind found
          injection Option.some.inj scanned with bytes_ rest_
          subst bytes_ rest_
          have four := scanCodePoint_weight spaces found
          have short :
              weight spaces
                (String.utf8EncodeChar (Char.ofNat codePoint)) ≤ 4 :=
            weight_encode_le _
          rw [unicode, weight_cons_of_ne tail (by decide)]
          omega
      · split at scanned
        · cases scanned
        · rename_i meant found
          injection Option.some.inj scanned with bytes_ rest_
          subst bytes_ rest_
          have nonspace : byte ≠ 0x20 := by
            rintro rfl
            cases found
          have short : weight spaces [meant] ≤ [meant].length :=
            weight_le_length _
          rw [weight_cons_of_ne _ nonspace]
          rw [List.length_singleton] at short
          omega

/-- A character stands for itself, or the text has more than it. -/
theorem scanChar_weight (spaces : Bool) {text bytes rest : List UInt8}
    (scanned : scanChar text = some (.char bytes rest)) :
    (∃ char, Unescaped char ∧ bytes = String.utf8EncodeChar char ∧
        text = bytes ++ rest) ∨
      weight spaces bytes + weight spaces rest < weight spaces text := by
  cases text with
  | nil => cases scanned
  | cons byte tail =>
      rw [scanChar] at scanned
      split at scanned
      · cases scanned
      rename_i noQuote
      split at scanned
      · rename_i escape
        refine Or.inr ?_
        rw [escape, weight_cons_of_ne tail (by decide)]
        exact Nat.lt_succ_of_le (scanEscape_weight spaces scanned)
      rename_i noEscape
      split at scanned
      · cases scanned
      rename_i noControl
      split at scanned
      · cases scanned
      · rename_i char found
        injection Option.some.inj scanned with bytes_ rest_
        subst bytes_ rest_
        refine Or.inl ⟨char, ?_, rfl, eq_of_decodeChar found⟩
        obtain ⟨first, others, encoded, _⟩ := encode_head char
        have split := eq_of_decodeChar found
        rw [encoded] at split
        obtain ⟨rfl, _⟩ := List.cons.inj split
        exact (unescaped_iff_head encoded).mpr
          ⟨noQuote, noEscape, noControl⟩

theorem scanEscape_ne_closing (text rest : List UInt8) :
    scanEscape text ≠ some (.closing rest) := by
  unfold scanEscape
  intro scanned
  split at scanned
  · cases scanned
  · split at scanned
    · split at scanned <;> cases scanned
    · split at scanned <;> cases scanned

theorem scanChar_closing {text rest : List UInt8}
    (scanned : scanChar text = some (.closing rest)) :
    text = 0x22 :: rest := by
  cases text with
  | nil => cases scanned
  | cons byte tail =>
      rw [scanChar] at scanned
      split at scanned
      · rename_i quote
        injection Option.some.inj scanned with same
        rw [quote, same]
      · split at scanned
        · exact absurd scanned (scanEscape_ne_closing tail rest)
        · split at scanned
          · cases scanned
          · split at scanned <;> cases scanned

/-- A character which stands for itself is scanned as it is. -/
theorem scanChar_encode {char : Char} (unescaped : Unescaped char)
    (rest : List UInt8) :
    scanChar (String.utf8EncodeChar char ++ rest) =
      some (.char (String.utf8EncodeChar char) rest) := by
  obtain ⟨byte, others, encoded, _⟩ := encode_head char
  obtain ⟨noQuote, noEscape, noControl⟩ :=
    (unescaped_iff_head encoded).mp unescaped
  have found := decodeChar_encode char rest
  have behind :
      (String.utf8EncodeChar char ++ rest).drop char.utf8Size = rest :=
    List.drop_left' (String.length_utf8EncodeChar char)
  rw [encoded, List.cons_append] at found behind ⊢
  rw [scanChar, if_neg noQuote, if_neg noEscape, if_neg noControl, found]
  simp only [encoded, behind]

/-! ## Strings -/

theorem scanned_shorter {text bytes rest : List UInt8}
    (scanned : scanChar text = some (.char bytes rest)) :
    rest.length < text.length := by
  rw [← weight_true rest, ← weight_true text]
  cases scanChar_weight true scanned with
  | inl itself =>
      obtain ⟨char, _, rfl, rfl⟩ := itself
      rw [weight_append, weight_true, weight_true,
        String.length_utf8EncodeChar]
      exact Nat.lt_add_of_pos_left char.utf8Size_pos
  | inr more => exact Nat.lt_of_le_of_lt (Nat.le_add_left _ _) more

/-- What is behind the opening quote, up to the closing one. -/
def scanString (text : List UInt8) : Option (List UInt8 × List UInt8) :=
  match _next : scanChar text with
  | none => none
  | some (.closing rest) => some ([], rest)
  | some (.char bytes rest) =>
      match scanString rest with
      | none => none
      | some (later, rest) => some (bytes ++ later, rest)
termination_by text.length
decreasing_by exact scanned_shorter _next

theorem scanString_weight (spaces : Bool) {text bytes rest : List UInt8}
    (scanned : scanString text = some (bytes, rest)) :
    weight spaces bytes + 1 + weight spaces rest ≤ weight spaces text ∧
      (Plain bytes ∨
        weight spaces bytes + 1 + weight spaces rest <
          weight spaces text) := by
  fun_induction scanString text generalizing bytes with
  | case1 text failed => cases scanned
  | case2 text behind closing =>
      obtain ⟨rfl, rfl⟩ := Prod.mk.inj (Option.some.inj scanned)
      have nothing : weight spaces [] = 0 := rfl
      rw [scanChar_closing closing, weight_cons_of_ne _ (by decide), nothing]
      exact ⟨by omega, Or.inl plain_nil⟩
  | case3 text first behind next failed => cases scanned
  | case4 text first behind next later others found ih =>
      obtain ⟨rfl, rfl⟩ := Prod.mk.inj (Option.some.inj scanned)
      obtain ⟨bound, plain⟩ := ih found
      rw [weight_append]
      cases scanChar_weight spaces next with
      | inl itself =>
          obtain ⟨char, unescaped, rfl, rfl⟩ := itself
          rw [weight_append]
          refine ⟨by omega, plain.imp (Plain.encode unescaped) ?_⟩
          omega
      | inr more => exact ⟨by omega, Or.inr (by omega)⟩

theorem scanString_plain {bytes : List UInt8} (plain : Plain bytes)
    (rest : List UInt8) :
    scanString (bytes ++ 0x22 :: rest) = some (bytes, rest) := by
  obtain ⟨chars, all, rfl⟩ := plain
  induction chars with
  | nil =>
      rw [List.flatMap_nil, List.nil_append, scanString]
      rfl
  | cons char chars ih =>
      have unescaped := all char List.mem_cons_self
      have later := ih fun other member =>
        all other (List.mem_cons_of_mem char member)
      rw [List.flatMap_cons, List.append_assoc, scanString,
        scanChar_encode unescaped]
      simp only [later]

end Fptn.Json
