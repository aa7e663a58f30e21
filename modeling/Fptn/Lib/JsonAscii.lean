import Fptn.Lib.Json

/-!
# ASCII texts in JSON texts

An integer which is printed is one number token, as long as no digits follow.
A text of ASCII characters which need no escapes is a string as it is, and its
bytes tell its characters.
-/

namespace Fptn.Json

/-- Digits without a leading zero. -/
structure Digits (text : List UInt8) : Prop where
  nonempty : text ≠ []
  all : ∀ byte ∈ text, isDigit byte = true
  leading : text.head? = some 0x30 → text = [0x30]

/-- Digits, possibly behind a sign. -/
def Integer (text : List UInt8) : Prop :=
  Digits text ∨ ∃ digits, text = 0x2D :: digits ∧ Digits digits

/-- What may follow a number. -/
def Delimits (rest : List UInt8) : Prop :=
  ∀ byte ∈ rest.head?, isDigit byte = false ∧ byte ≠ 0x2E ∧ byte ≠ 0x65 ∧
    byte ≠ 0x45

section Sizes

variable {text rest : List UInt8} {inRange : List UInt8 → Bool}

theorem digits_append (all : ∀ byte ∈ text, isDigit byte = true)
    (delimits : Delimits rest) : digits (text ++ rest) = text.length := by
  rw [digits, List.takeWhile_append_of_pos all, List.length_append]
  cases rest with
  | nil => rfl
  | cons byte rest =>
      rw [List.takeWhile_cons_of_neg (by
        rw [(delimits byte rfl).1]
        decide)]
      rfl

theorem Digits.integerSize (isDigits : Digits text)
    (delimits : Delimits rest) :
    integerSize (text ++ rest) = some text.length := by
  have first : (text ++ rest).head? = text.head? :=
    List.head?_append_of_ne_nil _ isDigits.nonempty
  rw [Json.integerSize, first, digits_append isDigits.all delimits]
  split
  case isTrue zero =>
    rw [isDigits.leading zero]
    rfl
  case isFalse =>
    exact if_neg (mt List.length_eq_zero_iff.mp isDigits.nonempty)

theorem fractionSize_delimits (delimits : Delimits rest) :
    fractionSize rest = some 0 := by
  rw [fractionSize, if_neg]
  intro point
  exact (delimits _ point).2.1 rfl

theorem exponentSize_delimits (delimits : Delimits rest) :
    exponentSize rest = some 0 := by
  rw [exponentSize, if_neg]
  rintro (small | large)
  · exact (delimits _ small).2.2.1 rfl
  · exact (delimits _ large).2.2.2 rfl

/-- The first byte of digits. -/
theorem Digits.first (isDigits : Digits text) :
    ∃ byte bytes, text = byte :: bytes ∧ isDigit byte = true := by
  obtain ⟨byte, bytes, rfl⟩ := List.exists_cons_of_ne_nil isDigits.nonempty
  exact ⟨byte, bytes, rfl, isDigits.all byte List.mem_cons_self⟩

theorem numberSize_digits (isDigits : Digits text)
    (delimits : Delimits rest) :
    numberSize (text ++ rest) = some text.length := by
  obtain ⟨byte, bytes, same, digit⟩ := isDigits.first
  have unsigned : (text ++ rest).head? ≠ some 0x2D := by
    rw [same]
    intro sign
    rw [Option.some.inj sign] at digit
    cases digit
  have size := isDigits.integerSize delimits
  simp only [numberSize, if_neg unsigned, List.drop_zero, size,
    Option.bind_eq_bind, Option.bind_some, Nat.zero_add, List.drop_left,
    fractionSize_delimits delimits, Nat.add_zero,
    exponentSize_delimits delimits]
  rfl

theorem Integer.numberSize (integer : Integer text)
    (delimits : Delimits rest) :
    numberSize (text ++ rest) = some text.length := by
  rcases integer with isDigits | ⟨digits, rfl, isDigits⟩
  · exact numberSize_digits isDigits delimits
  · have size := isDigits.integerSize delimits
    have signed : ((0x2D :: digits) ++ rest).head? = some 0x2D := rfl
    have behind : ((0x2D :: digits) ++ rest).drop (1 + digits.length) =
        rest := by
      rw [Nat.add_comm, List.cons_append, List.drop_succ_cons,
        List.drop_left]
    have inside : ((0x2D :: digits) ++ rest).drop 1 = digits ++ rest := rfl
    simp only [Json.numberSize, if_pos signed, inside, size, behind,
      Option.bind_eq_bind, Option.bind_some, Nat.add_zero,
      fractionSize_delimits delimits, exponentSize_delimits delimits]
    rw [List.length_cons, Nat.add_comm]
    rfl

/-- The bytes which are not part of numbers. -/
def others : List UInt8 :=
  [0, 0x20, 0x09, 0x0A, 0x0D, 0x22, 0x74, 0x66, 0x6E, 0x7B, 0x7D, 0x5B, 0x5D,
    0x3A, 0x2C]

theorem Integer.first (integer : Integer text) :
    ∃ byte bytes, text = byte :: bytes ∧ byte ∉ others := by
  have all :
      others.all (fun byte => !isDigit byte && byte != 0x2D) = true := by
    decide
  have none_ (byte : UInt8) (other : byte ∈ others) :
      isDigit byte = false ∧ byte ≠ 0x2D := by
    simpa using List.all_eq_true.mp all byte other
  rcases integer with isDigits | ⟨digits, rfl, -⟩
  · obtain ⟨byte, rest, rfl, digit⟩ := isDigits.first
    refine ⟨byte, rest, rfl, fun other => ?_⟩
    rw [(none_ byte other).1] at digit
    cases digit
  · exact ⟨_, digits, rfl, fun other => (none_ _ other).2 rfl⟩

theorem tokens_integer (integer : Integer text) (delimits : Delimits rest)
    (known : inRange text = true) :
    tokens inRange (text ++ rest) =
      (tokens inRange rest).map (.number text :: ·) := by
  have size := integer.numberSize delimits
  obtain ⟨byte, bytes, rfl, other⟩ := integer.first
  simp only [others, List.mem_cons, List.not_mem_nil, or_false, not_or]
    at other
  obtain ⟨zero, space, tab, feed, back, quote, t, f, n, others⟩ := other
  have plain : structural.lookup byte = none := by
    have apart : ∀ entry ∈ structural, byte ≠ entry.1 := by
      obtain ⟨a, b, c, d, e, g⟩ := others
      simp [structural, a, b, c, d, e, g]
    rw [List.lookup_eq_none_iff]
    exact fun entry member => bne_iff_ne.mpr (apart entry member)
  have scanned : scanToken inRange byte (bytes ++ rest) =
      some (.number (byte :: bytes), rest) := by
    rw [List.cons_append] at size
    have all : (byte :: (bytes ++ rest)).take (byte :: bytes).length =
        byte :: bytes := by
      rw [← List.cons_append, List.take_left]
    simp only [scanToken, plain, if_neg quote, t, f, n, and_false, if_false,
      size, all, known, if_true]
    rw [List.length_cons, Nat.add_sub_cancel, List.drop_left]
  have black : isWhitespace byte = false := by
    simp [isWhitespace, space, tab, feed, back]
  rw [List.cons_append, tokens, if_neg zero, black,
    if_neg Bool.false_ne_true, scanned]

end Sizes

/-! ## Punctuation -/

section Punctuation

variable {inRange : List UInt8 → Bool}

theorem tokens_nil : tokens inRange [] = some [] := by
  rw [tokens]

theorem tokens_openBrace (rest : List UInt8) :
    tokens inRange (0x7B :: rest) =
      (tokens inRange rest).map (.beginObject :: ·) :=
  tokens_structural rfl rest

theorem tokens_closeBrace (rest : List UInt8) :
    tokens inRange (0x7D :: rest) =
      (tokens inRange rest).map (.endObject :: ·) :=
  tokens_structural rfl rest

theorem tokens_colon (rest : List UInt8) :
    tokens inRange (0x3A :: rest) =
      (tokens inRange rest).map (.nameSeparator :: ·) :=
  tokens_structural rfl rest

theorem tokens_comma (rest : List UInt8) :
    tokens inRange (0x2C :: rest) =
      (tokens inRange rest).map (.valueSeparator :: ·) :=
  tokens_structural rfl rest

/-- A text is read in two passes. -/
theorem parse_of_tokens {text : List UInt8} {list : List Token}
    {value : Value} (marked : skipMark text = some text)
    (scanned : tokens inRange text = some list)
    (parsed : parseValue (2 * list.length) list = some (value, [])) :
    parse inRange text = some value := by
  rw [parse, marked]
  simp only [Option.bind_eq_bind, Option.bind_some, scanned, parsed]

end Punctuation

/-! ## Characters -/

/-- The bytes of an ASCII text. -/
def bytesOf (chars : List Char) : List UInt8 :=
  chars.map fun char => UInt8.ofNat char.toNat

/-- A character for each byte. -/
def charsOf (bytes : List UInt8) : List Char :=
  bytes.map fun byte => Char.ofNat byte.toNat

/-- A character of ASCII which is visible and needs no escape. -/
def Simple (char : Char) : Prop :=
  0x21 ≤ char.toNat ∧ char.toNat < 0x7F ∧ char ≠ '"' ∧ char ≠ '\\'

instance (char : Char) : Decidable (Simple char) :=
  inferInstanceAs (Decidable (_ ∧ _))

theorem Simple.unescaped {char : Char} (simple : Simple char) :
    Unescaped char := by
  refine ⟨?_, simple.2.2⟩
  rw [UInt32.le_iff_toNat_le]
  exact Nat.le_of_succ_le simple.1

theorem Simple.encode {char : Char} (simple : Simple char) :
    String.utf8EncodeChar char = [UInt8.ofNat char.toNat] := by
  have small : char.val.toNat ≤ 0x7F := Nat.le_of_lt simple.2.1
  rw [String.utf8EncodeChar, if_pos small]
  rfl

theorem plain_bytesOf {chars : List Char}
    (simple : ∀ char ∈ chars, Simple char) : Plain (bytesOf chars) := by
  refine ⟨chars, fun char member => (simple char member).unescaped, ?_⟩
  induction chars with
  | nil => rfl
  | cons char chars ih =>
      obtain ⟨here, simple⟩ := List.forall_mem_cons.mp simple
      rw [List.flatMap_cons, here.encode, ← ih simple]
      rfl

theorem simple_of_all {chars : List Char}
    (all : chars.all (fun char => decide (Simple char)) = true) :
    ∀ char ∈ chars, Simple char := by
  intro char member
  exact of_decide_eq_true (List.all_eq_true.mp all char member)

theorem plain_of_all {chars : List Char}
    (all : chars.all (fun char => decide (Simple char)) = true) :
    Plain (bytesOf chars) :=
  plain_bytesOf (simple_of_all all)

theorem simple_append {first second : String}
    (left : ∀ char ∈ first.toList, Simple char)
    (right : ∀ char ∈ second.toList, Simple char) :
    ∀ char ∈ (first ++ second).toList, Simple char := by
  rw [String.toList_append]
  exact List.forall_mem_append.mpr ⟨left, right⟩

theorem charsOf_bytesOf {chars : List Char}
    (simple : ∀ char ∈ chars, Simple char) :
    charsOf (bytesOf chars) = chars := by
  induction chars with
  | nil => rfl
  | cons char chars ih =>
      obtain ⟨here, simple⟩ := List.forall_mem_cons.mp simple
      have small : char.toNat % 2 ^ 8 = char.toNat :=
        Nat.mod_eq_of_lt (here.2.1.trans (by decide))
      have same : Char.ofNat (UInt8.ofNat char.toNat).toNat = char := by
        rw [UInt8.toNat_ofNat', small, Char.ofNat_toNat]
      show Char.ofNat _ :: charsOf (bytesOf chars) = char :: chars
      rw [same, ih simple]

/-! ## Printed integers -/

theorem isDigit_of_char {char : Char} (digit : char.isDigit = true) :
    isDigit (UInt8.ofNat char.toNat) = true := by
  have bounds : 48 ≤ char.toNat ∧ char.toNat ≤ 57 := by
    simpa [Char.isDigit, UInt32.le_iff_toNat_le] using digit
  simp only [isDigit, Bool.and_eq_true, decide_eq_true_eq,
    UInt8.le_iff_toNat_le, UInt8.reduceToNat, UInt8.toNat_ofNat']
  omega

/-- A printed number begins with a zero only if it is zero. -/
theorem head_toDigits {number : Nat} (positive : 0 < number) :
    ∃ digit chars, 0 < digit ∧ digit < 10 ∧
      Nat.toDigits 10 number = Nat.digitChar digit :: chars := by
  induction number using Nat.strong_induction_on with
  | _ number ih =>
      by_cases small : number < 10
      · exact
          ⟨number, [], positive, small, Nat.toDigits_of_lt_base small⟩
      · obtain ⟨digit, chars, least, most, same⟩ :=
          ih (number / 10) (Nat.div_lt_self positive (by decide))
            (Nat.div_pos (Nat.le_of_not_lt small) (by decide))
        refine ⟨digit, chars ++ [Nat.digitChar (number % 10)], least, most, ?_⟩
        rw [Nat.toDigits_of_base_le (by decide) (Nat.le_of_not_lt small), same,
          List.cons_append]

theorem digits_toDigits (number : Nat) :
    Digits (bytesOf (Nat.toDigits 10 number)) where
  nonempty := by
    rw [bytesOf, ne_eq, List.map_eq_nil_iff]
    exact List.ne_nil_of_length_pos Nat.length_toDigits_pos
  all byte member := by
    obtain ⟨char, inside, rfl⟩ := List.mem_map.mp member
    exact
      isDigit_of_char
        (Nat.isDigit_of_mem_toDigits (by decide) (by decide) inside)
  leading zero := by
    rcases Nat.eq_zero_or_pos number with rfl | positive
    · rfl
    · obtain ⟨digit, chars, least, most, same⟩ := head_toDigits positive
      rw [same] at zero
      have none_ : ∀ digit < 10, 0 < digit →
          UInt8.ofNat (Nat.digitChar digit).toNat ≠ 0x30 := by
        decide
      exact absurd (Option.some.inj zero) (none_ digit most least)

theorem integer_toString (number : Int) :
    Integer (bytesOf (toString number).toList) := by
  cases number with
  | ofNat number =>
      refine Or.inl ?_
      show Digits (bytesOf number.repr.toList)
      rw [Nat.toList_repr]
      exact digits_toDigits number
  | negSucc number =>
      refine Or.inr ⟨_, ?_, digits_toDigits (number + 1)⟩
      show bytesOf ("-" ++ (number + 1).repr).toList = _
      rw [String.toList_append, Nat.toList_repr]
      rfl

end Fptn.Json
