import Fptn.Lib.JsonString
import Mathlib.Algebra.Order.BigOperators.Group.List
import Mathlib.Algebra.Order.Ring.Nat

/-!
# JSON texts

A reader of JSON texts: a scanner for the tokens and a parser for the values.
It reads what `nlohmann::json::parse` documents: a byte order mark in front is
skipped, strings are UTF-8, of two members with one name the last counts, and
only spaces may stand behind the value.  A zero byte between tokens ends the
text.  Whether a number can be represented is a parameter; one which cannot is
an error like any other.

Tokens and values cost at least the bytes other than spaces which the text has
for them.
-/

namespace Fptn.Json

variable {spaces : Bool}

/-! ## Numbers -/

def isDigit (byte : UInt8) : Bool :=
  0x30 ≤ byte && byte ≤ 0x39

def digits (text : List UInt8) : Nat :=
  (text.takeWhile isDigit).length

/-- Digits without a leading zero. -/
def integerSize (text : List UInt8) : Option Nat :=
  if text.head? = some 0x30 then
    some 1
  else if digits text = 0 then
    none
  else
    some (digits text)

def fractionSize (text : List UInt8) : Option Nat :=
  if text.head? = some 0x2E then
    if digits (text.drop 1) = 0 then none else some (1 + digits (text.drop 1))
  else
    some 0

def exponentSize (text : List UInt8) : Option Nat :=
  if text.head? = some 0x65 ∨ text.head? = some 0x45 then
    let sign := (text.drop 1).head?
    let before := if sign = some 0x2B ∨ sign = some 0x2D then 2 else 1
    if digits (text.drop before) = 0 then
      none
    else
      some (before + digits (text.drop before))
  else
    some 0

/-- The size of the number which a text begins with. -/
def numberSize (text : List UInt8) : Option Nat := do
  let sign := if text.head? = some 0x2D then 1 else 0
  let integer ← integerSize (text.drop sign)
  let fraction ← fractionSize (text.drop (sign + integer))
  let exponent ← exponentSize (text.drop (sign + integer + fraction))
  return sign + integer + fraction + exponent

/-! ## Tokens -/

inductive Token where
  | beginObject
  | endObject
  | beginArray
  | endArray
  | nameSeparator
  | valueSeparator
  | null
  | bool (value : Bool)
  | number (text : List UInt8)
  | string (bytes : List UInt8)
deriving DecidableEq

def structural : List (UInt8 × Token) :=
  [(0x7B, .beginObject), (0x7D, .endObject), (0x5B, .beginArray),
    (0x5D, .endArray), (0x3A, .nameSeparator), (0x2C, .valueSeparator)]

def isWhitespace (byte : UInt8) : Bool :=
  byte == 0x20 || byte == 0x09 || byte == 0x0A || byte == 0x0D

section Scanner

variable (inRange : List UInt8 → Bool)

/-- A token which begins with this byte, and what is behind it. -/
def scanToken (byte : UInt8) (rest : List UInt8) :
    Option (Token × List UInt8) :=
  match structural.lookup byte with
  | some token => some (token, rest)
  | none =>
      if byte = 0x22 then
        (scanString rest).map (Prod.map .string id)
      else if [0x72, 0x75, 0x65].isPrefixOf rest ∧ byte = 0x74 then
        some (.bool true, rest.drop 3)
      else if [0x61, 0x6C, 0x73, 0x65].isPrefixOf rest ∧ byte = 0x66 then
        some (.bool false, rest.drop 4)
      else if [0x75, 0x6C, 0x6C].isPrefixOf rest ∧ byte = 0x6E then
        some (.null, rest.drop 3)
      else
        match numberSize (byte :: rest) with
        | none => none
        | some size =>
            let number := (byte :: rest).take size
            if inRange number then
              some (.number number, rest.drop (size - 1))
            else
              none

end Scanner

open Classical in
/-- What a token takes at least: one byte, or the string, its quotes and
another byte unless the text has the string as it is. -/
noncomputable def cost (spaces : Bool) : Token → Nat
  | .string bytes =>
      weight spaces bytes + 2 + if Plain bytes then 0 else 1
  | _ => 1

variable {inRange : List UInt8 → Bool}

theorem cost_pos (spaces : Bool) (token : Token) : 0 < cost spaces token := by
  unfold cost
  split
  · omega
  · exact Nat.one_pos

theorem mem_of_lookup {κ ν : Type} [BEq κ] [LawfulBEq κ] {key : κ}
    {value : ν} {list : List (κ × ν)}
    (found : list.lookup key = some value) :
    (key, value) ∈ list := by
  obtain ⟨front, back, split, _⟩ := List.lookup_eq_some_iff.mp found
  rw [split]
  exact List.mem_append_right front List.mem_cons_self

theorem structural_weight {byte : UInt8} {token : Token}
    (found : structural.lookup byte = some token) :
    byte ≠ 0x20 ∧ cost spaces token = 1 := by
  have all : ∀ entry ∈ structural,
      entry.1 ≠ 0x20 ∧ cost spaces entry.2 = 1 := by
    simp [structural, cost]
  exact all _ (mem_of_lookup found)

theorem numberSize_nonspace {byte : UInt8} {rest : List UInt8} {size : Nat}
    (found : numberSize (byte :: rest) = some size) : byte ≠ 0x20 := by
  rintro rfl
  simp [numberSize, integerSize, digits, isDigit] at found

theorem scanToken_weight (spaces : Bool) {byte : UInt8}
    {rest behind : List UInt8} {token : Token}
    (scanned : scanToken inRange byte rest = some (token, behind)) :
    cost spaces token + weight spaces behind ≤
      weight spaces (byte :: rest) := by
  rw [scanToken] at scanned
  split at scanned
  · rename_i found
    obtain ⟨rfl, rfl⟩ := Prod.mk.inj (Option.some.inj scanned)
    obtain ⟨nonspace, one⟩ := structural_weight found
    rw [weight_cons_of_ne _ nonspace, one]
    omega
  split at scanned
  · rename_i quote
    obtain ⟨⟨bytes, after⟩, found, same⟩ :=
      Option.map_eq_some_iff.mp scanned
    obtain ⟨rfl, rfl⟩ := Prod.mk.inj same
    obtain ⟨bound, plain⟩ := scanString_weight spaces found
    rw [quote, weight_cons_of_ne _ (by decide), cost]
    split
    · simp only [id_eq]
      omega
    · rename_i notPlain
      have more := plain.resolve_left notPlain
      simp only [id_eq]
      omega
  have one {size : Nat} (nonspace : byte ≠ 0x20) :
      1 + weight spaces (rest.drop size) ≤ weight spaces (byte :: rest) := by
    have less : weight spaces (rest.drop size) ≤ weight spaces rest :=
      weight_drop_le size rest
    rw [weight_cons_of_ne _ nonspace]
    omega
  split at scanned
  · rename_i literal
    obtain ⟨rfl, rfl⟩ := Prod.mk.inj (Option.some.inj scanned)
    exact one (by rw [literal.2]; decide)
  split at scanned
  · rename_i literal
    obtain ⟨rfl, rfl⟩ := Prod.mk.inj (Option.some.inj scanned)
    exact one (by rw [literal.2]; decide)
  split at scanned
  · rename_i literal
    obtain ⟨rfl, rfl⟩ := Prod.mk.inj (Option.some.inj scanned)
    exact one (by rw [literal.2]; decide)
  split at scanned
  · cases scanned
  · rename_i found
    dsimp only at scanned
    split at scanned
    · obtain ⟨rfl, rfl⟩ := Prod.mk.inj (Option.some.inj scanned)
      exact one (numberSize_nonspace found)
    · cases scanned

theorem scanToken_shorter {byte : UInt8} {rest behind : List UInt8}
    {token : Token}
    (scanned : scanToken inRange byte rest = some (token, behind)) :
    behind.length < (byte :: rest).length := by
  have bound := scanToken_weight true scanned
  have positive := cost_pos true token
  rw [weight_true, weight_true] at bound
  omega

section Scanner

variable (inRange : List UInt8 → Bool)

/-- The tokens of a text; a zero byte ends it. -/
def tokens (text : List UInt8) : Option (List Token) :=
  match text with
  | [] => some []
  | byte :: rest =>
      if byte = 0 then
        some []
      else if isWhitespace byte then
        tokens rest
      else
        match _next : scanToken inRange byte rest with
        | none => none
        | some (token, behind) => (tokens behind).map (token :: ·)
termination_by text.length
decreasing_by
  · exact Nat.lt_succ_self _
  · exact scanToken_shorter _next

end Scanner

/-- What some tokens cost together. -/
def total (costOf : Token → Nat) (list : List Token) : Nat :=
  (list.map costOf).sum

theorem total_cons {costOf : Token → Nat} (token : Token)
    (rest : List Token) :
    total costOf (token :: rest) = costOf token + total costOf rest := by
  rw [total, List.map_cons, List.sum_cons]
  rfl

theorem tokens_weight {text : List UInt8} {list : List Token}
    (scanned : tokens inRange text = some list) :
    total (cost false) list ≤ weight false text := by
  fun_induction tokens inRange text generalizing list with
  | case1 =>
      obtain rfl := Option.some.inj scanned
      exact Nat.zero_le _
  | case2 rest =>
      obtain rfl := Option.some.inj scanned
      exact Nat.zero_le _
  | case3 byte rest nonzero space ih =>
      exact Nat.le_trans (ih scanned) (weight_le_cons byte rest)
  | case4 byte rest nonzero nonspace failed => cases scanned
  | case5 byte rest nonzero nonspace token behind next ih =>
      obtain ⟨later, found, rfl⟩ := Option.map_eq_some_iff.mp scanned
      have first := scanToken_weight false next
      have others := ih found
      rw [total_cons]
      omega

theorem tokens_string {bytes : List UInt8} (plain : Plain bytes)
    (rest : List UInt8) :
    tokens inRange (0x22 :: (bytes ++ 0x22 :: rest)) =
      (tokens inRange rest).map (.string bytes :: ·) := by
  have scanned :
      scanToken inRange 0x22 (bytes ++ 0x22 :: rest) =
        some (.string bytes, rest) := by
    rw [scanToken, scanString_plain plain]
    rfl
  rw [tokens, if_neg (by decide), if_neg (by decide), scanned]

/-- Punctuation is one byte. -/
theorem tokens_structural {byte : UInt8} {token : Token}
    (found : structural.lookup byte = some token) (rest : List UInt8) :
    tokens inRange (byte :: rest) =
      (tokens inRange rest).map (token :: ·) := by
  have all : ∀ entry ∈ structural,
      entry.1 ≠ 0 ∧ isWhitespace entry.1 ≠ true := by
    decide
  have here := all _ (mem_of_lookup found)
  have scanned :
      scanToken inRange byte rest = some (token, rest) := by
    simp only [scanToken, found]
  rw [tokens, if_neg here.1, if_neg here.2, scanned]

theorem tokens_space (rest : List UInt8) :
    tokens inRange (0x20 :: rest) = tokens inRange rest := by
  rw [tokens, if_neg (by decide), if_pos (by decide)]

/-! ## Values -/

/-- An object has all its members in the order of the text. -/
inductive Value where
  | null
  | bool (value : Bool)
  | number (text : List UInt8)
  | string (bytes : List UInt8)
  | array (elements : List Value)
  | object (members : List (List UInt8 × Value))

mutual

/-- The value which a list of tokens begins with. -/
def parseValue : Nat → List Token → Option (Value × List Token)
  | 0, _ => none
  | _ + 1, [] => none
  | fuel + 1, token :: rest =>
      match token with
      | .null => some (.null, rest)
      | .bool value => some (.bool value, rest)
      | .number text => some (.number text, rest)
      | .string bytes => some (.string bytes, rest)
      | .beginArray =>
          match rest with
          | .endArray :: rest => some (.array [], rest)
          | _ => (parseElements fuel rest).map (Prod.map .array id)
      | .beginObject =>
          match rest with
          | .endObject :: rest => some (.object [], rest)
          | _ => (parseMembers fuel rest).map (Prod.map .object id)
      | _ => none

/-- Elements up to the end of their array. -/
def parseElements : Nat → List Token → Option (List Value × List Token)
  | 0, _ => none
  | fuel + 1, list =>
      match parseValue fuel list with
      | some (value, .valueSeparator :: rest) =>
          (parseElements fuel rest).map (Prod.map (value :: ·) id)
      | some (value, .endArray :: rest) => some ([value], rest)
      | _ => none

/-- Members up to the end of their object. -/
def parseMembers :
    Nat → List Token → Option (List (List UInt8 × Value) × List Token)
  | 0, _ => none
  | fuel + 1, list =>
      match list with
      | .string name :: .nameSeparator :: rest =>
          match parseValue fuel rest with
          | some (value, .valueSeparator :: rest) =>
              (parseMembers fuel rest).map (Prod.map ((name, value) :: ·) id)
          | some (value, .endObject :: rest) => some ([(name, value)], rest)
          | _ => none
      | _ => none

end

/-- A byte order mark is skipped. -/
def skipMark : List UInt8 → Option (List UInt8)
  | 0xEF :: 0xBB :: 0xBF :: rest => some rest
  | 0xEF :: _ => none
  | text => some text

/-- The value of a whole text. -/
def parse (inRange : List UInt8 → Bool) (text : List UInt8) :
    Option Value := do
  let list ← tokens inRange (← skipMark text)
  match parseValue (2 * list.length) list with
  | some (value, []) => some value
  | _ => none

/-- The member of a name; the last one counts. -/
def member? (name : List UInt8) : Value → Option Value
  | .object members => members.reverse.lookup name
  | _ => none

def string? : Value → Option (List UInt8)
  | .string bytes => some bytes
  | _ => none

/-! ## What values cost -/

section Cost

variable (costOf : Token → Nat)

def valueCost : Value → Nat
  | .string bytes => costOf (.string bytes)
  | _ => 1

/-- A member with its two separators. -/
def memberCost (entry : List UInt8 × Value) : Nat :=
  costOf (.string entry.1) + valueCost costOf entry.2 + 2

/-- What is read with some fuel costs at most what has been taken for it. -/
structure Costs (costOf : Token → Nat) (fuel : Nat) : Prop where
  value : ∀ {list rest value},
    parseValue fuel list = some (value, rest) →
      valueCost costOf value + total costOf rest ≤ total costOf list
  elements : ∀ {list rest elements},
    parseElements fuel list = some (elements, rest) →
      total costOf rest < total costOf list
  members : ∀ {list rest members},
    parseMembers fuel list = some (members, rest) →
      (members.map (memberCost costOf)).sum + total costOf rest ≤
        total costOf list

variable {costOf}

section Fuel

variable {fuel : Nat} (costs : Costs costOf fuel)
  (positive : ∀ token, 0 < costOf token)

include costs positive

theorem parseValue_cost {list rest : List Token} {value : Value}
    (parsed : parseValue (fuel + 1) list = some (value, rest)) :
    valueCost costOf value + total costOf rest ≤ total costOf list := by
  cases list with
  | nil => cases parsed
  | cons token behind =>
      have one := positive token
      rw [total_cons]
      cases token with
      | null =>
          rw [parseValue] at parsed
          obtain ⟨rfl, rfl⟩ := Prod.mk.inj (Option.some.inj parsed)
          exact Nat.add_le_add_right one _
      | bool truth =>
          rw [parseValue] at parsed
          obtain ⟨rfl, rfl⟩ := Prod.mk.inj (Option.some.inj parsed)
          exact Nat.add_le_add_right one _
      | number text =>
          rw [parseValue] at parsed
          obtain ⟨rfl, rfl⟩ := Prod.mk.inj (Option.some.inj parsed)
          exact Nat.add_le_add_right one _
      | string bytes =>
          rw [parseValue] at parsed
          obtain ⟨rfl, rfl⟩ := Prod.mk.inj (Option.some.inj parsed)
          exact Nat.le_refl _
      | beginArray =>
          simp only [parseValue] at parsed
          split at parsed
          · obtain ⟨rfl, rfl⟩ := Prod.mk.inj (Option.some.inj parsed)
            simp only [total_cons, valueCost]
            omega
          · obtain ⟨⟨elements, after⟩, found, same⟩ :=
              Option.map_eq_some_iff.mp parsed
            obtain ⟨rfl, rfl⟩ := Prod.mk.inj same
            have inner := costs.elements found
            simp only [id_eq, valueCost]
            omega
      | beginObject =>
          simp only [parseValue] at parsed
          split at parsed
          · obtain ⟨rfl, rfl⟩ := Prod.mk.inj (Option.some.inj parsed)
            simp only [total_cons, valueCost]
            omega
          · obtain ⟨⟨members, after⟩, found, same⟩ :=
              Option.map_eq_some_iff.mp parsed
            obtain ⟨rfl, rfl⟩ := Prod.mk.inj same
            have inner := costs.members found
            simp only [id_eq, valueCost]
            omega
      | endObject => simp [parseValue] at parsed
      | endArray => simp [parseValue] at parsed
      | nameSeparator => simp [parseValue] at parsed
      | valueSeparator => simp [parseValue] at parsed

theorem parseElements_cost {list rest : List Token} {elements : List Value}
    (parsed : parseElements (fuel + 1) list = some (elements, rest)) :
    total costOf rest < total costOf list := by
  rw [parseElements] at parsed
  split at parsed
  · rename_i value behind first
    obtain ⟨⟨later, after⟩, found, same⟩ :=
      Option.map_eq_some_iff.mp parsed
    obtain ⟨rfl, rfl⟩ := Prod.mk.inj same
    have front := costs.value first
    have back := costs.elements found
    rw [total_cons] at front
    simp only [id_eq]
    omega
  · rename_i value behind first
    obtain ⟨rfl, rfl⟩ := Prod.mk.inj (Option.some.inj parsed)
    have front := costs.value first
    have last := positive .endArray
    rw [total_cons] at front
    omega
  · cases parsed

theorem parseMembers_cost {list rest : List Token}
    {members : List (List UInt8 × Value)}
    (parsed : parseMembers (fuel + 1) list = some (members, rest)) :
    (members.map (memberCost costOf)).sum + total costOf rest ≤
      total costOf list := by
  unfold parseMembers at parsed
  split at parsed
  · rename_i name behind
    have colon := positive .nameSeparator
    have comma := positive .valueSeparator
    have brace := positive .endObject
    rw [total_cons, total_cons]
    split at parsed
    · rename_i value after first
      obtain ⟨⟨later, last⟩, found, same⟩ :=
        Option.map_eq_some_iff.mp parsed
      obtain ⟨rfl, rfl⟩ := Prod.mk.inj same
      have front := costs.value first
      have back := costs.members found
      rw [total_cons] at front
      simp only [id_eq, List.map_cons, List.sum_cons, memberCost]
      omega
    · rename_i value after first
      obtain ⟨rfl, rfl⟩ := Prod.mk.inj (Option.some.inj parsed)
      have front := costs.value first
      rw [total_cons] at front
      simp only [List.map_cons, List.map_nil, List.sum_cons,
        List.sum_nil, memberCost]
      omega
    · cases parsed
  · cases parsed

end Fuel

variable (positive : ∀ token, 0 < costOf token)

include positive

theorem parse_cost (fuel : Nat) : Costs costOf fuel := by
  induction fuel with
  | zero =>
      constructor
      · intro list rest value parsed
        cases parsed
      · intro list rest elements parsed
        cases parsed
      · intro list rest members parsed
        cases parsed
  | succ fuel ih =>
      constructor
      · exact parseValue_cost ih positive
      · exact parseElements_cost ih positive
      · exact parseMembers_cost ih positive

/-- What an object costs. -/
theorem parseObject_cost {fuel : Nat} {list rest : List Token}
    {members : List (List UInt8 × Value)}
    (parsed : parseValue fuel list = some (.object members, rest)) :
    1 + (members.map (memberCost costOf)).sum + total costOf rest ≤
      total costOf list := by
  cases fuel with
  | zero => cases parsed
  | succ fuel =>
      cases list with
      | nil => cases parsed
      | cons token behind =>
          have one := positive token
          rw [total_cons]
          cases token with
          | beginObject =>
              simp only [parseValue] at parsed
              split at parsed
              · obtain ⟨same, rfl⟩ := Prod.mk.inj (Option.some.inj parsed)
                obtain rfl := Value.object.inj same
                rw [total_cons, List.map_nil, List.sum_nil]
                omega
              · obtain ⟨⟨inner, after⟩, found, same⟩ :=
                  Option.map_eq_some_iff.mp parsed
                obtain ⟨sameMembers, rfl⟩ := Prod.mk.inj same
                obtain rfl := Value.object.inj sameMembers
                have bound := (parse_cost positive fuel).members found
                simp only [id_eq]
                omega
          | beginArray =>
              simp only [parseValue] at parsed
              split at parsed
              · cases parsed
              · obtain ⟨_, _, same⟩ := Option.map_eq_some_iff.mp parsed
                cases same
          | _ => simp [parseValue] at parsed

end Cost

/-! ## Fuel -/

/-- A value takes at least one token. -/
theorem parseValue_shorter {fuel : Nat} {list rest : List Token}
    {value : Value} (parsed : parseValue fuel list = some (value, rest)) :
    rest.length < list.length := by
  have bound :=
    (parse_cost (fun _ : Token => Nat.one_pos) fuel).value parsed
  have length (some_ : List Token) :
      total (fun _ => 1) some_ = some_.length := by
    simp [total]
  have one : 0 < valueCost (fun _ => 1) value := by
    cases value <;> exact Nat.one_pos
  rw [length, length] at bound
  omega

/-- More fuel than twice the number of the tokens changes nothing. -/
theorem parse_fuel (fuel : Nat) :
    (∀ list, 2 * list.length ≤ fuel →
      parseValue (fuel + 1) list = parseValue fuel list) ∧
    (∀ list, 2 * list.length < fuel →
      parseElements (fuel + 1) list = parseElements fuel list) ∧
    (∀ list, 2 * list.length < fuel →
      parseMembers (fuel + 1) list = parseMembers fuel list) := by
  induction fuel with
  | zero =>
      refine ⟨?_, ?_, ?_⟩
      · intro list short
        have nothing : list = [] := List.length_eq_zero_iff.mp (by omega)
        rw [nothing]
        rfl
      · intro list short
        omega
      · intro list short
        omega
  | succ fuel ih =>
      obtain ⟨valueIh, elementsIh, membersIh⟩ := ih
      refine ⟨?_, ?_, ?_⟩
      · intro list short
        cases list with
        | nil => rfl
        | cons token rest =>
            rw [List.length_cons] at short
            have elements := elementsIh rest (by omega)
            have members := membersIh rest (by omega)
            cases token <;> simp only [parseValue, elements, members]
      · intro list short
        have value := valueIh list (by omega)
        unfold parseElements
        rw [value]
        split
        · rename_i rest parsed
          have shorter := parseValue_shorter parsed
          rw [List.length_cons] at shorter
          rw [elementsIh rest (by omega)]
        · rfl
        · rfl
      · intro list short
        unfold parseMembers
        split
        · rename_i name behind
          rw [List.length_cons, List.length_cons] at short
          rw [valueIh behind (by omega)]
          split
          · rename_i rest parsed
            have shorter := parseValue_shorter parsed
            rw [List.length_cons] at shorter
            rw [membersIh rest (by omega)]
          · rfl
          · rfl
        · rfl

/-- The fuel which `parse` gives is enough. -/
theorem parseValue_enough {fuel : Nat} {list : List Token}
    (enough : 2 * list.length ≤ fuel) :
    parseValue fuel list = parseValue (2 * list.length) list := by
  induction fuel, enough using Nat.le_induction with
  | base => rfl
  | succ fuel enough ih => rw [(parse_fuel fuel).1 list enough, ih]

/-! ## Objects of two strings -/

theorem two_members_le {costs : List UInt8 × Value → Nat}
    {members : List (List UInt8 × Value)} {first second}
    (firstThere : first ∈ members) (secondThere : second ∈ members)
    (different : first ≠ second) :
    costs first + costs second ≤ (members.map costs).sum := by
  have nodup : [first, second].Nodup := by simpa using different
  have both : [first, second] ⊆ members := by
    simp [firstThere, secondThere]
  obtain ⟨list, perm, sublist⟩ := List.subperm_of_subset nodup both
  have same : (list.map costs).sum = costs first + costs second := by
    rw [(perm.map costs).sum_eq]
    simp
  rw [← same]
  exact (sublist.map costs).sum_le_sum fun _ _ => Nat.zero_le _

/-- The last member of a name is one of the members. -/
theorem mem_of_member? {name : List UInt8} {value : Value}
    {members : List (List UInt8 × Value)}
    (found : member? name (.object members) = some value) :
    (name, value) ∈ members :=
  List.mem_reverse.mp (mem_of_lookup found)

theorem string?_eq_some {value : Value} {bytes : List UInt8} :
    string? value = some bytes ↔ value = .string bytes := by
  cases value <;> simp [string?]

theorem skipMark_weight {text behind : List UInt8}
    (skipped : skipMark text = some behind) :
    weight false behind ≤ weight false text := by
  unfold skipMark at skipped
  split at skipped
  · obtain rfl := Option.some.inj skipped
    exact
      Nat.le_trans (weight_le_cons 0xBF _)
        (Nat.le_trans (weight_le_cons 0xBB _) (weight_le_cons 0xEF _))
  · cases skipped
  · obtain rfl := Option.some.inj skipped
    exact Nat.le_refl _

/-- A text with two strings in an object has their bytes, the names, the
punctuation, and more unless it has the strings as they are. -/
theorem parse_two_strings {text : List UInt8} {value : Value}
    {firstName secondName first second : List UInt8}
    (parsed : parse inRange text = some value)
    (firstThere : (member? firstName value).bind string? = some first)
    (secondThere : (member? secondName value).bind string? = some second)
    (different : firstName ≠ secondName) :
    cost false (.string firstName) + cost false (.string first) +
        (cost false (.string secondName) + cost false (.string second)) +
        5 ≤
      weight false text := by
  simp only [parse, Option.bind_eq_bind, Option.bind_eq_some_iff] at parsed
  obtain ⟨behind, skipped, list, scanned, whole⟩ := parsed
  split at whole
  · rename_i inner found
    obtain rfl := Option.some.inj whole
    obtain ⟨firstValue, firstMember, firstString⟩ :=
      Option.bind_eq_some_iff.mp firstThere
    obtain ⟨secondValue, secondMember, secondString⟩ :=
      Option.bind_eq_some_iff.mp secondThere
    obtain rfl := string?_eq_some.mp firstString
    obtain rfl := string?_eq_some.mp secondString
    cases inner with
    | object members =>
        have pair : (firstName, Value.string first) ≠
            (secondName, Value.string second) :=
          fun same => different (Prod.mk.inj same).1
        have both : _ ≤ (members.map (memberCost (cost false))).sum :=
          two_members_le (mem_of_member? firstMember)
            (mem_of_member? secondMember) pair
        have object := parseObject_cost (cost_pos false) found
        have bytes := tokens_weight scanned
        have marked := skipMark_weight skipped
        simp only [memberCost, valueCost] at both
        omega
    | _ => cases firstMember
  · cases whole

end Fptn.Json
