import Fptn.Lib.TlsWire
import Fptn.Network.TlsHello

/-!
# What is found in a ClientHello

`GetTlsSessionId` and `GetTlsSNI` on a well-formed ClientHello which is in a
record of its own, with anything behind it.  Neither of them looks at the
lengths of the record and of the message; what comes behind the compression
methods is taken for the list of extensions, also where the message has ended
there.
-/

namespace Fptn.Network.ClientHello

open Fptn.BigEndian
open Fptn.TlsWire
open Fptn.Network.TlsHello

/-! ## Extensions -/

section Extensions

variable {data : List UInt8} {extEnd fuel p : Nat}

/-- An extension which is taken for a list of server names. -/
def Names (extension : Extension) : Prop :=
  extension.tag = 0 ∧ 5 ≤ extension.body.length

instance (extension : Extension) : Decidable (Names extension) :=
  inferInstanceAs (Decidable (_ ∧ _))

/-- One round of the loop, at an extension. -/
theorem findSni_held {extension : Extension}
    (held : Holds data p extension.encode)
    (inside : p + extension.encode.length ≤ extEnd) :
    findSni data extEnd (fuel + 1) p =
      if Names extension then
        let nameLen := field 3 2 extension.body
        if extEnd < p + 9 + nameLen then
          none
        else
          some ((data.drop (p + 9)).take nameLen)
      else
        findSni data extEnd fuel (p + extension.encode.length) := by
  have body : Holds data (p + 4) extension.body := Element.holds_body held
  rw [Element.encode_length] at inside
  rw [findSni, if_neg (by omega), Element.field_tag held,
    Element.field_length held, Element.encode_length]
  simp only
  rw [if_neg (by omega)]
  by_cases named : Names extension
  · have long := named.2
    rw [if_pos (show _ ∧ _ from named), if_pos named,
      body.field_eq (by omega)]
  · rw [if_neg (show ¬(_ ∧ _) from named), if_neg named,
      Nat.add_assoc p 4, ← Nat.add_assoc 2 2]

/-- The list of extensions ends where the loop does. -/
theorem findSni_extensions {extensions : List ClientExtension}
    (held : Holds data p (ClientExtension.encodeAll extensions))
    (ends : p + (ClientExtension.encodeAll extensions).length = extEnd)
    (fuelled : extEnd ≤ p + fuel) :
    findSni data extEnd fuel p =
      extensions.findSome? ClientExtension.hostName := by
  induction extensions generalizing p fuel with
  | nil =>
      cases fuel with
      | zero => rfl
      | succ fuel =>
          have empty : p = extEnd := ends
          rw [findSni, if_pos (by omega)]
          rfl
  | cons extension rest ih =>
      rw [ClientExtension.encodeAll_cons] at held ends
      rw [List.length_append] at ends
      have four : 4 ≤ extension.toExtension.encode.length := by
        rw [Element.encode_length]
        omega
      obtain ⟨fuel, rfl⟩ : ∃ fewer, fuel = fewer + 1 :=
        Nat.exists_eq_succ_of_ne_zero (by omega)
      rw [findSni_held held.left (by omega), List.findSome?_cons]
      cases extension with
      | serverName first others fits =>
          have size := @ClientExtension.serverName_length first others fits
          have name := @ClientExtension.holds_first first others fits
          have nameLen : field 3 2
              (ClientExtension.serverName first others
                fits).toExtension.body = first.body.length :=
            Element.field_length name
          have there : Holds data (p + 9) first.body :=
            (Element.holds_body held.left).trans (Element.holds_body name)
          rw [Element.encode_length] at ends
          rw [if_pos ⟨rfl, by omega⟩, nameLen]
          simp only
          rw [if_neg (by omega), there.take_drop]
          rfl
      | other extension known =>
          rw [if_neg fun named => known named.1]
          exact ih held.right (by omega) (by omega)

end Extensions

/-! ## The vectors in front of the extensions -/

section Vectors

variable (hello : ClientHello) (version : Nat) (trailing : List UInt8)

/-- Where the list of extensions is, or would be. -/
def extensionsAt : Nat :=
  sessionIdAt + 1 + hello.sessionId.length + 2 +
    hello.cipherSuites.length + 1 + hello.compressionMethods.length

/-- What a record begins with, up to the session id. -/
def opening : List UInt8 :=
  [22] ++ bytesOf 2 version ++ bytesOf 2 (4 + hello.encodeBody.length) ++
    [1] ++ bytesOf 3 hello.encodeBody.length ++
      bytesOf 2 hello.legacyVersion ++ hello.random

theorem length_opening :
    (opening hello version).length = sessionIdAt := by
  simp [opening, hello.random_length, sessionIdAt]

theorem record_eq_opening :
    hello.record version = opening hello version ++ hello.encodeVectors := by
  have size : ([1] ++ (bytesOf 3 hello.encodeBody.length ++
      hello.encodeBody)).length = 4 + hello.encodeBody.length := by
    simp only [List.length_append, bytesOf_length, List.length_singleton]
    omega
  simp only [ClientHello.record, size, opening, List.append_assoc]
  rfl

theorem holds_vectors :
    Holds (hello.record version ++ trailing) sessionIdAt
      hello.encodeVectors := by
  rw [record_eq_opening, List.append_assoc]
  exact holds_of_append (length_opening hello version)

/-- What comes in front of the extensions. -/
theorem exists_front :
    ∃ front : List UInt8, front.length = extensionsAt hello ∧
      hello.record version = front ++ hello.encodeExtensions := by
  refine
    ⟨opening hello version ++ bytesOf 1 hello.sessionId.length ++
        hello.sessionId ++ bytesOf 2 hello.cipherSuites.length ++
        hello.cipherSuites ++ bytesOf 1 hello.compressionMethods.length ++
        hello.compressionMethods, ?_, ?_⟩
  · simp only [List.length_append, bytesOf_length, length_opening,
      extensionsAt]
  · rw [record_eq_opening, ClientHello.encodeVectors]
    simp only [List.append_assoc]

theorem drop_extensionsAt :
    (hello.record version ++ trailing).drop (extensionsAt hello) =
      hello.encodeExtensions ++ trailing := by
  obtain ⟨front, there, split⟩ := exists_front hello version
  rw [split, List.append_assoc]
  exact List.drop_left' there

theorem length_record :
    (hello.record version ++ trailing).length =
      extensionsAt hello +
        (hello.encodeExtensions.length + trailing.length) := by
  obtain ⟨front, there, split⟩ := exists_front hello version
  rw [split, List.append_assoc, List.length_append, List.length_append,
    there]

/-- The session id is found. -/
theorem getTlsSessionId_record :
    getTlsSessionId (hello.record version ++ trailing) =
      hello.sessionId := by
  have vectors := holds_vectors hello version trailing
  have size := length_record hello version trailing
  have short := hello.sessionId_length
  have sidLen : field sessionIdAt 1 (hello.record version ++ trailing) =
      hello.sessionId.length :=
    vectors.left.field.trans (Nat.mod_eq_of_lt (by omega))
  have sessionId := vectors.right.left
  rw [bytesOf_length] at sessionId
  rw [extensionsAt] at size
  rw [getTlsSessionId, if_neg (by omega), sidLen]
  simp only
  rw [if_neg (by omega), sessionId.take_drop]

/-- The vectors are skipped. -/
theorem getTlsSNI_record :
    let data := hello.record version ++ trailing
    let extensions := extensionsAt hello
    getTlsSNI data =
      if data.length < extensions + 2 then
        none
      else
        let extEnd := extensions + 2 + field extensions 2 data
        if data.length < extEnd then
          none
        else
          findSni data extEnd (extEnd - extensions) (extensions + 2) := by
  intro data extensions
  have vectors : Holds data sessionIdAt hello.encodeVectors :=
    holds_vectors hello version trailing
  have size : data.length = extensions + _ :=
    length_record hello version trailing
  have short := hello.sessionId_length
  have sidLen : field sessionIdAt 1 data = hello.sessionId.length :=
    vectors.left.field.trans (Nat.mod_eq_of_lt (by omega))
  have behindId := vectors.right.right
  rw [bytesOf_length] at behindId
  have suites : field (sessionIdAt + 1 + hello.sessionId.length) 2 data =
      hello.cipherSuites.length :=
    behindId.left.field.trans (Nat.mod_eq_of_lt hello.cipherSuites_length)
  have behindSuites := behindId.right.right
  rw [bytesOf_length] at behindSuites
  have methods :
      field (sessionIdAt + 1 + hello.sessionId.length + 2 +
        hello.cipherSuites.length) 1 data =
        hello.compressionMethods.length :=
    behindSuites.left.field.trans
      (Nat.mod_eq_of_lt hello.compressionMethods_length)
  simp only [extensions, extensionsAt] at size ⊢
  rw [getTlsSNI, if_neg (by omega), sidLen]
  simp only [suites, methods]
  rw [if_neg (by omega), if_neg (by omega)]

end Vectors

/-! ## The server name -/

section Named

variable {data : List UInt8} {extEnd fuel p : Nat}

/-- From an offset on there are extensions one of which is taken for a list of
server names, and the name is within the limit. -/
def NamesServer (data : List UInt8) (extEnd p : Nat) : Prop :=
  ∃ (skipped : List Extension) (extension : Extension),
    Holds data p (Element.encodeAll skipped ++ extension.encode) ∧
      (∀ other ∈ skipped, ¬Names other) ∧ Names extension ∧
        p + (Element.encodeAll skipped ++ extension.encode).length ≤
            extEnd ∧
          p + (Element.encodeAll skipped).length + 9 +
            field 3 2 extension.body ≤ extEnd

/-- The first extension is the one, or the rest names a server. -/
theorem namesServer_iff :
    NamesServer data extEnd p ↔
      ∃ first : Extension, Holds data p first.encode ∧
        p + first.encode.length ≤ extEnd ∧
          if Names first then
            p + 9 + field 3 2 first.body ≤ extEnd
          else
            NamesServer data extEnd (p + first.encode.length) := by
  constructor
  · rintro ⟨skipped, extension, held, others, named, inside, fits⟩
    cases skipped with
    | nil =>
        refine ⟨extension, held, inside, ?_⟩
        rw [if_pos named]
        exact fits
    | cons first rest =>
        rw [Element.encodeAll_cons, List.append_assoc] at held inside
        rw [Element.encodeAll_cons] at fits
        simp only [List.length_append] at inside fits
        refine ⟨first, held.left, by omega, ?_⟩
        rw [if_neg (others first List.mem_cons_self)]
        refine
          ⟨rest, extension, held.right,
            fun other member => others other (List.mem_cons_of_mem _ member),
            named, ?_, ?_⟩
        · rw [List.length_append]
          omega
        · omega
  · rintro ⟨first, held, inside, goesOn⟩
    split at goesOn
    next named =>
      exact
        ⟨[], first, held, fun _ none => absurd none List.not_mem_nil,
          named, inside, goesOn⟩
    next unnamed =>
      obtain ⟨skipped, extension, rest, others, named, covered, fits⟩ :=
        goesOn
      have joined : Element.encodeAll (first :: skipped) ++
          extension.encode = first.encode ++
            (Element.encodeAll skipped ++ extension.encode) := by
        rw [Element.encodeAll_cons, List.append_assoc]
      refine
        ⟨first :: skipped, extension, ?_,
          List.forall_mem_cons.mpr ⟨unnamed, others⟩, named, ?_, ?_⟩
      · rw [joined]
        exact holds_append.mpr ⟨held, rest⟩
      · rw [joined, List.length_append]
        omega
      · rw [Element.encodeAll_cons, List.length_append]
        omega

/-- Such extensions are all the loop can find. -/
theorem findSni_isSome_iff (within : extEnd ≤ data.length)
    (fuelled : extEnd ≤ p + fuel) :
    (findSni data extEnd fuel p).isSome = true ↔
      NamesServer data extEnd p := by
  induction fuel generalizing p with
  | zero =>
      rw [findSni, namesServer_iff]
      refine iff_of_false Bool.false_ne_true ?_
      rintro ⟨first, _, inside, _⟩
      rw [Element.encode_length] at inside
      omega
  | succ fuel ih =>
      have round {first : Extension} (held : Holds data p first.encode)
          (inside : p + first.encode.length ≤ extEnd) :
          (findSni data extEnd (fuel + 1) p).isSome = true ↔
            if Names first then
              p + 9 + field 3 2 first.body ≤ extEnd
            else
              NamesServer data extEnd (p + first.encode.length) := by
        have four : 4 ≤ first.encode.length := by
          rw [Element.encode_length]
          omega
        have later := @ih (p + first.encode.length) (by omega)
        rw [findSni_held held inside, ← later]
        by_cases named : Names first
        · rw [if_pos named, if_pos named]
          simp only
          split
          next short => exact iff_of_false Bool.false_ne_true (by omega)
          next fits => exact iff_of_true rfl (by omega)
        · rw [if_neg named, if_neg named]
      rw [namesServer_iff]
      constructor
      · intro found
        have covered :
            p + (2 + (2 + field (p + 2) 2 data)) ≤ extEnd := by
          rw [findSni] at found
          split at found
          · cases found
          · simp only at found
            split at found
            · cases found
            · omega
        obtain ⟨first, held, _, size⟩ :=
          @Element.exists_held 2 2 data p (covered.trans within)
        have inside : p + first.encode.length ≤ extEnd := by
          rw [Element.encode_length, size]
          exact covered
        exact ⟨first, held, inside, (round held inside).mp found⟩
      · rintro ⟨first, held, inside, goesOn⟩
        exact (round held inside).mpr goesOn

/-- Only the end of the data matters. -/
theorem namesServer_drop {at_ : Nat} {tail : List UInt8}
    (behind : data.drop at_ = tail) :
    NamesServer data (at_ + extEnd) (at_ + p) ↔
      NamesServer tail extEnd p := by
  have held {bytes : List UInt8} :
      Holds data (at_ + p) bytes ↔ Holds tail p bytes := by
    rw [Holds, Holds, ← List.drop_drop, behind]
  simp only [NamesServer, held, Nat.add_assoc, Nat.add_le_add_iff_left]

end Named

/-! ## Well-formed messages -/

/-- The bytes begin with a list of extensions, a server name among them. -/
def BeginsWithServerName (bytes : List UInt8) : Prop :=
  2 + field 0 2 bytes ≤ bytes.length ∧
    NamesServer bytes (2 + field 0 2 bytes) 2

section Messages

variable (hello : ClientHello) (version : Nat) (trailing : List UInt8)

theorem getTlsSNI_of_extensions {list : List ClientExtension}
    (present : hello.extensions = some list) :
    getTlsSNI (hello.record version ++ trailing) = hello.hostName := by
  have short := hello.extensions_length list present
  have shape : hello.encodeExtensions =
      bytesOf 2 (ClientExtension.encodeAll list).length ++
        ClientExtension.encodeAll list := by
    rw [ClientHello.encodeExtensions, present]
  have held : Holds (hello.record version ++ trailing)
      (extensionsAt hello) hello.encodeExtensions :=
    ⟨trailing, (drop_extensionsAt hello version trailing).symm⟩
  have size := length_record hello version trailing
  have covers : hello.encodeExtensions.length =
      2 + (ClientExtension.encodeAll list).length := by
    rw [shape, List.length_append, bytesOf_length]
  rw [covers] at size
  rw [shape] at held
  have extTotal :
      field (extensionsAt hello) 2 (hello.record version ++ trailing) =
        (ClientExtension.encodeAll list).length :=
    held.left.field.trans (Nat.mod_eq_of_lt short)
  have extensions := held.right
  rw [bytesOf_length] at extensions
  rw [getTlsSNI_record, if_neg (by omega)]
  simp only [extTotal]
  rw [if_neg (by omega),
    findSni_extensions extensions (by omega) (by omega),
    ClientHello.hostName, present, Option.getD_some]

/-- Without a list of extensions, what is behind the message is taken for
one. -/
theorem getTlsSNI_of_none (absent : hello.extensions = none) :
    (getTlsSNI (hello.record version ++ trailing)).isSome = true ↔
      BeginsWithServerName trailing := by
  have noBytes : hello.encodeExtensions = [] := by
    rw [ClientHello.encodeExtensions, absent]
  have behind := drop_extensionsAt hello version trailing
  have size := length_record hello version trailing
  rw [noBytes, List.nil_append] at behind
  rw [noBytes, List.length_nil, Nat.zero_add] at size
  have extTotal :
      field (extensionsAt hello) 2 (hello.record version ++ trailing) =
        field 0 2 trailing := by
    rw [field, field, behind, List.drop_zero]
  rw [getTlsSNI_record, BeginsWithServerName, extTotal]
  by_cases header : trailing.length < 2
  · rw [if_pos (by omega)]
    exact iff_of_false Bool.false_ne_true fun covered => by omega
  rw [if_neg (by omega)]
  simp only
  by_cases covered : trailing.length < 2 + field 0 2 trailing
  · rw [if_pos (by omega)]
    exact iff_of_false Bool.false_ne_true fun both => by omega
  rw [if_neg (by omega), findSni_isSome_iff (by omega) (by omega),
    Nat.add_assoc, namesServer_drop behind]
  exact (and_iff_right (Nat.le_of_not_lt covered)).symm

/-- What is found is what the message says, unless it has no list of
extensions and one with a server name in it comes behind it. -/
theorem clientHello_found_iff :
    (getTlsSessionId (hello.record version ++ trailing) =
          hello.sessionId ∧
        getTlsSNI (hello.record version ++ trailing) =
          hello.hostName) ↔
      (hello.extensions.isSome = true ∨
        ¬BeginsWithServerName trailing) := by
  rw [getTlsSessionId_record, eq_self, true_and]
  cases extensions : hello.extensions with
  | some list =>
      exact iff_of_true
        (getTlsSNI_of_extensions hello version trailing extensions)
        (Or.inl rfl)
  | none =>
      have found := getTlsSNI_of_none hello version trailing extensions
      have nothing : hello.hostName = none := by
        rw [ClientHello.hostName, extensions]
        rfl
      rw [nothing, ← found]
      simp

end Messages

/-- A message without extensions, and the bytes of a server name of one letter
behind its record. -/
theorem clientHello_found_fails :
    let hello : ClientHello :=
      { legacyVersion := 0x0303
        random := List.replicate 32 7
        sessionId := []
        cipherSuites := [0x00, 0x2F]
        compressionMethods := [0]
        extensions := none
        random_length := by decide
        sessionId_length := by decide
        cipherSuites_length := by decide
        compressionMethods_length := by decide
        extensions_length := by simp }
    hello.hostName = none ∧
      getTlsSNI (hello.record 0x0301 ++
        [0, 10, 0, 0, 0, 6, 0, 4, 0, 0, 1, 0x61]) = some [0x61] := by
  decide

end Fptn.Network.ClientHello
