import Fptn.Lib.BigEndian

/-!
# The presentation of TLS messages

Handshake messages and their extensions are elements of one shape: a number
which says what it is, a length, and a body of that length.  They differ in
how many bytes the two numbers take.  Elements are written one after the
other, without anything between them.

What is said about reading is said at an offset in some data, so that it does
not matter what lies around an element.
-/

namespace Fptn.TlsWire

open Fptn.BigEndian

/-! ## Bytes at an offset -/

/-- The data has these bytes at an offset. -/
def Holds (data : List UInt8) (offset : Nat) (bytes : List UInt8) : Prop :=
  bytes <+: data.drop offset

section Holds

variable {data bytes front back : List UInt8} {offset : Nat}

theorem holds_append :
    Holds data offset (front ++ back) ↔
      Holds data offset front ∧
        Holds data (offset + front.length) back := by
  constructor
  · rintro ⟨rest, equal⟩
    rw [List.append_assoc] at equal
    refine ⟨⟨back ++ rest, equal⟩, rest, ?_⟩
    rw [← List.drop_drop, ← equal, List.drop_left]
  · rintro ⟨⟨behind, equal⟩, rest, behindEqual⟩
    rw [← List.drop_drop, ← equal, List.drop_left] at behindEqual
    exact ⟨rest, by rw [List.append_assoc, behindEqual, equal]⟩

theorem Holds.left (holds : Holds data offset (front ++ back)) :
    Holds data offset front :=
  (holds_append.mp holds).1

theorem Holds.right (holds : Holds data offset (front ++ back)) :
    Holds data (offset + front.length) back :=
  (holds_append.mp holds).2

theorem holds_of_append (there : front.length = offset) :
    Holds (front ++ (bytes ++ back)) offset bytes :=
  ⟨back, (List.drop_left' there).symm⟩

theorem Holds.take_drop (holds : Holds data offset bytes) :
    (data.drop offset).take bytes.length = bytes :=
  (List.prefix_iff_eq_take.mp holds).symm

theorem Holds.within (holds : Holds data offset bytes)
    (inside : offset ≤ data.length) :
    offset + bytes.length ≤ data.length := by
  have short := List.IsPrefix.length_le holds
  rw [List.length_drop] at short
  omega

theorem Holds.trans (holds : Holds data offset bytes) {at_ : Nat}
    (inner : Holds bytes at_ front) : Holds data (offset + at_) front := by
  obtain ⟨rest, equal⟩ := holds
  rw [Holds, ← List.drop_drop, ← equal, List.drop_append]
  exact List.IsPrefix.trans inner (List.prefix_append _ _)

/-- A field of what is held is a field of the data. -/
theorem Holds.field_eq (holds : Holds data offset bytes) {at_ width : Nat}
    (inside : at_ + width ≤ bytes.length) :
    field (offset + at_) width data = field at_ width bytes := by
  obtain ⟨rest, equal⟩ := holds
  rw [field, field, ← List.drop_drop, ← equal,
    List.drop_append_of_le_length (by omega),
    List.take_append_of_le_length (by rw [List.length_drop]; omega)]

/-- A number which is held can be read. -/
theorem Holds.field {width value : Nat}
    (holds : Holds data offset (bytesOf width value)) :
    BigEndian.field offset width data = value % 256 ^ width := by
  obtain ⟨rest, equal⟩ := holds
  rw [BigEndian.field, ← equal,
    List.take_left' (bytesOf_length width value), valueOf_bytesOf]

theorem holds_take_drop {count : Nat} :
    Holds data offset ((data.drop offset).take count) :=
  List.take_prefix count _

/-- What is in a field is held there. -/
theorem holds_field {width : Nat} (inside : offset + width ≤ data.length) :
    Holds data offset
      (bytesOf width (BigEndian.field offset width data)) := by
  have length : ((data.drop offset).take width).length = width := by
    rw [List.length_take, List.length_drop]
    omega
  have same := bytesOf_valueOf ((data.drop offset).take width)
  rw [length] at same
  rw [BigEndian.field, same]
  exact holds_take_drop

end Holds

/-! ## Elements -/

/-- A body behind a number that says what it is, and the body's length. -/
structure Element (tagWidth lengthWidth : Nat) where
  tag : Nat
  body : List UInt8
  tag_lt : tag < 256 ^ tagWidth
  length_lt : body.length < 256 ^ lengthWidth
deriving DecidableEq

namespace Element

variable {tagWidth lengthWidth : Nat}

def encode (element : Element tagWidth lengthWidth) : List UInt8 :=
  bytesOf tagWidth element.tag ++
    (bytesOf lengthWidth element.body.length ++ element.body)

def encodeAll (elements : List (Element tagWidth lengthWidth)) :
    List UInt8 :=
  elements.flatMap encode

@[simp]
theorem encode_length (element : Element tagWidth lengthWidth) :
    element.encode.length =
      tagWidth + (lengthWidth + element.body.length) := by
  simp [encode]

@[simp]
theorem encodeAll_nil :
    encodeAll ([] : List (Element tagWidth lengthWidth)) = [] :=
  rfl

@[simp]
theorem encodeAll_cons (element : Element tagWidth lengthWidth)
    (rest : List (Element tagWidth lengthWidth)) :
    encodeAll (element :: rest) = element.encode ++ encodeAll rest :=
  List.flatMap_cons

@[simp]
theorem encodeAll_append (front back : List (Element tagWidth lengthWidth)) :
    encodeAll (front ++ back) = encodeAll front ++ encodeAll back :=
  List.flatMap_append

variable {data : List UInt8} {offset : Nat}

section Held

variable {element : Element tagWidth lengthWidth}

theorem field_tag (held : Holds data offset element.encode) :
    field offset tagWidth data = element.tag :=
  held.left.field.trans (Nat.mod_eq_of_lt element.tag_lt)

theorem field_length (held : Holds data offset element.encode) :
    field (offset + tagWidth) lengthWidth data = element.body.length := by
  have rest := held.right
  rw [bytesOf_length] at rest
  exact rest.left.field.trans (Nat.mod_eq_of_lt element.length_lt)

theorem holds_body (held : Holds data offset element.encode) :
    Holds data (offset + (tagWidth + lengthWidth)) element.body := by
  have body := held.right.right
  rw [bytesOf_length, bytesOf_length, Nat.add_assoc] at body
  exact body

end Held

/-- Wherever a length is covered by the data, there is an element. -/
theorem exists_held
    (covered : offset + (tagWidth + (lengthWidth +
      field (offset + tagWidth) lengthWidth data)) ≤ data.length) :
    ∃ element : Element tagWidth lengthWidth,
      Holds data offset element.encode ∧
        element.tag = field offset tagWidth data ∧
          element.body.length =
            field (offset + tagWidth) lengthWidth data := by
  have widthOf {at_ width : Nat} (inside : at_ + width ≤ data.length) :
      field at_ width data < 256 ^ width := by
    have length : ((data.drop at_).take width).length = width := by
      rw [List.length_take, List.length_drop]
      omega
    exact (valueOf_lt _).trans_eq (by rw [length])
  let body := (data.drop (offset + tagWidth + lengthWidth)).take
    (field (offset + tagWidth) lengthWidth data)
  have length : body.length =
      field (offset + tagWidth) lengthWidth data := by
    rw [List.length_take, List.length_drop]
    omega
  refine
    ⟨⟨field offset tagWidth data, body, widthOf (by omega),
      length.trans_lt (widthOf (by omega))⟩, ?_, rfl, length⟩
  refine holds_append.mpr ⟨holds_field (by omega), ?_⟩
  refine holds_append.mpr ⟨?_, ?_⟩
  · rw [bytesOf_length, length]
    exact holds_field (by omega)
  · rw [bytesOf_length, bytesOf_length]
    exact holds_take_drop

end Element

/-- An extension of a hello: a type and a length of two bytes each. -/
abbrev Extension := Element 2 2

/-- A handshake message: a type of one byte and a length of three. -/
abbrev Message := Element 1 3

/-! ## The ClientHello -/

/-- An entry of a list of server names: a type and the name. -/
abbrev ServerName := Element 1 2

/-- The extensions which a client sends.  A list of server names is not
empty. -/
inductive ClientExtension where
  | serverName (first : ServerName) (others : List ServerName)
      (fits : 2 + (Element.encodeAll (first :: others)).length < 65536)
  | other (extension : Extension) (known : extension.tag ≠ 0)

namespace ClientExtension

def toExtension : ClientExtension → Extension
  | serverName first others fits =>
      let names := Element.encodeAll (first :: others)
      { tag := 0
        body := bytesOf 2 names.length ++ names
        tag_lt := by decide
        length_lt := by
          rw [List.length_append, bytesOf_length]
          exact fits }
  | other extension _ => extension

theorem serverName_length {first : ServerName} {others : List ServerName}
    {fits : 2 + (Element.encodeAll (first :: others)).length < 65536} :
    (serverName first others fits).toExtension.body.length =
      5 + first.body.length + (Element.encodeAll others).length := by
  simp only [toExtension, List.length_append, bytesOf_length,
    Element.encodeAll_cons, Element.encode_length]
  omega

theorem holds_first {first : ServerName} {others : List ServerName}
    {fits : 2 + (Element.encodeAll (first :: others)).length < 65536} :
    Holds (serverName first others fits).toExtension.body 2
      first.encode := by
  have shape : (serverName first others fits).toExtension.body =
      bytesOf 2 (Element.encodeAll (first :: others)).length ++
        (first.encode ++ Element.encodeAll others) := rfl
  rw [shape]
  exact holds_of_append (bytesOf_length 2 _)

/-- The first entry of the list. -/
def hostName : ClientExtension → Option (List UInt8)
  | serverName first _ _ => some first.body
  | other _ _ => none

def encodeAll (extensions : List ClientExtension) : List UInt8 :=
  Element.encodeAll (extensions.map toExtension)

@[simp]
theorem encodeAll_cons (extension : ClientExtension)
    (rest : List ClientExtension) :
    encodeAll (extension :: rest) =
      extension.toExtension.encode ++ encodeAll rest :=
  Element.encodeAll_cons _ _

end ClientExtension

/-- A client which has no extensions to send may leave out their list. -/
structure ClientHello where
  legacyVersion : Nat
  random : List UInt8
  sessionId : List UInt8
  cipherSuites : List UInt8
  compressionMethods : List UInt8
  extensions : Option (List ClientExtension)
  random_length : random.length = 32
  sessionId_length : sessionId.length ≤ 32
  cipherSuites_length : cipherSuites.length < 65536
  compressionMethods_length : compressionMethods.length < 256
  extensions_length : ∀ list ∈ extensions,
    (ClientExtension.encodeAll list).length < 65536

namespace ClientHello

variable (hello : ClientHello)

def hostName : Option (List UInt8) :=
  (hello.extensions.getD []).findSome? ClientExtension.hostName

def encodeExtensions : List UInt8 :=
  match hello.extensions with
  | none => []
  | some list =>
      bytesOf 2 (ClientExtension.encodeAll list).length ++
        ClientExtension.encodeAll list

/-- From the length of the session id on. -/
def encodeVectors : List UInt8 :=
  bytesOf 1 hello.sessionId.length ++ (hello.sessionId ++
    (bytesOf 2 hello.cipherSuites.length ++ (hello.cipherSuites ++
      (bytesOf 1 hello.compressionMethods.length ++
        (hello.compressionMethods ++ hello.encodeExtensions)))))

def encodeBody : List UInt8 :=
  bytesOf 2 hello.legacyVersion ++ (hello.random ++ hello.encodeVectors)

/-- The message in a record of its own. -/
def record (version : Nat) : List UInt8 :=
  let message := [1] ++ (bytesOf 3 hello.encodeBody.length ++
    hello.encodeBody)
  [22] ++ (bytesOf 2 version ++ (bytesOf 2 message.length ++ message))

end ClientHello

/-! ## The ServerHello -/

structure ServerHello where
  legacyVersion : Nat
  random : List UInt8
  sessionId : List UInt8
  cipherSuite : Nat
  compressionMethod : Nat
  extensions : Option (List Extension)
  random_length : random.length = 32
  sessionId_length : sessionId.length ≤ 32
  extensions_length : ∀ list ∈ extensions,
    (Element.encodeAll list).length < 65536

/-- The extension `supported_versions` of a ServerHello, with TLS 1.3. -/
def SelectsTls13 (extension : Extension) : Prop :=
  extension.tag = 0x002b ∧ 2 ≤ extension.body.length ∧
    field 0 2 extension.body = 0x0304

instance (extension : Extension) : Decidable (SelectsTls13 extension) :=
  inferInstanceAs (Decidable (_ ∧ _ ∧ _))

namespace ServerHello

variable (hello : ServerHello)

def encodeExtensions : List UInt8 :=
  match hello.extensions with
  | none => []
  | some list =>
      bytesOf 2 (Element.encodeAll list).length ++ Element.encodeAll list

theorem encodeExtensions_length :
    hello.encodeExtensions.length < 65538 := by
  cases extensions : hello.extensions with
  | none => simp [encodeExtensions, extensions]
  | some list =>
      have short := hello.extensions_length list extensions
      simp only [encodeExtensions, extensions, List.length_append,
        bytesOf_length]
      omega

def encodeBody : List UInt8 :=
  bytesOf 2 hello.legacyVersion ++ (hello.random ++
    (bytesOf 1 hello.sessionId.length ++ (hello.sessionId ++
      (bytesOf 2 hello.cipherSuite ++
        (bytesOf 1 hello.compressionMethod ++ hello.encodeExtensions)))))

theorem encodeBody_length :
    hello.encodeBody.length =
      38 + hello.sessionId.length + hello.encodeExtensions.length := by
  simp only [encodeBody, List.length_append, bytesOf_length,
    hello.random_length]
  omega

def toMessage : Message where
  tag := 2
  body := hello.encodeBody
  tag_lt := by decide
  length_lt := by
    have short := hello.sessionId_length
    have extensions := hello.encodeExtensions_length
    rw [encodeBody_length]
    exact (by omega : _ < 16777216).trans_eq (by norm_num)

end ServerHello

def serverHelloDone : Message where
  tag := 14
  body := []
  tag_lt := by decide
  length_lt := by decide

/-! ## Records -/

/-- A record of handshake messages.  Such a record is not empty. -/
structure HandshakeRecord where
  version : Nat
  fragment : List UInt8
  nonempty : fragment ≠ []
  short : fragment.length ≤ 16384

namespace HandshakeRecord

def encode (record : HandshakeRecord) : List UInt8 :=
  [22] ++ (bytesOf 2 record.version ++
    (bytesOf 2 record.fragment.length ++ record.fragment))

def encodeAll (records : List HandshakeRecord) : List UInt8 :=
  records.flatMap encode

@[simp]
theorem encode_length (record : HandshakeRecord) :
    record.encode.length = 5 + record.fragment.length := by
  simp only [encode, List.length_append, bytesOf_length,
    List.length_singleton]
  omega

@[simp]
theorem encodeAll_cons (record : HandshakeRecord)
    (rest : List HandshakeRecord) :
    encodeAll (record :: rest) = record.encode ++ encodeAll rest :=
  List.flatMap_cons

end HandshakeRecord

end Fptn.TlsWire
