import Fptn.Lib.DomainName
import Fptn.Network.Dns

/-!
# The names in DNS messages

`ParseDnsName` follows labels and pointers as long as it can, and returns the
labels it has met until then.  Whether the root has been reached does not
matter: a message which ends in the middle of a name has the name's first part
for a domain.  The names which are reported are those of the messages exactly
if each name that begins is complete within the first 128 labels and pointers.
-/

namespace Fptn.Network.DnsNames

open Fptn.DomainName
open Fptn.Network.ChecksumValue
open Fptn.Network.Dns
open Fptn.Network.Packet

/-! ## Bytes of a packet -/

section Memory

variable {memory : Nat → UInt8} {offset : Nat} {bytes : List UInt8}

theorem bytesAt_of_storedAt (stored : StoredAt memory offset bytes) :
    bytesAt memory offset bytes.length = bytes := by
  induction bytes generalizing offset with
  | nil => rfl
  | cons byte rest ih =>
      rw [List.length_cons, bytesAt, stored.1, ih stored.2]

end Memory

/-! ## What is collected -/

/-- A name with one label more. -/
def withLabel (name bytes : List UInt8) : List UInt8 :=
  (if name.isEmpty then name else name ++ [0x2E]) ++ bytes

def withLabels (name : List UInt8) (labels : List Label) : List UInt8 :=
  labels.foldl (fun name label => withLabel name label.bytes) name

theorem withLabels_of_ne_nil {name : List UInt8} (nonempty : name ≠ [])
    (labels : List Label) :
    withLabels name labels =
      name ++ labels.flatMap fun label => 0x2E :: label.bytes := by
  induction labels generalizing name with
  | nil => simp [withLabels]
  | cons label rest ih =>
      have next : withLabel name label.bytes =
          name ++ 0x2E :: label.bytes := by
        simp [withLabel, nonempty]
      have tail := @ih (name ++ 0x2E :: label.bytes) (by simp)
      rw [withLabels, List.foldl_cons, next]
      rw [withLabels] at tail
      rw [tail, List.flatMap_cons, List.append_assoc]

theorem withLabels_nil (labels : List Label) :
    withLabels [] labels = joined labels := by
  cases labels with
  | nil => rfl
  | cons label rest =>
      rw [joined_cons]
      exact withLabels_of_ne_nil label.nonempty rest

section Loop

variable {data : IPPacketData} {base ptr cur rounds steps middle last : Nat}
  {name : List UInt8} {jumped : Bool} {labels : List Label}

/-- The loop goes where labels and pointers lead. -/
theorem parseDnsNameLoop_leads
    (leads : Leads data.memory data.size base steps ptr labels middle) :
    ∃ jumpedThen curThen,
      parseDnsNameLoop data base (steps + rounds) ⟨ptr, name, jumped, cur⟩ =
        parseDnsNameLoop data base rounds
          ⟨middle, withLabels name labels, jumpedThen, curThen⟩ := by
  induction leads generalizing name jumped cur with
  | here offset => exact ⟨jumped, cur, by rw [Nat.zero_add]; rfl⟩
  | @label steps offset last labels label stored inside rest ih =>
      obtain ⟨notZero, noBits, length⟩ := label.length_byte
      have first : data.memory offset = _ := stored.1
      have bytes := bytesAt_of_storedAt stored.2
      have notPointer : ¬(0 : UInt8) = 0xC0 := by decide
      rw [Label.length_encode] at inside
      obtain ⟨jumpedThen, curThen, same⟩ :=
        @ih cur (withLabel name label.bytes) jumped
      refine ⟨jumpedThen, curThen, ?_⟩
      rw [Nat.add_right_comm, parseDnsNameLoop, if_neg (by omega)]
      simp only [first, notZero, noBits, notPointer, length, bytes, if_false]
      rw [if_neg (by omega), Nat.add_assoc, Nat.add_comm 1]
      exact same
  | @pointer steps offset last labels pointer stored inside rest ih =>
      obtain ⟨notZero, bits, high⟩ := pointer.first_byte
      have first : data.memory offset = _ := stored.1
      have second : data.memory (offset + 1) = _ := stored.2.1
      have target :
          (UInt8.ofNat (0xC0 + pointer.target / 256) &&& 0x3F).toNat <<< 8 |||
              (UInt8.ofNat (pointer.target % 256)).toNat =
            pointer.target := by
        rw [shiftLeft_or_byte, high, UInt8.toNat_ofNat']
        omega
      obtain ⟨jumpedThen, curThen, same⟩ :=
        @ih (if jumped then cur else offset + 2) name true
      refine ⟨jumpedThen, curThen, ?_⟩
      rw [Nat.add_right_comm, parseDnsNameLoop, if_neg (by omega)]
      simp only [first, second, notZero, bits, target, if_false, if_true]
      rw [if_neg (by omega)]
      exact same

/-- Pointers to the root add nothing, however many rounds there are. -/
theorem parseDnsNameLoop_nil
    (decodes : Decodes data.memory data.size base ptr []) :
    (parseDnsNameLoop data base rounds ⟨ptr, name, jumped, cur⟩).1 =
      name := by
  obtain ⟨steps, last, leads, inside, root⟩ := decodes
  by_cases enough : steps ≤ rounds
  · obtain ⟨more, rfl⟩ := Nat.exists_eq_add_of_le enough
    obtain ⟨jumpedThen, curThen, same⟩ :=
      @parseDnsNameLoop_leads data base ptr cur more steps last name jumped
        [] leads
    rw [same]
    cases more with
    | zero => rfl
    | succ more =>
        rw [parseDnsNameLoop, if_neg (by omega)]
        simp only [root, if_true]
        rfl
  · obtain ⟨more, rfl⟩ := Nat.exists_eq_add_of_le (Nat.le_of_not_le enough)
    obtain ⟨front, back, middle, empty, first, -⟩ := leads.split
    obtain ⟨rfl, rfl⟩ := List.append_eq_nil_iff.mp empty.symm
    obtain ⟨jumpedThen, curThen, same⟩ :=
      @parseDnsNameLoop_leads data base ptr cur 0 rounds middle name jumped
        [] first
    rw [Nat.add_zero] at same
    rw [same]
    rfl

/-- A name never gets shorter. -/
theorem length_le_parseDnsNameLoop :
    name.length ≤
      (parseDnsNameLoop data base rounds ⟨ptr, name, jumped, cur⟩).1.length
      := by
  induction rounds generalizing ptr name jumped cur with
  | zero => exact Nat.le_refl _
  | succ rounds ih =>
      have longer : name.length ≤
          (withLabel name
            (bytesAt data.memory (ptr + 1) (data.memory ptr).toNat)).length
          := by
        rw [withLabel, List.length_append]
        split
        · exact Nat.le_add_right _ _
        · rw [List.length_append]
          omega
      rw [parseDnsNameLoop]
      split
      · exact Nat.le_refl _
      · dsimp only
        split
        · exact Nat.le_refl _
        · split
          · split
            · exact Nat.le_refl _
            · exact ih
          · split
            · exact Nat.le_refl _
            · exact Nat.le_trans longer ih

/-- A label of some length is read here; whether its length is a legal one is
not looked at. -/
structure LabelAt (memory : Nat → UInt8) (size offset : Nat) : Prop where
  notRoot : memory offset ≠ 0
  notPointer : memory offset &&& 0xC0 ≠ 0xC0
  inside : offset + 1 + (memory offset).toNat ≤ size

/-- Pointers lead to a first label before the rounds are over. -/
def Begins (memory : Nat → UInt8) (size base rounds offset : Nat) : Prop :=
  ∃ steps last, steps < rounds ∧
    Leads memory size base steps offset [] last ∧ LabelAt memory size last

/-- All labels are met before the rounds are over, and the root comes after
them. -/
def Complete (memory : Nat → UInt8) (size base rounds offset : Nat) :
    Prop :=
  ∃ steps labels last, steps ≤ rounds ∧
    Leads memory size base steps offset labels last ∧
    Decodes memory size base last []

/-- Without a first label there is no name. -/
theorem begins_of_parseDnsNameLoop
    (found :
      (parseDnsNameLoop data base rounds ⟨ptr, [], jumped, cur⟩).1 ≠ []) :
    Begins data.memory data.size base rounds ptr := by
  induction rounds generalizing ptr jumped cur with
  | zero => exact absurd rfl found
  | succ rounds ih =>
      rw [parseDnsNameLoop] at found
      split at found
      · exact absurd rfl found
      · dsimp only at found
        split at found
        · exact absurd rfl found
        case isFalse notRoot =>
          split at found
          case isTrue bits =>
            split at found
            · exact absurd rfl found
            case isFalse fits =>
              obtain ⟨steps, last, before, leads, label⟩ := ih found
              obtain ⟨pointer, encoded, target⟩ :=
                exists_pointer bits (data.memory (ptr + 1))
              rw [shiftLeft_or_byte, ← target] at leads
              refine
                ⟨steps + 1, last, Nat.succ_lt_succ before,
                  .pointer pointer ?_ (Nat.le_of_not_lt fits) leads, label⟩
              rw [encoded]
              exact ⟨rfl, rfl, trivial⟩
          case isFalse notPointer =>
            split at found
            · exact absurd rfl found
            case isFalse fits =>
              exact
                ⟨0, ptr, Nat.succ_pos rounds, .here ptr,
                  notRoot, notPointer, Nat.le_of_not_lt fits⟩

/-- With a first label there is one. -/
theorem parseDnsNameLoop_of_begins
    (begins : Begins data.memory data.size base rounds ptr) :
    (parseDnsNameLoop data base rounds ⟨ptr, [], jumped, cur⟩).1 ≠ [] := by
  obtain ⟨steps, last, before, leads, label⟩ := begins
  obtain ⟨more, rfl⟩ := Nat.exists_eq_add_of_lt before
  obtain ⟨jumpedThen, curThen, same⟩ :=
    @parseDnsNameLoop_leads data base ptr cur (more + 1) steps last []
      jumped [] leads
  have positive : 0 < (data.memory last).toNat :=
    Nat.pos_of_ne_zero fun zero => label.notRoot (UInt8.toNat_inj.mp zero)
  have inside := label.inside
  have longer := @length_le_parseDnsNameLoop data base
    (last + 1 + (data.memory last).toNat) curThen more
    (withLabel []
      (bytesAt data.memory (last + 1) (data.memory last).toNat)) jumpedThen
  rw [Nat.add_assoc, same, parseDnsNameLoop, if_neg (by omega)]
  simp only [label.notRoot, label.notPointer, if_false]
  rw [if_neg (by omega), ← List.length_pos_iff]
  refine Nat.lt_of_lt_of_le ?_ longer
  simpa [withLabel] using positive

/-- The name is the one at the pointer, if this is complete. -/
theorem parseDnsNameLoop_of_complete
    (complete : Complete data.memory data.size base rounds ptr) :
    ∃ labels, Decodes data.memory data.size base ptr labels ∧
      (parseDnsNameLoop data base rounds ⟨ptr, [], jumped, cur⟩).1 =
        joined labels := by
  obtain ⟨steps, labels, middle, enough, leads, ending⟩ := complete
  obtain ⟨more, rfl⟩ := Nat.exists_eq_add_of_le enough
  obtain ⟨jumpedThen, curThen, same⟩ :=
    @parseDnsNameLoop_leads data base ptr cur more steps middle [] jumped
      labels leads
  have name := @parseDnsNameLoop_nil data base middle curThen more
    (withLabels [] labels) jumpedThen ending
  obtain ⟨later, last, rest, root⟩ := ending
  refine ⟨labels, ⟨steps + later, last, ?_, root⟩, ?_⟩
  · simpa using leads.trans rest
  · rw [same, name, withLabels_nil]

/-- It is complete, if the name is the one at the pointer. -/
theorem complete_of_parseDnsNameLoop
    (begins : Begins data.memory data.size base rounds ptr)
    (decodes : Decodes data.memory data.size base ptr labels)
    (name :
      (parseDnsNameLoop data base rounds ⟨ptr, [], jumped, cur⟩).1 =
        joined labels) :
    Complete data.memory data.size base rounds ptr := by
  obtain ⟨steps, last, leads, root⟩ := decodes
  by_cases enough : steps ≤ rounds
  · exact
      ⟨steps, labels, last, enough, leads, 0, last, .here last, root⟩
  · obtain ⟨more, rfl⟩ := Nat.exists_eq_add_of_le (Nat.le_of_not_le enough)
    obtain ⟨front, back, middle, rfl, first, second⟩ := leads.split
    obtain ⟨jumpedThen, curThen, same⟩ :=
      @parseDnsNameLoop_leads data base ptr cur 0 rounds middle [] jumped
        front first
    have collected :
        (parseDnsNameLoop data base rounds ⟨ptr, [], jumped, cur⟩).1 =
          joined front := by
      rw [Nat.add_zero] at same
      rw [same, parseDnsNameLoop, withLabels_nil]
    have nonempty : front ≠ [] := by
      rintro rfl
      exact parseDnsNameLoop_of_begins begins collected
    obtain rfl : back = [] :=
      eq_nil_of_joined_append nonempty (name.symm.trans collected)
    exact
      ⟨rounds, front, middle, Nat.le_refl rounds, first, more, last, second,
        root⟩

end Loop

/-! ## The domain of a packet -/

/-- A name as it is returned: some builds convert names with `xn--`. -/
def shown (toUnicode : Option (List UInt8 → List UInt8))
    (name : List UInt8) : List UInt8 :=
  match toUnicode with
  | some convert => if isPunycode name then convert name else name
  | none => name

/-- A domain which is returned is the name of the question. -/
def Reported (toUnicode : Option (List UInt8 → List UInt8))
    (data : IPPacketData) : Prop :=
  ∀ name, getDnsDomain data toUnicode = some name →
    ∃ dns labels, dnsPtr data = some dns ∧
      Decodes data.memory data.size dns (dns + kDnsHdr) labels ∧
        name = shown toUnicode (joined labels)

/-- If the name of the question begins, it is complete within the first 128
labels and pointers. -/
def Whole (data : IPPacketData) : Prop :=
  ∀ dns, dnsPtr data = some dns → word data.memory (dns + 4) ≠ 0 →
    Begins data.memory data.size dns 128 (dns + kDnsHdr) →
      Complete data.memory data.size dns 128 (dns + kDnsHdr)

variable {data : IPPacketData} {dns : Nat}

theorem getDnsDomain_eq (found : dnsPtr data = some dns)
    (toUnicode : Option (List UInt8 → List UInt8)) :
    getDnsDomain data toUnicode =
      if word data.memory (dns + 4) = 0 ∨
          (parseDnsName data dns (dns + kDnsHdr)).1 = [] then
        none
      else
        some (shown toUnicode (parseDnsName data dns (dns + kDnsHdr)).1) :=
    by
  rw [getDnsDomain, found]
  dsimp only
  by_cases noQuestion : word data.memory (dns + 4) = 0
  · rw [if_pos noQuestion, if_pos (Or.inl noQuestion)]
  · rw [if_neg noQuestion]
    by_cases noName : (parseDnsName data dns (dns + kDnsHdr)).1 = []
    · rw [if_pos (List.isEmpty_iff.mpr noName), if_pos (Or.inr noName)]
    · rw [if_neg (mt List.isEmpty_iff.mp noName),
        if_neg (not_or.mpr ⟨noQuestion, noName⟩)]
      cases toUnicode with
      | none => rfl
      | some convert => rfl

theorem reported_of_whole (whole : Whole data)
    (toUnicode : Option (List UInt8 → List UInt8)) :
    Reported toUnicode data := by
  intro name returned
  cases found : dnsPtr data with
  | none => simp [getDnsDomain, found] at returned
  | some dns =>
      rw [getDnsDomain_eq found] at returned
      split at returned
      · cases returned
      case isFalse some =>
        obtain ⟨question, named⟩ := not_or.mp some
        obtain ⟨labels, decodes, same⟩ := parseDnsNameLoop_of_complete
          (whole dns found question (begins_of_parseDnsNameLoop named))
        refine ⟨dns, labels, rfl, decodes, ?_⟩
        rw [← Option.some.inj returned, parseDnsName, same]

theorem whole_of_reported (reported : Reported none data) : Whole data := by
  intro dns found question begins
  have named : (parseDnsName data dns (dns + kDnsHdr)).1 ≠ [] :=
    parseDnsNameLoop_of_begins begins
  have returned := getDnsDomain_eq found none
  rw [if_neg (not_or.mpr ⟨question, named⟩)] at returned
  obtain ⟨other, labels, same, decodes, name⟩ := reported _ returned
  obtain rfl := Option.some.inj (found.symm.trans same)
  exact complete_of_parseDnsNameLoop begins decodes name

/-- The domains returned are the names of the questions exactly if a name
which begins is complete.  This holds with names returned as they are, and
with a conversion of some names. -/
theorem reported_iff (data : IPPacketData) :
    (Reported none data ↔ Whole data) ∧
      ((∀ toUnicode, Reported toUnicode data) ↔ Whole data) :=
  ⟨⟨whole_of_reported, fun whole => reported_of_whole whole none⟩,
    fun reported => whole_of_reported (reported none), reported_of_whole⟩

/-- A question for `mail.ex…`, of which the packet has eight bytes only. -/
def cutPacket : IPPacketData :=
  let bytes : List UInt8 :=
    [0x45, 0, 0, 0, 0, 0, 0, 0, 64, 17, 0, 0, 10, 0, 0, 1, 10, 0, 0, 2] ++
      ([0x30, 0x39, 0, 53, 0, 0, 0, 0] ++
        ([0, 7, 1, 0, 0, 1, 0, 0, 0, 0, 0, 0] ++
          [4, 0x6D, 0x61, 0x69, 0x6C, 7, 0x65, 0x78]))
  ⟨bytes.length, fun offset => bytes.getD offset 0⟩

/-- The domain of the question which has been cut is `mail`. -/
theorem getDnsDomain_cut :
    ¬∀ (buffer : IPPacketData) (clientId : UInt64) (packet : IPPacket),
      parse buffer clientId = some packet → Reported none packet.data := by
  intro all
  have reported := all cutPacket 0 ⟨cutPacket, 0⟩ rfl
  have returned : getDnsDomain cutPacket none =
      some [0x6D, 0x61, 0x69, 0x6C] := by decide
  obtain ⟨dns, labels, found, ⟨steps, last, leads, inside, root⟩, -⟩ :=
    reported _ returned
  obtain rfl : 28 = dns := Option.some.inj (by rw [← found]; decide)
  rcases leads.behind (by decide) with rfl | ⟨-, fewer, rest, later⟩
  · revert root
    decide
  · rcases later.behind (by decide) with rfl | ⟨fits, -⟩
    · revert root
      decide
    · revert fits
      decide

end Fptn.Network.DnsNames
