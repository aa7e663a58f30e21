import Fptn.Lib.TlsWire
import Fptn.Network.ServerFlight
import Mathlib.Data.List.Forall2
import Mathlib.Data.List.Induction

/-!
# A server's flight in records

A TLS 1.2 server sends its flight as a sequence of handshake messages, and the
record layer cuts their bytes into records as it likes.
`IsServerHelloComplete` reads the messages of each record on its own.  What it
makes of a flight is thus a matter of what the single records read as.
-/

namespace Fptn.Network.FlightRecords

open Fptn.BigEndian
open Fptn.TlsWire
open Fptn.Network.ServerFlight

/-! ## Only what is inside matters -/

section Inside

variable {data bytes : List UInt8} {offset : Nat}

/-- A round of the loop over the extensions. -/
theorem offersTls13_round (held : Holds data offset bytes) {extEnd p : Nat}
    (inside : extEnd ≤ bytes.length) (enough : ¬extEnd < p + 4) :
    offersTls13 data (offset + extEnd) (offset + p) =
      if extEnd < p + 4 + field (p + 2) 2 bytes then
        false
      else if field p 2 bytes = 0x002b ∧ 2 ≤ field (p + 2) 2 bytes ∧
          field (p + 4) 2 bytes = 0x0304 then
        true
      else
        offersTls13 data (offset + extEnd)
          (offset + (p + 4 + field (p + 2) 2 bytes)) := by
  have extType : field (offset + p) 2 data = field p 2 bytes :=
    held.field_eq (by omega)
  have extLen : field (offset + (p + 2)) 2 data = field (p + 2) 2 bytes :=
    held.field_eq (by omega)
  rw [offersTls13, if_neg (by omega)]
  simp only [Nat.add_assoc, extType, extLen, Nat.add_lt_add_iff_left]
  split
  · rfl
  next fits =>
    have ver (long : 2 ≤ field (p + 2) 2 bytes) :
        field (offset + (p + 4)) 2 data = field (p + 4) 2 bytes :=
      held.field_eq (by omega)
    by_cases long : 2 ≤ field (p + 2) 2 bytes
    · rw [ver long]
    · simp only [long, false_and, and_false]

theorem offersTls13_held (held : Holds data offset bytes) {extEnd p : Nat}
    (inside : extEnd ≤ bytes.length) :
    offersTls13 data (offset + extEnd) (offset + p) =
      offersTls13 bytes extEnd p := by
  induction p using offersTls13.induct bytes extEnd with
  | case1 p short =>
      rw [offersTls13, offersTls13, if_pos short, if_pos (by omega)]
  | case2 p enough extLen cut =>
      rw [offersTls13_round held inside enough, if_pos cut,
        offersTls13.eq_def bytes, if_neg enough]
      exact (if_pos cut).symm
  | case3 p enough extType extLen fits chosen =>
      rw [offersTls13_round held inside enough, if_neg fits,
        if_pos chosen, offersTls13.eq_def bytes, if_neg enough]
      exact ((if_neg fits).trans (if_pos chosen)).symm
  | case4 p enough extType extLen fits other ih =>
      rw [offersTls13_round held inside enough, if_neg fits,
        if_neg other, ih, offersTls13.eq_def bytes extEnd p, if_neg enough]
      exact ((if_neg fits).trans (if_neg other)).symm

theorem isTls13ServerHello_held (held : Holds data offset bytes)
    (within : offset ≤ data.length) :
    isTls13ServerHello data offset bytes.length =
      isTls13ServerHello bytes 0 bytes.length := by
  have covered := held.within within
  simp only [isTls13ServerHello, Nat.zero_add]
  by_cases short : bytes.length < 36
  · rw [if_pos (Or.inr short), if_pos (Or.inr short)]
  have sidLen : field (offset + (2 + 32)) 1 data = field (2 + 32) 1 bytes :=
    held.field_eq (by omega)
  rw [if_neg (show ¬(data.length < offset + bytes.length ∨ _) by omega),
    if_neg (show ¬(bytes.length < bytes.length ∨ _) by omega),
    if_neg (show ¬offset + bytes.length ≤ _ by omega),
    if_neg (show ¬bytes.length ≤ _ by omega)]
  simp only [Nat.add_assoc, sidLen, Nat.add_lt_add_iff_left]
  split
  · rfl
  next fits =>
    have extTotal :
        field (offset + (2 + (32 + (1 + (field (2 + 32) 1 bytes +
          (2 + 1)))))) 2 data =
          field (2 + (32 + (1 + (field (2 + 32) 1 bytes + (2 + 1)))))
            2 bytes :=
      held.field_eq (by omega)
    rw [extTotal, Nat.add_min_add_left]
    exact offersTls13_held held (Nat.min_le_right _ _)

end Inside

/-! ## Messages -/

/-- What a message changes; the data around it do not matter. -/
def hear (flight : Flight) (message : Message) : Flight :=
  let flight :=
    if message.tag = 2 then
      { flight with
        foundServerHello := true
        isTls13 :=
          isTls13ServerHello message.body 0 message.body.length }
    else
      flight
  if flight.foundServerHello && !flight.isTls13 && message.tag = 14 then
    { flight with handshakeDone := true }
  else
    flight

/-- The bytes are whole messages and less than the header of another. -/
def ReadsAs (fragment : List UInt8) (messages : List Message) : Prop :=
  ∃ tail : List UInt8, tail.length < 4 ∧
    fragment = Element.encodeAll messages ++ tail

section Messages

variable {data fragment : List UInt8} {hend hpos : Nat}
  {flight next : Flight} {message : Message} {messages : List Message}

theorem message_held (held : Holds data hpos message.encode)
    (within : hpos ≤ data.length) :
    flight.message data hpos message.body.length = hear flight message := by
  have type : field hpos 1 data = message.tag := Element.field_tag held
  have covered := held.within within
  rw [Element.encode_length] at covered
  have body : Holds data (hpos + 4) message.body := Element.holds_body held
  rw [Flight.message, hear, type,
    isTls13ServerHello_held body (by omega)]

/-- A round of the loop, at a message. -/
theorem handshakeMessages_round (held : Holds data hpos message.encode)
    (within : hpos ≤ data.length)
    (inside : hpos + message.encode.length ≤ hend) :
    handshakeMessages data hend hpos flight =
      handshakeMessages data hend (hpos + message.encode.length)
        (hear flight message) := by
  have length : field (hpos + 1) 3 data = message.body.length :=
    Element.field_length held
  rw [Element.encode_length] at inside ⊢
  rw [handshakeMessages.eq_def data hend hpos, if_neg (by omega), length]
  simp only
  rw [if_neg (by omega), message_held held within, Nat.add_assoc,
    ← Nat.add_assoc 1 3]

theorem handshakeMessages_held {tail : List UInt8} (short : tail.length < 4)
    (held : Holds data hpos (Element.encodeAll messages ++ tail))
    (within : hpos ≤ data.length)
    (ends : hpos + (Element.encodeAll messages ++ tail).length = hend) :
    handshakeMessages data hend hpos flight =
      some (messages.foldl hear flight) := by
  induction messages generalizing hpos flight with
  | nil =>
      rw [Element.encodeAll_nil, List.nil_append] at ends
      rw [handshakeMessages, if_pos (by omega)]
      rfl
  | cons message rest ih =>
      rw [Element.encodeAll_cons, List.append_assoc] at held ends
      rw [List.length_append] at ends
      have covered := held.left.within within
      rw [handshakeMessages_round held.left within (by omega)]
      exact ih held.right covered (by omega)

/-- Whatever the loop accepts is a sequence of messages. -/
theorem exists_messages (accepted :
      handshakeMessages data hend hpos flight = some next)
    (order : hpos ≤ hend) (within : hend ≤ data.length) :
    ∃ (messages : List Message) (tail : List UInt8), tail.length < 4 ∧
      Holds data hpos (Element.encodeAll messages ++ tail) ∧
        hpos + (Element.encodeAll messages ++ tail).length = hend := by
  induction hpos, flight using handshakeMessages.induct data hend with
  | case1 hpos flight short =>
      have size :
          ((data.drop hpos).take (hend - hpos)).length = hend - hpos := by
        rw [List.length_take, List.length_drop]
        omega
      refine
        ⟨[], (data.drop hpos).take (hend - hpos), by omega,
          holds_take_drop, ?_⟩
      rw [Element.encodeAll_nil, List.nil_append, size]
      omega
  | case2 hpos flight enough msgLen cut =>
      rw [handshakeMessages, if_neg enough] at accepted
      cases (if_pos cut).symm.trans accepted
  | case3 hpos flight enough msgLen fits ih =>
      rw [handshakeMessages, if_neg enough] at accepted
      obtain ⟨message, held, _, length⟩ :=
        @Element.exists_held 1 3 data hpos
          (by simp only [msgLen] at fits; omega)
      obtain ⟨messages, tail, short, rest, ends⟩ :=
        ih ((if_neg fits).symm.trans accepted) (by omega)
      have size : message.encode.length = 4 + msgLen := by
        rw [Element.encode_length, length]
        omega
      have joined : Element.encodeAll (message :: messages) ++ tail =
          message.encode ++ (Element.encodeAll messages ++ tail) := by
        rw [Element.encodeAll_cons, List.append_assoc]
      refine ⟨message :: messages, tail, short, ?_, ?_⟩
      · rw [joined]
        refine holds_append.mpr ⟨held, ?_⟩
        rw [size, ← Nat.add_assoc]
        exact rest
      · rw [joined, List.length_append, size]
        omega

/-- What the loop makes of a record is a matter of what the record reads
as. -/
theorem handshakeMessages_iff (held : Holds data hpos fragment)
    (within : hpos ≤ data.length) :
    handshakeMessages data (hpos + fragment.length) hpos flight =
        some next ↔
      ∃ messages, ReadsAs fragment messages ∧
        messages.foldl hear flight = next := by
  constructor
  · intro accepted
    obtain ⟨messages, tail, short, same, ends⟩ :=
      exists_messages accepted (Nat.le_add_right _ _) (held.within within)
    have equal : fragment = Element.encodeAll messages ++ tail := by
      rw [← held.take_drop, ← same.take_drop]
      congr 1
      omega
    refine ⟨messages, ⟨tail, short, equal⟩, ?_⟩
    rw [handshakeMessages_held short same within ends] at accepted
    exact Option.some.inj accepted
  · rintro ⟨messages, ⟨tail, short, rfl⟩, rfl⟩
    exact handshakeMessages_held short held within rfl

/-- It is the same for all ways to read it. -/
theorem foldl_hear_of_readsAs {others : List Message}
    (reads : ReadsAs fragment messages) (again : ReadsAs fragment others) :
    messages.foldl hear flight = others.foldl hear flight := by
  have held : Holds fragment 0 fragment := List.prefix_refl _
  have first := (handshakeMessages_iff held (Nat.zero_le _)).mpr
    ⟨messages, reads, (rfl : _ = messages.foldl hear flight)⟩
  have second := (handshakeMessages_iff held (Nat.zero_le _)).mpr
    ⟨others, again, (rfl : _ = others.foldl hear flight)⟩
  exact Option.some.inj (first.symm.trans second)

end Messages

/-! ## Records -/

/-- The flight is complete after these messages. -/
def Finished (flight : Flight) : Prop :=
  flight.foundServerHello = true ∧ flight.handshakeDone = true

/-- The records can be read, and then the flight is complete. -/
def Completes (records : List HandshakeRecord) (flight : Flight) : Prop :=
  ∃ readings : List (List Message),
    List.Forall₂ (fun record => ReadsAs record.fragment) records readings ∧
      Finished (readings.flatten.foldl hear flight)

section Records

variable {data part : List UInt8} {pos : Nat} {flight : Flight}
  {record : HandshakeRecord} {records : List HandshakeRecord}

theorem flightComplete_end (nothing : data.length < pos + 5) :
    flightComplete data pos flight = true ↔ Finished flight := by
  rw [flightComplete, if_pos nothing, Bool.and_eq_true]
  rfl

/-- The header of a record, and where it ends. -/
theorem header_held (held : Holds data pos record.encode) :
    field pos 1 data = 22 ∧
      field (pos + 3) 2 data = record.fragment.length ∧
        Holds data (pos + 5) record.fragment := by
  have version := held.right
  have length := version.right
  have fragment := length.right
  have small : record.fragment.length < 65536 :=
    record.short.trans_lt (by decide)
  rw [List.length_singleton, bytesOf_length] at length fragment
  rw [bytesOf_length] at fragment
  refine ⟨?_, ?_, fragment⟩
  · exact @Holds.field data pos 1 22 held.left
  · exact length.left.field.trans (Nat.mod_eq_of_lt small)

/-- A round of the loop, at a record. -/
theorem flightComplete_round (held : Holds data pos record.encode)
    (within : pos ≤ data.length) :
    flightComplete data pos flight =
      match handshakeMessages data
          (pos + 5 + record.fragment.length) (pos + 5) flight with
      | none => false
      | some flight =>
          flightComplete data (pos + record.encode.length) flight := by
  obtain ⟨contentType, recordLen, _⟩ := header_held held
  have covered := held.within within
  rw [HandshakeRecord.encode_length] at covered ⊢
  rw [flightComplete.eq_def data pos, if_neg (by omega), contentType,
    recordLen]
  simp only
  rewrite [if_neg (by omega), if_pos trivial, Nat.add_assoc pos]
  rfl

/-- A record of which the end is missing. -/
theorem flightComplete_cut (behind : data.drop pos = part)
    (within : pos ≤ data.length) (begins : part <+: record.encode)
    (cut : part.length < record.encode.length) :
    flightComplete data pos flight = true ↔
      part.length < 5 ∧ Finished flight := by
  have size : data.length = pos + part.length := by
    rw [← behind, List.length_drop]
    omega
  by_cases short : part.length < 5
  · rw [flightComplete_end (by omega), and_iff_right short]
  · have header : Holds data pos
        ([22] ++ (bytesOf 2 record.version ++
          bytesOf 2 record.fragment.length)) := by
      rw [Holds, behind]
      refine List.prefix_of_prefix_length_le ?_ begins ?_
      · exact ⟨record.fragment, by simp [HandshakeRecord.encode]⟩
      · simp only [List.length_append, bytesOf_length,
          List.length_singleton]
        omega
    have length := header.right.right
    rw [List.length_singleton, bytesOf_length] at length
    have small : record.fragment.length < 65536 :=
      record.short.trans_lt (by decide)
    have recordLen : field (pos + 3) 2 data = record.fragment.length :=
      length.field.trans (Nat.mod_eq_of_lt small)
    rw [HandshakeRecord.encode_length] at cut
    rw [flightComplete, if_neg (by omega), recordLen]
    simp only
    rw [if_pos (by omega)]
    exact iff_of_false Bool.false_ne_true fun both => short both.1

theorem completes_nil : Completes [] flight ↔ Finished flight := by
  constructor
  · rintro ⟨readings, reads, finished⟩
    cases reads
    exact finished
  · exact fun finished => ⟨[], List.Forall₂.nil, finished⟩

theorem completes_cons :
    Completes (record :: records) flight ↔
      ∃ messages, ReadsAs record.fragment messages ∧
        Completes records (messages.foldl hear flight) := by
  constructor
  · rintro ⟨_, reads, finished⟩
    cases reads with
    | @cons _ messages _ readings first rest =>
        rw [List.flatten_cons, List.foldl_append] at finished
        exact ⟨messages, first, readings, rest, finished⟩
  · rintro ⟨messages, first, readings, rest, finished⟩
    refine ⟨messages :: readings, List.Forall₂.cons first rest, ?_⟩
    rw [List.flatten_cons, List.foldl_append]
    exact finished

/-- A whole record is read, and the rest after what has been heard in it. -/
theorem flightComplete_whole (held : Holds data pos record.encode)
    (within : pos ≤ data.length) :
    flightComplete data pos flight = true ↔
      ∃ messages, ReadsAs record.fragment messages ∧
        flightComplete data (pos + record.encode.length)
          (messages.foldl hear flight) = true := by
  have fragment := (header_held held).2.2
  have covered := held.within within
  rw [HandshakeRecord.encode_length] at covered
  have reads (next : Flight) :=
    @handshakeMessages_iff data record.fragment (pos + 5) flight next
      fragment (by omega)
  rw [flightComplete_round held within]
  constructor
  · intro complete
    cases accepted : handshakeMessages data
        (pos + 5 + record.fragment.length) (pos + 5) flight with
    | none =>
        rw [accepted] at complete
        cases complete
    | some next =>
        rw [accepted] at complete
        obtain ⟨messages, readsAs, rfl⟩ := (reads next).mp accepted
        exact ⟨messages, readsAs, complete⟩
  · rintro ⟨messages, readsAs, complete⟩
    rw [(reads _).mpr ⟨messages, readsAs, rfl⟩]
    exact complete

/-- A whole record is the first of those which have come. -/
theorem exists_front_cons {later : List UInt8}
    {property : List HandshakeRecord → Prop} :
    (∃ (front back : List HandshakeRecord) (stub : List UInt8),
        record :: records = front ++ back ∧
          record.encode ++ later =
              HandshakeRecord.encodeAll front ++ stub ∧
            stub.length < 5 ∧ property front) ↔
      ∃ (front back : List HandshakeRecord) (stub : List UInt8),
        records = front ++ back ∧
          later = HandshakeRecord.encodeAll front ++ stub ∧
            stub.length < 5 ∧ property (record :: front) := by
  constructor
  · rintro ⟨front, back, stub, split, same, short, holds⟩
    cases front with
    | nil =>
        have size := congrArg List.length same
        rw [List.length_append, HandshakeRecord.encode_length] at size
        change _ = stub.length at size
        have some_ := List.length_pos_iff.mpr record.nonempty
        omega
    | cons first front =>
        obtain ⟨rfl, rfl⟩ := List.cons.inj split
        rw [HandshakeRecord.encodeAll_cons, List.append_assoc] at same
        exact
          ⟨front, back, stub, rfl, List.append_cancel_left same, short,
            holds⟩
  · rintro ⟨front, back, stub, rfl, rfl, short, holds⟩
    refine ⟨record :: front, back, stub, rfl, ?_, short, holds⟩
    rw [HandshakeRecord.encodeAll_cons, List.append_assoc]

/-- What has come is whole records and less than a header, and the flight is
complete after them. -/
theorem flightComplete_iff (behind : data.drop pos = part)
    (within : pos ≤ data.length)
    (begins : part <+: HandshakeRecord.encodeAll records) :
    flightComplete data pos flight = true ↔
      ∃ (front back : List HandshakeRecord) (stub : List UInt8),
        records = front ++ back ∧
          part = HandshakeRecord.encodeAll front ++ stub ∧
            stub.length < 5 ∧ Completes front flight := by
  induction records generalizing pos flight part with
  | nil =>
      have nothing : part = [] := List.prefix_nil.mp begins
      subst nothing
      have ends : data.length ≤ pos := List.drop_eq_nil_iff.mp behind
      rw [flightComplete_end (by omega), ← completes_nil]
      constructor
      · exact fun complete => ⟨[], [], [], rfl, rfl, by decide, complete⟩
      · rintro ⟨front, back, stub, split, _, _, complete⟩
        rw [(List.append_eq_nil_iff.mp split.symm).1] at complete
        exact complete
  | cons record rest ih =>
      rw [HandshakeRecord.encodeAll_cons] at begins
      by_cases whole : record.encode.length ≤ part.length
      · obtain ⟨later, rfl⟩ : record.encode <+: part :=
          List.prefix_of_prefix_length_le (List.prefix_append _ _) begins
            whole
        have held : Holds data pos record.encode := ⟨later, behind.symm⟩
        have behindRecord :
            data.drop (pos + record.encode.length) = later := by
          rw [← List.drop_drop, behind, List.drop_left]
        have covered := held.within within
        have rounds (next : Flight) :=
          @ih later (pos + record.encode.length) next behindRecord covered
            ((List.prefix_append_right_inj _).mp begins)
        rw [flightComplete_whole held within, exists_front_cons]
        constructor
        · rintro ⟨messages, reads, complete⟩
          obtain ⟨front, back, stub, split, same, short, completes⟩ :=
            (rounds _).mp complete
          exact
            ⟨front, back, stub, split, same, short,
              completes_cons.mpr ⟨messages, reads, completes⟩⟩
        · rintro ⟨front, back, stub, split, same, short, completes⟩
          obtain ⟨messages, reads, behind_⟩ := completes_cons.mp completes
          exact
            ⟨messages, reads, (rounds _).mpr
              ⟨front, back, stub, split, same, short, behind_⟩⟩
      · have cut : part.length < record.encode.length :=
          Nat.lt_of_not_le whole
        have begun : part <+: record.encode :=
          List.prefix_of_prefix_length_le begins (List.prefix_append _ _)
            (Nat.le_of_lt cut)
        rw [flightComplete_cut behind within begun cut, ← completes_nil]
        constructor
        · rintro ⟨short, complete⟩
          exact ⟨[], record :: rest, part, rfl, rfl, short, complete⟩
        · rintro ⟨front, back, stub, split, rfl, short, complete⟩
          cases front with
          | nil => exact ⟨short, complete⟩
          | cons first others =>
              obtain ⟨rfl, _⟩ := List.cons.inj split
              rw [HandshakeRecord.encodeAll_cons, List.length_append,
                List.length_append] at cut
              omega

end Records

/-! ## A complete flight -/

/-- The last ServerHello among the messages is not one of TLS 1.3. -/
def Greeted (messages : List Message) : Prop :=
  ∃ (earlier : List Message) (hello : Message) (between : List Message),
    messages = earlier ++ hello :: between ∧ hello.tag = 2 ∧
      isTls13ServerHello hello.body 0 hello.body.length = false ∧
        ∀ message ∈ between, message.tag ≠ 2

/-- Somewhere a ServerHelloDone follows a ServerHello of TLS 1.2. -/
def Settles (messages : List Message) : Prop :=
  ∃ (earlier : List Message) (done : Message) (later : List Message),
    messages = earlier ++ done :: later ∧ done.tag = 14 ∧ Greeted earlier

section Settles

variable {messages : List Message} {message : Message}

theorem greeted_concat :
    Greeted (messages ++ [message]) ↔
      if message.tag = 2 then
        isTls13ServerHello message.body 0 message.body.length = false
      else
        Greeted messages := by
  constructor
  · rintro ⟨earlier, hello, between, split, tag, tls12, others⟩
    cases between using List.reverseRecOn with
    | nil =>
        obtain ⟨_, same⟩ := List.append_inj' split rfl
        cases same
        rw [if_pos tag]
        exact tls12
    | append_singleton between last =>
        rw [← List.cons_append, ← List.append_assoc] at split
        obtain ⟨front, same⟩ := List.append_inj' split rfl
        cases same
        rw [if_neg (others message (by simp))]
        exact
          ⟨earlier, hello, between, front, tag, tls12,
            fun other member => others other (by simp [member])⟩
  · intro greeted
    split at greeted
    next tag =>
      exact
        ⟨messages, message, [], rfl, tag, greeted,
          fun _ none => absurd none List.not_mem_nil⟩
    next other =>
      obtain ⟨earlier, hello, between, rfl, tag, tls12, others⟩ := greeted
      refine ⟨earlier, hello, between ++ [message], by simp, tag, tls12, ?_⟩
      intro next member
      rcases List.mem_append.mp member with before | last
      · exact others next before
      · rw [List.mem_singleton.mp last]
        exact other

theorem settles_concat :
    Settles (messages ++ [message]) ↔
      Settles messages ∨ (message.tag = 14 ∧ Greeted messages) := by
  constructor
  · rintro ⟨earlier, done, later, split, tag, greeted⟩
    cases later using List.reverseRecOn with
    | nil =>
        obtain ⟨rfl, same⟩ := List.append_inj' split rfl
        cases same
        exact Or.inr ⟨tag, greeted⟩
    | append_singleton later last =>
        rw [← List.cons_append, ← List.append_assoc] at split
        obtain ⟨rfl, _⟩ := List.append_inj' split rfl
        exact Or.inl ⟨earlier, done, later, rfl, tag, greeted⟩
  · rintro (⟨earlier, done, later, rfl, tag, greeted⟩ | ⟨tag, greeted⟩)
    · exact ⟨earlier, done, later ++ [message], by simp, tag, greeted⟩
    · exact ⟨messages, message, [], rfl, tag, greeted⟩

/-- What has been found so far, in terms of the messages. -/
theorem foldl_hear (messages : List Message) :
    let flight := messages.foldl hear .start
    ((flight.foundServerHello = true ∧ flight.isTls13 = false) ↔
        Greeted messages) ∧
      (flight.handshakeDone = true ↔ Settles messages) ∧
        (flight.handshakeDone = true → flight.foundServerHello = true) := by
  induction messages using List.reverseRecOn with
  | nil =>
      refine ⟨iff_of_false (fun both => by cases both.1) ?_,
        iff_of_false Bool.false_ne_true ?_, fun done => by cases done⟩
      · rintro ⟨earlier, hello, between, split, _⟩
        exact List.cons_ne_nil _ _ (List.append_eq_nil_iff.mp split.symm).2
      · rintro ⟨earlier, done, later, split, _⟩
        exact List.cons_ne_nil _ _ (List.append_eq_nil_iff.mp split.symm).2
  | append_singleton messages message ih =>
      rw [List.foldl_append, greeted_concat, settles_concat]
      generalize messages.foldl hear .start = flight at ih ⊢
      obtain ⟨greeted, settles, found⟩ := ih
      rw [← greeted, ← settles]
      simp only [List.foldl_cons, List.foldl_nil]
      by_cases serverHello : message.tag = 2
      · simp [hear, serverHello]
      · by_cases done : message.tag = 14
        · clear greeted settles
          obtain ⟨foundServerHello, isTls13, handshakeDone⟩ := flight
          cases foundServerHello <;> cases isTls13 <;>
            simp_all [hear]
        · simp only [hear, serverHello, done, if_false, Bool.and_false,
            decide_false, Bool.false_eq_true, false_and, or_false]
          exact ⟨trivial, trivial, found⟩

theorem finished_iff_settles :
    Finished (messages.foldl hear .start) ↔ Settles messages := by
  obtain ⟨_, settles, found⟩ := foldl_hear messages
  rw [Finished, ← settles]
  exact and_iff_right_of_imp found

end Settles

/-! ## Flights in records -/

/-- The flight of a TLS 1.2 server, cut into records. -/
structure PackedFlight where
  hello : ServerHello
  tls12 : ∀ list ∈ hello.extensions, ∀ extension ∈ list,
    ¬SelectsTls13 extension
  middle : List Message
  middle_tags : ∀ message ∈ middle, message.tag ≠ 2 ∧ message.tag ≠ 14
  records : List HandshakeRecord
  cut : records.flatMap HandshakeRecord.fragment =
    Element.encodeAll (hello.toMessage :: (middle ++ [serverHelloDone]))

namespace PackedFlight

variable (flight : PackedFlight)

def stream : List UInt8 := HandshakeRecord.encodeAll flight.records

/-- True on the whole of the flight, and on no less of it. -/
def Recognised : Prop :=
  isServerHelloComplete flight.stream = true ∧
    ∀ part, part <+: flight.stream → part ≠ flight.stream →
      isServerHelloComplete part = false

/-- Every record reads as messages, and the flight is among these in the end,
and only then. -/
def ReadsAsFlight : Prop :=
  ∃ readings : List (List Message),
    List.Forall₂ (fun record => ReadsAs record.fragment) flight.records
        readings ∧
      Settles readings.flatten ∧ ¬Settles readings.dropLast.flatten

/-- No message is in two records. -/
def Aligned : Prop :=
  ∃ groups : List (List Message),
    flight.records.map HandshakeRecord.fragment =
        groups.map Element.encodeAll ∧
      groups.flatten =
        flight.hello.toMessage :: (flight.middle ++ [serverHelloDone])

end PackedFlight

/-- The length test in front makes no difference. -/
theorem isServerHelloComplete_iff {data : List UInt8}
    {records : List HandshakeRecord}
    (begins : data <+: HandshakeRecord.encodeAll records) :
    isServerHelloComplete data = true ↔
      ∃ (front back : List HandshakeRecord) (stub : List UInt8),
        records = front ++ back ∧
          data = HandshakeRecord.encodeAll front ++ stub ∧
            stub.length < 5 ∧ Completes front .start := by
  rw [← @flightComplete_iff data data 0 .start records rfl (Nat.zero_le _)
    begins, isServerHelloComplete]
  split
  next short =>
    rw [flightComplete_end (by omega)]
    exact iff_of_false Bool.false_ne_true fun finished => by
      cases finished.1
  next => rfl

theorem encodeAll_length (records : List HandshakeRecord) :
    6 * records.length ≤ (HandshakeRecord.encodeAll records).length := by
  induction records with
  | nil => exact Nat.le_refl 0
  | cons record rest ih =>
      have some_ := List.length_pos_iff.mpr record.nonempty
      rw [HandshakeRecord.encodeAll_cons, List.length_append,
        HandshakeRecord.encode_length, List.length_cons]
      omega

theorem encodeAll_append (front back : List HandshakeRecord) :
    HandshakeRecord.encodeAll (front ++ back) =
      HandshakeRecord.encodeAll front ++ HandshakeRecord.encodeAll back :=
  List.flatMap_append

/-- The whole stream is recognised if the records complete the flight. -/
theorem stream_complete_iff (flight : PackedFlight) :
    isServerHelloComplete flight.stream = true ↔
      Completes flight.records .start := by
  rw [@isServerHelloComplete_iff flight.stream flight.records
    (List.prefix_refl _)]
  constructor
  · rintro ⟨front, back, stub, split, same, short, completes⟩
    have rest : HandshakeRecord.encodeAll back = stub := by
      rw [PackedFlight.stream, split, encodeAll_append] at same
      exact List.append_cancel_left same
    have few := encodeAll_length back
    have none_ : back = [] := by
      rw [rest] at few
      exact List.eq_nil_of_length_eq_zero (by omega)
    rw [split, none_, List.append_nil]
    exact completes
  · intro completes
    exact
      ⟨flight.records, [], [], (List.append_nil _).symm,
        (List.append_nil _).symm, by decide, completes⟩

/-- The whole is recognised, and nothing less, if the records complete the
flight and no fewer of them do. -/
theorem recognised_iff_completes (flight : PackedFlight) :
    flight.Recognised ↔
      Completes flight.records .start ∧
        ∀ front back, flight.records = front ++ back → back ≠ [] →
          ¬Completes front .start := by
  rw [PackedFlight.Recognised, stream_complete_iff]
  refine and_congr_right fun _ => ⟨?_, ?_⟩
  · intro less front back split some_ completes
    have longer : HandshakeRecord.encodeAll front ≠ flight.stream := by
      have many := encodeAll_length back
      have positive := List.length_pos_iff.mpr some_
      intro same
      have size := congrArg List.length same
      rw [PackedFlight.stream, split, encodeAll_append,
        List.length_append] at size
      omega
    have begins : HandshakeRecord.encodeAll front <+: flight.stream := by
      rw [PackedFlight.stream, split, encodeAll_append]
      exact List.prefix_append _ _
    have complete :
        isServerHelloComplete (HandshakeRecord.encodeAll front) = true :=
      (isServerHelloComplete_iff begins).mpr
        ⟨front, back, [], split, (List.append_nil _).symm, by decide,
          completes⟩
    rw [less _ begins longer] at complete
    cases complete
  · intro fewer part begins less
    apply Bool.eq_false_of_not_eq_true
    intro complete
    obtain ⟨front, back, stub, split, same, short, completes⟩ :=
      (isServerHelloComplete_iff begins).mp complete
    refine fewer front back split ?_ completes
    rintro rfl
    rw [List.append_nil] at split
    obtain ⟨rest, whole⟩ := begins
    rw [same, PackedFlight.stream, split, List.append_assoc] at whole
    obtain ⟨rfl, _⟩ :=
      List.append_eq_nil_iff.mp (List.append_right_eq_self.mp whole)
    rw [List.append_nil] at same
    exact less (by rw [same, PackedFlight.stream, split])

/-- Reading on does not make a complete flight incomplete. -/
theorem finished_foldl {flight : Flight} (finished : Finished flight)
    (messages : List Message) : Finished (messages.foldl hear flight) := by
  induction messages generalizing flight with
  | nil => exact finished
  | cons message rest ih =>
      refine ih ?_
      obtain ⟨found, done⟩ := finished
      by_cases serverHello : message.tag = 2
      · simp [Finished, hear, serverHello, done]
      · simp only [Finished, hear, serverHello, if_false]
        split
        · exact ⟨found, rfl⟩
        · exact ⟨found, done⟩

/-- What a number of records read as does not depend on how they are read. -/
theorem foldl_flatten_of_reads {records : List HandshakeRecord}
    {readings others : List (List Message)} {flight : Flight}
    (reads : List.Forall₂ (fun record => ReadsAs record.fragment) records
      readings)
    (again : List.Forall₂ (fun record => ReadsAs record.fragment) records
      others) :
    readings.flatten.foldl hear flight =
      others.flatten.foldl hear flight := by
  induction reads generalizing others flight with
  | nil =>
      cases again
      rfl
  | cons first rest ih =>
      cases again with
      | cons firstAgain restAgain =>
          rw [List.flatten_cons, List.flatten_cons, List.foldl_append,
            List.foldl_append, foldl_hear_of_readsAs first firstAgain]
          exact ih restAgain

/-! ## Aligned records -/

/-- Without TLS 1.3 among the extensions, none is found. -/
theorem offersTls13_extensions {data : List UInt8} {extEnd p : Nat}
    {list : List Extension} (held : Holds data p (Element.encodeAll list))
    (ends : p + (Element.encodeAll list).length = extEnd)
    (none : ∀ extension ∈ list, ¬SelectsTls13 extension) :
    offersTls13 data extEnd p = false := by
  induction list generalizing p with
  | nil =>
      rw [Element.encodeAll_nil, List.length_nil] at ends
      rw [offersTls13, if_pos (by omega)]
  | cons extension rest ih =>
      rw [Element.encodeAll_cons] at held ends
      rw [List.length_append, Element.encode_length] at ends
      have later := held.right
      rw [Element.encode_length] at later
      have body : Holds data (p + 4) extension.body :=
        Element.holds_body held.left
      have unselected : ¬(extension.tag = 0x002b ∧
          2 ≤ extension.body.length ∧ field (p + 4) 2 data = 0x0304) := by
        rintro ⟨tag, long, ver⟩
        have same : field (p + 4) 2 data = field 0 2 extension.body :=
          @Holds.field_eq _ _ _ body 0 2 (by omega)
        exact none extension List.mem_cons_self ⟨tag, long, same ▸ ver⟩
      rw [offersTls13, if_neg (by omega), Element.field_tag held.left,
        Element.field_length held.left]
      simp only
      rw [if_neg (by omega), if_neg unselected, Nat.add_assoc p 4]
      have step : 4 + extension.body.length =
          2 + (2 + extension.body.length) := by
        omega
      rw [step]
      exact ih later (by omega) fun other member =>
        none other (List.mem_cons_of_mem _ member)

theorem isTls13ServerHello_tls12 {hello : ServerHello}
    (tls12 : ∀ list ∈ hello.extensions, ∀ extension ∈ list,
      ¬SelectsTls13 extension) :
    isTls13ServerHello hello.encodeBody 0 hello.encodeBody.length =
      false := by
  have short := hello.sessionId_length
  have length := hello.encodeBody_length
  have held : Holds hello.encodeBody 0 hello.encodeBody :=
    List.prefix_refl _
  have behindRandom := held.right.right
  rw [bytesOf_length, hello.random_length] at behindRandom
  have sidLen : field (0 + 2 + 32) 1 hello.encodeBody =
      hello.sessionId.length :=
    behindRandom.left.field.trans (Nat.mod_eq_of_lt (by omega))
  rw [isTls13ServerHello]
  simp only [Nat.zero_add] at sidLen ⊢
  rw [if_neg (by omega), if_neg (by omega), sidLen]
  split
  · rfl
  next fits =>
    cases extensions : hello.extensions with
    | none =>
        rw [ServerHello.encodeExtensions, extensions] at length
        simp only [List.length_nil] at length
        omega
    | some list =>
        have small := hello.extensions_length list extensions
        have block := behindRandom.right.right.right.right
        simp only [bytesOf_length, Nat.zero_add] at block
        rw [ServerHello.encodeExtensions, extensions] at block length
        simp only [List.length_append, bytesOf_length] at length
        have extTotal := block.left.field.trans (Nat.mod_eq_of_lt small)
        have entries := block.right
        rw [bytesOf_length] at entries
        rw [extTotal, Nat.min_eq_left (by omega)]
        exact offersTls13_extensions entries rfl
          (tls12 list extensions)

/-- A flight is recognised as it should if and only if each of its records,
read on its own, is a number of messages, and it is only with those of the
last that a ServerHelloDone follows a ServerHello. -/
theorem recognised_iff_readsAsFlight (flight : PackedFlight) :
    flight.Recognised ↔ flight.ReadsAsFlight := by
  rw [recognised_iff_completes]
  constructor
  · rintro ⟨⟨readings, reads, finished⟩, fewer⟩
    refine ⟨readings, reads, finished_iff_settles.mp finished, ?_⟩
    intro settles
    have shorter := List.forall₂_take (flight.records.length - 1) reads
    rw [← List.dropLast_eq_take, reads.length_eq,
      ← List.dropLast_eq_take] at shorter
    rcases List.eq_nil_or_concat flight.records with none | ⟨init, last, split⟩
    · rw [none] at reads
      cases reads
      obtain ⟨earlier, done, later, nothing, _⟩ := settles
      exact List.cons_ne_nil _ _ (List.append_eq_nil_iff.mp nothing.symm).2
    · rw [List.concat_eq_append] at split
      refine fewer init [last] split (List.cons_ne_nil _ _) ?_
      rw [split, List.dropLast_concat] at shorter
      exact ⟨readings.dropLast, shorter, finished_iff_settles.mpr settles⟩
  · rintro ⟨readings, reads, settles, unsettled⟩
    refine ⟨⟨readings, reads, finished_iff_settles.mpr settles⟩, ?_⟩
    rintro front back split some_ ⟨others, readsFront, finished⟩
    have positive := List.length_pos_iff.mpr some_
    have size := congrArg List.length split
    rw [List.length_append, reads.length_eq] at size
    have sameFront := List.forall₂_take front.length reads
    rw [split, List.take_left] at sameFront
    rw [foldl_flatten_of_reads readsFront sameFront] at finished
    have extends_ : readings.dropLast.flatten =
        (readings.take front.length).flatten ++
          (readings.dropLast.drop front.length).flatten := by
      have same : readings.dropLast.take front.length =
          readings.take front.length := by
        rw [List.dropLast_eq_take, List.take_take,
          Nat.min_eq_left (by omega)]
      rw [← same, ← List.flatten_append, List.take_append_drop]
    apply unsettled
    rw [← finished_iff_settles, extends_, List.foldl_append]
    exact finished_foldl finished _

namespace PackedFlight

variable {flight : PackedFlight}

theorem settles_messages (flight : PackedFlight) :
    Settles
      (flight.hello.toMessage :: (flight.middle ++ [serverHelloDone])) :=
  ⟨flight.hello.toMessage :: flight.middle, serverHelloDone, [],
    rfl, rfl, [], flight.hello.toMessage, flight.middle, rfl, rfl,
    isTls13ServerHello_tls12 flight.tls12,
    fun message member => (flight.middle_tags message member).1⟩

/-- In front of the last message there is no ServerHelloDone. -/
theorem not_settles_front (flight : PackedFlight)
    {front : List Message}
    (begins : front <+: flight.hello.toMessage :: flight.middle) :
    ¬Settles front := by
  rintro ⟨earlier, done, later, rfl, tag, _⟩
  have member : done ∈ flight.hello.toMessage :: flight.middle :=
    begins.subset (by simp)
  rcases List.mem_cons.mp member with rfl | inside
  · cases tag
  · exact (flight.middle_tags done inside).2 tag

/-- So it is if no message is in two records. -/
theorem readsAsFlight_of_aligned (aligned : flight.Aligned) :
    flight.ReadsAsFlight := by
  obtain ⟨groups, same, messages⟩ := aligned
  have reads : List.Forall₂ (fun record => ReadsAs record.fragment)
      flight.records groups := by
    rw [← List.forall₂_eq_eq_eq, List.forall₂_map_left_iff,
      List.forall₂_map_right_iff] at same
    refine same.imp fun record group equal => ⟨[], by decide, ?_⟩
    rw [List.append_nil]
    exact equal
  refine ⟨groups, reads, messages ▸ flight.settles_messages, ?_⟩
  rcases List.eq_nil_or_concat groups with rfl | ⟨init, last, rfl⟩
  · cases messages
  · rw [List.concat_eq_append] at same messages ⊢
    rw [List.dropLast_concat]
    have some_ : last ≠ [] := by
      rintro rfl
      have member : Element.encodeAll ([] : List Message) ∈
          flight.records.map HandshakeRecord.fragment := by
        rw [same]
        simp
      obtain ⟨record, _, empty⟩ := List.mem_map.mp member
      exact record.nonempty empty
    rcases List.eq_nil_or_concat last with none | ⟨others, done, rfl⟩
    · exact absurd none some_
    · rw [List.concat_eq_append, List.flatten_append, List.flatten_cons,
        List.flatten_nil, List.append_nil, ← List.append_assoc,
        ← List.cons_append] at messages
      have split := (List.append_inj' messages rfl).1
      exact flight.not_settles_front ⟨others, split⟩

end PackedFlight

/-- A ServerHello without extensions. -/
def smallServerHello : ServerHello where
  legacyVersion := 0x0303
  random := List.replicate 32 7
  sessionId := []
  cipherSuite := 0x002F
  compressionMethod := 0
  extensions := none
  random_length := by decide
  sessionId_length := by decide
  extensions_length := by simp

/-- A certificate of six bytes which begins in one record and ends in the
next. -/
def flightInTwoRecords : PackedFlight where
  hello := smallServerHello
  tls12 := by simp [smallServerHello]
  middle := [⟨11, [0, 0, 3, 1, 2, 3], by decide, by decide⟩]
  middle_tags := by decide
  records :=
    [⟨0x0303, smallServerHello.toMessage.encode ++ [11, 0, 0, 6, 0, 0],
        by decide, by decide⟩,
      ⟨0x0303, [3, 1, 2, 3, 14, 0, 0, 0], by decide, by decide⟩]
  cut := by decide

theorem flightInTwoRecords_missed : ¬flightInTwoRecords.Recognised := by
  have missed :
      isServerHelloComplete flightInTwoRecords.stream = false := by
    decide +kernel
  rintro ⟨complete, _⟩
  rw [missed] at complete
  cases complete

end Fptn.Network.FlightRecords
