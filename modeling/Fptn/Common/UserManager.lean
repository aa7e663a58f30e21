import Fptn.Lib.NumberText
import Fptn.Lib.UnorderedMap

/-!
# The users of a server

`CommonUserManager` keeps the users in a file, one on each line: the name, the
hash of the password and the bandwidth in megabits.  `fptn-passwd` adds them,
and the server reads the file again when it has changed.

What is read from the file are words.  The hash of a password is written in
hexadecimal digits, or is empty where it could not be computed; a user without
a hash is lost when the file is read.
-/

namespace Fptn.Common.UserManager

open Fptn.NumberText
open Fptn.UnorderedMap

/-- A `std::string`. -/
abbrev ByteString := List UInt8

/-- What `HashPassword` returns. -/
abbrev Hash := {hash : ByteString // Unspaced hash}

/-- The users by their names, with the hash and the bandwidth. -/
structure Users where
  map : Map ByteString (Hash × Int32)
  named : ∀ entry ∈ map.entries, entry.1 ≠ [] ∧ Unspaced entry.1

/-- The file, or what is known of it. -/
structure UserFile where
  /-- Nothing if it cannot be opened. -/
  text : Option ByteString
  /-- Nothing if this is an error. -/
  lastWriteTime : Option Int

structure CommonUserManager where
  users : Users
  lastWriteTime : Int

namespace Users

def find (users : Users) (username : ByteString) : Option (Hash × Int32) :=
  users.map.lookup username

def empty : Users where
  map := ∅
  named := by
    intro entry member
    exact absurd member List.not_mem_nil

/-- `users_[username] = user`. -/
def set (users : Users) (username : ByteString) (user : Hash × Int32)
    (named : username ≠ [] ∧ Unspaced username) : Users where
  map := AList.insert username user users.map
  named := by
    intro entry member
    rcases List.mem_cons.mp member with rfl | other
    · exact named
    · exact users.named entry (List.kerase_sublist _ _ |>.subset other)

/-- `users_.erase(username)`. -/
def erase (users : Users) (username : ByteString) : Users where
  map := users.map.erase username
  named := fun entry member =>
    users.named entry (List.kerase_sublist _ _ |>.subset member)

end Users

/-! ## The file -/

def line (username : ByteString) (user : Hash × Int32) : ByteString :=
  username ++ 0x20 :: user.1.val ++ 0x20 :: printInt user.2.toInt

/-- An element of the map. -/
abbrev Entry := Sigma fun _ : ByteString => Hash × Int32

/-- The text for users in this order. -/
def saveEntries (entries : List Entry) : ByteString :=
  entries.flatMap fun entry => line entry.1 entry.2 ++ [0x0A]

/-- `SaveUsers`, to a file which can be opened. -/
def saveUsers (users : Users) : ByteString :=
  users.map.entries.flatMap fun entry => line entry.1 entry.2 ++ [0x0A]

/-- The user of a line, if it has the three parts. -/
def readLine (text : ByteString) :
    Option (ByteString × ByteString × Int32) := do
  let (username, afterName) ← readWord text
  let (passwordHash, afterHash) ← readWord afterName
  let bandwidth ← extractInt afterHash
  return (username, passwordHash, bandwidth)

theorem readLine_eq_some {text username passwordHash : ByteString}
    {bandwidth : Int32}
    (read : readLine text = some (username, passwordHash, bandwidth)) :
    (username ≠ [] ∧ Unspaced username) ∧ Unspaced passwordHash := by
  obtain ⟨⟨name, afterName⟩, first, read⟩ :=
    Option.bind_eq_some_iff.mp read
  obtain ⟨⟨hash, afterHash⟩, second, read⟩ :=
    Option.bind_eq_some_iff.mp read
  obtain ⟨number, _, read⟩ := Option.bind_eq_some_iff.mp read
  obtain ⟨rfl, same⟩ := Prod.mk.inj (Option.some.inj read)
  obtain ⟨rfl, rfl⟩ := Prod.mk.inj same
  exact ⟨readWord_eq_some first, (readWord_eq_some second).2⟩

/-- A line is one user more, or is skipped. -/
def loadLine (users : Users) (text : ByteString) : Users :=
  match read : readLine text with
  | some (username, passwordHash, bandwidth) =>
      users.set username (⟨passwordHash, (readLine_eq_some read).2⟩, bandwidth)
        (readLine_eq_some read).1
  | none => users

/-- `LoadUsers`, without what was there before. -/
def loadUsers (text : Option ByteString) : Users :=
  match text with
  | some text => (text.splitOn 0x0A).foldl loadLine Users.empty
  | none => Users.empty

theorem Users.find_set (users : Users) {username : ByteString}
    (user : Hash × Int32) (named : username ≠ [] ∧ Unspaced username) :
    (users.set username user named).find username = some user :=
  AList.lookup_insert users.map

theorem Users.find_erase (users : Users) (username : ByteString) :
    (users.erase username).find username = none :=
  AList.lookup_erase username users.map

theorem Users.find_erase_ne (users : Users) {username other : ByteString}
    (different : other ≠ username) :
    (users.erase username).find other = users.find other :=
  AList.lookup_erase_ne different

theorem Users.find_set_ne (users : Users) {username other : ByteString}
    (user : Hash × Int32) (named : username ≠ [] ∧ Unspaced username)
    (different : other ≠ username) :
    (users.set username user named).find other = users.find other :=
  AList.lookup_insert_ne different

/-! ## What is read again -/

theorem notMem_line {username : ByteString} {user : Hash × Int32}
    (unspaced : Unspaced username) : 0x0A ∉ line username user := by
  intro member
  have notNewline {text : ByteString} (all : Unspaced text) :
      0x0A ∉ text := by
    intro newline
    cases all 0x0A newline
  have printed : (0x0A : UInt8) ∉ printInt user.2.toInt := by
    rw [printInt]
    have digits := notNewline (unspaced_printNat user.2.toInt.natAbs)
    split
    · exact List.not_mem_cons_of_ne_of_not_mem (by decide) digits
    · exact digits
  simp only [line, List.append_assoc, List.mem_append, List.mem_cons,
    List.cons_append] at member
  rcases member with name | space | hash | space | number
  · exact notNewline unspaced name
  · cases space
  · exact notNewline user.1.property hash
  · cases space
  · exact printed number

/-- The lines of the file are those of the users, and an empty one. -/
theorem splitOn_saveEntries {entries : List Entry}
    (unspaced : ∀ entry ∈ entries, Unspaced entry.1) :
    (saveEntries entries).splitOn 0x0A =
      (entries.map fun entry => line entry.1 entry.2) ++ [[]] := by
  induction entries with
  | nil => rfl
  | cons entry entries ih =>
      have first : ∀ byte ∈ line entry.1 entry.2,
          (byte == (0x0A : UInt8)) = false := by
        intro byte member
        apply beq_eq_false_iff_ne.mpr
        rintro rfl
        exact notMem_line (unspaced entry List.mem_cons_self) member
      have rest := ih fun other member =>
        unspaced other (List.mem_cons_of_mem _ member)
      rw [saveEntries, List.splitOn_eq_splitOnP] at rest ⊢
      rw [List.flatMap_cons, List.append_assoc, List.singleton_append,
        List.splitOnP_append_cons_of_forall_mem first 0x0A (by decide),
        rest]
      rfl

theorem splitOn_saveUsers (users : Users) :
    (saveUsers users).splitOn 0x0A =
      (users.map.entries.map fun entry => line entry.1 entry.2) ++
        [[]] :=
  splitOn_saveEntries fun entry member => (users.named entry member).2

/-- A line with a hash is read as it was written. -/
theorem readLine_line_of_hash {username : ByteString}
    {user : Hash × Int32} (named : username ≠ [] ∧ Unspaced username)
    (hashed : user.1.val ≠ []) :
    readLine (line username user) =
      some (username, user.1.val, user.2) := by
  rw [readLine, line, List.append_assoc, List.cons_append,
    readWord_append named.1 named.2]
  simp only [Option.bind_eq_bind, Option.bind_some]
  rw [readWord_space, readWord_append hashed user.1.property]
  simp only [Option.bind_some]
  rw [extractInt_printInt]
  rfl

/-- Without a hash the bandwidth is taken for it, and nothing is left. -/
theorem readLine_line_of_no_hash {username : ByteString}
    {user : Hash × Int32} (named : username ≠ [] ∧ Unspaced username)
    (noHash : user.1.val = []) : readLine (line username user) = none := by
  rw [readLine, line, List.append_assoc, List.cons_append,
    readWord_append named.1 named.2]
  simp only [Option.bind_eq_bind, Option.bind_some]
  rw [noHash, List.nil_append, readWord_space, readWord_space,
    readWord_end (printInt_ne_nil _) (unspaced_printInt _)]
  rfl

/-- A line which has a user has the one for whom it was written. -/
theorem readLine_line {username name hash : ByteString}
    {user : Hash × Int32} {bandwidth : Int32}
    (named : username ≠ [] ∧ Unspaced username)
    (read : readLine (line username user) = some (name, hash, bandwidth)) :
    name = username ∧ bandwidth = user.2 := by
  by_cases noHash : user.1.val = []
  · rw [readLine_line_of_no_hash named noHash] at read
    cases read
  · rw [readLine_line_of_hash named noHash] at read
    obtain ⟨rfl, same⟩ := Prod.mk.inj (Option.some.inj read)
    exact ⟨rfl, (Prod.mk.inj same).2.symm⟩

/-- Whoever is found has a line. -/
theorem find_loadLines {texts : List ByteString} {users : Users}
    {username : ByteString} {user : Hash × Int32}
    (found : (texts.foldl loadLine users).find username = some user) :
    users.find username = some user ∨
      ∃ text ∈ texts,
        readLine text = some (username, user.1.val, user.2) := by
  induction texts generalizing users with
  | nil => exact Or.inl found
  | cons text texts ih =>
      rcases ih found with before | ⟨other, member, read⟩
      · rw [loadLine] at before
        split at before
        next name passwordHash bandwidth read =>
          by_cases same : username = name
          · subst same
            rw [Users.find_set] at before
            obtain rfl := Option.some.inj before
            exact Or.inr ⟨text, List.mem_cons_self, read⟩
          · rw [Users.find_set_ne _ _ _ same] at before
            exact Or.inl before
        next => exact Or.inl before
      · exact Or.inr ⟨other, List.mem_cons_of_mem _ member, read⟩

/-- A user who is read from a file which has been saved has the bandwidth with
which it was saved. -/
theorem find_loadUsers_saveUsers {users : Users} {username : ByteString}
    {user : Hash × Int32}
    (found :
      (loadUsers (some (saveUsers users))).find username = some user) :
    ∃ hash, users.find username = some (hash, user.2) := by
  rw [loadUsers, splitOn_saveUsers] at found
  rcases find_loadLines found with before | ⟨text, member, read⟩
  · cases before
  · rcases List.mem_append.mp member with saved | last
    · obtain ⟨entry, stored, rfl⟩ := List.mem_map.mp saved
      obtain ⟨rfl, same⟩ :=
        readLine_line (users.named entry stored) read
      refine ⟨entry.2.1, ?_⟩
      rw [same]
      exact AList.mem_lookup_iff.mpr stored
    · obtain rfl := List.mem_singleton.mp last
      cases read

/-! ## The manager -/

namespace CommonUserManager

/-- The constructor, for a file which is there. -/
def create (file : UserFile) : CommonUserManager where
  users := loadUsers file.text
  lastWriteTime := 0

def reloadIfChanged (manager : CommonUserManager) (file : UserFile) :
    CommonUserManager :=
  match file.lastWriteTime with
  | some mtime =>
      if mtime ≠ manager.lastWriteTime then
        ⟨loadUsers file.text, mtime⟩
      else
        manager
  | none => manager

/-- `isalnum` in the C locale. -/
def isAlnum (byte : UInt8) : Bool :=
  isDigit byte || decide (0x41 ≤ byte ∧ byte ≤ 0x5A) ||
    decide (0x61 ≤ byte ∧ byte ≤ 0x7A)

def validateUsername (username : ByteString) : Bool :=
  !username.isEmpty && username.all isAlnum

theorem isSpace_of_isAlnum {byte : UInt8} (alnum : isAlnum byte = true) :
    isSpace byte = false := by
  simp only [isAlnum, isDigit, Bool.or_eq_true, decide_eq_true_eq,
    UInt8.le_iff_toNat_le, UInt8.reduceToNat] at alnum
  have notBlank : byte ≠ 0x20 := by
    rintro rfl
    revert alnum
    decide
  simp only [isSpace, Bool.or_eq_false_iff, beq_eq_false_iff_ne,
    decide_eq_false_iff_not, UInt8.le_iff_toNat_le, UInt8.reduceToNat]
  exact ⟨notBlank, by omega⟩

theorem named_of_validateUsername {username : ByteString}
    (valid : validateUsername username = true) :
    username ≠ [] ∧ Unspaced username := by
  simp only [validateUsername, Bool.and_eq_true, Bool.not_eq_true',
    List.isEmpty_eq_false_iff, List.all_eq_true] at valid
  exact ⟨valid.1, fun byte member => isSpace_of_isAlnum (valid.2 byte member)⟩

/-- `none` is `false`. -/
def deleteUser (manager : CommonUserManager) (username : ByteString) :
    Option CommonUserManager :=
  if (manager.users.find username).isNone then
    none
  else
    some { manager with users := manager.users.erase username }

section Passwords

variable (hashPassword : ByteString → Hash)

/-- `none` is `false`.  Otherwise the file is written with `saveUsers`. -/
def addUser (manager : CommonUserManager) (username password : ByteString)
    (bandwidth : Int32) : Option CommonUserManager :=
  if valid : validateUsername username = true then
    if bandwidth < 0 then
      none
    else if (manager.users.find username).isSome then
      none
    else
      some
        { manager with
          users :=
            manager.users.set username (hashPassword password, bandwidth)
              (named_of_validateUsername valid) }
  else
    none

def authenticate (manager : CommonUserManager) (file : UserFile)
    (username password : ByteString) : Bool × CommonUserManager :=
  let manager := manager.reloadIfChanged file
  match manager.users.find username with
  | some user => (user.1 == hashPassword password, manager)
  | none => (false, manager)

end Passwords

/-- A product of two `int`s.  What becomes of one which does not fit is a
parameter. -/
def multiply (overflowed : Int → Int32) (left right : Int32) : Int32 :=
  if -2147483648 ≤ left.toInt * right.toInt ∧
      left.toInt * right.toInt < 2147483648 then
    Int32.ofInt (left.toInt * right.toInt)
  else
    overflowed (left.toInt * right.toInt)

def getUserBandwidthBit (overflowed : Int → Int32)
    (manager : CommonUserManager) (username : ByteString) : Int32 :=
  match manager.users.find username with
  | some user => multiply overflowed (multiply overflowed user.2 1024) 1024
  | none => 0

end CommonUserManager

end Fptn.Common.UserManager
