import Fptn.Common.UserManager
import Fptn.Lib.PartialRun

/-!
# The file of a user manager

`AddUser` and `DeleteUser` write all users to the file, in the order of an
unordered map, and `Authenticate` reads it again when it has changed.  What is
read are the users who have been written, as long as each of them has a hash.

A file which cannot be opened stays as it is; then the manager's users are
ahead of it.
-/

namespace Fptn.Common.UserFile

open Fptn.NumberText
open Fptn.PartialRun
open Fptn.Common.UserManager
open Fptn.Common.UserManager.CommonUserManager

/-! ## HashPassword -/

/-- A digit as `std::hex` writes it. -/
def hexDigit (digit : Nat) : UInt8 :=
  if digit < 10 then digitByte digit else UInt8.ofNat (0x61 + (digit - 10))

/-- A byte in two digits. -/
def hexByte (byte : UInt8) : ByteString :=
  [hexDigit (byte.toNat / 16), hexDigit (byte.toNat % 16)]

theorem isSpace_hexDigit :
    ∀ digit < 16, isSpace (hexDigit digit) = false := by
  decide

theorem unspaced_hexByte (byte : UInt8) : Unspaced (hexByte byte) := by
  have small := byte.toNat_lt
  intro other member
  rcases List.mem_cons.mp member with rfl | member
  · exact isSpace_hexDigit _ (by omega)
  · obtain rfl := List.mem_singleton.mp member
    exact isSpace_hexDigit _ (by omega)

/-- `HashPassword`.  The digest is that of the library, if it could be
computed. -/
def hashPassword (digest : ByteString → Option (List UInt8))
    (password : ByteString) : Hash :=
  match digest password with
  | none => ⟨[], fun _ member => absurd member List.not_mem_nil⟩
  | some hash =>
      ⟨hash.flatMap hexByte, fun byte member => by
        obtain ⟨other, _, inside⟩ := List.mem_flatMap.mp member
        exact unspaced_hexByte other byte inside⟩

/-! ## The manager and its file -/

structure Store where
  manager : CommonUserManager
  text : ByteString
  /-- The last call of `SaveUsers`, if any, has written the file. -/
  saved : Bool

/-- A call of `SaveUsers`. -/
inductive Saving where
  /-- The users are written in the order of the map. -/
  | written (order : List Entry)
  /-- The file cannot be opened. -/
  | unopened

inductive Label where
  | addUser (username password : ByteString) (bandwidth : Int32)
      (saving : Saving)
  | deleteUser (username : ByteString) (saving : Saving)
  | authenticate (lastWriteTime : Option Int)
      (username password : ByteString)

namespace Store

variable (hash : ByteString → Hash) (store : Store)

/-- A manager of an empty file. -/
def start : Store where
  manager := .create ⟨some [], none⟩
  text := []
  saved := true

/-- The file, with what is known of its time. -/
def file (lastWriteTime : Option Int) : UserFile :=
  ⟨some store.text, lastWriteTime⟩

def save (manager : CommonUserManager) : Saving → Option Store
  | .written order =>
      if order.Perm manager.users.map.entries then
        some ⟨manager, saveEntries order, true⟩
      else
        none
  | .unopened => some ⟨manager, store.text, false⟩

def step : Label → Option Store
  | .addUser username password bandwidth saving =>
      match store.manager.addUser hash username password bandwidth with
      | none => some store
      | some manager => store.save manager saving
  | .deleteUser username saving =>
      match store.manager.deleteUser username with
      | none => some store
      | some manager => store.save manager saving
  | .authenticate lastWriteTime username password =>
      some
        { store with
          manager :=
            (store.manager.authenticate hash (store.file lastWriteTime)
              username password).2 }

/-- The file has the users of the manager, and it makes no difference whether
it is read again. -/
structure RoundTrips : Prop where
  users : ∀ username,
    (loadUsers (some store.text)).find username =
      store.manager.users.find username
  logins : ∀ lastWriteTime username password,
    (store.manager.authenticate hash (store.file lastWriteTime) username
        password).1 =
      (store.manager.authenticate hash (store.file none) username
        password).1
  limits : ∀ lastWriteTime overflowed username,
    (store.manager.reloadIfChanged
        (store.file lastWriteTime)).getUserBandwidthBit overflowed
          username =
      store.manager.getUserBandwidthBit overflowed username

end Store

/-- A user is only added with a hash. -/
def Hashed (hash : ByteString → Hash) : Label → Prop
  | .addUser _ password _ _ => (hash password).val ≠ []
  | _ => True

/-! ## Reading what has been written -/

section Reading

variable {username : ByteString} {user : Hash × Int32} {users : Users}
  {order : List Entry}

theorem loadLine_line (named : username ≠ [] ∧ Unspaced username)
    (hashed : user.1.val ≠ []) :
    loadLine users (line username user) = users.set username user named := by
  have written := readLine_line_of_hash named hashed
  rw [loadLine]
  split
  next name passwordHash bandwidth read =>
    obtain ⟨rfl, rest⟩ :=
      Prod.mk.inj (Option.some.inj (written.symm.trans read))
    obtain ⟨rfl, rfl⟩ := Prod.mk.inj rest
    rfl
  next read =>
    rw [written] at read
    cases read

/-- Whoever is found after some lines has one of them, or was there. -/
theorem find_loadLines_iff
    (named : ∀ entry ∈ order, entry.1 ≠ [] ∧ Unspaced entry.1)
    (hashed : ∀ entry ∈ order, entry.2.1.val ≠ [])
    (distinct : (order.map Sigma.fst).Nodup) :
    ((order.map fun entry => line entry.1 entry.2).foldl loadLine
        users).find username = some user ↔
      ⟨username, user⟩ ∈ order ∨
        username ∉ order.map Sigma.fst ∧
          users.find username = some user := by
  induction order generalizing users with
  | nil => simp
  | cons entry rest ih =>
      obtain ⟨absent, distinct⟩ := List.nodup_cons.mp distinct
      have first := named entry List.mem_cons_self
      have later := @ih (users.set entry.1 entry.2 first)
        (fun other member => named other (List.mem_cons_of_mem _ member))
        (fun other member => hashed other (List.mem_cons_of_mem _ member))
        distinct
      rw [List.map_cons, List.foldl_cons,
        loadLine_line first (hashed entry List.mem_cons_self), later,
        List.map_cons, List.mem_cons, List.mem_cons]
      by_cases same : username = entry.1
      · subst same
        have notRest : ⟨entry.1, user⟩ ∉ rest := fun member =>
          absent (List.mem_map.mpr ⟨_, member, rfl⟩)
        rw [Users.find_set]
        constructor
        · rintro (member | ⟨-, found⟩)
          · exact absurd member notRest
          · obtain rfl := Option.some.inj found
            exact Or.inl (Or.inl rfl)
        · rintro ((here | member) | ⟨other, -⟩)
          · exact Or.inr ⟨absent, by rw [← here]⟩
          · exact absurd member notRest
          · exact absurd (Or.inl rfl) other
      · rw [Users.find_set_ne _ _ _ same]
        have notHere : (⟨username, user⟩ : Entry) ≠ entry := by
          rintro rfl
          exact same rfl
        rw [or_iff_right notHere, or_iff_right same]

/-- The file is read as it was written, in whatever order. -/
theorem find_loadUsers_saveEntries
    (hashed : ∀ entry ∈ users.map.entries, entry.2.1.val ≠ [])
    (perm : order.Perm users.map.entries) :
    (loadUsers (some (saveEntries order))).find username =
      users.find username := by
  have named : ∀ entry ∈ order, entry.1 ≠ [] ∧ Unspaced entry.1 :=
    fun entry member => users.named entry (perm.mem_iff.mp member)
  have distinct : (order.map Sigma.fst).Nodup :=
    (perm.map Sigma.fst).nodup_iff.mpr users.map.nodupKeys
  have lines : loadUsers (some (saveEntries order)) =
      (order.map fun entry => line entry.1 entry.2).foldl loadLine
        Users.empty := by
    rw [loadUsers, splitOn_saveEntries fun entry member =>
      (named entry member).2, List.foldl_append]
    rfl
  apply Option.ext
  intro user
  rw [lines, find_loadLines_iff named
    (fun entry member => hashed entry (perm.mem_iff.mp member)) distinct,
    perm.mem_iff]
  refine (or_iff_left fun other => ?_).trans AList.mem_lookup_iff.symm
  cases other.2

theorem readLine_hashed {text name passwordHash : ByteString}
    {bandwidth : Int32}
    (read : readLine text = some (name, passwordHash, bandwidth)) :
    passwordHash ≠ [] := by
  obtain ⟨⟨first, afterName⟩, _, read⟩ := Option.bind_eq_some_iff.mp read
  obtain ⟨⟨hash, afterHash⟩, second, read⟩ :=
    Option.bind_eq_some_iff.mp read
  obtain ⟨number, _, read⟩ := Option.bind_eq_some_iff.mp read
  obtain ⟨-, same⟩ := Prod.mk.inj (Option.some.inj read)
  obtain ⟨rfl, -⟩ := Prod.mk.inj same
  exact (readWord_eq_some second).1

end Reading

/-! ## What calls keep -/

/-- Every user has a hash. -/
def AllHashed (users : Users) : Prop :=
  ∀ username user, users.find username = some user → user.1.val ≠ []

/-- All users have a hash, and they are in the file if it has been written. -/
structure Kept (store : Store) : Prop where
  hashed : AllHashed store.manager.users
  saved : store.saved = true → ∀ username,
    (loadUsers (some store.text)).find username =
      store.manager.users.find username

section Keeps

variable {hash : ByteString → Hash} {manager next : CommonUserManager}
  {store after : Store} {username password : ByteString}
  {bandwidth : Int32}

theorem allHashed_loadUsers (text : ByteString) :
    AllHashed (loadUsers (some text)) := by
  intro username user found
  rcases find_loadLines found with before | ⟨_, _, read⟩
  · cases before
  · exact readLine_hashed read

theorem addUser_eq_some
    (added : manager.addUser hash username password bandwidth =
      some next) :
    ∃ named, next =
      { manager with
        users :=
          manager.users.set username (hash password, bandwidth) named } := by
  rw [addUser] at added
  split at added
  · split at added
    · cases added
    · split at added
      · cases added
      · exact ⟨_, (Option.some.inj added).symm⟩
  · cases added

theorem deleteUser_eq_some
    (deleted : manager.deleteUser username = some next) :
    next = { manager with users := manager.users.erase username } := by
  rw [deleteUser] at deleted
  split at deleted
  · cases deleted
  · exact (Option.some.inj deleted).symm

theorem allHashed_addUser (hashed : AllHashed manager.users)
    (some_ : (hash password).val ≠ [])
    (added : manager.addUser hash username password bandwidth =
      some next) : AllHashed next.users := by
  obtain ⟨named, rfl⟩ := addUser_eq_some added
  intro other user found
  by_cases same : other = username
  · subst same
    rw [Users.find_set] at found
    obtain rfl := Option.some.inj found
    exact some_
  · rw [Users.find_set_ne _ _ _ same] at found
    exact hashed other user found

theorem allHashed_deleteUser (hashed : AllHashed manager.users)
    (deleted : manager.deleteUser username = some next) :
    AllHashed next.users := by
  obtain rfl := deleteUser_eq_some deleted
  intro other user found
  by_cases same : other = username
  · subst same
    rw [Users.find_erase] at found
    cases found
  · rw [Users.find_erase_ne _ same] at found
    exact hashed other user found

theorem kept_start : Kept Store.start where
  hashed := allHashed_loadUsers []
  saved := fun _ _ => rfl

/-- What is saved can be read again. -/
theorem kept_save {saving : Saving} (hashed : AllHashed manager.users)
    (done : store.save manager saving = some after) : Kept after := by
  cases saving with
  | unopened =>
      obtain rfl := Option.some.inj done
      exact ⟨hashed, fun saved => absurd saved Bool.false_ne_true⟩
  | written order =>
      rw [Store.save] at done
      split at done
      · rename_i perm
        obtain rfl := Option.some.inj done
        refine ⟨hashed, fun _ _ => find_loadUsers_saveEntries ?_ perm⟩
        exact fun entry member =>
          hashed entry.1 entry.2 (AList.mem_lookup_iff.mpr member)
      · cases done

/-- The file is read again, or nothing happens. -/
theorem reloadIfChanged_cases (manager : CommonUserManager)
    (text : ByteString) (lastWriteTime : Option Int) :
    (manager.reloadIfChanged ⟨some text, lastWriteTime⟩).users =
        loadUsers (some text) ∨
      manager.reloadIfChanged ⟨some text, lastWriteTime⟩ = manager := by
  rw [reloadIfChanged]
  cases lastWriteTime with
  | none => exact Or.inr rfl
  | some mtime =>
      dsimp only
      split
      · exact Or.inl rfl
      · exact Or.inr rfl

theorem authenticate_manager (file : UserFile) :
    (manager.authenticate hash file username password).2 =
      manager.reloadIfChanged file := by
  rw [authenticate]
  split
  · rfl
  · rfl

/-- Each call keeps it. -/
theorem kept_step {label : Label} (kept : Kept store)
    (hashed : Hashed hash label)
    (done : Store.step hash store label = some after) : Kept after := by
  cases label with
  | addUser username password bandwidth saving =>
      rw [Store.step] at done
      split at done
      · obtain rfl := Option.some.inj done
        exact kept
      · rename_i added
        exact kept_save (allHashed_addUser kept.hashed hashed added) done
  | deleteUser username saving =>
      rw [Store.step] at done
      split at done
      · obtain rfl := Option.some.inj done
        exact kept
      · rename_i deleted
        exact kept_save (allHashed_deleteUser kept.hashed deleted) done
  | authenticate lastWriteTime username password =>
      obtain rfl := Option.some.inj done
      rw [authenticate_manager]
      rcases reloadIfChanged_cases store.manager store.text
        lastWriteTime with loaded | same
      · constructor
        · show AllHashed (store.manager.reloadIfChanged _).users
          rw [Store.file, loaded]
          exact allHashed_loadUsers store.text
        · intro _ username
          show _ = (store.manager.reloadIfChanged _).users.find username
          rw [Store.file, loaded]
      · rw [Store.file, same]
        exact kept

theorem find_reloadIfChanged (kept : Kept store)
    (saved : store.saved = true) (lastWriteTime : Option Int)
    (username : ByteString) :
    (store.manager.reloadIfChanged
        (store.file lastWriteTime)).users.find username =
      store.manager.users.find username := by
  rcases reloadIfChanged_cases store.manager store.text
    lastWriteTime with loaded | same
  · rw [Store.file, loaded]
    exact kept.saved saved username
  · rw [Store.file, same]

/-- The answer depends on what is found after the file has been looked at. -/
theorem authenticate_answer (file : UserFile) :
    (manager.authenticate hash file username password).1 =
      match (manager.reloadIfChanged file).users.find username with
      | some user => user.1 == hash password
      | none => false := by
  rw [authenticate]
  cases (manager.reloadIfChanged file).users.find username with
  | none => rfl
  | some user => rfl

theorem roundTrips_of_kept (kept : Kept store)
    (saved : store.saved = true) : store.RoundTrips hash where
  users := kept.saved saved
  logins := by
    intro lastWriteTime username password
    rw [authenticate_answer, authenticate_answer,
      find_reloadIfChanged kept saved, find_reloadIfChanged kept saved]
  limits := by
    intro lastWriteTime overflowed username
    rw [getUserBandwidthBit, getUserBandwidthBit,
      find_reloadIfChanged kept saved]

end Keeps

/-! ## Every history -/

/-- Whatever users have been added and deleted, what has been written last is
read as it is. -/
theorem run_roundTrips {digest : ByteString → Option (List UInt8)}
    {labels : List Label} {last : Store}
    (hashed : ∀ label ∈ labels, Hashed (hashPassword digest) label)
    (reached : run (Store.step (hashPassword digest)) Store.start labels =
      some last)
    (saved : last.saved = true) :
    last.RoundTrips (hashPassword digest) := by
  have along : Along (Store.step (hashPassword digest))
      (fun _ label => Hashed (hashPassword digest) label) Store.start
        labels := along_of_forall hashed
  have kept : Kept last :=
    run_invariant_of
      (fun _ _ _ kept hashed done => kept_step kept hashed done) kept_start
      along reached
  exact roundTrips_of_kept kept saved

/-- The SHA-256 of the password "secret". -/
def secretDigest : List UInt8 :=
  [43, 184, 13, 83, 123, 29, 163, 227, 139, 211, 3, 97, 170, 133, 86, 134,
    189, 224, 234, 205, 113, 98, 254, 246, 162, 95, 233, 123, 245, 39, 162,
    91]

def secretOnly (password : ByteString) : Option (List UInt8) :=
  if password = [0x73, 0x65, 0x63, 0x72, 0x65, 0x74] then
    some secretDigest
  else
    none

/-- An element for a user with this password and 100 megabits. -/
def secretEntry (username : ByteString) : Entry :=
  ⟨username,
    hashPassword secretOnly [0x73, 0x65, 0x63, 0x72, 0x65, 0x74], 100⟩

/-- Two users are added, one is rejected and one is deleted. -/
def fewCalls : List Label :=
  [.addUser [0x61] [0x73, 0x65, 0x63, 0x72, 0x65, 0x74] 100
      (.written [secretEntry [0x61]]),
    .addUser [0x20] [0x73, 0x65, 0x63, 0x72, 0x65, 0x74] 100 .unopened,
    .addUser [0x62] [0x73, 0x65, 0x63, 0x72, 0x65, 0x74] 100
      (.written [secretEntry [0x61], secretEntry [0x62]]),
    .deleteUser [0x61] (.written [secretEntry [0x62]])]

theorem run_roundTrips_few :
    ∃ last, run (Store.step (hashPassword secretOnly)) Store.start
        fewCalls = some last ∧
      last.manager.users.find [0x62] = some (secretEntry [0x62]).2 ∧
        last.RoundTrips (hashPassword secretOnly) := by
  have done : (run (Store.step (hashPassword secretOnly)) Store.start
      fewCalls).map (fun last =>
        (last.saved, last.manager.users.find [0x62])) =
          some (true, some (secretEntry [0x62]).2) := by
    decide +kernel
  obtain ⟨last, reached, same⟩ := Option.map_eq_some_iff.mp done
  obtain ⟨saved, found⟩ := Prod.mk.inj same
  refine ⟨last, reached, found, run_roundTrips ?_ reached saved⟩
  intro label member
  simp only [fewCalls, List.mem_cons, List.not_mem_nil, or_false] at member
  rcases member with rfl | rfl | rfl | rfl
  · exact (by decide +kernel : (hashPassword secretOnly
      [0x73, 0x65, 0x63, 0x72, 0x65, 0x74]).val ≠ [])
  · exact (by decide +kernel : (hashPassword secretOnly
      [0x73, 0x65, 0x63, 0x72, 0x65, 0x74]).val ≠ [])
  · exact (by decide +kernel : (hashPassword secretOnly
      [0x73, 0x65, 0x63, 0x72, 0x65, 0x74]).val ≠ [])
  · trivial

end Fptn.Common.UserFile
