import Fptn.Lib.PartialRun
import Fptn.Web.ApiLogin

/-!
# The search for a server

`FindFastestServer` and `FindServerByLogin` ask up to four servers at once,
each in a thread of its own, and take the first answer which is any good.
They differ in the request and in what a good answer is.

If a thread cannot be created, or if no server has given a good answer, the
servers are asked once more, one after the other.
-/

namespace Fptn.Client.ServerRace

open Fptn.PartialRun

/-! ## Races -/

/-- A thread which asks one server. -/
inductive Worker (Answer : Type) where
  | asking
  /-- It has an answer and goes for the lock. -/
  | answered (answer : Answer)
  | finished

inductive Main (Server Result : Type) where
  /-- The threads for these servers are still to be created. -/
  | spawning (rest : List Server)
  | waitFor
  /-- `join` of the thread with this index. -/
  | joining (index : Nat)
  /-- The servers are asked one after the other. -/
  | fallback (rest : List Server)
  /-- `FindFastestServer` throws if there is no result. -/
  | returned (result : Option Result)

structure Race (Server Answer Result : Type) where
  workers : List (Server × Worker Answer)
  firstResult : Option Result
  completed : Nat
  multithreadOk : Bool
  main : Main Server Result
  /-- The answers in the order in which the threads have had the lock. -/
  published : List (Server × Answer)
  /-- The answers to the requests of the second round. -/
  sequential : List (Server × Answer)

inductive Label (Answer : Type) where
  /-- Whether `emplace_back` of a thread succeeds. -/
  | emplaceBack (created : Bool)
  | answer (index : Nat) (answer : Answer)
  | lock (index : Nat)
  | wake (timedOut : Bool)
  | join
  | request (answer : Answer)
  | proceed

namespace Race

variable {Server Answer Result : Type}

def start (selected : List Server) : Race Server Answer Result where
  workers := []
  firstResult := none
  completed := 0
  multithreadOk := true
  main := .spawning selected
  published := []
  sequential := []

variable (accept : Server → Answer → Option Result)
  (selected : List Server) (race : Race Server Answer Result)

/-- The part of a thread which holds the lock. -/
def publish (index : Nat) (server : Server) (answer : Answer) :
    Race Server Answer Result :=
  { race with
    workers := race.workers.set index (server, .finished)
    firstResult := race.firstResult.or (accept server answer)
    completed := race.completed + 1
    published := race.published ++ [(server, answer)] }

/-- Where the caller goes once the threads have been joined. -/
def afterJoin : Main Server Result :=
  if !race.multithreadOk || race.firstResult.isNone then
    .fallback selected
  else
    .returned race.firstResult

/-- Where it goes after a request of its own. -/
def afterRequest (rest : List Server) : Option Result → Main Server Result
  | some result => .returned (some result)
  | none => .fallback rest

def step : Label Answer → Option (Race Server Answer Result)
  | .emplaceBack created =>
      match race.main with
      | .spawning (server :: rest) =>
          if created then
            some { race with
              workers := race.workers ++ [(server, .asking)]
              main := .spawning rest }
          else
            some { race with multithreadOk := false, main := .joining 0 }
      | _ => none
  | .answer index answer =>
      match race.workers[index]? with
      | some (server, .asking) =>
          some { race with
            workers := race.workers.set index (server, .answered answer) }
      | _ => none
  | .lock index =>
      match race.workers[index]? with
      | some (server, .answered answer) =>
          some (race.publish accept index server answer)
      | _ => none
  | .wake timedOut =>
      match race.main with
      | .waitFor =>
          if timedOut || race.firstResult.isSome ||
              race.completed == selected.length then
            some { race with main := .joining 0 }
          else
            none
      | _ => none
  | .join =>
      match race.main with
      | .joining index =>
          match race.workers[index]? with
          | some (_, .finished) =>
              some { race with main := .joining (index + 1) }
          | _ => none
      | _ => none
  | .request answer =>
      match race.main with
      | .fallback (server :: rest) =>
          some { race with
            sequential := race.sequential ++ [(server, answer)]
            main := afterRequest rest (accept server answer) }
      | _ => none
  | .proceed =>
      match race.main with
      | .spawning [] => some { race with main := .waitFor }
      | .joining index =>
          if race.workers.length ≤ index then
            some { race with main := race.afterJoin selected }
          else
            none
      | .fallback [] =>
          some { race with main := .returned race.firstResult }
      | _ => none

end Race

/-! ## Requests -/

open Fptn.Web.ApiLogin (ByteString Numbers Response Sender ascii)

structure ServerInfo where
  name : ByteString
  host : ByteString
  port : Int
  isUsing : Bool
  md5Fingerprint : ByteString
  username : ByteString
  password : ByteString
  serviceName : ByteString
deriving DecidableEq

structure LoginResult where
  server : ServerInfo
  accessToken : ByteString

def kMaxTimeout : UInt64 := 0xFFFFFFFFFFFFFFFF

/-- `GetDownloadTimeMs`, for the code of the response and the time it took;
there is none if the request throws. -/
def getDownloadTimeMs (answer : Option (Int × UInt64)) : UInt64 :=
  match answer with
  | some (code, ms) => if code = 200 then ms else kMaxTimeout
  | none => kMaxTimeout

/-- What `FindFastestServer` accepts. -/
def acceptFastest (server : ServerInfo) (answer : Option (Int × UInt64)) :
    Option ServerInfo :=
  if getDownloadTimeMs answer ≠ kMaxTimeout then some server else none

/-- What `TryLoginSingleServer` makes of the response, so what
`FindServerByLogin` accepts. -/
def tryLoginSingleServer (numbers : Numbers) (server : ServerInfo)
    (answer : Option Response) : Option LoginResult := do
  let resp ← answer
  if resp.code = 200 then
    let msg ← Json.parse numbers.inRange resp.body
    let token ← Json.member? (ascii "access_token") msg
    let accessToken ← Json.string? token
    return { server := server, accessToken := accessToken }
  else
    none

/-- The servers which are asked, out of the shuffled ones. -/
def selectedServers {Server : Type} (shuffled : List Server) : List Server :=
  shuffled.take (min shuffled.length 4)

/-! ## Outcomes -/

section Outcomes

variable {Server Answer Result : Type}

/-- The result of the first good answer. -/
def firstOf (accept : Server → Answer → Option Result)
    (answers : List (Server × Answer)) : Option Result :=
  answers.findSome? fun entry => accept entry.1 entry.2

def isFinished : Worker Answer → Bool
  | .finished => true
  | .asking | .answered _ => false

/-- The servers for which there are threads. -/
def Race.servers (race : Race Server Answer Result) : List Server :=
  race.workers.map Prod.fst

def Race.done (race : Race Server Answer Result) : List Server :=
  (race.workers.filter fun entry => isFinished entry.2).map Prod.fst

def Joined (race : Race Server Answer Result) : Prop :=
  ∀ entry ∈ race.workers, isFinished entry.2 = true

/-- All threads have been created, unless this has failed. -/
def Created (selected : List Server) (race : Race Server Answer Result) :
    Prop :=
  race.servers <+: selected ∧
    (race.multithreadOk = true → race.servers = selected)

/-- The servers are to be asked once more. -/
def Again (accept : Server → Answer → Option Result)
    (race : Race Server Answer Result) : Prop :=
  race.multithreadOk = false ∨ firstOf accept race.published = none

/-- What a result says about the answers. -/
structure Outcome (accept : Server → Answer → Option Result)
    (selected : List Server) (race : Race Server Answer Result)
    (result : Option Result) : Prop where
  created : Created selected race
  joined : Joined race
  asked : race.sequential.map Prod.fst <+: selected
  skipped : ¬Again accept race → race.sequential = []
  exhausted : Again accept race → firstOf accept race.sequential = none →
    race.sequential.map Prod.fst = selected
  result : result =
    if race.multithreadOk then
      (firstOf accept race.published).or (firstOf accept race.sequential)
    else
      (firstOf accept race.sequential).or (firstOf accept race.published)

/-- What is so where the caller is. -/
def AtPlace (accept : Server → Answer → Option Result)
    (selected : List Server) (race : Race Server Answer Result) :
    Main Server Result → Prop
  | .spawning rest =>
      race.multithreadOk = true ∧ race.servers ++ rest = selected ∧
        race.sequential = []
  | .waitFor => race.servers = selected ∧ race.sequential = []
  | .joining index =>
      Created selected race ∧ race.sequential = [] ∧
        ∀ entry ∈ race.workers.take index, isFinished entry.2 = true
  | .fallback rest =>
      Created selected race ∧ Joined race ∧ Again accept race ∧
        race.sequential.map Prod.fst ++ rest = selected ∧
          firstOf accept race.sequential = none
  | .returned result => Outcome accept selected race result

structure Sound (accept : Server → Answer → Option Result)
    (selected : List Server) (race : Race Server Answer Result) :
    Prop where
  first : race.firstResult = firstOf accept race.published
  counted : race.completed = race.published.length
  finished : (race.published.map Prod.fst).Perm race.done
  place : AtPlace accept selected race race.main

variable {accept : Server → Answer → Option Result}
  {selected : List Server} {race next : Race Server Answer Result}

theorem firstOf_append (answers : List (Server × Answer)) (server : Server)
    (answer : Answer) :
    firstOf accept (answers ++ [(server, answer)]) =
      (firstOf accept answers).or (accept server answer) := by
  rw [firstOf, List.findSome?_append]
  cases here : accept server answer with
  | none => simp [here, firstOf]
  | some result => simp [here, firstOf]

/-- A list around one of its entries. -/
theorem exists_around {α : Type} {list : List α} {index : Nat} {entry : α}
    (here : list[index]? = some entry) :
    ∃ before after, before.length = index ∧
      list = before ++ entry :: after ∧
        ∀ other, list.set index other = before ++ other :: after := by
  obtain ⟨inside, rfl⟩ := List.getElem?_eq_some_iff.mp here
  refine ⟨list.take index, list.drop (index + 1), ?_, ?_, fun other => ?_⟩
  · exact List.length_take_of_le (Nat.le_of_lt inside)
  · rw [List.cons_getElem_drop_succ, List.take_append_drop]
  · exact List.set_eq_take_append_cons_drop.trans (if_pos inside)

/-- A thread which has not finished is behind those which have been joined. -/
theorem take_of_unfinished {before after : List (Server × Worker Answer)}
    {entry other : Server × Worker Answer} {index : Nat}
    (unfinished : isFinished entry.2 = false)
    (joined : ∀ known ∈ (before ++ entry :: after).take index,
      isFinished known.2 = true) :
    (before ++ other :: after).take index =
      (before ++ entry :: after).take index := by
  have early : index ≤ before.length := by
    by_contra late
    have inside : entry ∈ (before ++ entry :: after).take index := by
      obtain ⟨more, rfl⟩ : ∃ more, index = before.length + (more + 1) :=
        ⟨index - before.length - 1, by omega⟩
      rw [List.take_length_add_append, List.take_succ_cons]
      exact List.mem_append_right _ List.mem_cons_self
    rw [joined entry inside] at unfinished
    cases unfinished
  rw [List.take_append_of_le_length early,
    List.take_append_of_le_length early]

theorem start_sound : Sound accept selected (Race.start selected) where
  first := rfl
  counted := rfl
  finished := List.Perm.refl _
  place := ⟨rfl, rfl, rfl⟩

/-- The caller goes on, and nothing else happens. -/
theorem Sound.goto {main : Main Server Result}
    (sound : Sound accept selected race)
    (place : AtPlace accept selected race main) :
    Sound accept selected { race with main := main } where
  first := sound.first
  counted := sound.counted
  finished := sound.finished
  place := by
    cases main with
    | spawning | waitFor | joining | fallback => exact place
    | returned =>
        obtain ⟨created, joined, asked, skipped, exhausted, result⟩ := place
        exact ⟨created, joined, asked, skipped, exhausted, result⟩

/-- A thread goes on while the caller is where it is. -/
theorem AtPlace.set {entry : Server × Worker Answer} {index : Nat}
    {later : Worker Answer} (place : AtPlace accept selected race race.main)
    (here : race.workers[index]? = some entry)
    (unfinished : isFinished entry.2 = false)
    (workers : next.workers = race.workers.set index (entry.1, later))
    (main : next.main = race.main)
    (ok : next.multithreadOk = race.multithreadOk)
    (sequential : next.sequential = race.sequential) :
    AtPlace accept selected next next.main := by
  obtain ⟨before, after, -, split, sets⟩ := exists_around here
  have servers : next.servers = race.servers := by
    rw [Race.servers, Race.servers, workers, sets, split]
    simp only [List.map_append, List.map_cons]
  have notJoined : ¬Joined race := by
    intro joined
    have known := joined entry (List.mem_of_getElem? here)
    rw [unfinished] at known
    cases known
  rw [main]
  cases there : race.main with
  | spawning rest =>
      rw [there] at place
      obtain ⟨good, whole, nothing⟩ := place
      exact ⟨ok.trans good, servers ▸ whole, sequential.trans nothing⟩
  | waitFor =>
      rw [there] at place
      obtain ⟨whole, nothing⟩ := place
      exact ⟨servers.trans whole, sequential.trans nothing⟩
  | joining number =>
      rw [there] at place
      obtain ⟨created, nothing, joined⟩ := place
      refine ⟨?_, sequential.trans nothing, ?_⟩
      · rw [Created, servers, ok]
        exact created
      · rw [split] at joined
        rw [workers, sets, take_of_unfinished unfinished joined]
        exact joined
  | fallback rest =>
      rw [there] at place
      exact absurd place.2.1 notJoined
  | returned result =>
      rw [there] at place
      exact absurd place.joined notJoined

theorem answer_sound {server : Server} {index : Nat} {answer : Answer}
    (sound : Sound accept selected race)
    (here : race.workers[index]? = some (server, .asking)) :
    Sound accept selected
      { race with
        workers := race.workers.set index (server, .answered answer) } where
  first := sound.first
  counted := sound.counted
  finished := by
    obtain ⟨before, after, -, split, sets⟩ := exists_around here
    have finished := sound.finished
    rw [Race.done, split] at finished
    rw [Race.done, sets]
    simp only [List.filter_append, List.filter_cons, isFinished,
      Bool.false_eq_true, if_false] at finished ⊢
    exact finished
  place := sound.place.set here rfl rfl rfl rfl rfl

theorem publish_sound {server : Server} {index : Nat} {answer : Answer}
    (sound : Sound accept selected race)
    (here : race.workers[index]? = some (server, .answered answer)) :
    Sound accept selected (race.publish accept index server answer) where
  first := by
    show race.firstResult.or (accept server answer) = _
    rw [sound.first]
    exact (firstOf_append _ _ _).symm
  counted := by
    simp only [Race.publish, sound.counted, List.length_append,
      List.length_singleton]
  finished := by
    obtain ⟨before, after, -, split, sets⟩ := exists_around here
    have finished := sound.finished
    rw [Race.done, split] at finished
    rw [Race.done, Race.publish, sets]
    simp only [List.filter_append, List.filter_cons, isFinished,
      List.map_append, List.map_cons, List.map_nil, if_true,
      Bool.false_eq_true, if_false] at finished ⊢
    refine (finished.append_right [server]).trans ?_
    rw [List.append_assoc]
    exact List.perm_append_comm.append_left _
  place := sound.place.set here rfl rfl rfl rfl rfl

/-- One thread more, which has not got an answer. -/
theorem spawn_sound {server : Server} {rest : List Server}
    (sound : Sound accept selected race)
    (here : race.main = .spawning (server :: rest)) :
    Sound accept selected
      { race with
        workers := race.workers ++ [(server, .asking)]
        main := .spawning rest } where
  first := sound.first
  counted := sound.counted
  finished := by
    rw [Race.done, List.filter_append]
    simp only [List.filter_cons, isFinished, Bool.false_eq_true, if_false,
      List.filter_nil, List.append_nil]
    exact sound.finished
  place := by
    have place := sound.place
    rw [here] at place
    obtain ⟨good, whole, nothing⟩ := place
    refine ⟨good, ?_, nothing⟩
    rw [Race.servers, List.map_append, List.append_assoc]
    exact whole

/-- No more threads. -/
theorem spawnFailed_sound {rest : List Server}
    (sound : Sound accept selected race) (here : race.main = .spawning rest) :
    Sound accept selected
      { race with multithreadOk := false, main := .joining 0 } where
  first := sound.first
  counted := sound.counted
  finished := sound.finished
  place := by
    have place := sound.place
    rw [here] at place
    obtain ⟨-, whole, nothing⟩ := place
    refine ⟨⟨⟨rest, whole⟩, (absurd · Bool.false_ne_true)⟩, nothing, ?_⟩
    intro entry member
    rw [List.take_zero] at member
    cases member

theorem request_sound {server : Server} {rest : List Server}
    {answer : Answer} (sound : Sound accept selected race)
    (here : race.main = .fallback (server :: rest)) :
    Sound accept selected
      { race with
        sequential := race.sequential ++ [(server, answer)]
        main := Race.afterRequest rest (accept server answer) } where
  first := sound.first
  counted := sound.counted
  finished := sound.finished
  place := by
    have place := sound.place
    rw [here] at place
    obtain ⟨created, joined, again, whole, nothing⟩ := place
    have asked :
        (race.sequential ++ [(server, answer)]).map Prod.fst ++ rest =
          selected := by
      rw [List.map_append, List.append_assoc]
      exact whole
    have found := @firstOf_append _ _ _ accept race.sequential server answer
    rw [nothing, Option.none_or] at found
    cases accepted : accept server answer with
    | none =>
        rw [accepted] at found
        exact ⟨created, joined, again, asked, found⟩
    | some result =>
        rw [accepted] at found
        refine ⟨created, joined, ⟨rest, asked⟩, absurd again, ?_, ?_⟩
        · intro _ missing
          cases missing.symm.trans found
        · show some result = if race.multithreadOk then _ else _
          rw [found]
          rcases again with failed | missing
          · rw [failed]
            rfl
          · rw [missing]
            cases race.multithreadOk
            · rfl
            · rfl

theorem afterJoin_place {index : Nat} (sound : Sound accept selected race)
    (here : race.main = .joining index)
    (whole : race.workers.length ≤ index) :
    AtPlace accept selected race (race.afterJoin selected) := by
  have place := sound.place
  rw [here] at place
  obtain ⟨created, nothing, joined⟩ := place
  rw [List.take_of_length_le whole] at joined
  rw [Race.afterJoin]
  split
  case isTrue again =>
    refine ⟨created, joined, ?_, ?_, ?_⟩
    · rcases Bool.or_eq_true_iff.mp again with failed | missing
      · exact Or.inl (by simpa using failed)
      · exact Or.inr (sound.first ▸ Option.isNone_iff_eq_none.mp missing)
    · rw [nothing]
      rfl
    · rw [nothing]
      rfl
  case isFalse found =>
    rw [Bool.or_eq_true, not_or, Bool.not_eq_true', Bool.not_eq_false,
      Option.isNone_iff_eq_none] at found
    refine ⟨created, joined, ?_, fun _ => nothing, fun again => ?_, ?_⟩
    · rw [nothing]
      exact List.nil_prefix
    · rcases again with failed | missing
      · rw [found.1] at failed
        cases failed
      · exact absurd (sound.first.trans missing) found.2
    · rw [found.1, if_pos rfl, nothing, sound.first]
      exact Option.or_none.symm

theorem step_sound {label : Label Answer}
    (sound : Sound accept selected race)
    (taken : race.step accept selected label = some next) :
    Sound accept selected next := by
  have place := sound.place
  cases label with
  | emplaceBack created =>
      simp only [Race.step] at taken
      split at taken
      case h_2 => cases taken
      case h_1 server rest here =>
        split at taken
        · cases taken
          exact spawn_sound sound here
        · cases taken
          exact spawnFailed_sound sound here
  | answer index answer =>
      simp only [Race.step] at taken
      split at taken
      case h_2 => cases taken
      case h_1 server here =>
        cases taken
        exact answer_sound sound here
  | lock index =>
      simp only [Race.step] at taken
      split at taken
      case h_2 => cases taken
      case h_1 server answer here =>
        cases taken
        exact publish_sound sound here
  | wake timedOut =>
      simp only [Race.step] at taken
      split at taken
      case h_2 => cases taken
      case h_1 here =>
        split at taken
        case isFalse => cases taken
        case isTrue =>
          cases taken
          rw [here] at place
          obtain ⟨whole, nothing⟩ := place
          refine sound.goto ⟨⟨?_, fun _ => whole⟩, nothing, ?_⟩
          · exact whole ▸ List.prefix_rfl
          · intro entry member
            rw [List.take_zero] at member
            cases member
  | join =>
      simp only [Race.step] at taken
      split at taken
      case h_2 => cases taken
      case h_1 index here =>
        split at taken
        case h_2 => cases taken
        case h_1 server finished =>
          cases taken
          rw [here] at place
          obtain ⟨created, nothing, joined⟩ := place
          refine sound.goto ⟨created, nothing, ?_⟩
          rw [List.take_add_one, finished]
          intro entry member
          rcases List.mem_append.mp member with before | last
          · exact joined entry before
          · cases List.mem_singleton.mp last
            rfl
  | request answer =>
      simp only [Race.step] at taken
      split at taken
      case h_2 => cases taken
      case h_1 server rest here =>
        cases taken
        exact request_sound sound here
  | proceed =>
      simp only [Race.step] at taken
      split at taken
      case h_1 here =>
        cases taken
        rw [here] at place
        obtain ⟨-, whole, nothing⟩ := place
        rw [List.append_nil] at whole
        exact sound.goto ⟨whole, nothing⟩
      case h_2 index here =>
        split at taken
        case isFalse => cases taken
        case isTrue whole =>
          cases taken
          exact sound.goto (afterJoin_place sound here whole)
      case h_3 here =>
        cases taken
        rw [here] at place
        obtain ⟨created, joined, again, whole, nothing⟩ := place
        rw [List.append_nil] at whole
        refine sound.goto ⟨created, joined, ?_, absurd again,
          fun _ _ => whole, ?_⟩
        · exact whole ▸ List.prefix_rfl
        · rw [nothing, sound.first, Option.or_none, Option.none_or]
          exact (ite_self _).symm
      case h_4 => cases taken

theorem done_of_joined (joined : Joined race) : race.done = race.servers := by
  rw [Race.done, Race.servers, List.filter_eq_self.mpr joined]

theorem mem_of_firstOf {answers : List (Server × Answer)} {result : Result}
    (found : firstOf accept answers = some result) :
    ∃ server answer, (server, answer) ∈ answers ∧
      accept server answer = some result := by
  obtain ⟨entry, member, accepted⟩ := List.exists_of_findSome?_eq_some found
  exact ⟨entry.1, entry.2, member, accepted⟩

end Outcomes

/-- Whatever the threads do, the search ends with all of them joined, and with
the first good answer of the first round, by the order in which the threads
had the lock.  Without one, or if a thread could not be created, the servers
are asked again in their order up to a good answer.  There is no result only
if every server has been asked like this without success. -/
theorem search_outcome {Server Answer Result : Type}
    (accept : Server → Answer → Option Result)
    (servers shuffled : List Server) (shuffles : shuffled.Perm servers)
    (labels : List (Label Answer)) (race : Race Server Answer Result)
    (reached : run (Race.step accept (selectedServers shuffled))
      (Race.start (selectedServers shuffled)) labels = some race)
    (result : Option Result) (returned : race.main = .returned result) :
    Outcome accept (selectedServers shuffled) race result ∧
      (race.published.map Prod.fst).Perm race.servers ∧
      (∀ found, result = some found →
        ∃ server ∈ servers, ∃ answer,
          (server, answer) ∈ race.published ++ race.sequential ∧
            accept server answer = some found) ∧
      (result = none → race.sequential.map Prod.fst =
          selectedServers shuffled ∧
        ∀ entry ∈ race.published ++ race.sequential,
          accept entry.1 entry.2 = none) := by
  have sound : Sound accept (selectedServers shuffled) race :=
    run_invariant (fun _ _ _ => step_sound) start_sound reached
  have outcome := sound.place
  rw [returned] at outcome
  have asked : (race.published.map Prod.fst).Perm race.servers :=
    done_of_joined outcome.joined ▸ sound.finished
  refine ⟨outcome, asked, fun found isFound => ?_, fun nothing => ?_⟩
  · have known : firstOf accept race.published = some found ∨
        firstOf accept race.sequential = some found := by
      have known := outcome.result
      rw [isFound] at known
      split at known
      · rcases Option.or_eq_some_iff.mp known.symm with first | ⟨-, second⟩
        · exact Or.inl first
        · exact Or.inr second
      · rcases Option.or_eq_some_iff.mp known.symm with second | ⟨-, first⟩
        · exact Or.inr second
        · exact Or.inl first
    have inside {server : Server}
        (member : server ∈ selectedServers shuffled) : server ∈ servers :=
      shuffles.mem_iff.mp (List.mem_of_mem_take member)
    rcases known with first | second
    · obtain ⟨server, answer, member, accepted⟩ := mem_of_firstOf first
      have there : server ∈ race.servers :=
        asked.mem_iff.mp (List.mem_map_of_mem member)
      exact
        ⟨server, inside (outcome.created.1.subset there), answer,
          List.mem_append_left _ member, accepted⟩
    · obtain ⟨server, answer, member, accepted⟩ := mem_of_firstOf second
      have there : server ∈ race.sequential.map Prod.fst :=
        List.mem_map_of_mem member
      exact
        ⟨server, inside (outcome.asked.subset there), answer,
          List.mem_append_right _ member, accepted⟩
  · have none_ : firstOf accept race.published = none ∧
        firstOf accept race.sequential = none := by
      have known := outcome.result
      rw [nothing] at known
      split at known
      · exact Option.or_eq_none_iff.mp known.symm
      · exact (Option.or_eq_none_iff.mp known.symm).symm
    refine ⟨outcome.exhausted (Or.inr none_.1) none_.2, fun entry member => ?_⟩
    rcases List.mem_append.mp member with first | second
    · exact List.findSome?_eq_none_iff.mp none_.1 entry first
    · exact List.findSome?_eq_none_iff.mp none_.2 entry second

/-- A server of this name. -/
def server (name : String) : ServerInfo where
  name := ascii name
  host := ascii name
  port := 443
  isUsing := false
  md5Fingerprint := []
  username := ascii "user"
  password := ascii "secret"
  serviceName := []

/-- The second thread answers while the first one fails. -/
def secondWins : List (Label (Option (Int × UInt64))) :=
  [.emplaceBack true, .emplaceBack true, .proceed, .answer 1 (some (200, 35)),
    .answer 0 none, .lock 1, .wake false, .lock 0, .join, .join, .proceed]

theorem search_outcome_second :
    ∃ race,
      run (Race.step acceptFastest [server "first", server "second"])
          (Race.start [server "first", server "second"]) secondWins =
        some race ∧
      ∃ found ∈ [server "second", server "first"],
        race.main = .returned (some found) := by
  have taken : (run (Race.step acceptFastest [server "first", server "second"])
      (Race.start [server "first", server "second"]) secondWins).map
        (fun race => match race.main with
          | .returned result => result == some (server "second")
          | _ => false) = some true := by
    decide +kernel
  obtain ⟨race, reached, found⟩ := Option.map_eq_some_iff.mp taken
  split at found
  case h_2 => cases found
  case h_1 result returned =>
    obtain ⟨-, -, known, -⟩ :=
      search_outcome acceptFastest [server "second", server "first"]
        [server "first", server "second"] (List.Perm.swap _ _ _) secondWins
        race reached result returned
    obtain rfl := beq_iff_eq.mp found
    obtain ⟨asked, member, answer, -, accepted⟩ := known _ rfl
    rw [acceptFastest] at accepted
    split at accepted
    · obtain rfl := Option.some.inj accepted
      exact ⟨race, reached, server "second", member, returned⟩
    · cases accepted

/-! ## Termination -/

section Termination

variable {Server Answer Result : Type}
  {accept : Server → Answer → Option Result} {selected : List Server}
  {race next : Race Server Answer Result}

/-- The steps of a thread still to come. -/
def workLeft : Worker Answer → Nat
  | .asking => 2
  | .answered _ => 1
  | .finished => 0

/-- The steps of the caller still to come, and those of threads which it has
not created yet. -/
def mainLeft (count : Nat) : Main Server Result → Nat
  | .spawning rest => 3 * rest.length + 2 * count + 5
  | .waitFor => 2 * count + 4
  | .joining index => count - index + count + 3
  | .fallback rest => rest.length + 1
  | .returned _ => 0

def stepsLeft (selected : List Server) (race : Race Server Answer Result) :
    Nat :=
  mainLeft selected.length race.main +
    (race.workers.map fun entry => workLeft entry.2).sum

theorem stepsLeft_set {entry : Server × Worker Answer} {index : Nat}
    {later : Worker Answer} (here : race.workers[index]? = some entry)
    (less : workLeft later < workLeft entry.2)
    (workers : next.workers = race.workers.set index (entry.1, later))
    (main : next.main = race.main) :
    stepsLeft selected next < stepsLeft selected race := by
  obtain ⟨before, after, -, split, sets⟩ := exists_around here
  rw [stepsLeft, stepsLeft, main, workers, sets, split]
  simp only [List.map_append, List.map_cons, List.sum_append, List.sum_cons]
  omega

theorem length_workers_le (sound : Sound accept selected race)
    (joining : ∀ rest, race.main ≠ .spawning rest) :
    race.workers.length ≤ selected.length := by
  have place := sound.place
  have few (started : race.servers <+: selected) :
      race.workers.length ≤ selected.length := by
    have le := started.length_le
    rwa [Race.servers, List.length_map] at le
  cases here : race.main with
  | spawning rest => exact absurd here (joining rest)
  | waitFor =>
      rw [here] at place
      exact few (place.1 ▸ List.prefix_rfl)
  | joining index =>
      rw [here] at place
      exact few place.1.1
  | fallback rest =>
      rw [here] at place
      exact few place.1.1
  | returned result =>
      rw [here] at place
      exact few place.created.1

theorem step_stepsLeft {label : Label Answer}
    (sound : Sound accept selected race)
    (taken : race.step accept selected label = some next) :
    stepsLeft selected next < stepsLeft selected race := by
  cases label with
  | emplaceBack created =>
      simp only [Race.step] at taken
      split at taken
      case h_2 => cases taken
      case h_1 server rest here =>
        split at taken
        · cases taken
          simp only [stepsLeft, here, mainLeft, workLeft, List.map_append,
            List.map_cons, List.map_nil, List.sum_append, List.sum_cons,
            List.sum_nil, List.length_cons]
          omega
        · cases taken
          simp only [stepsLeft, here, mainLeft, List.length_cons]
          omega
  | answer index answer =>
      simp only [Race.step] at taken
      split at taken
      case h_2 => cases taken
      case h_1 server here =>
        cases taken
        refine stepsLeft_set here ?_ rfl rfl
        exact Nat.lt_succ_self 1
  | lock index =>
      simp only [Race.step] at taken
      split at taken
      case h_2 => cases taken
      case h_1 server answer here =>
        cases taken
        refine stepsLeft_set here ?_ rfl rfl
        exact Nat.lt_succ_self 0
  | wake timedOut =>
      simp only [Race.step] at taken
      split at taken
      case h_2 => cases taken
      case h_1 here =>
        split at taken
        case isFalse => cases taken
        case isTrue =>
          cases taken
          simp only [stepsLeft, here, mainLeft]
          omega
  | join =>
      simp only [Race.step] at taken
      split at taken
      case h_2 => cases taken
      case h_1 index here =>
        split at taken
        case h_2 => cases taken
        case h_1 server finished =>
          cases taken
          have few := length_workers_le sound (by rw [here]; rintro _ ⟨⟩)
          have inside := (List.getElem?_eq_some_iff.mp finished).1
          simp only [stepsLeft, here, mainLeft]
          omega
  | request answer =>
      simp only [Race.step] at taken
      split at taken
      case h_2 => cases taken
      case h_1 server rest here =>
        cases taken
        have less : mainLeft selected.length
            (Race.afterRequest rest (accept server answer)) <
              mainLeft selected.length race.main := by
          rw [here]
          cases accept server answer with
          | none => exact Nat.lt_succ_self _
          | some result => exact Nat.succ_pos _
        exact Nat.add_lt_add_right less _
  | proceed =>
      simp only [Race.step] at taken
      split at taken
      case h_1 here =>
        cases taken
        simp only [stepsLeft, here, mainLeft, List.length_nil]
        omega
      case h_2 index here =>
        split at taken
        case isFalse => cases taken
        case isTrue whole =>
          cases taken
          have less : mainLeft selected.length (race.afterJoin selected) <
              mainLeft selected.length race.main := by
            rw [here, Race.afterJoin]
            split
            · simp only [mainLeft]
              omega
            · simp only [mainLeft]
              omega
          exact Nat.add_lt_add_right less _
      case h_3 here =>
        cases taken
        simp only [stepsLeft, here, mainLeft, List.length_nil]
        omega
      case h_4 => cases taken

theorem run_stepsLeft {labels : List (Label Answer)}
    (sound : Sound accept selected race)
    (reached : run (Race.step accept selected) race labels = some next) :
    labels.length + stepsLeft selected next ≤ stepsLeft selected race := by
  induction labels generalizing race with
  | nil =>
      cases reached
      rw [List.length_nil, Nat.zero_add]
  | cons label labels ih =>
      obtain ⟨middle, taken, rest⟩ := run_cons_eq_some.mp reached
      have less := step_stepsLeft sound taken
      have later := ih (step_sound sound taken) rest
      rw [List.length_cons]
      omega

/-- A thread which has not finished can go on. -/
theorem exists_step_of_unfinished {entry : Server × Worker Answer}
    {index : Nat} (some_ : Answer) (here : race.workers[index]? = some entry)
    (unfinished : isFinished entry.2 = false) :
    ∃ label, (race.step accept selected label).isSome = true := by
  obtain ⟨server, worker⟩ := entry
  cases worker with
  | asking =>
      refine ⟨.answer index some_, ?_⟩
      rw [Race.step, here]
      rfl
  | answered answer =>
      refine ⟨.lock index, ?_⟩
      rw [Race.step, here]
      rfl
  | finished => cases unfinished

theorem exists_step (some_ : Answer)
    (busy : ∀ result, race.main ≠ .returned result) :
    ∃ label, (race.step accept selected label).isSome = true := by
  cases here : race.main with
  | spawning rest =>
      cases rest with
      | nil =>
          refine ⟨.proceed, ?_⟩
          rw [Race.step, here]
          rfl
      | cons server rest =>
          refine ⟨.emplaceBack true, ?_⟩
          rw [Race.step, here]
          rfl
  | waitFor =>
      refine ⟨.wake true, ?_⟩
      rw [Race.step, here]
      rfl
  | joining index =>
      cases there : race.workers[index]? with
      | none =>
          refine ⟨.proceed, ?_⟩
          rw [Race.step, here]
          exact congrArg Option.isSome
            (if_pos (List.getElem?_eq_none_iff.mp there))
      | some entry =>
          cases unfinished : isFinished entry.2 with
          | false => exact exists_step_of_unfinished some_ there unfinished
          | true =>
              refine ⟨.join, ?_⟩
              obtain ⟨server, worker⟩ := entry
              cases worker with
              | asking | answered => cases unfinished
              | finished =>
                  rw [Race.step, here]
                  simp only [there, Option.isSome_some]
  | fallback rest =>
      cases rest with
      | nil =>
          refine ⟨.proceed, ?_⟩
          rw [Race.step, here]
          rfl
      | cons server rest =>
          refine ⟨.request some_, ?_⟩
          rw [Race.step, here]
          rfl
  | returned result => exact absurd here (busy result)

end Termination

/-- The search returns once all requests have: in every order of steps there
are at most 25 of them, and as long as it has not returned somebody can go
on, whether `wait_for` times out or not. -/
theorem search_returns {Server Answer Result : Type}
    (accept : Server → Answer → Option Result) (some_ : Answer)
    (shuffled : List Server) (labels : List (Label Answer))
    (race : Race Server Answer Result)
    (reached : run (Race.step accept (selectedServers shuffled))
      (Race.start (selectedServers shuffled)) labels = some race) :
    labels.length ≤ 5 * min shuffled.length 4 + 5 ∧
      ((∀ label, race.step accept (selectedServers shuffled) label = none) →
        ∃ result, race.main = .returned result) := by
  constructor
  · have bound := run_stepsLeft start_sound reached
    have count :
        (selectedServers shuffled).length = min shuffled.length 4 := by
      rw [selectedServers, List.length_take]
      omega
    simp only [stepsLeft, Race.start, mainLeft, count, List.map_nil,
      List.sum_nil] at bound
    omega
  · intro stuck
    by_contra busy
    obtain ⟨label, goes⟩ :=
      exists_step some_ fun result here => busy ⟨result, here⟩
    rw [stuck label] at goes
    cases goes

theorem search_returns_second :
    ∃ race,
      run (Race.step acceptFastest [server "first", server "second"])
          (Race.start [server "first", server "second"]) secondWins =
        some race ∧
      secondWins.length ≤ 15 := by
  have taken : (run (Race.step acceptFastest [server "first", server "second"])
      (Race.start [server "first", server "second"]) secondWins).isSome =
        true := by
    decide +kernel
  obtain ⟨race, reached⟩ := Option.isSome_iff_exists.mp taken
  obtain ⟨bound, -⟩ :=
    search_returns acceptFastest none [server "first", server "second"]
      secondWins race reached
  exact ⟨race, reached, bound⟩

end Fptn.Client.ServerRace
