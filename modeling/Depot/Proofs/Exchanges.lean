import Depot.Backend
import Depot.Proofs.Transcripts

/-!
What a client exchanges with its store: commands with their replies, from the first to the last. Any
reply may stand in it, so what holds of all exchanges holds whatever the store answers.
-/

namespace Depot.S3

open Dialogue

abbrev Exchanges : Type := Transcript Exchange Exchange.Reply

/-- Whether a command was answered with a success. -/
def Succeeds (reply : Except RepoError Http.Response) : Prop :=
  ∃ response, reply = .ok response ∧ response.isSuccess = true

/-- Whether a command was answered with a status. -/
def HasStatus (status : Nat) (reply : Except RepoError Http.Response) : Prop :=
  ∃ response, reply = .ok response ∧ response.status = status

/-- Whether a reply is one that can come about: a response, or an error of the transport. -/
def IsReply (reply : Except RepoError Http.Response) : Prop :=
  ∀ error, reply = .error error → ∃ reason, error = .transport reason

def Exchanges.IsPossible (exchanges : Exchanges) : Prop := ∀ asked ∈ exchanges, IsReply asked.2

/-- A store that gives one response after another, and then none. -/
def Exchange.fromScript (script : List Http.Response) (asked : Exchange) :
    Exchange.Reply asked × List Http.Response :=
  match script with
  | [] => (.error (.transport "connection closed"), [])
  | response :: script => (.ok response, script)

theorem isPossible_fromScript {Result : Type} (dialogue : Dialogue Exchange Exchange.Reply Result)
    (script : List Http.Response) :
    Exchanges.IsPossible (dialogue.transcript Exchange.fromScript script) := by
  induction dialogue generalizing script with
  | done result => simp [transcript, Exchanges.IsPossible]
  | ask asked next induction =>
      refine List.forall_mem_cons.mpr ⟨?_, induction _ _⟩
      cases script with
      | nil =>
          intro error same
          cases same
          exact ⟨_, rfl⟩
      | cons response script =>
          intro error same
          cases same

variable {operation subject : String} {reply : Except RepoError Http.Response}

theorem succeeds_of_check {response : Http.Response}
    (checked : (reply >>= check operation subject) = .ok response) :
    reply = .ok response ∧ response.isSuccess = true := by
  rcases bind_eq_ok_iff.mp checked with ⟨found, rfl, passed⟩
  rw [check] at passed
  split at passed
  next success =>
    cases passed
    exact ⟨rfl, success⟩
  · split at passed <;> cases passed

theorem check_of_succeeds {response : Http.Response} (success : response.isSuccess = true) :
    check operation subject response = .ok response := if_pos success

/-- A command fails if it is not answered with a success. Something is said to be missing only where
the store answers so. -/
theorem fails_of_check {error : RepoError} (possible : IsReply reply)
    (checked : (reply >>= check operation subject) = .error error) :
    ¬Succeeds reply ∧
      (HasStatus 404 reply ∧ error = .notFound subject ∨
        ¬HasStatus 404 reply ∧ error.isNotFound = false) := by
  cases reply with
  | error given =>
      cases checked
      rcases possible _ rfl with ⟨reason, rfl⟩
      exact ⟨by simp [Succeeds], .inr ⟨by simp [HasStatus], rfl⟩⟩
  | ok response =>
      change check operation subject response = _ at checked
      simp only [check] at checked
      split at checked
      · cases checked
      next failure =>
        refine ⟨by simp [Succeeds, failure], ?_⟩
        split at checked
        next missing =>
          cases checked
          exact .inl ⟨⟨response, rfl, missing⟩, rfl⟩
        next present =>
          cases checked
          exact .inr ⟨by simp [HasStatus, present], rfl⟩

theorem not_succeeds_of_hasStatus (missing : HasStatus 404 reply) : ¬Succeeds reply := by
  rintro ⟨response, rfl, success⟩
  rcases missing with ⟨_, same, status⟩
  cases same
  rw [Http.Response.isSuccess, status] at success
  cases success

namespace Client

variable {client : Client} {command : Command} {exchanges : Exchanges}

/-- A command is one exchange, whose reply is checked. -/
theorem goes_send_iff {result : Except RepoError Http.Response} :
    (client.send operation subject command).run.Goes exchanges result ↔
      ∃ reply, exchanges = [⟨⟨client, command⟩, reply⟩] ∧
        result = (reply >>= check operation subject) := by
  rw [send, run_bind]
  simp only [ExceptT.run_mk, ask_andThen, done_andThen]
  constructor
  · intro goes
    rcases Goes.ask_iff.mp goes with ⟨reply, rest, rfl, checked⟩
    refine ⟨reply, ?_⟩
    cases reply with
    | error error =>
        rcases Goes.done_iff.mp checked with ⟨rfl, rfl⟩
        exact ⟨rfl, rfl⟩
    | ok response =>
        rcases Goes.liftExcept_iff.mp checked with ⟨rfl, rfl⟩
        exact ⟨rfl, rfl⟩
  · intro given
    rcases given with ⟨reply, rfl, rfl⟩
    refine Goes.ask_iff.mpr ⟨reply, [], rfl, ?_⟩
    cases reply with
    | error error => exact Goes.done_iff.mpr ⟨rfl, rfl⟩
    | ok response => exact Goes.liftExcept_iff.mpr ⟨rfl, rfl⟩

/-- To send a command is to ask for that command. -/
theorem asks_send {kind : Exchange → Prop} (isKind : kind ⟨client, command⟩) :
    (client.send operation subject command).run.Asks kind := by
  refine ⟨isKind, ?_⟩
  intro reply
  cases reply with
  | error error => trivial
  | ok response => exact Asks.liftExcept _

/-! ## Calls -/

variable {Result Next : Type}

/-- Whether calls that are answered by a store can come to a result with these exchanges. -/
def Relays (client : Client) (dialogue : StoreDialogue Result) (exchanges : Exchanges)
    (result : Result) : Prop :=
  ∃ backend, (dialogue.refine Backend.respond (.s3 client)).Goes exchanges (result, backend)

namespace Relays

theorem done_iff {value result : Result} :
    client.Relays (.done value) exchanges result ↔ result = value ∧ exchanges = [] := by
  constructor
  · intro given
    rcases given with ⟨backend, goes⟩
    rcases Goes.done_iff.mp goes with ⟨same, rfl⟩
    cases same
    exact ⟨rfl, rfl⟩
  · intro given
    rcases given with ⟨rfl, rfl⟩
    exact ⟨_, Goes.done_iff.mpr ⟨rfl, rfl⟩⟩

/-- A call is answered first, and then the dialogue goes on. -/
theorem ask_iff {call : Call} {next : Call.Reply call → StoreDialogue Result} {result : Result} :
    client.Relays (.ask call next) exchanges result ↔
      ∃ reply early late, exchanges = early ++ late ∧ (client.respond call).Goes early reply ∧
        client.Relays (next reply) late result := by
  constructor
  · intro given
    rcases given with ⟨backend, goes⟩
    rcases Goes.andThen_iff.mp goes with ⟨answered, _, late, rfl, answering, rest⟩
    rcases Goes.andThen_iff.mp answering with ⟨reply, early, _, rfl, responding, ended⟩
    rcases Goes.done_iff.mp ended with ⟨rfl, rfl⟩
    rw [List.append_nil]
    exact ⟨reply, early, late, rfl, responding, backend, rest⟩
  · intro given
    rcases given with ⟨reply, early, late, rfl, responding, backend, rest⟩
    refine ⟨backend, Goes.andThen_iff.mpr ⟨(reply, .s3 client), early, late, rfl, ?_, rest⟩⟩
    exact Goes.andThen_iff.mpr
      ⟨reply, early, [], (List.append_nil early).symm, responding, Goes.done_iff.mpr ⟨rfl, rfl⟩⟩

theorem question_iff {call : Call} {result : Call.Reply call} :
    client.Relays (.ask call .done) exchanges result ↔
      (client.respond call).Goes exchanges result := by
  rw [ask_iff]
  constructor
  · intro given
    rcases given with ⟨_, _, _, rfl, answering, answered⟩
    rcases done_iff.mp answered with ⟨rfl, rfl⟩
    rw [List.append_nil]
    exact answering
  · intro answering
    exact ⟨result, exchanges, [], (List.append_nil _).symm, answering, done_iff.mpr ⟨rfl, rfl⟩⟩

theorem andThen_iff {first : StoreDialogue Result} {second : Result → StoreDialogue Next}
    {result : Next} :
    client.Relays (first.andThen second) exchanges result ↔
      ∃ value early late, exchanges = early ++ late ∧ client.Relays first early value ∧
        client.Relays (second value) late result := by
  induction first generalizing exchanges with
  | done value =>
      constructor
      · intro given
        exact ⟨value, [], exchanges, rfl, done_iff.mpr ⟨rfl, rfl⟩, given⟩
      · intro given
        rcases given with ⟨_, _, late, rfl, ended, rest⟩
        rcases done_iff.mp ended with ⟨rfl, rfl⟩
        exact rest
  | ask call next induction =>
      rw [ask_andThen, ask_iff]
      constructor
      · intro given
        rcases given with ⟨reply, early, _, rfl, answering, goesOn⟩
        rcases (induction reply).mp goesOn with ⟨value, middle, late, rfl, first, second⟩
        exact ⟨value, early ++ middle, late, (List.append_assoc _ _ _).symm,
          ask_iff.mpr ⟨reply, early, middle, rfl, answering, first⟩, second⟩
      · intro given
        rcases given with ⟨value, _, late, rfl, asking, second⟩
        rcases ask_iff.mp asking with ⟨reply, early, middle, rfl, answering, first⟩
        exact ⟨reply, early, middle ++ late, List.append_assoc _ _ _, answering,
          (induction reply).mpr ⟨value, middle, late, rfl, first, second⟩⟩

/-- Where each call of a kind is answered by commands of a kind, a dialogue of such calls leads to such
commands only. -/
theorem asked {kind : Call → Prop} {carried : Exchange → Prop} {dialogue : StoreDialogue Result}
    {result : Result} (relays : client.Relays dialogue exchanges result) (asks : dialogue.Asks kind)
    (carries : ∀ call, kind call → (client.respond call).Asks carried) :
    ∀ asked ∈ exchanges, carried asked.1 := by
  induction dialogue generalizing exchanges with
  | done value =>
      rcases done_iff.mp relays with ⟨-, rfl⟩
      simp
  | ask call next induction =>
      rcases ask_iff.mp relays with ⟨reply, early, late, rfl, answering, rest⟩
      exact List.forall_mem_append.mpr
        ⟨answering.asked (carries call asks.1), induction reply rest (asks.2 reply)⟩

/-- What follows a task that may fail is asked only for its value. -/
theorem bind_iff {first : StoreTask Result} {second : Result → StoreTask Next}
    {result : Except RepoError Next} :
    client.Relays (first >>= second).run exchanges result ↔
      (∃ error, client.Relays first.run exchanges (.error error) ∧ result = .error error) ∨
      ∃ value early late, exchanges = early ++ late ∧ client.Relays first.run early (.ok value) ∧
        client.Relays (second value).run late result := by
  rw [run_bind, andThen_iff]
  constructor
  · intro given
    rcases given with ⟨value | value, early, late, rfl, first, second⟩
    · rcases done_iff.mp second with ⟨rfl, rfl⟩
      rw [List.append_nil]
      exact .inl ⟨value, first, rfl⟩
    · exact .inr ⟨value, early, late, rfl, first, second⟩
  · intro given
    rcases given with ⟨error, first, rfl⟩ | ⟨value, early, late, rfl, first, second⟩
    · exact ⟨.error error, exchanges, [], (List.append_nil _).symm, first, done_iff.mpr ⟨rfl, rfl⟩⟩
    · exact ⟨.ok value, early, late, rfl, first, second⟩

/-- A task succeeds if what it begins with succeeds and what follows does. -/
theorem bind_ok_iff {first : StoreTask Result} {second : Result → StoreTask Next} {result : Next} :
    client.Relays (first >>= second).run exchanges (.ok result) ↔
      ∃ value early late, exchanges = early ++ late ∧ client.Relays first.run early (.ok value) ∧
        client.Relays (second value).run late (.ok result) := by
  rw [bind_iff, or_iff_right]
  intro given
  rcases given with ⟨_, -, impossible⟩
  cases impossible

/-- A value asks nothing. -/
theorem pure_ok_iff {value result : Result} :
    client.Relays (pure value : StoreTask Result).run exchanges (.ok result) ↔
      result = value ∧ exchanges = [] := by
  rw [← Except.ok.injEq]
  exact done_iff

/-- What is made of the value of a task asks nothing more. -/
theorem bind_pure_ok_iff {first : StoreTask Result} {change : Result → Next} {result : Next} :
    client.Relays (first >>= fun value => pure (change value)).run exchanges (.ok result) ↔
      ∃ value, client.Relays first.run exchanges (.ok value) ∧ result = change value := by
  rw [bind_ok_iff]
  constructor
  · intro given
    rcases given with ⟨value, early, _, rfl, first, ended⟩
    rcases pure_ok_iff.mp ended with ⟨rfl, rfl⟩
    rw [List.append_nil]
    exact ⟨value, first, rfl⟩
  · intro given
    rcases given with ⟨value, first, rfl⟩
    exact ⟨value, exchanges, [], (List.append_nil _).symm, first, pure_ok_iff.mpr ⟨rfl, rfl⟩⟩

/-- What follows a value or error that is there already is asked only for a value. -/
theorem bindExcept_iff {value : Except RepoError Result} {second : Result → StoreTask Next}
    {result : Except RepoError Next} :
    client.Relays ((liftM value : StoreTask Result) >>= second).run exchanges result ↔
      (∃ error, value = .error error ∧ result = .error error ∧ exchanges = []) ∨
      ∃ found, value = .ok found ∧ client.Relays (second found).run exchanges result := by
  cases value with
  | ok found =>
      constructor
      · intro given
        exact .inr ⟨found, rfl, given⟩
      · intro given
        rcases given with ⟨_, same, -⟩ | ⟨_, same, rest⟩
        · cases same
        · cases same
          exact rest
  | error error =>
      constructor
      · intro given
        rcases done_iff.mp given with ⟨rfl, rfl⟩
        exact .inl ⟨error, rfl, rfl, rfl⟩
      · intro given
        rcases given with ⟨_, same, rfl, rfl⟩ | ⟨_, same, -⟩
        · cases same
          exact done_iff.mpr ⟨rfl, rfl⟩
        · cases same

end Relays

end Client

end Depot.S3
