import Depot.Proofs.Attempts
import Depot.Proofs.Backup
import Depot.Proofs.Reports

/-!
Every failure that an operation meets comes out of it: of a call, of a stream that it reads from the
store, or of the local file that it reads.
-/

namespace Depot

/-- The bytes that a transcript writes, one write after another. -/
def CallTranscript.written : CallTranscript → ByteArray
  | [] => .empty
  | ⟨.write _ chunk, _⟩ :: rest => chunk ++ written rest
  | _ :: rest => written rest

namespace Transfer

open Dialogue CallTranscript

variable {manner : Manner} {chunkSize : Nat} {transcript : CallTranscript}

theorem goes_writeBody {remaining : Nat} {reader : Reader} {register : UInt32}
    {upload last : Upload} {result : Except RepoError (Reader × UInt32)}
    (goes : (writeBody chunkSize reader register upload remaining).Goes transcript (result, last))
    (served : ∀ asked ∈ transcript, manner.failure? asked.1 asked.2 = none) :
    (∀ asked ∈ transcript, asked.1.kind = .write) ∧
      (remaining ≤ reader.remaining →
        (∃ register, result = .ok (reader.advance remaining, register)) ∧
          written transcript = reader.upcoming remaining) ∧
      (reader.remaining < remaining → result = .error (.io (reader.failure.getD .earlyEnd)) ∧
        ∃ count ≤ reader.remaining, written transcript = reader.upcoming count) := by
  induction remaining using Nat.strongRecOn generalizing reader register upload transcript with
  | ind remaining induction =>
      rw [writeBody] at goes
      split at goes
      · next nothing =>
        rcases Goes.done_iff.mp goes with ⟨same, rfl⟩
        cases same
        subst nothing
        refine ⟨by simp, fun _ => ⟨⟨register, rfl⟩, ?_⟩, fun short => absurd short (by omega)⟩
        rw [Reader.upcoming_zero, written]
      next something =>
        simp only at goes
        generalize chunk : min remaining (max chunkSize 1) = size at goes
        rcases Nat.lt_or_ge reader.remaining size with short | there
        · rw [Reader.readExactly_of_lt short] at goes
          rcases Goes.done_iff.mp goes with ⟨same, rfl⟩
          cases same
          refine ⟨by simp, fun _ => by omega, fun _ => ⟨rfl, 0, by omega, ?_⟩⟩
          rw [Reader.upcoming_zero, written]
        · rw [Reader.readExactly_of_le there] at goes
          rcases Goes.ask_iff.mp goes with ⟨⟨reply, middle⟩, rest, rfl, goesOn⟩
          rcases List.forall_mem_cons.mp served with ⟨isServed, restServed⟩
          cases reply with
          | error error => cases isServed
          | ok =>
              rcases induction (remaining - size) (by omega) goesOn restServed with
                ⟨onlyWrites, whole, broken⟩
              have sum : size + (remaining - size) = remaining := by omega
              rw [Reader.remaining_advance] at whole broken
              refine ⟨List.forall_mem_cons.mpr ⟨rfl, onlyWrites⟩, ?_, ?_⟩
              · intro all
                rcases whole (by omega) with ⟨⟨register, rfl⟩, bytes⟩
                rw [Reader.advance_advance, sum]
                refine ⟨⟨register, rfl⟩, ?_⟩
                rw [written, bytes, Reader.upcoming_append, sum]
              · intro short
                rcases broken (by omega) with ⟨failed, count, fits, bytes⟩
                refine ⟨failed, size + count, by omega, ?_⟩
                rw [written, bytes, Reader.upcoming_append]

/-- Where the stream of a file ends before the file does, writing the file fails, after writes of what
the stream held. -/
theorem goes_writeFile {footerLength : Nat} {source : IndexInput} {upload last : Upload}
    {result : Except RepoError Nat} (longer : footerLength < source.length)
    (short : source.reader.remaining < source.length)
    (goes : (writeFile chunkSize source footerLength upload).Goes transcript (result, last))
    (served : ∀ asked ∈ transcript, manner.failure? asked.1 asked.2 = none) :
    (∀ asked ∈ transcript, asked.1.kind = .write) ∧
      result = .error (.io (source.reader.failure.getD .earlyEnd)) ∧
      ∃ count ≤ source.reader.remaining, written transcript = source.reader.upcoming count := by
  rcases Goes.andThen_iff.mp goes with ⟨⟨body, middle⟩, early, late, rfl, bodyGoes, rest⟩
  rcases List.forall_mem_append.mp served with ⟨bodyServed, -⟩
  rcases goes_writeBody bodyGoes bodyServed with ⟨onlyWrites, whole, broken⟩
  rcases Nat.lt_or_ge source.reader.remaining (source.length - footerLength) with lacks | there
  · rcases broken lacks with ⟨rfl, beginning⟩
    rcases Goes.done_iff.mp rest with ⟨same, rfl⟩
    cases same
    rw [List.append_nil]
    exact ⟨onlyWrites, rfl, beginning⟩
  · rcases whole there with ⟨⟨register, rfl⟩, bytes⟩
    have lacks : (source.reader.advance (source.length - footerLength)).remaining <
        footerLength := by
      rw [Reader.remaining_advance]
      omega
    simp only [Reader.readExactly_of_lt lacks, Reader.failure_advance] at rest
    rcases Goes.done_iff.mp rest with ⟨same, rfl⟩
    cases same
    rw [List.append_nil]
    exact ⟨onlyWrites, rfl, _, there, bytes⟩

/-- Where the stream of a file ends before the file does, storing the file fails for this reason. What
was written before had been read from the stream, and nothing comes after it but to abort. -/
theorem goes_intoStore {footerLength : Nat} {source : IndexInput} {target : ObjectKey}
    {result : Except RepoError Nat} (longer : footerLength < source.length)
    (short : source.reader.remaining < source.length)
    (goes : (intoStore chunkSize source footerLength target).run.Goes transcript result)
    (served : ∀ asked ∈ transcript, manner.failure? asked.1 asked.2 = none) :
    ∃ upload writes last, transcript =
        ⟨.openWrite target, .ok upload⟩ :: (writes ++ [⟨.abort last, ()⟩]) ∧
      (∀ asked ∈ writes, asked.1.kind = .write) ∧
      (∃ count ≤ source.reader.remaining, written writes = source.reader.upcoming count) ∧
      ∃ reported, result = .error reported ∧
        reported.rootCause = .io (source.reader.failure.getD .earlyEnd) := by
  have notSmall : ¬source.length ≤ footerLength := Nat.not_le_of_lt longer
  simp only [intoStore, ExceptT.run_mk, if_neg notSmall] at goes
  rcases Goes.andThen_iff.mp goes with ⟨opened, _, rest, rfl, opening, goesOn⟩
  cases Goes.question_iff.mp opening
  rw [List.singleton_append, List.forall_mem_cons] at served
  rcases served with ⟨isServed, restServed⟩
  cases opened with
  | error error => cases isServed
  | ok upload =>
      rcases Goes.andThen_iff.mp goesOn with ⟨⟨streamed, last⟩, writes, ending, rfl, writing, ends⟩
      rcases List.forall_mem_append.mp restServed with ⟨writesServed, -⟩
      rcases goes_writeFile longer short writing writesServed with ⟨onlyWrites, rfl, bytes⟩
      rcases Goes.andThen_iff.mp ends with ⟨_, _, nothing, rfl, aborting, ended⟩
      cases Goes.question_iff.mp aborting
      rcases Goes.done_iff.mp ended with ⟨rfl, rfl⟩
      exact ⟨upload, writes, _, rfl, onlyWrites, bytes, _, rfl,
        RepoError.rootCause_inTransfer _ _⟩

end Transfer

namespace Repository

open Dialogue CallTranscript

variable {Handle : Type} {repository : Repository Handle} {transcript : CallTranscript}

theorem goes_copyFrom {source : IndexSource} {sourceName targetName : String}
    {target : LogicalPath} {input : IndexInput} {result : Except RepoError Unit} {manner : Manner}
    (onlyHeads : ∀ call, manner.tolerates call → call.kind = .head)
    (opens : source.openInput sourceName = .ok input)
    (short : input.reader.remaining < input.length)
    (goes : (repository.copyFrom source sourceName target targetName).run.Goes transcript result)
    (served : ∀ asked ∈ transcript, ∀ error, manner.failure? asked.1 asked.2 = some error →
      manner.IsAnswer asked.1 error)
    (opened : ∃ asked ∈ transcript, asked.1.kind = .openWrite) :
    ∃ before writes last, transcript = before ++ writes ++ [⟨.abort last, ()⟩] ∧
      (∀ asked ∈ before, asked.1.kind ≠ .write) ∧ (∀ asked ∈ writes, asked.1.kind = .write) ∧
      (∃ count ≤ input.reader.remaining, written writes = input.reader.upcoming count) ∧
      ∃ reported, result = .error reported ∧
        reported.rootCause = .io (input.reader.failure.getD .earlyEnd) := by
  rw [copyFrom] at goes
  rcases Goes.bindExcept_iff.mp goes with ⟨error, -, -, rfl⟩ | ⟨⟨key, found⟩, prepared, goes⟩
  · rcases opened with ⟨asked, member, -⟩
    cases member
  rcases prepare_eq_ok prepared with ⟨-, -, -, opensToo, longer⟩
  rw [opens] at opensToo
  cases opensToo
  have parents {early : CallTranscript} {outcome : Except RepoError Unit}
      (going : (createParent repository.layout key).run.Goes early outcome) :
      ∀ asked ∈ early, asked.1.kind = .head ∨ asked.1.kind = .putMarker := by
    have asks : (createParent repository.layout key).run.Asks
        fun call => call.kind = .head ∨ call.kind = .putMarker :=
      asks_createParent (fun _ => .inl rfl) fun _ => .inr rfl
    exact going.asked asks
  rcases Goes.bind_iff.mp goes with ⟨error, going, -⟩ | ⟨_, early, late, rfl, going, goesOn⟩
  · rcases opened with ⟨asked, member, isOpening⟩
    rcases parents going asked member with isHead | isMarker <;> simp_all
  -- Only heads may be told that nothing is there, and an upload asks for none.
  have plain : ∀ asked ∈ late, asked.1.IsPlain :=
    goesOn.asked (Transfer.asks_intoStore.bind fun _ => trivial)
  have lateServed : ∀ asked ∈ late, manner.failure? asked.1 asked.2 = none := by
    intro asked member
    cases failed : manner.failure? asked.1 asked.2 with
    | none => rfl
    | some error =>
        have isAnswer := served asked (List.mem_append_right early member) error failed
        have isHead := onlyHeads _ isAnswer.2
        have isPlain := plain asked member
        rcases asked with ⟨call, reply⟩
        cases call <;> cases isHead
        exact isPlain.elim
  rcases Goes.bind_iff.mp goesOn with
    ⟨error, uploading, rfl⟩ | ⟨size, uploaded, _, rfl, uploading, -⟩
  · rcases Transfer.goes_intoStore longer short uploading lateServed with
      ⟨upload, writes, last, rfl, onlyWrites, bytes, reported, same, cause⟩
    cases same
    refine ⟨early ++ [⟨.openWrite key, .ok upload⟩], writes, last, by simp, ?_, onlyWrites, bytes,
      _, rfl, cause⟩
    simp only [List.forall_mem_append, List.forall_mem_singleton]
    refine ⟨fun asked member => ?_, by simp [Call.kind]⟩
    rcases parents going asked member with isHead | isMarker <;> simp_all
  · rw [List.forall_mem_append] at lateServed
    rcases Transfer.goes_intoStore longer short uploading lateServed.1 with
      ⟨_, _, _, -, -, -, _, impossible, -⟩
    cases impossible

/-- Whatever the store answers, an operation reports the first failure that it meets: it ends with an
error of the same cause, and asks for nothing more but to abort. Only a missing object can be no
failure, and only where something is looked for, a directory is made, or files are deleted that may be
missing. A backup whose source breaks off has written no more than it could read, and aborts. -/
theorem perform_reports (repository : Repository Handle) {operation : Operation}
    {result : Except RepoError Unit} (reporting : operation.IsReporting)
    (goes : (repository.perform operation).run.Goes transcript result) :
    (∀ before call reply after error, transcript = before ++ ⟨call, reply⟩ :: after →
      operation.manner.failure? call reply = some error →
      error.isNotFound = false ∨ ¬operation.Tolerates call →
        (∃ reported, result = .error reported ∧ reported.rootCause = error.rootCause) ∧
          ∀ later ∈ after, later.1.kind = .abort) ∧
    ∀ source sourceName target targetName input cause,
      operation = .copyFrom source sourceName target targetName →
      source.openInput sourceName = .ok input →
      input.reader.readExactly input.length = .error cause →
      (∃ asked ∈ transcript, asked.1.kind = .openWrite) →
      (∀ asked ∈ transcript, ∀ error, operation.manner.failure? asked.1 asked.2 = some error →
        error.isNotFound = true ∧ operation.Tolerates asked.1) →
        (∃ reported, result = .error reported ∧ reported.rootCause = .io cause) ∧
          ∃ before writes last, transcript = before ++ writes ++ [⟨.abort last, ()⟩] ∧
            (∀ asked ∈ before, asked.1.kind ≠ .write) ∧
            (∀ asked ∈ writes, asked.1.kind = .write) ∧
            ∃ count ≤ input.reader.remaining, written writes = input.reader.upcoming count := by
  constructor
  · intro before call reply after error place failed isNoAnswer
    apply (reports_perform reporting).surfaces goes place failed
    intro isAnswer
    rcases isNoAnswer with isOther | notTolerated
    · rw [isAnswer.1] at isOther
      cases isOther
    · exact notTolerated isAnswer.2
  · intro source sourceName target targetName input cause same opens breaks opened served
    subst same
    have onlyHeads (call : Call)
        (tolerated : (Operation.copyFrom source sourceName target targetName).Tolerates call) :
        call.kind = .head := by
      cases call <;> first | rfl | exact tolerated.elim
    rcases Nat.lt_or_ge input.reader.remaining input.length with short | there
    · rw [Reader.readExactly_of_lt short] at breaks
      cases breaks
      rcases goes_copyFrom onlyHeads opens short goes served opened with
        ⟨before, writes, last, whole, noWrites, onlyWrites, bytes, failed⟩
      exact ⟨failed, before, writes, last, whole, noWrites, onlyWrites, bytes⟩
    · rw [Reader.readExactly_of_le there] at breaks
      cases breaks

/-! A backup whose second write fails, in the flat namespace. -/

private def brokenWrite : Fault where
  kind := .write
  subject := none
  nth := some 2
  error := .transport "reset"
  after := 0
  matched := 0

private def vault : Repository Unit := ⟨.flat, 4, 10, .empty, some ()⟩

private def leaflet : IndexSource where
  openInput name := .ok ⟨name, 22, Reader.ofBytes (Footer.sealed "body 1".toUTF8)⟩
  footerLength := 16

private def leafletBackup : Operation := .copyFrom leaflet "f" (.make .swarm none "/a/") "f"

theorem perform_reports_broken_write :
    ∃ transcript result, (vault.perform leafletBackup).run.Goes transcript result ∧
      (transcript.map fun asked => asked.1.kind) = [.openWrite, .write, .write, .abort] ∧
      ∃ reported, result = .error reported ∧ reported.rootCause = .transport "reset" := by
  have goes := goes_run (Fault.interpose Memory.Store.respond) (vault.perform leafletBackup).run
    ([brokenWrite], .empty)
  generalize going : (vault.perform leafletBackup).run.transcript
    (Fault.interpose Memory.Store.respond) ([brokenWrite], .empty) = transcript at goes
  have kinds : (transcript.map fun asked => asked.1.kind) =
      [.openWrite, .write, .write, .abort] := by
    rw [← going]
    decide +kernel
  have third : (transcript[2]?.bind fun asked => leafletBackup.manner.failure? asked.1 asked.2) =
      some (.transport "reset") := by
    rw [← going]
    decide +kernel
  rcases Option.bind_eq_some_iff.mp third with ⟨⟨call, reply⟩, there, failed⟩
  have place : transcript = transcript.take 2 ++ ⟨call, reply⟩ :: transcript.drop 3 := by
    rcases List.getElem?_eq_some_iff.mp there with ⟨within, same⟩
    rw [← same, List.getElem_cons_drop, List.take_append_drop]
  have reporting : leafletBackup.IsReporting := trivial
  rcases perform_reports vault reporting goes with ⟨surfaces, -⟩
  rcases surfaces _ call reply _ _ place failed (.inl rfl) with ⟨reported, -⟩
  exact ⟨transcript, _, goes, kinds, reported⟩

end Repository

end Depot
