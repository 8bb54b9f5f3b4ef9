import Depot.Client.Call

/-!
Planned failures of a client. A plan is a list of faults, each of which names a kind of call,
perhaps a key, and perhaps which of the calls that match is to fail. A call that fails does not
reach the store.
-/

namespace Depot

/-- The kinds of calls that can be made to fail, and the reading of an opened stream. -/
inductive CallKind where
  | head
  | openRead
  | openWrite
  | putMarker
  | deleteMany
  | listPage
  | write
  | finish
  | abort
  /-- The bytes of a stream that was opened without failure. -/
  | read
  deriving DecidableEq, Repr

namespace Call

def kind : Call → CallKind
  | .head _ => .head
  | .openRead _ => .openRead
  | .openWrite _ => .openWrite
  | .putMarker _ => .putMarker
  | .deleteMany _ => .deleteMany
  | .listPage _ _ _ => .listPage
  | .write _ _ => .write
  | .finish _ => .finish
  | .abort _ => .abort

/-- The text that a call is about: its key, or the lead of a listing. -/
def subject : Call → String
  | .head key => key.text
  | .openRead key => key.text
  | .openWrite key => key.text
  | .putMarker key => key.text
  | .deleteMany _ => ""
  | .listPage lead _ _ => lead
  | .write upload _ => upload.key.text
  | .finish upload => upload.key.text
  | .abort upload => upload.key.text

/-- The reply of a call that fails without reaching the store. Aborting cannot fail. -/
def refuse (error : RepoError) : (call : Call) → Reply call
  | .head _ => .error error
  | .openRead _ => .error error
  | .openWrite _ => .error error
  | .putMarker _ => .error error
  | .deleteMany _ => .error error
  | .listPage _ _ _ => .error error
  | .write upload _ => (.error error, upload)
  | .finish _ => .error error
  | .abort _ => ()

end Call

structure Fault where
  kind : CallKind
  /-- Only calls about this text match. -/
  subject : Option String
  /-- Only this one of the matching calls fails, counted from one. -/
  nth : Option Nat
  error : RepoError
  /-- For reading: how many bytes are handed out before the failure. -/
  after : Nat
  matched : Nat

namespace Fault

def applies (fault : Fault) (kind : CallKind) (subject : String) : Bool :=
  fault.kind == kind && (fault.subject.isNone || fault.subject == some subject)

/-- Whether a fault that has just matched fires. -/
def fires (fault : Fault) : Bool := fault.nth.isNone || fault.nth == some fault.matched

/-- The first fault that fires for a call, and the plan with the calls counted that the faults up
to it have matched. -/
def firing (kind : CallKind) (subject : String) : List Fault → Option Fault × List Fault
  | [] => (none, [])
  | fault :: plan =>
      if fault.applies kind subject then
        let counted := { fault with matched := fault.matched + 1 }
        if counted.fires then (some counted, counted :: plan)
        else
          let (found, plan) := firing kind subject plan
          (found, counted :: plan)
      else
        let (found, plan) := firing kind subject plan
        (found, fault :: plan)

def readFailure : IoCause := .other "injected read failure"

/-- The reply of an opened stream, with the failure that the plan has for reading it. -/
def spoil (plan : List Fault) : (call : Call) → Call.Reply call → Call.Reply call × List Fault
  | .openRead key, .ok reader =>
      match firing .read key.text plan with
      | (some fault, plan) => (.ok (reader.failingAfter fault.after readFailure), plan)
      | (none, plan) => (.ok reader, plan)
  | _, reply => (reply, plan)

/-- Let a plan stand between a dialogue and the responder that answers its calls. -/
def interpose {State : Type} (respond : State → (call : Call) → Call.Reply call × State)
    (state : List Fault × State) (call : Call) : Call.Reply call × (List Fault × State) :=
  match firing call.kind call.subject state.1 with
  | (some fault, plan) => (call.refuse fault.error, (plan, state.2))
  | (none, plan) =>
      let (reply, inner) := respond state.2 call
      let (reply, plan) := spoil plan call reply
      (reply, (plan, inner))

end Fault

end Depot
