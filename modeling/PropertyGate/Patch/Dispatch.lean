import PropertyGate.Patch.Call
import PropertyGate.Patch.Error

/-!
# Patch/Dispatch — running the handlers of a patch

Every group of a prepared patch has its handler. Run in sequence, the handlers answer one after the
other in group order, and the first failure ends the run. Run concurrently, all start at once; their
outcomes are taken up in the order in which they finish, and the first failure decides. In both
modes the outcomes are folded by one function, `joinOutcomes`, so **when every handler approves, the
order does not show**.
-/

namespace PropertyGate

/-- How the handlers of one patch are run. -/
inductive DispatchMode where
  | concurrent
  | sequential
deriving DecidableEq, Repr, Inhabited

def DispatchMode.name : DispatchMode → String
  | .concurrent => "concurrent"
  | .sequential => "sequential"

/-- A group of a patch with the handler that guards it. -/
structure Pending where
  patch : GroupPatch
  handler : Handler

namespace Pending

/-- What the handler answers. -/
def reply (pending : Pending) (context : Context) : Reply :=
  pending.handler context pending.patch.group.name pending.patch.values

/-- The call to the handler. -/
def call (pending : Pending) (context : Context) : Call :=
  .authorize context pending.patch.group.name pending.patch.values

/-- What becomes of the group: the approved values, or the error of its handler. -/
def outcome (pending : Pending) (context : Context) : Except PatchError GroupPatch :=
  match (pending.reply context).verdict with
  | .approved values => .ok { pending.patch with values }
  | .rejected rejection => .error (.permissionDenied pending.patch.group.name rejection)
  | .crashed text => .error (.ofCrash text)

end Pending

/-- Collects the groups that were approved, up to the first failure. -/
def joinOutcomes (outcomes : List (Except PatchError GroupPatch)) : Except PatchError PatchResult :=
  outcomes.foldlM (fun result outcome => outcome.map result.insert) .empty

/-- A run of handlers: the calls made and when, the time taken, and what came of it. -/
structure Run where
  log : List TimedCall
  elapsed : Nat
  outcome : Except PatchError PatchResult

/-- The calls made, in order. -/
def Run.calls (run : Run) : List Call := run.log.map (·.call)

/-- The pending groups up to and including the first whose handler fails. -/
def throughFirstFailure (context : Context) : List Pending → List Pending
  | [] => []
  | pending :: rest =>
    match pending.outcome context with
    | .ok _ => pending :: throughFirstFailure context rest
    | .error _ => [pending]

/-- The calls to handlers from some moment on, each made when the handler before it has answered. -/
def callsFrom (context : Context) : (moment : Nat) → List Pending → List TimedCall
  | _, [] => []
  | moment, pending :: rest =>
    ⟨moment, pending.call context⟩
      :: callsFrom context (moment + (pending.reply context).delay) rest

/-- **Runs the handlers one after the other**, up to the first failure. -/
def runSequentially (context : Context) (pending : List Pending) : Run :=
  let ran := throughFirstFailure context pending
  { log := callsFrom context 0 ran
    elapsed := ran.foldr (fun pending time => (pending.reply context).delay + time) 0
    outcome := joinOutcomes (ran.map (·.outcome context)) }

/-- The order in which handlers that start together finish: by delay, those of equal delay as they
were started. -/
def completionOrder (context : Context) (pending : List Pending) : List Pending :=
  pending.mergeSort fun a b => (a.reply context).delay ≤ (b.reply context).delay

/-- **Runs the handlers together**, given the order in which they finish. The run ends with the
first failure, or with the last handler. -/
def runTogether (context : Context) (pending finished : List Pending) : Run :=
  { log := atOnce (pending.map (·.call context))
    elapsed := ((throughFirstFailure context finished).map fun pending =>
      (pending.reply context).delay).foldl max 0
    outcome := joinOutcomes (finished.map (·.outcome context)) }

/-- Runs the handlers in the given mode. -/
def dispatch (mode : DispatchMode) (context : Context) (pending : List Pending) : Run :=
  match mode with
  | .sequential => runSequentially context pending
  | .concurrent => runTogether context pending (completionOrder context pending)

end PropertyGate
