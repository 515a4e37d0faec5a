import PropertyGate.Definitions.Basic
import PropertyGate.Patch.Dispatch
import PropertyGate.Patch.Grouping
import PropertyGate.Policy.Registry

/-!
# Patch/Pipeline — from a submitted patch to an approved one

A patch is prepared first: its fields are looked up and split by owner, every group is looked up and
given its handler. Whatever can fail without running a handler fails there. Then the handlers run.
The pipeline stores nothing.
-/

namespace PropertyGate

/-- **Who answers for declarations**: fields for a post and a list of ids, and single groups. The
answers are not trusted. -/
structure Registries where
  fields : (target : String) → (fieldIds : List String) → Except Failure (TextMap Field)
  group : (groupId : String) → Except Failure Group

/-- The declared groups and fields answer for themselves; fields are the same for every post. -/
def Definitions.registries (definitions : Definitions) : Registries where
  fields _ fieldIds := .ok (definitions.lookupFields fieldIds)
  group := definitions.lookupGroup

/-- The settings of the pipeline. -/
structure PipelineConfig where
  dispatch : DispatchMode := .concurrent
  maxFields : Nat := 100
deriving DecidableEq, Repr, Inhabited

/-- **The pipeline**: registries, handlers and settings. -/
structure Pipeline where
  registries : Registries
  handlers : HandlerRegistry
  config : PipelineConfig

namespace Pipeline

/-- Looks up the group of some values; the answer must be the group that was asked for. -/
def materialize (pipeline : Pipeline) (entry : String × Values) : Traced PatchError GroupPatch :=
  .call (.lookupGroup entry.1) <|
    match pipeline.registries.group entry.1 with
    | .error cause => .error (.groupResolutionFailed entry.1 cause)
    | .ok group =>
      if group.id = entry.1 then .ok ⟨group, entry.2⟩
      else
        .error (.groupResolutionFailed entry.1 ⟨"registry answered with group " ++ group.id, []⟩)

/-- Gives a group the handler that is registered under its name. -/
def assign (pipeline : Pipeline) (patch : GroupPatch) : Except PatchError Pending :=
  match pipeline.handlers.get? patch.group.name with
  | some handler => .ok ⟨patch, handler⟩
  | none => .error (.unknownPermissionGroup patch.group.name)

/-- Looks up the fields of a patch. -/
def lookupFields (pipeline : Pipeline) (target : String) (patch : Values) :
    Traced PatchError (TextMap Field) :=
  .call (.lookupFields target patch.keys) <|
    (pipeline.registries.fields target patch.keys).mapError .fieldResolutionFailed

/-- **Everything that can fail without running a handler.** -/
def prepare (pipeline : Pipeline) (context : Context) (patch : Values) :
    Traced PatchError (List Pending) := do
  let fields ← pipeline.lookupFields context.target patch
  let grouped ← Traced.ofExcept (groupByOwner patch fields)
  let patches ← grouped.entries.mapM pipeline.materialize
  Traced.ofExcept (patches.mapM pipeline.assign)

/-- **Resolves a submitted patch.** An empty patch is approved without asking anybody. -/
def resolve (pipeline : Pipeline) (context : Context) (patch : Values) : Run :=
  if patch.isEmpty then ⟨[], 0, .ok .empty⟩
  else if pipeline.config.maxFields < patch.size then
    ⟨[], 0, .error (.tooLarge patch.size pipeline.config.maxFields)⟩
  else
    let prepared := pipeline.prepare context patch
    match prepared.result with
    | .error error => ⟨atOnce prepared.calls, 0, .error error⟩
    | .ok pending =>
      let run := dispatch pipeline.config.dispatch context pending
      { run with log := atOnce prepared.calls ++ run.log }

end Pipeline

end PropertyGate
