import Mathlib.Data.List.Basic
import PropertyGate.Main
import PropertyGate.Proofs.Launch.Options

/-!
# Proofs/Launch/Stages — the first stage of a start that fails

A start looks at six things, one after the other (`Source`), and what it finds there is all that
matters (`Settings.finding`).  It goes through stages (`StartStage`), each of which looks at one of
them and may fail; **the first stage that fails ends the start with its error**
(`errorOf?_launch`), and what a later stage would find makes no difference
(`StartStage.FailsFirst.transfer`).  Before all stages, the command line has to be understood.
-/

namespace PropertyGate

/-- The error of a computation that fails. -/
def errorOf? {ε α : Type} : Except ε α → Option ε
  | .error error => some error
  | .ok _ => none

/-! ## What a start finds -/

/-- What a start looks at on the machine, in this order. -/
inductive Source where
  | metricsAddress
  | definitionsFile
  | flaggingFile
  | serviceAddress
  | certificateFile
  | keyFile
deriving DecidableEq, Repr

/-- The place in the order. -/
def Source.rank : Source → Nat
  | .metricsAddress => 0
  | .definitionsFile => 1
  | .flaggingFile => 2
  | .serviceAddress => 3
  | .certificateFile => 4
  | .keyFile => 5

/-- What a start finds: an address that can be taken or not, a file that can be read or not, or
nothing, where the settings do not ask for anything. -/
inductive Finding where
  | unasked
  | address (host : String) (port : UInt16) (fault : Option BindFault)
  | file (path : String) (contents : Contents)

namespace Finding

def ofAddress (machine : Machine) (host : String) (port : UInt16) : Finding :=
  .address host port (machine.bindFault? host port)

def ofFile? (machine : Machine) : Option String → Finding
  | some path => .file path (machine.read path)
  | none => .unasked

/-- What keeps an address from being taken. -/
def bindFault? : Finding → Option BindFault
  | .address _ _ fault => fault
  | _ => none

/-- The contents of a file, as they are. -/
def bytes? : Finding → Option Bytes
  | .file _ contents => contents.toOption
  | _ => none

/-- What a file that is text decodes to. -/
def decoded? {α : Type} (decoder : Json.Decoder α) : Finding → Option α
  | .file _ contents =>
    (readTextFile contents).toOption.bind fun document => (Json.decode decoder document).toOption
  | _ => none

/-- The failure to read a file as text; `what` is what it should hold. -/
def unreadable? (what : String) : Finding → Option Failure
  | .file path contents =>
    (errorOf? (readTextFile contents)).map fun fault =>
      ⟨"reading " ++ what ++ " from " ++ path, [fault.message]⟩
  | _ => none

/-- The failure to decode a file that is text. -/
def undecodable? {α : Type} (what : String) (decoder : Json.Decoder α) : Finding → Option Failure
  | .file path contents =>
    (readTextFile contents).toOption.bind fun document =>
      (errorOf? (Json.decode decoder document)).map fun fault =>
        ⟨"parsing " ++ what ++ " in " ++ path, [fault.message]⟩
  | _ => none

/-- The failure to read a file as it is. -/
def unloadable? : Finding → Option Failure
  | .file path contents =>
    (errorOf? contents).map fun fault => (TlsFault.unreadable path fault).failure
  | _ => none

end Finding

/-- What settings make a start find on a machine. -/
def Settings.finding (settings : Settings) (machine : Machine) : Source → Finding
  | .metricsAddress =>
    match settings.metricsAddress with
    | some address => .ofAddress machine address.host address.port
    | none => .unasked
  | .definitionsFile => .ofFile? machine settings.definitions
  | .flaggingFile => .ofFile? machine settings.contentFlagging
  | .serviceAddress =>
    .ofAddress (settings.machineBehindMetrics machine) settings.host settings.port
  | .certificateFile => .ofFile? machine (settings.tls.map (·.certificate))
  | .keyFile => .ofFile? machine (settings.tls.map (·.key))

/-! ## Stages -/

/-- The stages of a start. -/
inductive StartStage where
  | listenForMetrics
  | readDefinitions
  | parseDefinitions
  | declareGroups
  | declareFields
  | readFlagging
  | parseFlagging
  | bind
  | readCertificate
  | readKey
  | parseCertificates
  | checkKey
  | checkCertificate
deriving DecidableEq, Repr

namespace StartStage

def definitionsStages : List StartStage :=
  [.readDefinitions, .parseDefinitions, .declareGroups, .declareFields]

def flaggingStages : List StartStage := [.readFlagging, .parseFlagging]

def tlsStages : List StartStage :=
  [.readCertificate, .readKey, .parseCertificates, .checkKey, .checkCertificate]

/-- **Every stage, in the order in which a start goes through them.** -/
def all : List StartStage :=
  .listenForMetrics :: (definitionsStages ++ (flaggingStages ++ .bind :: tlsStages))

/-- The last thing that has been looked at when a stage is over. -/
def source : StartStage → Source
  | .listenForMetrics => .metricsAddress
  | .readDefinitions => .definitionsFile
  | .parseDefinitions => .definitionsFile
  | .declareGroups => .definitionsFile
  | .declareFields => .definitionsFile
  | .readFlagging => .flaggingFile
  | .parseFlagging => .flaggingFile
  | .bind => .serviceAddress
  | .readCertificate => .certificateFile
  | .readKey => .keyFile
  | .parseCertificates => .keyFile
  | .checkKey => .keyFile
  | .checkCertificate => .keyFile

end StartStage

/-- The public key of the one private key of a file. -/
def TlsFiles.publicKeyIn (key : Bytes) : Except TlsFault Bytes :=
  match Pem.privateKeys key with
  | [only] => publicKeyOf only
  | _ => .error .notOneKey

/-- **How a stage fails**, by what is found; it does not fail for want of what an earlier stage
should have given. -/
def StartStage.failure? (find : Source → Finding) : StartStage → Option Failure
  | .listenForMetrics =>
    (find .metricsAddress).bindFault?.map fun fault =>
      ⟨"installing Prometheus exporter", ["failed to create HTTP listener: " ++ fault.message]⟩
  | .readDefinitions => (find .definitionsFile).unreadable? "property definitions"
  | .parseDefinitions => (find .definitionsFile).undecodable? "property definitions" Seed.decoder
  | .declareGroups =>
    ((find .definitionsFile).decoded? Seed.decoder).bind fun seed =>
      (errorOf? (seed.groups.foldlM Definitions.declareGroup .empty)).map DeclarationError.failure
  | .declareFields =>
    ((find .definitionsFile).decoded? Seed.decoder).bind fun seed =>
      (seed.groups.foldlM Definitions.declareGroup .empty).toOption.bind fun withGroups =>
        (errorOf? (seed.fields.foldlM Definitions.declareField withGroups)).map
          DeclarationError.failure
  | .readFlagging => (find .flaggingFile).unreadable? "content flagging settings"
  | .parseFlagging =>
    (find .flaggingFile).undecodable? "content flagging settings" FlaggingSettings.decoder
  | .bind =>
    match find .serviceAddress with
    | .address host port (some fault) =>
      some ⟨"binding " ++ (host ++ ":" ++ port.toNat.repr), [fault.message]⟩
    | _ => none
  | .readCertificate => (find .certificateFile).unloadable?
  | .readKey => (find .keyFile).unloadable?
  | .parseCertificates =>
    (find .certificateFile).bytes?.bind fun certificate =>
      (errorOf? (Pem.certificates certificate)).map fun fault => (TlsFault.malformed fault).failure
  | .checkKey =>
    (find .keyFile).bytes?.bind fun key =>
      (errorOf? (TlsFiles.publicKeyIn key)).map TlsFault.failure
  | .checkCertificate =>
    (find .certificateFile).bytes?.bind fun certificate =>
      (find .keyFile).bytes?.bind fun key =>
        (Pem.certificates certificate).toOption.bind fun certificates =>
          (TlsFiles.publicKeyIn key).toOption.bind fun publicKey =>
            (errorOf? (TlsFiles.checkFirst publicKey certificates)).map TlsFault.failure

variable {settings : Settings} {machine : Machine}

/-! ## Part by part -/

theorem TlsFiles.check_eq (certificate key : Bytes) :
    TlsFiles.check certificate key =
      (Pem.certificates certificate).mapError TlsFault.malformed >>= fun certificates =>
        TlsFiles.publicKeyIn key >>= fun publicKey =>
          TlsFiles.checkFirst publicKey certificates := by
  rw [TlsFiles.check, TlsFiles.publicKeyIn]
  rcases Pem.privateKeys key with _ | ⟨only, _ | _⟩ <;> rfl

theorem TlsFiles.fault?_eq (files : TlsFiles) :
    files.fault? machine = errorOf? (files.load machine) := by
  rw [TlsFiles.fault?]
  cases files.load machine <;> rfl

theorem metricsFailure?_eq :
    settings.metricsFailure? machine =
      StartStage.listenForMetrics.failure? (settings.finding machine) := by
  rw [Settings.metricsFailure?, StartStage.failure?, Settings.finding]
  cases settings.metricsAddress <;> rfl

theorem bindFailure?_eq :
    settings.networkConfig.bindFailure? (settings.machineBehindMetrics machine) =
      StartStage.bind.failure? (settings.finding machine) := by
  rw [NetworkConfig.bindFailure?, StartStage.failure?, Settings.finding, Finding.ofAddress]
  change ((settings.machineBehindMetrics machine).bindFault? settings.host settings.port).map _ = _
  cases (settings.machineBehindMetrics machine).bindFault? settings.host settings.port <;> rfl

theorem errorOf?_loadDefinitions :
    errorOf? (settings.loadDefinitions machine) =
      StartStage.definitionsStages.findSome? (·.failure? (settings.finding machine)) := by
  simp only [StartStage.definitionsStages, List.findSome?_cons, List.findSome?_nil,
    StartStage.failure?, Settings.finding, Finding.ofFile?, Settings.loadDefinitions]
  cases settings.definitions with
  | none => rfl
  | some path =>
    simp only [Definitions.load, Finding.unreadable?, Finding.undecodable?, Finding.decoded?]
    cases readTextFile (machine.read path) with
    | error fault => rfl
    | ok document =>
      dsimp only [Except.toOption, Option.bind_some]
      cases Json.decode Seed.decoder document with
      | error fault => rfl
      | ok seed =>
        dsimp only [Except.toOption, Option.bind_some]
        rw [Definitions.ofSeed]
        cases seed.groups.foldlM Definitions.declareGroup .empty with
        | error error => rfl
        | ok withGroups =>
          change errorOf? ((seed.fields.foldlM Definitions.declareField withGroups).mapError _) = _
          dsimp only [Except.toOption, Option.bind_some]
          cases seed.fields.foldlM Definitions.declareField withGroups <;> rfl

theorem errorOf?_loadFlagging :
    errorOf? (settings.loadFlagging machine) =
      StartStage.flaggingStages.findSome? (·.failure? (settings.finding machine)) := by
  simp only [StartStage.flaggingStages, List.findSome?_cons, List.findSome?_nil,
    StartStage.failure?, Settings.finding, Finding.ofFile?, Settings.loadFlagging]
  cases settings.contentFlagging with
  | none => rfl
  | some path =>
    simp only [FlaggingSettings.load, Finding.unreadable?, Finding.undecodable?]
    cases readTextFile (machine.read path) with
    | error fault => rfl
    | ok document =>
      dsimp only [Except.toOption, Option.bind_some]
      cases Json.decode FlaggingSettings.decoder document <;> rfl

theorem tlsFailure?_eq :
    (settings.networkConfig.tlsFault? machine).map TlsFault.failure =
      StartStage.tlsStages.findSome? (·.failure? (settings.finding machine)) := by
  simp only [StartStage.tlsStages, List.findSome?_cons, List.findSome?_nil,
    StartStage.failure?, Settings.finding, Finding.ofFile?, NetworkConfig.tlsFault?]
  change (settings.tls.bind _).map _ = _
  cases settings.tls with
  | none => rfl
  | some files =>
    simp only [Option.bind_some, TlsFiles.fault?_eq, TlsFiles.load, TlsFiles.readRaw,
      Option.map_some, Finding.unloadable?, Finding.bytes?]
    cases machine.read files.certificate with
    | error fault => rfl
    | ok certificate =>
      cases machine.read files.key with
      | error fault => rfl
      | ok key =>
        change (errorOf? (TlsFiles.check certificate key)).map _ = _
        dsimp only [Except.toOption, errorOf?, Option.map_none, Option.bind_some]
        rw [TlsFiles.check_eq]
        cases Pem.certificates certificate with
        | error fault => rfl
        | ok certificates =>
          cases TlsFiles.publicKeyIn key with
          | error fault => rfl
          | ok publicKey =>
            change (errorOf? (TlsFiles.checkFirst publicKey certificates)).map _ = _
            dsimp only [Option.bind_some, Option.map_none]
            cases TlsFiles.checkFirst publicKey certificates <;> rfl

/-- **A start ends with the error of the first stage that fails**, if there is one. -/
theorem errorOf?_launch :
    errorOf? (settings.launch machine) =
      StartStage.all.findSome? (·.failure? (settings.finding machine)) := by
  rw [StartStage.all, List.findSome?_cons, List.findSome?_append, List.findSome?_append,
    List.findSome?_cons, ← metricsFailure?_eq, ← errorOf?_loadDefinitions,
    ← errorOf?_loadFlagging, ← bindFailure?_eq, ← tlsFailure?_eq, Settings.launch]
  generalize settings.machineBehindMetrics machine = behind
  cases settings.metricsFailure? machine with
  | some failure => rfl
  | none =>
    cases hdefinitions : settings.loadDefinitions machine with
    | error failure => rfl
    | ok definitions =>
      cases hflagging : settings.loadFlagging machine with
      | error failure => rfl
      | ok flagging =>
        change errorOf? (failIf (settings.networkConfig.bindFailure? behind) >>= fun _ =>
          failIf ((settings.networkConfig.tlsFault? machine).map TlsFault.failure) >>= fun _ =>
            pure _) = _
        cases settings.networkConfig.bindFailure? behind with
        | some failure => rfl
        | none => cases settings.networkConfig.tlsFault? machine <;> rfl

/-! ## The first stage that fails -/

namespace StartStage

variable {find find' : Source → Finding} {stage : StartStage} {failure : Failure}

/-- **A stage is the first that fails.** -/
def FailsFirst (find : Source → Finding) (stage : StartStage) (failure : Failure) : Prop :=
  ∃ earlier later, all = earlier ++ stage :: later ∧ stage.failure? find = some failure ∧
    ∀ other ∈ earlier, other.failure? find = none

/-- The same is found, as far as a source. -/
def AgreeUpTo (last : Source) (find find' : Source → Finding) : Prop :=
  ∀ source : Source, source.rank ≤ last.rank → find source = find' source

theorem FailsFirst.findSome?_eq (h : FailsFirst find stage failure) :
    all.findSome? (·.failure? find) = some failure := by
  obtain ⟨earlier, later, split, fails, passed⟩ := h
  exact List.findSome?_eq_some_iff.2 ⟨earlier, stage, later, split, fails, passed⟩

theorem exists_failsFirst (h : all.findSome? (·.failure? find) = some failure) :
    ∃ stage, FailsFirst find stage failure := by
  obtain ⟨earlier, stage, later, split, fails, passed⟩ := List.findSome?_eq_some_iff.1 h
  exact ⟨stage, earlier, later, split, fails, passed⟩

/-- A stage does not look further than its source. -/
theorem failure?_congr (agree : AgreeUpTo stage.source find find') :
    stage.failure? find = stage.failure? find' := by
  cases stage with
  | listenForMetrics => simp only [failure?, agree .metricsAddress (by decide)]
  | readDefinitions => simp only [failure?, agree .definitionsFile (by decide)]
  | parseDefinitions => simp only [failure?, agree .definitionsFile (by decide)]
  | declareGroups => simp only [failure?, agree .definitionsFile (by decide)]
  | declareFields => simp only [failure?, agree .definitionsFile (by decide)]
  | readFlagging => simp only [failure?, agree .flaggingFile (by decide)]
  | parseFlagging => simp only [failure?, agree .flaggingFile (by decide)]
  | bind => simp only [failure?, agree .serviceAddress (by decide)]
  | readCertificate => simp only [failure?, agree .certificateFile (by decide)]
  | readKey => simp only [failure?, agree .keyFile (by decide)]
  | parseCertificates => simp only [failure?, agree .certificateFile (by decide)]
  | checkKey => simp only [failure?, agree .keyFile (by decide)]
  | checkCertificate =>
    simp only [failure?, agree .certificateFile (by decide), agree .keyFile (by decide)]

/-- The stages look at the sources in their order. -/
theorem pairwise_rank_all :
    all.Pairwise fun stage other => stage.source.rank ≤ other.source.rank := by
  decide

theorem mem_all (stage : StartStage) : stage ∈ all := by cases stage <;> decide

/-- No stage that fails looks at less than the first that does. -/
theorem FailsFirst.rank_le {failure' : Failure} (h : FailsFirst find stage failure)
    (other : StartStage) (fails' : other.failure? find = some failure') :
    stage.source.rank ≤ other.source.rank := by
  obtain ⟨earlier, later, split, -, passed⟩ := h
  have ordered := pairwise_rank_all
  have member := other.mem_all
  rw [split, List.pairwise_append, List.pairwise_cons] at ordered
  rw [split, List.mem_append, List.mem_cons] at member
  rcases member with before | rfl | behind
  · exact nomatch fails'.symm.trans (passed other before)
  · exact le_rfl
  · exact ordered.2.1.1 other behind

/-- **What is behind the first stage that fails makes no difference.** -/
theorem FailsFirst.transfer (h : FailsFirst find stage failure)
    (agree : AgreeUpTo stage.source find find') : FailsFirst find' stage failure := by
  obtain ⟨earlier, later, split, fails, passed⟩ := h
  have ordered := pairwise_rank_all
  rw [split, List.pairwise_append] at ordered
  refine ⟨earlier, later, split, (failure?_congr agree).symm.trans fails, fun other member => ?_⟩
  have before := ordered.2.2 other member stage List.mem_cons_self
  rw [← failure?_congr fun source upTo => agree source (upTo.trans before)]
  exact passed other member

end StartStage

/-! ## Starts -/

variable {arguments : List String} {environment environment' : Environment} {stage : StartStage}
  {failure : Failure}

/-- A command line does not ask for the help or the version. -/
def AsksToStart (arguments : List String) (environment : Environment) : Prop :=
  Settings.ofCommandLine arguments environment ≠ .error .help ∧
    Settings.ofCommandLine arguments environment ≠ .error .version

theorem asksToStart_of_ok (read : Settings.ofCommandLine arguments environment = .ok settings) :
    AsksToStart arguments environment := by
  rw [AsksToStart, read]
  constructor <;> intro other <;> cases other

theorem wantsMarks_congr (off : environment.get? marksOffName = environment'.get? marksOffName)
    (on : environment.get? marksOnName = environment'.get? marksOnName) :
    wantsMarks environment = wantsMarks environment' := by
  rw [wantsMarks, isSwitchedOn, isSwitchedOn, off, on]
  rfl

/-- The variables that count are the same. -/
def Environment.Agrees (environment environment' : Environment) : Prop :=
  ∀ name ∈ variableNames, environment.get? name = environment'.get? name

theorem Environment.Agrees.wantsMarks_eq (agree : environment.Agrees environment') :
    wantsMarks environment = wantsMarks environment' :=
  wantsMarks_congr (agree marksOffName (by decide)) (agree marksOnName (by decide))

theorem Environment.Agrees.ofCommandLine_eq (agree : environment.Agrees environment') :
    Settings.ofCommandLine arguments environment = Settings.ofCommandLine arguments environment' :=
  Settings.ofCommandLine_congr fun setting _ => agree setting.environmentName <|
    List.mem_append_left _ (List.mem_map_of_mem setting.mem_all)

theorem launch_of_failsFirst
    (read : Settings.ofCommandLine arguments environment = .ok settings)
    (first : StartStage.FailsFirst (settings.finding machine) stage failure) :
    launch machine arguments environment = .ended ⟨1, "", failure.report⟩ := by
  have failed := errorOf?_launch.trans first.findSome?_eq
  rw [launch, read]
  dsimp only
  cases started : settings.launch machine with
  | error other =>
    rw [started] at failed
    cases failed
    rfl
  | ok launched =>
    rw [started] at failed
    cases failed

theorem network_of_launch {launched : Launched} (h : settings.launch machine = .ok launched) :
    launched.service.network = settings.networkConfig := by
  rw [Settings.launch] at h
  obtain ⟨-, -, h⟩ := bind_eq_ok_iff.1 h
  obtain ⟨definitions, -, h⟩ := bind_eq_ok_iff.1 h
  obtain ⟨flagging, -, h⟩ := bind_eq_ok_iff.1 h
  obtain ⟨-, -, h⟩ := bind_eq_ok_iff.1 h
  obtain ⟨-, -, h⟩ := bind_eq_ok_iff.1 h
  cases h
  rfl

/-- Where no stage fails, the service comes up. -/
theorem exists_launch_eq_serving
    (read : Settings.ofCommandLine arguments environment = .ok settings)
    (passed : ∀ stage : StartStage, stage.failure? (settings.finding machine) = none) :
    ∃ launched, launch machine arguments environment = .serving launched ∧
      launched.service.network = settings.networkConfig := by
  have fine : errorOf? (settings.launch machine) = none :=
    errorOf?_launch.trans (List.findSome?_eq_none_iff.2 fun stage _ => passed stage)
  rw [launch, read]
  dsimp only
  cases started : settings.launch machine with
  | error failure =>
    rw [started] at fine
    cases fine
  | ok launched => exact ⟨launched, rfl, network_of_launch started⟩

/-- What becomes of a start, unless something else is asked for. -/
theorem launch_cases (machine : Machine) (asks : AsksToStart arguments environment) :
    (∃ fault, Settings.ofCommandLine arguments environment = .error (.refused fault) ∧
      launch machine arguments environment =
        .ended ⟨2, "", Style.written (wantsMarks environment)
          (Style.fault.mark "error:" ++ " " ++ fault.message)⟩) ∨
    ∃ settings, Settings.ofCommandLine arguments environment = .ok settings ∧
      ((∃ stage failure, StartStage.FailsFirst (settings.finding machine) stage failure ∧
        launch machine arguments environment = .ended ⟨1, "", failure.report⟩) ∨
      (∀ stage : StartStage, stage.failure? (settings.finding machine) = none) ∧
        ∃ launched, launch machine arguments environment = .serving launched ∧
          launched.service.network = settings.networkConfig) := by
  cases read : Settings.ofCommandLine arguments environment with
  | error halt =>
    cases halt with
    | help => exact absurd read asks.1
    | version => exact absurd read asks.2
    | refused fault =>
      refine .inl ⟨fault, rfl, ?_⟩
      rw [launch, read]
      rfl
  | ok settings =>
    refine .inr ⟨settings, rfl, ?_⟩
    cases found : StartStage.all.findSome? (·.failure? (settings.finding machine)) with
    | some failure =>
      obtain ⟨stage, first⟩ := StartStage.exists_failsFirst found
      exact .inl ⟨stage, failure, first, launch_of_failsFirst read first⟩
    | none =>
      have passed (stage : StartStage) : stage.failure? (settings.finding machine) = none :=
        List.findSome?_eq_none_iff.1 found stage stage.mem_all
      exact .inr ⟨passed, exists_launch_eq_serving read passed⟩

/-- What a command line is refused with depends on what is read, and on whether marks are wanted. -/
theorem launch_eq_of_refused {fault : CommandFault} (machine machine' : Machine)
    (refused : Settings.ofCommandLine arguments environment = .error (.refused fault))
    (read : Settings.ofCommandLine arguments environment =
      Settings.ofCommandLine arguments environment')
    (marks : wantsMarks environment = wantsMarks environment') :
    launch machine' arguments environment' = launch machine arguments environment := by
  rw [launch, launch, ← read, refused]
  change Launch.ended (Halt.exit _ _) = .ended (Halt.exit _ _)
  rw [Halt.exit, Halt.exit, marks]

/-- A command line that is refused is refused with the same message by every machine. -/
theorem launch_of_refused {fault : CommandFault} (machine machine' : Machine)
    (refused : Settings.ofCommandLine arguments environment = .error (.refused fault))
    (agree : environment.Agrees environment') :
    launch machine' arguments environment' = launch machine arguments environment :=
  launch_eq_of_refused machine machine' refused agree.ofCommandLine_eq agree.wantsMarks_eq

/-- **The first fault of a start decides.**  A command line that is not understood ends the program
with 2, whatever the machine is like.  Otherwise the first stage that fails ends it with 1 and its
error, whatever later stages would find; and where no stage fails, the service comes up. -/
theorem first_failing_stage_decides (machine : Machine)
    (asks : AsksToStart arguments environment) :
    (∃ fault, Settings.ofCommandLine arguments environment = .error (.refused fault) ∧
      launch machine arguments environment =
        .ended ⟨2, "", Style.written (wantsMarks environment)
          (Style.fault.mark "error:" ++ " " ++ fault.message)⟩ ∧
      ∀ machine' environment', environment.Agrees environment' →
        launch machine' arguments environment' = launch machine arguments environment) ∨
    ∃ settings, Settings.ofCommandLine arguments environment = .ok settings ∧
      ((∃ stage failure, StartStage.FailsFirst (settings.finding machine) stage failure ∧
        launch machine arguments environment = .ended ⟨1, "", failure.report⟩ ∧
        ∀ machine' arguments' environment' settings',
          Settings.ofCommandLine arguments' environment' = .ok settings' →
          StartStage.AgreeUpTo stage.source (settings.finding machine)
            (settings'.finding machine') →
          launch machine' arguments' environment' = launch machine arguments environment) ∨
      (∀ stage : StartStage, stage.failure? (settings.finding machine) = none) ∧
        ∃ launched, launch machine arguments environment = .serving launched) := by
  obtain ⟨fault, refused, ended⟩ | ⟨settings, read, ⟨stage, failure, first, ended⟩ | up⟩ :=
    launch_cases machine asks
  · exact .inl ⟨fault, refused, ended, fun machine' _ agree =>
      launch_of_refused machine machine' refused agree⟩
  · refine .inr ⟨settings, read, .inl ⟨stage, failure, first, ended, ?_⟩⟩
    intro machine' arguments' environment' settings' read' agree
    exact (launch_of_failsFirst read' (first.transfer agree)).trans ended.symm
  · obtain ⟨passed, launched, serving, -⟩ := up
    exact .inr ⟨settings, read, .inr ⟨passed, launched, serving⟩⟩

/-- A file that is not there, and a port that is not for everyone. -/
def faultyArguments : List String := ["--definitions", "missing.json", "--port=80"]

/-- The missing file is reported, with or without the right to take the port. -/
theorem missing_file_hides_reserved_port :
    let unprivileged : Machine := .unprivileged fun _ => .error .missing
    let privileged : Machine := ⟨fun _ => .error .missing, fun _ _ => none, fun _ _ => false⟩
    AsksToStart faultyArguments .empty ∧
      launch unprivileged faultyArguments .empty = .ended ⟨1, "",
        "Error: reading property definitions from missing.json\n\nCaused by:\n" ++
          "    No such file or directory (os error 2)\n"⟩ ∧
      launch privileged faultyArguments .empty = launch unprivileged faultyArguments .empty := by
  intro unprivileged privileged
  have read : Settings.ofCommandLine faultyArguments .empty =
      .ok { definitions := some "missing.json", port := 80 } := by rfl
  have asks := asksToStart_of_ok read
  obtain ⟨fault, refused, -⟩ | ⟨settings, read', ⟨stage, failure, first, ended, alike⟩ | up⟩ :=
    first_failing_stage_decides unprivileged asks
  · exact nomatch read.symm.trans refused
  · obtain rfl := Except.ok.inj (read.symm.trans read')
    obtain rfl : failure = ⟨"reading property definitions from missing.json",
        ["No such file or directory (os error 2)"]⟩ :=
      (Option.some.inj first.findSome?_eq).symm
    have upTo : stage.source.rank ≤ 1 := first.rank_le .readDefinitions rfl
    refine ⟨asks, ended, alike _ _ _ _ read fun source looked => ?_⟩
    cases source with
    | metricsAddress => rfl
    | definitionsFile => rfl
    | flaggingFile => exact absurd (looked.trans upTo) (by decide)
    | serviceAddress => exact absurd (looked.trans upTo) (by decide)
    | certificateFile => exact absurd (looked.trans upTo) (by decide)
    | keyFile => exact absurd (looked.trans upTo) (by decide)
  · obtain rfl := Except.ok.inj (read.symm.trans read')
    exact absurd (up.1 .readDefinitions) (Option.some_ne_none _)

end PropertyGate
