import PropertyGate.Proofs.Concurrency.Visit
import PropertyGate.Proofs.Store.Replay
import PropertyGate.Proofs.Turns

/-!
# Proofs/Concurrency/Traffic — requests that take turns

Any number of requests change and show posts while more and more is declared; their turns interleave
in any way (`Traffic.Step`).  Writes are listed in the order in which they happen, each with the
number of its request.  Every turn keeps the books (`Traffic.Sound`), and hence **requests are
serializable** (`Traffic.serializable`): the store is what the writes so far make of it in their
order, every change that was answered as a success is among them, and whoever was shown a post was
shown what the first so many of the writes make of it — each of them whole, or not at all.
-/

namespace PropertyGate

/-- **A request on its way.** Its handlers are those that it asks, and `since` is the number of
writes before it arrived. -/
structure Visit where
  question : Question
  handlers : HandlerRegistry
  since : Nat
  standing : Standing := .arrived

/-- **What requests share, and the requests**, known by their numbers. -/
structure Traffic where
  definitions : Definitions
  store : Store
  writes : List Write := []
  visits : List Visit := []

/-- What happens next: something is declared, a request arrives, goes on, or writes. -/
inductive TrafficTurn where
  | declare (declaration : Declaration)
  | arrive (question : Question) (handlers : HandlerRegistry)
  | work (number : Nat)
  | write (number : Nat)

namespace Traffic

/-- The traffic after a request has moved. -/
def advance (traffic : Traffic) (number : Nat) (visit : Visit) (standing : Standing) : Traffic :=
  { traffic with visits := traffic.visits.set number { visit with standing } }

/-- The traffic after a request has written its result. -/
def enter (traffic : Traffic) (number : Nat) (visit : Visit) (context : Context)
    (result : PatchResult) : Traffic :=
  { traffic.advance number visit (.written result) with
    store := traffic.store.lay context.target result.flatten
    writes := traffic.writes ++ [⟨number, context.target, result.flatten⟩] }

/-- **What a turn does.**  A request that was checked writes under a lock, so that its values are
laid over those of the post at once; whatever else a request does changes nothing that is shared. -/
inductive Step (config : PipelineConfig) : Traffic → TrafficTurn → Traffic → Prop where
  | declare (traffic : Traffic) (declaration : Declaration) :
      Step config traffic (.declare declaration)
        { traffic with definitions := traffic.definitions.declare declaration }
  | arrive (traffic : Traffic) (question : Question) (handlers : HandlerRegistry) :
      Step config traffic (.arrive question handlers)
        { traffic with
          visits := traffic.visits ++ [{ question, handlers, since := traffic.writes.length }] }
  | work {traffic : Traffic} {number : Nat} {visit : Visit} {next : Standing}
      (there : traffic.visits[number]? = some visit)
      (moves : Moves config traffic.definitions traffic.store visit.handlers visit.question
        visit.standing next) :
      Step config traffic (.work number) (traffic.advance number visit next)
  | write {traffic : Traffic} {number : Nat} {visit : Visit} {context : Context} {patch : Values}
      {result : PatchResult} (there : traffic.visits[number]? = some visit)
      (asks : visit.question = .edit context patch) (checked : visit.standing = .checked result) :
      Step config traffic (.write number) (traffic.enter number visit context result)

variable {config : PipelineConfig} {start : Store} {traffic after now : Traffic}
  {turn : TrafficTurn} {turns : List TrafficTurn} {number : Nat} {visit : Visit}

/-! ## What every turn keeps -/

/-- **The write is in the books**: it is that of a request to change the post, which has written and
at most been answered since. -/
def Recorded (config : PipelineConfig) (traffic : Traffic) (position : Nat) (write : Write) : Prop :=
  ∃ (visit : Visit) (context : Context) (patch : Values) (result : PatchResult),
    traffic.visits[write.writer]? = some visit ∧
    visit.question = .edit context patch ∧ write.target = context.target ∧
    write.values = result.flatten ∧ visit.since ≤ position ∧
    Grounded config traffic.definitions visit.handlers context patch result ∧
    (visit.standing = .written result ∨ visit.standing = .shown result.flatten)

/-- **What a request owes**: to have written what it says it changed, and to have shown what some of
the writes make of the post, among them all that were there when it arrived. -/
inductive Accounts (start : Store) (writes : List Write) (number since : Nat) :
    Question → Standing → Prop where
  | underWay {question : Question} {standing : Standing} (early : standing.isUnderWay = true) :
      Accounts start writes number since question standing
  | written {context : Context} {patch : Values} {result : PatchResult} {position : Nat}
      (late : since ≤ position)
      (listed : writes[position]? = some ⟨number, context.target, result.flatten⟩) :
      Accounts start writes number since (.edit context patch) (.written result)
  | changed {context : Context} {patch : Values} {result : PatchResult} {position : Nat}
      (late : since ≤ position)
      (listed : writes[position]? = some ⟨number, context.target, result.flatten⟩) :
      Accounts start writes number since (.edit context patch) (.shown result.flatten)
  | seen {context : Context} {count : Nat} (late : since ≤ count) (past : count ≤ writes.length) :
      Accounts start writes number since (.view context)
        (.seen ((start.replay (writes.take count)).values context.target))
  | viewed {context : Context} {count : Nat} (late : since ≤ count) (past : count ≤ writes.length) :
      Accounts start writes number since (.view context)
        (.shown ((start.replay (writes.take count)).values context.target))
  | failed {question : Question} {response : Http.Response} (failure : response.status ≠ 200) :
      Accounts start writes number since question (.answered response)

/-- **The books are kept.** -/
structure Sound (config : PipelineConfig) (start : Store) (traffic : Traffic) : Prop where
  wellFormed : traffic.definitions.WellFormed
  replayed : traffic.store = start.replay traffic.writes
  distinct : (traffic.writes.map (·.writer)).Nodup
  recorded : ∀ (position : Nat) (write : Write), traffic.writes[position]? = some write →
    Recorded config traffic position write
  since : ∀ (number : Nat) (visit : Visit), traffic.visits[number]? = some visit →
    visit.since ≤ traffic.writes.length
  founded : ∀ (number : Nat) (visit : Visit), traffic.visits[number]? = some visit →
    Founded config traffic.definitions visit.handlers visit.question visit.standing
  accounts : ∀ (number : Nat) (visit : Visit), traffic.visits[number]? = some visit →
    Accounts start traffic.writes number visit.since visit.question visit.standing

variable {writes : List Write} {since : Nat} {question : Question} {standing next : Standing}

/-- More writes change nothing about the earlier ones. -/
theorem Accounts.mono (h : Accounts start writes number since question standing)
    (later : List Write) : Accounts start (writes ++ later) number since question standing := by
  have longer : writes.length ≤ (writes ++ later).length := by simp
  cases h with
  | underWay early => exact .underWay early
  | written late listed => exact .written late (getElem?_append_of_eq_some listed later)
  | changed late listed => exact .changed late (getElem?_append_of_eq_some listed later)
  | @seen context count late past =>
    have same : (writes ++ later).take count = writes.take count :=
      List.take_append_of_le_length past
    exact same ▸ .seen late (Nat.le_trans past longer)
  | @viewed context count late past =>
    have same : (writes ++ later).take count = writes.take count :=
      List.take_append_of_le_length past
    exact same ▸ .viewed late (Nat.le_trans past longer)
  | failed failure => exact .failed failure

theorem status_refusal_ne (refusal : Refusal) : refusal.response.status ≠ 200 :=
  fun success => absurd (success ▸ refusal.isErrorStatus_response) (by decide)

/-- **A request owes nothing more after a turn.** -/
theorem Accounts.advance {definitions : Definitions} {handlers : HandlerRegistry}
    (h : Accounts start writes number since question standing)
    (moves : Moves config definitions (start.replay writes) handlers question standing next)
    (arrived : since ≤ writes.length) : Accounts start writes number since question next := by
  cases moves with
  | skip | split | find | assign | start | finish | gather | check => exact .underWay rfl
  | turnAway | tooLarge | ownerless | groupless | unguarded | fail | unstorable =>
    exact .failed (status_refusal_ne _)
  | confirm =>
    cases h with
    | underWay early => cases early
    | written late listed => exact .changed late listed
  | @look context =>
    have seen : Accounts start writes number since (.view context)
        (.seen ((start.replay (writes.take writes.length)).values context.target)) :=
      .seen arrived (Nat.le_refl _)
    rwa [List.take_length] at seen
  | display =>
    cases h with
    | underWay early => cases early
    | seen late past => exact .viewed late past
  | giveUp => exact .failed (by decide)

/-- A request that is in the books stays in them. -/
theorem Recorded.advance {position : Nat} {write : Write}
    (h : Recorded config traffic position write) (there : traffic.visits[number]? = some visit)
    (moves : Moves config traffic.definitions traffic.store visit.handlers visit.question
      visit.standing next) :
    Recorded config (traffic.advance number visit next) position write := by
  obtain ⟨writer, context, patch, result, listed, asks, target, values, late, grounded, standing⟩ := h
  by_cases same : write.writer = number
  · obtain rfl : writer = visit := Option.some.inj (listed.symm.trans (same ▸ there))
    rcases standing with written | shown
    · rw [written] at moves
      refine ⟨{ writer with standing := next }, context, patch, result, ?_, asks, target, values, late,
        grounded, .inr moves.eq_of_written⟩
      rw [same]
      exact List.getElem?_set_self (List.getElem?_eq_some_iff.1 there).1
    · rw [shown] at moves
      exact absurd moves Moves.not_of_answered
  · refine ⟨writer, context, patch, result, ?_, asks, target, values, late, grounded, standing⟩
    exact (List.getElem?_set_ne (Ne.symm same)).trans listed

/-- **A request that has not written is in no entry of the books.** -/
theorem Recorded.writer_ne {position : Nat} {write : Write} {result : PatchResult}
    (h : Recorded config traffic position write) (there : traffic.visits[number]? = some visit)
    (checked : visit.standing = .checked result) : write.writer ≠ number := by
  rintro rfl
  obtain ⟨writer, _, _, _, listed, -, -, -, -, -, standing⟩ := h
  obtain rfl : writer = visit := Option.some.inj (listed.symm.trans there)
  rw [checked] at standing
  rcases standing with written | shown
  · cases written
  · cases shown

/-- What is in the books stays in them when another request writes. -/
theorem Recorded.enter {position : Nat} {write : Write} {context : Context} {result : PatchResult}
    (h : Recorded config traffic position write) (other : write.writer ≠ number) :
    Recorded config (traffic.enter number visit context result) position write := by
  obtain ⟨writer, context, patch, result, listed, rest⟩ := h
  exact ⟨writer, context, patch, result, (List.getElem?_set_ne (Ne.symm other)).trans listed, rest⟩

/-- A request that writes is in the books. -/
theorem recorded_enter {context : Context} {patch : Values} {result : PatchResult}
    (there : traffic.visits[number]? = some visit) (asks : visit.question = .edit context patch)
    (late : visit.since ≤ traffic.writes.length)
    (grounded : Grounded config traffic.definitions visit.handlers context patch result) :
    Recorded config (traffic.enter number visit context result) traffic.writes.length
      ⟨number, context.target, result.flatten⟩ :=
  ⟨{ visit with standing := .written result }, context, patch, result,
    List.getElem?_set_self (List.getElem?_eq_some_iff.1 there).1, asks, rfl, rfl, late, grounded,
    .inl rfl⟩

theorem Step.sound (h : Step config traffic turn after) (sound : traffic.Sound config start) :
    after.Sound config start := by
  obtain ⟨wellFormed, replayed, distinct, recorded, since, founded, accounts⟩ := sound
  cases h with
  | declare declaration =>
    have grown := Definitions.extends_declare traffic.definitions declaration
    refine ⟨wellFormed.declare declaration, replayed, distinct, fun position write listed => ?_, since,
      fun number visit there => (founded number visit there).mono grown, accounts⟩
    obtain ⟨writer, context, patch, result, there, asks, target, values, late, grounded, standing⟩ :=
      recorded position write listed
    exact ⟨writer, context, patch, result, there, asks, target, values, late, grounded.mono grown,
      standing⟩
  | arrive question handlers =>
    refine ⟨wellFormed, replayed, distinct, fun position write listed => ?_, fun number visit there => ?_,
      fun number visit there => ?_, fun number visit there => ?_⟩
    · obtain ⟨writer, context, patch, result, there, rest⟩ := recorded position write listed
      exact ⟨writer, context, patch, result, getElem?_append_of_eq_some there _, rest⟩
    · rcases eq_or_of_concat there with rfl | there
      · exact Nat.le_refl _
      · exact since number visit there
    · rcases eq_or_of_concat there with rfl | there
      · exact .arrived
      · exact founded number visit there
    · rcases eq_or_of_concat there with rfl | there
      · exact .underWay rfl
      · exact accounts number visit there
  | @work number visit next there moves =>
    refine ⟨wellFormed, replayed, distinct, fun position write listed =>
      (recorded position write listed).advance there moves, fun other visit' there' => ?_,
      fun other visit' there' => ?_, fun other visit' there' => ?_⟩
    · rcases eq_or_of_set there' with ⟨rfl, rfl⟩ | ⟨-, there'⟩
      · exact since _ visit there
      · exact since other visit' there'
    · rcases eq_or_of_set there' with ⟨rfl, rfl⟩ | ⟨-, there'⟩
      · exact moves.founded wellFormed (founded _ visit there)
      · exact founded other visit' there'
    · rcases eq_or_of_set there' with ⟨rfl, rfl⟩ | ⟨-, there'⟩
      · exact (accounts _ visit there).advance (replayed ▸ moves) (since _ visit there)
      · exact accounts other visit' there'
  | @write number visit context patch result there asks checked =>
    have grounded : Grounded config traffic.definitions visit.handlers context patch result := by
      have basis := founded number visit there
      rw [asks, checked] at basis
      cases basis with
      | checked grounded => exact grounded
    have late := since number visit there
    have listed : (traffic.writes ++ [⟨number, context.target, result.flatten⟩])[
        traffic.writes.length]? = some ⟨number, context.target, result.flatten⟩ :=
      List.getElem?_concat_length
    have longer : traffic.writes.length ≤
        (traffic.enter number visit context result).writes.length := by simp [enter]
    refine ⟨wellFormed, ?_, ?_, fun position write found => ?_, fun other visit' there' => ?_,
      fun other visit' there' => ?_, fun other visit' there' => ?_⟩
    · rw [enter, Store.replay_concat, ← replayed]
    · rw [enter, List.map_append, List.map_singleton]
      refine List.nodup_append.2 ⟨distinct, List.nodup_singleton _, fun writer hmem other hother => ?_⟩
      obtain ⟨write, hwrite, rfl⟩ := List.mem_map.1 hmem
      obtain ⟨position, found⟩ := List.getElem?_of_mem hwrite
      rw [List.mem_singleton.1 hother]
      exact (recorded position write found).writer_ne there checked
    · rcases Nat.lt_trichotomy position traffic.writes.length with earlier | rfl | later
      · have entry := recorded position write ((List.getElem?_append_left earlier).symm.trans found)
        exact entry.enter (entry.writer_ne there checked)
      · obtain rfl := Option.some.inj (listed.symm.trans found)
        exact recorded_enter there asks late grounded
      · refine absurd (List.getElem?_eq_some_iff.1 found).1 ?_
        simp only [enter, List.length_append, List.length_singleton]
        omega
    · rcases eq_or_of_set there' with ⟨rfl, rfl⟩ | ⟨-, there'⟩
      · exact Nat.le_trans late longer
      · exact Nat.le_trans (since other visit' there') longer
    · rcases eq_or_of_set there' with ⟨rfl, rfl⟩ | ⟨-, there'⟩
      · exact asks ▸ .written grounded
      · exact founded other visit' there'
    · rcases eq_or_of_set there' with ⟨rfl, rfl⟩ | ⟨-, there'⟩
      · exact asks ▸ .written late listed
      · exact (accounts other visit' there').mono _

/-! ## Requests are serializable -/

/-- Something is declared and stored, and no request has arrived yet. -/
def opened (declarations : List Declaration) (start : Store) : Traffic :=
  { definitions := .ofDeclarations declarations, store := start }

theorem sound_opened (declarations : List Declaration) :
    (opened declarations start).Sound config start where
  wellFormed := Definitions.wellFormed_ofDeclarations declarations
  replayed := rfl
  distinct := .nil
  recorded _ _ listed := nomatch listed
  since _ _ there := nomatch there
  founded _ _ there := nomatch there
  accounts _ _ there := nomatch there

/-- **Requests are serializable, and never seen half-applied.**  However the turns interleave:

* the store is what the writes so far make of the start, in their order;
* no request writes twice, and what it writes is what the pipeline approved over something that was
  declared;
* a change that is answered as a success is among the writes, after those that were there when it
  arrived;
* a post that is shown is shown as the first so many writes make it, among them all that were there
  when the request arrived: it reflects each of these writes whole, as far as no later one of them
  replaced it, and nothing of any other. -/
theorem serializable {declarations : List Declaration}
    (h : Turns (Step config) (opened declarations start) turns now) :
    now.store = start.replay now.writes ∧
    (now.writes.map (·.writer)).Nodup ∧
    (∀ (position : Nat) (write : Write), now.writes[position]? = some write →
      Recorded config now position write) ∧
    ∀ (number : Nat) (visit : Visit) (response : Http.Response),
      now.visits[number]? = some visit → visit.standing = .answered response →
      response.status = 200 →
      match visit.question with
      | .edit context _ => ∃ (position : Nat) (write : Write), visit.since ≤ position ∧
          now.writes[position]? = some write ∧ write.writer = number ∧
          write.target = context.target ∧ visit.standing = .shown write.values
      | .view context => ∃ count shown, visit.since ≤ count ∧ count ≤ now.writes.length ∧
          shown = (start.replay (now.writes.take count)).values context.target ∧
          start.Reflects (now.writes.take count) context.target shown ∧
          visit.standing = .shown shown := by
  have sound : now.Sound config start :=
    h.keeps (Sound config start) Step.sound (sound_opened declarations)
  refine ⟨sound.replayed, sound.distinct, sound.recorded, fun number visit response there answered
    success => ?_⟩
  have accounts := sound.accounts number visit there
  obtain ⟨question, handlers, since, standing⟩ := visit
  obtain rfl : standing = .answered response := answered
  cases accounts with
  | underWay early => cases early
  | failed failure => exact absurd success failure
  | @changed context patch result position late listed =>
    exact ⟨position, _, late, listed, rfl, rfl, rfl⟩
  | @viewed context count late past =>
    exact ⟨count, _, late, past, rfl, Store.reflects_replay _ _ _, rfl⟩

/-- A group with one field. -/
def crossingDeclarations : List Declaration :=
  [.group ⟨"g", contentFlaggingGroup⟩, .field ⟨"f", "g", none⟩]

def crossingPatch : Values := TextMap.empty.insert "f" (.bool true)

/-- A post is changed by one request and shown to another before the write, to a third after it. -/
def crossing : List TrafficTurn :=
  [.arrive (.edit ⟨"p1", "u1"⟩ crossingPatch) .standard, .arrive (.view ⟨"p1", "u2"⟩) .standard,
    .work 0, .work 0, .work 0, .work 0, .declare (.group ⟨"h", "other"⟩), .work 0, .work 0, .work 0,
    .work 1, .write 0, .arrive (.view ⟨"p1", "u3"⟩) .standard, .work 2, .work 0, .work 1, .work 2]

def crossed : Traffic where
  definitions :=
    (Definitions.ofDeclarations crossingDeclarations).declare (.group ⟨"h", "other"⟩)
  store := Store.empty.lay "p1" crossingPatch
  writes := [⟨0, "p1", crossingPatch⟩]
  visits := [⟨.edit ⟨"p1", "u1"⟩ crossingPatch, .standard, 0, .shown crossingPatch⟩,
    ⟨.view ⟨"p1", "u2"⟩, .standard, 0, .shown .empty⟩,
    ⟨.view ⟨"p1", "u3"⟩, .standard, 1, .shown crossingPatch⟩]

theorem turns_crossing :
    Turns (Step {}) (opened crossingDeclarations .empty) crossing crossed := by
  let before := Definitions.ofDeclarations crossingDeclarations
  let patch := crossingPatch
  let context : Context := ⟨"p1", "u1"⟩
  let one : GroupPatch := ⟨⟨"g", contentFlaggingGroup⟩, patch⟩
  let pending : Pending := ⟨one, Handler.identity⟩
  have split : Moves {} before .empty .standard (.edit context patch) .arrived
      (.grouping [] [("g", patch)]) :=
    @Moves.split _ _ _ _ _ _ ⟨[("g", patch)], List.pairwise_singleton _ _⟩ rfl (by decide) rfl
  have find : Moves {} before .empty .standard (.edit context patch)
      (.grouping [] [("g", patch)]) (.grouping [one] []) := .find rfl
  have assign : Moves {} before .empty .standard (.edit context patch)
      (.grouping [one] []) (.asking [] [pending] []) := .assign rfl
  have start : Moves {} before .empty .standard (.edit context patch)
      (.asking [] [pending] []) (.asking [] [] [pending]) := .startFirst nofun
  have finish : Moves {} (before.declare (.group ⟨"h", "other"⟩)) .empty .standard
      (.edit context patch) (.asking [] [] [pending]) (.asking [one] [] []) := .finishFirst rfl
  have gather : Moves {} (before.declare (.group ⟨"h", "other"⟩)) .empty .standard
      (.edit context patch) (.asking [one] [] []) (.approved (.collect [one])) := .gather
  have check : Moves {} (before.declare (.group ⟨"h", "other"⟩)) .empty .standard
      (.edit context patch) (.approved (.collect [one])) (.checked (.collect [one])) := .check rfl
  let mid (definitions : Definitions) (edit view : Standing) : Traffic :=
    { definitions, store := .empty
      visits := [⟨.edit context patch, .standard, 0, edit⟩, ⟨.view ⟨"p1", "u2"⟩, .standard, 0, view⟩] }
  have asked : Turns (Step {}) (opened crossingDeclarations .empty)
      [.arrive (.edit context patch) .standard, .arrive (.view ⟨"p1", "u2"⟩) .standard, .work 0,
        .work 0, .work 0, .work 0] (mid before (.asking [] [] [pending]) .arrived) :=
    .move (.arrive _ _ _) <| .move (.arrive _ _ _) <| .move (.work rfl split) <|
      .move (.work rfl find) <| .move (.work rfl assign) <| .move (.work rfl start) <| .stay _
  have checked : Turns (Step {}) (mid before (.asking [] [] [pending]) .arrived)
      [.declare (.group ⟨"h", "other"⟩), .work 0, .work 0, .work 0]
      (mid (before.declare (.group ⟨"h", "other"⟩)) (.checked (.collect [one])) .arrived) :=
    .move (.declare _ _) <| .move (.work rfl finish) <| .move (.work rfl gather) <|
      .move (.work rfl check) <| .stay _
  let last (edit view later : Standing) : Traffic :=
    { crossed with
      visits := [⟨.edit context patch, .standard, 0, edit⟩, ⟨.view ⟨"p1", "u2"⟩, .standard, 0, view⟩,
        ⟨.view ⟨"p1", "u3"⟩, .standard, 1, later⟩] }
  have written : Turns (Step {})
      (mid (before.declare (.group ⟨"h", "other"⟩)) (.checked (.collect [one])) .arrived)
      [.work 1, .write 0, .arrive (.view ⟨"p1", "u3"⟩) .standard]
      (last (.written (.collect [one])) (.seen .empty) .arrived) :=
    .move (.work rfl .look) <| .move (.write rfl rfl rfl) <| .move (.arrive _ _ _) <| .stay _
  have answered : Turns (Step {}) (last (.written (.collect [one])) (.seen .empty) .arrived)
      [.work 2, .work 0, .work 1, .work 2] crossed :=
    .move (.work rfl .look) <| .move (.work rfl .confirm) <| .move (.work rfl .display) <|
      .move (.work rfl .display) <| .stay _
  exact asked.append (checked.append (written.append answered))

/-- The change is in the order of writes; whoever was shown the post saw it whole or not at all. -/
theorem crossing_serializable :
    Turns (Step {}) (opened crossingDeclarations .empty) crossing crossed ∧
      crossed.store = Store.empty.replay crossed.writes ∧
      (∃ (position : Nat) (write : Write), crossed.writes[position]? = some write ∧
        write.writer = 0 ∧ write.target = "p1" ∧ Standing.shown crossingPatch = .shown write.values) ∧
      (∃ count shown, Store.empty.Reflects (crossed.writes.take count) "p1" shown ∧
        Standing.shown .empty = .shown shown) ∧
      ∃ count shown, 1 ≤ count ∧ Store.empty.Reflects (crossed.writes.take count) "p1" shown ∧
        Standing.shown crossingPatch = .shown shown := by
  obtain ⟨replayed, -, -, answers⟩ := serializable turns_crossing
  obtain ⟨position, write, -, listed, writer, target, changed⟩ := answers 0 _ _ rfl rfl rfl
  obtain ⟨count, shown, -, -, -, reflects, viewed⟩ := answers 1 _ _ rfl rfl rfl
  obtain ⟨count', shown', late, -, -, reflects', viewed'⟩ := answers 2 _ _ rfl rfl rfl
  exact ⟨turns_crossing, replayed, ⟨position, write, listed, writer, target, changed⟩,
    ⟨count, shown, reflects, viewed⟩, count', shown', late, reflects', viewed'⟩

end Traffic

end PropertyGate
