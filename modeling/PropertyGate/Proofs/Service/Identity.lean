import PropertyGate.Proofs.Http.Spelling
import PropertyGate.Proofs.Patch.Resolution
import PropertyGate.Proofs.Server.AllOrNothing
import PropertyGate.Proofs.Service.Layers

/-!
# Proofs/Service/Identity — on whose behalf others are asked

A request is made for a post and by a requester if its path spells a well-formed id and the first
value of the configured header presents a name (`Identifies`).  A request has at most one such pair,
and it is the pair that the operations on posts read (`identifies_iff`).  **Whatever a request asks of
registries, handlers and the store, it asks for that pair, and without one it asks nothing**
(`asks_for_its_identity_only`).
-/

namespace PropertyGate

open Http (Request Response Headers Header)

/-! ## Blanks around a name -/

namespace Text

/-- Dropping what leads a list leaves nothing that leads. -/
theorem dropWhile_eq_iff {p : Char → Bool} {chars rest : List Char} :
    chars.dropWhile p = rest ↔
      (∃ lead, chars = lead ++ rest ∧ ∀ c ∈ lead, p c = true) ∧ ∀ c ∈ rest.head?, p c = false := by
  constructor
  · rintro rfl
    refine ⟨⟨chars.takeWhile p, List.takeWhile_append_dropWhile.symm,
      List.all_eq_true.1 List.all_takeWhile⟩, fun c hc => ?_⟩
    have stops := List.head?_dropWhile_not p chars
    rw [hc] at stops
    exact stops
  · rintro ⟨⟨lead, rfl, blank⟩, stops⟩
    rw [List.dropWhile_append_of_pos blank]
    cases rest with
    | nil => rfl
    | cons c rest => exact List.dropWhile_cons_of_neg (by simp [stops c rfl])

/-- **Trimming takes the blanks at either end, and all of them.** -/
theorem trimBlanks_eq_iff {chars name : List Char} (nonempty : name ≠ []) :
    trimBlanks chars = name ↔
      (∃ before after, chars = before ++ name ++ after ∧
        ∀ c ∈ before ++ after, isBlank c = true) ∧
      (∀ c ∈ name.head?, isBlank c = false) ∧ ∀ c ∈ name.getLast?, isBlank c = false := by
  rw [trimBlanks, List.reverse_eq_iff, dropWhile_eq_iff, List.head?_reverse]
  constructor
  · rintro ⟨⟨lead, split, blank⟩, last⟩
    have inner : chars.dropWhile isBlank = name ++ lead.reverse := by
      rw [← List.reverse_inj, split, List.reverse_append, List.reverse_reverse]
    obtain ⟨⟨before, rfl, blank'⟩, first⟩ := dropWhile_eq_iff.1 inner
    refine ⟨⟨before, lead.reverse, (List.append_assoc ..).symm, fun c hc => ?_⟩, ?_, last⟩
    · rcases List.mem_append.1 hc with hc | hc
      · exact blank' c hc
      · exact blank c (List.mem_reverse.1 hc)
    · rwa [List.head?_append_of_ne_nil _ nonempty] at first
  · rintro ⟨⟨before, after, rfl, blank⟩, first, last⟩
    have inner : (before ++ name ++ after).dropWhile isBlank = name ++ after := by
      refine dropWhile_eq_iff.2 ⟨⟨before, List.append_assoc .., fun c hc =>
        blank c (List.mem_append_left _ hc)⟩, ?_⟩
      rwa [List.head?_append_of_ne_nil _ nonempty]
    refine ⟨⟨after.reverse, ?_, fun c hc =>
      blank c (List.mem_append_right _ (List.mem_reverse.1 hc))⟩, last⟩
    rw [inner, List.reverse_append]

end Text

/-! ## What a header says -/

namespace Http

/-- **The value is the first under the name**, whose case does not matter. -/
def FirstUnder (headers : Headers) (name value : String) : Prop :=
  ∃ before header after, headers = before ++ header :: after ∧
    (∀ other ∈ before, Text.lower other.name ≠ Text.lower name) ∧
    Text.lower header.name = Text.lower name ∧ header.value = value

theorem first?_eq_some_iff {headers : Headers} {name value : String} :
    Headers.first? headers name = some value ↔ FirstUnder headers name value := by
  rw [Headers.first?, Headers.values, List.head?_map, List.head?_filter, Option.map_eq_some_iff]
  constructor
  · rintro ⟨header, found, rfl⟩
    obtain ⟨same, before, after, split, others⟩ := List.find?_eq_some_iff_append.1 found
    exact ⟨before, header, after, split, fun other hother => by simpa using others other hother,
      beq_iff_eq.1 same, rfl⟩
  · rintro ⟨before, header, after, split, others, same, rfl⟩
    exact ⟨header, List.find?_eq_some_iff_append.2 ⟨beq_iff_eq.2 same, before, after, split,
      fun other hother => by simpa using others other hother⟩, rfl⟩

/-- **The value presents a name**: a text of printable ASCII characters and tabs without blanks at
its ends, which the value may add. -/
structure Presents (value name : String) : Prop where
  around : ∃ before after, value.toList = before ++ name.toList ++ after ∧
    ∀ c ∈ before ++ after, c = ' ' ∨ c = '\t'
  nonempty : name ≠ ""
  printable : ∀ c ∈ name.toList, c = '\t' ∨ 0x20 ≤ c.toNat ∧ c.toNat < 0x7F
  first : ∀ c ∈ name.toList.head?, c.isWhitespace = false
  last : ∀ c ∈ name.toList.getLast?, c.isWhitespace = false

/-- Among printable characters and tabs, white space is a blank. -/
theorem isWhitespace_eq_isBlank {c : Char}
    (printable : c = '\t' ∨ 0x20 ≤ c.toNat ∧ c.toNat < 0x7F) :
    c.isWhitespace = Text.isBlank c := by
  rcases printable with rfl | bounds
  · rfl
  have other : c ≠ '\r' ∧ c ≠ '\n' := by
    constructor <;>
    · rintro rfl
      exact absurd bounds (by decide)
  simp [Char.isWhitespace, Text.isBlank, other]

/-- What a plain value is trimmed to is the name that it presents. -/
theorem presents_iff {value name : String} :
    Presents value name ↔
      isPlain value = true ∧ name ≠ "" ∧ Text.trimBlanks value.toList = name.toList := by
  have plainIff : isPlain value = true ↔
      ∀ c ∈ value.toList, c = '\t' ∨ 0x20 ≤ c.toNat ∧ c.toNat < 0x7F := by
    simp [isPlain, String.all_bool_eq]
  constructor
  · rintro ⟨⟨before, after, split, blank⟩, nonempty, printable, first, last⟩
    have ends : ∀ {c : Char}, c ∈ name.toList → c.isWhitespace = false →
        Text.isBlank c = false := fun hc white =>
      (isWhitespace_eq_isBlank (printable _ hc)).symm.trans white
    refine ⟨plainIff.2 fun c hc => ?_, nonempty, (Text.trimBlanks_eq_iff ?_).2
      ⟨⟨before, after, split, fun c hc => by simpa [Text.isBlank] using blank c hc⟩,
        fun c hc => ends (List.mem_of_head? hc) (first c hc),
        fun c hc => ends (List.mem_of_getLast? hc) (last c hc)⟩⟩
    · rw [split, List.append_assoc, List.mem_append, List.mem_append] at hc
      have outside : c = ' ' ∨ c = '\t' → c = '\t' ∨ 0x20 ≤ c.toNat ∧ c.toNat < 0x7F := by
        rintro (rfl | rfl) <;> decide
      rcases hc with hc | hc | hc
      · exact outside (blank c (List.mem_append_left _ hc))
      · exact printable c hc
      · exact outside (blank c (List.mem_append_right _ hc))
    · rwa [Ne, String.toList_eq_nil_iff]
  · rintro ⟨plain, nonempty, trimmed⟩
    have nonempty' : name.toList ≠ [] := by rwa [Ne, String.toList_eq_nil_iff]
    obtain ⟨⟨before, after, split, blank⟩, first, last⟩ :=
      (Text.trimBlanks_eq_iff nonempty').1 trimmed
    have printable : ∀ c ∈ name.toList, c = '\t' ∨ 0x20 ≤ c.toNat ∧ c.toNat < 0x7F :=
      fun c hc => plainIff.1 plain c (Text.mem_of_mem_trimBlanks (trimmed.symm ▸ hc))
    exact ⟨⟨before, after, split, fun c hc => by simpa [Text.isBlank] using blank c hc⟩, nonempty,
      printable,
      fun c hc => (isWhitespace_eq_isBlank (printable c (List.mem_of_head? hc))).trans (first c hc),
      fun c hc =>
        (isWhitespace_eq_isBlank (printable c (List.mem_of_getLast? hc))).trans (last c hc)⟩

end Http

namespace Service

variable {service : Service} {snapshot : Snapshot} {generatedId : String} {request : Request}
  {config : NetworkConfig} {segment : String} {context : Context} {patch : Values}

/-! ## Who is asked for -/

theorem requester_eq_ok_iff_eq_some {headers : Headers} {name : String} :
    requester config headers = .ok name ↔ requester? config headers = some name := by
  rw [requester]
  split <;> rename_i found <;> simp [found]

theorem requester_eq_ok_iff {headers : Headers} {name : String} :
    requester config headers = .ok name ↔
      Http.isHeaderName config.requesterHeader = true ∧
        ∃ value, Http.FirstUnder headers config.requesterHeader value ∧
          Http.Presents value name := by
  have readName : ∀ {chars : List Char} {plain : Bool},
      (if plain && !chars.isEmpty then some (String.ofList chars) else none) = some name ↔
        plain = true ∧ name ≠ "" ∧ chars = name.toList := by
    intro chars plain
    rw [Option.ite_none_right_eq_some, Option.some.injEq, Bool.and_eq_true, and_assoc]
    refine and_congr_right fun _ => ⟨?_, ?_⟩
    · rintro ⟨nonempty, rfl⟩
      refine ⟨?_, String.toList_ofList.symm⟩
      rw [Ne, ← String.toList_eq_nil_iff, String.toList_ofList]
      simpa using nonempty
    · rintro ⟨nonempty, rfl⟩
      rw [Ne, ← String.toList_eq_nil_iff] at nonempty
      exact ⟨by simpa using nonempty, String.ofList_toList⟩
  rw [requester_eq_ok_iff_eq_some, requester?, Option.ite_none_right_eq_some, Option.bind_eq_some_iff]
  simp only [readName, ← Http.presents_iff, ← Http.first?_eq_some_iff]

theorem isPostId_iff {post : String} :
    isPostId post = true ↔ post ≠ "" ∧ ∀ c ∈ post.toList, c.isAlphanum = true := by
  simp [isPostId, String.all_bool_eq]

theorem checkPostId_eq_ok_iff {post : String} : checkPostId post = .ok () ↔ isPostId post = true := by
  rw [checkPostId]
  split <;> simp_all

theorem parameter_eq_ok_iff {name value : String} :
    parameter name segment = .ok value ↔ Http.decodeSegment? segment = some value := by
  rw [parameter]
  split <;> rename_i found <;> simp [found]

/-- **The request is made for a post and by a requester**: its path spells the id of the post, which
has letters and digits only, and the first value under the configured header presents the
requester. -/
structure Identifies (config : NetworkConfig) (request : Request) (context : Context) : Prop where
  path : ∃ segment, Http.targetPath request.target = Route.postsPath ++ segment ∧
    '/' ∉ segment.toList ∧ Http.Spells segment.toList context.target.toList
  nonempty : context.target ≠ ""
  alphanumeric : ∀ c ∈ context.target.toList, c.isAlphanum = true
  configured : Http.isHeaderName config.requesterHeader = true
  header : ∃ value, Http.FirstUnder request.headers config.requesterHeader value ∧
    Http.Presents value context.requester

theorem readRequest_eq_ok_iff :
    readRequest config request segment = .ok context ↔
      parameter "post_id" segment = .ok context.target ∧
        requester config request.headers = .ok context.requester ∧
        checkPostId context.target = .ok () := by
  rw [readRequest, bind_eq_ok_iff]
  constructor
  · rintro ⟨post, hpost, h⟩
    obtain ⟨name, hname, h⟩ := bind_eq_ok_iff.1 h
    obtain ⟨⟨⟩, hcheck, h⟩ := bind_eq_ok_iff.1 h
    cases h
    exact ⟨hpost, hname, hcheck⟩
  · rintro ⟨hpost, hname, hcheck⟩
    exact ⟨_, hpost, bind_eq_ok_iff.2 ⟨_, hname, bind_eq_ok_iff.2 ⟨_, hcheck, rfl⟩⟩⟩

/-- **The pair that a request identifies is the one that is read off it.** -/
theorem identifies_iff :
    Identifies config request context ↔
      ∃ segment, Route.of? request = some (.post segment) ∧
        readRequest config request segment = .ok context := by
  simp only [readRequest_eq_ok_iff, parameter_eq_ok_iff, requester_eq_ok_iff,
    checkPostId_eq_ok_iff, isPostId_iff, Route.of?, Route.ofPath?_eq_post_iff]
  constructor
  · rintro ⟨⟨segment, path, whole, spells⟩, nonempty, plain, configured, header⟩
    refine ⟨segment, ⟨path, ?_, whole⟩, (Http.decodeSegment?_eq_iff_spells plain).2 spells,
      ⟨configured, header⟩, nonempty, plain⟩
    rintro rfl
    have empty : context.target.toList = [] := by
      generalize context.target.toList = id at spells
      cases spells
      rfl
    exact nonempty (String.toList_eq_nil_iff.1 empty)
  · rintro ⟨segment, ⟨path, -, whole⟩, decoded, ⟨configured, header⟩, nonempty, plain⟩
    exact ⟨⟨segment, path, whole, (Http.decodeSegment?_eq_iff_spells plain).1 decoded⟩, nonempty,
      plain, configured, header⟩

/-- **A request identifies one pair at most.** -/
theorem Identifies.unique {context' : Context} (h : Identifies config request context)
    (h' : Identifies config request context') : context = context' := by
  obtain ⟨segment, route, read⟩ := identifies_iff.1 h
  obtain ⟨segment', route', read'⟩ := identifies_iff.1 h'
  obtain rfl : segment = segment' := by
    rw [route, Option.some.injEq, Route.post.injEq] at route'
    exact route'
  exact Except.ok.inj (read.symm.trans read')

/-- What is read to change a post is read to show it. -/
theorem readRequest_of_patchRequest
    (h : patchRequest config request segment = .ok (context, patch)) :
    readRequest config request segment = .ok context := by
  obtain ⟨post, hpost, h⟩ := bind_eq_ok_iff.1 h
  obtain ⟨name, hname, h⟩ := bind_eq_ok_iff.1 h
  obtain ⟨body, -, h⟩ := bind_eq_ok_iff.1 h
  obtain ⟨⟨⟩, hcheck, h⟩ := bind_eq_ok_iff.1 h
  obtain ⟨patch, -, h⟩ := bind_eq_ok_iff.1 h
  cases h
  exact readRequest_eq_ok_iff.2 ⟨hpost, hname, hcheck⟩

/-- But for a header that ids of requests come in, the pair is that of the request as it came. -/
theorem identifies_withId_iff
    (other : Text.lower config.requesterHeader ≠ Text.lower requestIdHeader) :
    Identifies config (withId generatedId request) context ↔ Identifies config request context := by
  simp only [identifies_iff, of?_withId, readRequest_eq_ok_iff, requester, requester?,
    first?_withId other]

/-- **A post is shown to whoever asks for it by its id and is named.** -/
theorem followRoute_of_identifies (asks : request.method = "GET")
    (admitted : snapshot.health.state.isShuttingDown = false)
    (h : Identifies service.network request context) :
    service.followRoute snapshot request =
      { Outcome.answer snapshot
          (.json 200 (Values.toJson (snapshot.store.values context.target))) with
        log := atOnce [.readValues context.target] } := by
  obtain ⟨segment, route, read⟩ := identifies_iff.1 h
  rw [followRoute_of_shown asks admitted route rfl]
  simp only [Route.shown, perform, readPost, read, Outcome.answer, Health.leave_enter]

end Service

/-! ## What is asked -/

/-- **The call is made for the context**: wherever a call names a post or a requester, it names
those. -/
def Call.IsFor (context : Context) : Call → Prop
  | .lookupFields target _ => target = context.target
  | .lookupGroup _ => True
  | .authorize asked _ _ => asked = context
  | .readValues target => target = context.target
  | .commit target _ => target = context.target

/-- **Resolving a patch asks for its context only.** -/
theorem Pipeline.isFor_resolve (pipeline : Pipeline) (context : Context) (patch : Values) :
    ∀ call ∈ (pipeline.resolve context patch).calls, call.IsFor context := by
  intro call hcall
  rcases mem_calls_resolve hcall with rfl | ⟨groupId, rfl⟩ | ⟨one, rfl⟩
  · rfl
  · exact trivial
  · rfl

theorem Outcome.calls_mapResponse (outcome : Outcome) (f : Response → Response) :
    (outcome.mapResponse f).calls = outcome.calls := rfl

namespace Service

variable {service : Service} {snapshot : Snapshot} {generatedId : String} {request : Request}
  {config : NetworkConfig} {segment : String} {context : Context} {patch : Values}

theorem isFor_applyPatch (context : Context) (patch : Values) :
    ∀ call ∈ (service.applyPatch snapshot context patch).calls, call.IsFor context := by
  have resolved := (service.pipelineOver snapshot.definitions).isFor_resolve context patch
  have committed : ∀ (moment : Nat) (approved : PatchResult), ∀ call ∈ List.map TimedCall.call
      (((service.pipelineOver snapshot.definitions).resolve context patch).log ++
        [⟨moment, .commit context.target approved⟩]), Call.IsFor context call := by
    intro moment approved call hcall
    rw [List.map_append] at hcall
    rcases List.mem_append.1 hcall with hcall | hcall
    · exact resolved call hcall
    · rw [List.mem_singleton.1 hcall]
      rfl
  rw [applyPatch]
  dsimp only
  split
  · exact resolved
  · split <;> exact committed _ _

/-- **A route asks on behalf of the pair that the request identifies.** -/
theorem isFor_dispatchMethod {route : Route} (found : Route.of? request = some route) {call : Call}
    (hcall : call ∈ (service.dispatchMethod snapshot request route).calls) :
    ∃ context, Identifies service.network request context ∧ call.IsFor context := by
  rw [dispatchMethod] at hcall
  split at hcall
  swap
  · cases hcall
  rename_i operation asked
  have onPost : ∀ {segment : String}, operation = .readPost segment ∨ operation = .patchPost segment →
      Route.of? request = some (.post segment) := by
    intro segment posts
    rw [Route.operation?] at asked
    rw [found]
    split at asked
    · cases route <;> rcases posts with rfl | rfl <;> cases asked
      rfl
    · split at asked
      · cases route <;> rcases posts with rfl | rfl <;> cases asked
        rfl
      · cases asked
  cases operation with
  | showHealth | showLiveness | showReadiness => cases hcall
  | showTeamStatus segment =>
    simp only [perform, showTeamStatus] at hcall
    split at hcall <;> cases hcall
  | readPost segment =>
    simp only [perform, readPost] at hcall
    split at hcall
    · cases hcall
    · rename_i context read
      refine ⟨context, identifies_iff.2 ⟨segment, onPost (.inl rfl), read⟩, ?_⟩
      rw [List.mem_singleton.1 hcall]
      rfl
  | patchPost segment =>
    simp only [perform, patchPost] at hcall
    split at hcall
    · cases hcall
    · rename_i context patch said
      exact ⟨context, identifies_iff.2 ⟨segment, onPost (.inr rfl), readRequest_of_patchRequest said⟩,
        isFor_applyPatch context patch call hcall⟩

theorem isFor_followRoute {call : Call}
    (hcall : call ∈ (service.followRoute snapshot request).calls) :
    ∃ context, Identifies service.network request context ∧ call.IsFor context := by
  rw [followRoute] at hcall
  split at hcall
  · cases hcall
  rename_i route found
  split at hcall
  · rw [admitWork] at hcall
    split at hcall
    · cases hcall
    · exact isFor_dispatchMethod found hcall
  · exact isFor_dispatchMethod found hcall

/-- Up to the deadline, what is asked is part of what would be asked without one. -/
theorem calls_within_sublist (timeout : Nat) (outcome : Outcome) :
    (within timeout snapshot outcome).calls.Sublist outcome.calls := by
  rw [within]
  split
  · exact .refl _
  · exact List.filter_sublist.map _

/-- What a request asks, its route asks. -/
theorem mem_calls_followRoute {call : Call}
    (hcall : call ∈ (service.respond snapshot generatedId request).calls) :
    call ∈ (service.followRoute snapshot (withId generatedId request)).calls := by
  rw [respond, Outcome.calls_mapResponse, exchange] at hcall
  split at hcall
  · cases hcall
  rw [Outcome.calls_mapResponse, guarded] at hcall
  split at hcall
  · cases hcall
  · have asked := (calls_within_sublist ..).subset hcall
    rwa [identified, Outcome.calls_mapResponse] at asked

/-- A request that goes through identifies the post that it changes. -/
theorem Applies.identifies {approved : PatchResult}
    (h : Applies service snapshot generatedId request segment context patch approved) :
    Identifies service.network (withId generatedId request) context :=
  identifies_iff.2 ⟨segment, h.route, readRequest_of_patchRequest h.wording⟩

/-- **A request asks on behalf of the pair that it identifies, and of nobody else**: if it is made
for a post and by a requester, every call names these where it names any, and no other post is
changed; if it is not, it asks nothing and changes nothing. -/
theorem asks_for_its_identity_only (service : Service) (snapshot : Snapshot) (generatedId : String)
    (request : Request) :
    let outcome := service.respond snapshot generatedId request
    (∃ context, Identifies service.network (withId generatedId request) context ∧
      (∀ call ∈ outcome.calls, call.IsFor context) ∧
      ∀ post, post ≠ context.target →
        outcome.store.targets.get? post = snapshot.store.targets.get? post) ∨
    ((∀ context, ¬ Identifies service.network (withId generatedId request) context) ∧
      outcome.calls = [] ∧ outcome.store = snapshot.store) := by
  intro outcome
  have asked : ∀ call ∈ outcome.calls,
      ∃ context, Identifies service.network (withId generatedId request) context ∧
        call.IsFor context :=
    fun call hcall => isFor_followRoute (mem_calls_followRoute hcall)
  have stored : (∃ segment context patch approved, Applies service snapshot generatedId request
      segment context patch approved) ∨ outcome.store = snapshot.store :=
    applies_or_store_respond_eq
  by_cases identified : ∃ context, Identifies service.network (withId generatedId request) context
  · obtain ⟨context, identifies⟩ := identified
    refine .inl ⟨context, identifies, fun call hcall => ?_, fun post other => ?_⟩
    · obtain ⟨context', identifies', isFor⟩ := asked call hcall
      exact identifies.unique identifies' ▸ isFor
    · rcases stored with ⟨segment, context', patch, approved, applies⟩ | same
      · obtain rfl := identifies.unique applies.identifies
        have laid : outcome.store = _ := applies.respond.2.2.1
        rw [laid, Store.get?_targets_lay_of_ne other]
      · rw [same]
  · refine .inr ⟨not_exists.1 identified, List.eq_nil_iff_forall_not_mem.2 fun call hcall => ?_, ?_⟩
    · obtain ⟨context, identifies, -⟩ := asked call hcall
      exact identified ⟨context, identifies⟩
    · refine stored.resolve_left ?_
      rintro ⟨segment, context, patch, approved, applies⟩
      exact identified ⟨context, applies.identifies⟩

/-- Somebody looks at a post whose id is partly escaped, with blanks around the first of two
names. -/
def spelledRequest : Request where
  method := "GET"
  target := "/api/v4/properties/posts/p%31?full"
  headers := [⟨"User", " u1\t"⟩, ⟨"user", "u2"⟩]

theorem spelledRequest_identifies :
    Identifies sampleService.network (withId "r1" spelledRequest) ⟨"p1", "u1"⟩ where
  path := ⟨"p%31", by decide +kernel, by decide, .plain (.escaped (.inl rfl) (.inl rfl) .nil)⟩
  nonempty := by decide
  alphanumeric := by simp
  configured := by simp [sampleService, Http.isHeaderName, Http.isNameChar]
  header := by
    have initials : 'U'.toLower = 'u'.toLower := rfl
    have same : Text.lower "User" = Text.lower "user" := by
      simp [← String.toList_inj, Text.toList_lower, initials]
    exact ⟨" u1\t", ⟨[], ⟨"User", " u1\t"⟩, [⟨"user", "u2"⟩, ⟨requestIdHeader, "r1"⟩],
      by decide +kernel, List.forall_mem_nil _, same, rfl⟩,
      ⟨⟨[' '], ['\t'], rfl, by simp⟩, by decide, by simp, by simp, by simp⟩⟩

theorem spelledRequest_asks_for_its_identity :
    let outcome := sampleService.respond (sampleServer.snapshot 0) "r1" spelledRequest
    outcome.calls = [.readValues "p1"] ∧ ∀ call ∈ outcome.calls, call.IsFor ⟨"p1", "u1"⟩ := by
  have shown : sampleService.followRoute (sampleServer.snapshot 0) (withId "r1" spelledRequest) =
      { Outcome.answer (sampleServer.snapshot 0) (.json 200 (Values.toJson .empty)) with
        log := atOnce [.readValues "p1"] } :=
    followRoute_of_identifies method_withId rfl spelledRequest_identifies
  refine ⟨?_, ?_⟩
  · rw [respond_of_timely (by decide) (by decide +kernel) (by rw [shown]; decide), shown]
    rfl
  · rcases asks_for_its_identity_only sampleService (sampleServer.snapshot 0) "r1"
      spelledRequest with ⟨context, identifies, isFor, -⟩ | ⟨nobody, -⟩
    · obtain rfl := spelledRequest_identifies.unique identifies
      exact isFor
    · exact absurd spelledRequest_identifies (nobody _)

end Service

end PropertyGate
