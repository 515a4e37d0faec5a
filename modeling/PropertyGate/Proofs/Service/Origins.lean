import PropertyGate.Proofs.Service.Layers
import PropertyGate.Proofs.Text.Bytes

/-!
# Proofs/Service/Origins — which origins an answer admits

The origins that a service is configured with may be any texts.  If `*` is among them all origins are
admitted, and otherwise the list of those that can be headers is; a library makes a rule of either
(`OriginRules.ofEntries?`), and refuses lists in which `*` stands.  Of the library only that is
expected, and that a list admits the origin that asks if it has it (`OriginRules.Lawful`): then **a rule
is made of whatever is configured, and answers name the origins that it admits, and no others**
(`admits_configured_origins`).
-/

namespace PropertyGate

open Http (Request Response Headers anyOrigin admittedOrigin? isHeaderValue)

/-! ## Rules -/

/-- **How rules are made of origins**: one for all of them, and one for a list unless it is refused; and
what a rule admits when a page of some origin asks, or a page that names none. -/
structure OriginRules (Rule : Type) where
  every : Rule
  ofList? : List String → Option Rule
  admitted? : Rule → (asking : Option String) → Option String

namespace OriginRules

variable {Rule : Type} {rules : OriginRules Rule}

/-- **What is expected of the rules.** -/
structure Lawful (rules : OriginRules Rule) : Prop where
  admitted?_every (asking : Option String) : rules.admitted? rules.every asking = some anyOrigin
  /-- A list is refused just if it has `*`. -/
  isSome_ofList? (origins : List String) :
    (rules.ofList? origins).isSome = true ↔ anyOrigin ∉ origins
  /-- A list admits the origin that asks, if it has it. -/
  admitted?_of_ofList? {origins : List String} {rule : Rule} (made : rules.ofList? origins = some rule)
    (asking : Option String) : rules.admitted? rule asking = asking.filter (origins.contains ·)

/-- **The rule of the origins that are configured**: for all of them if `*` is one, and otherwise for
those that can be headers. -/
def ofEntries? (rules : OriginRules Rule) (entries : List String) : Option Rule :=
  if entries.contains anyOrigin then some rules.every
  else rules.ofList? (entries.filter isHeaderValue)

/-- **A rule is made of any origins**, and admits what answers admit. -/
theorem Lawful.exists_ofEntries? (lawful : rules.Lawful) (entries : List String) :
    ∃ rule, rules.ofEntries? entries = some rule ∧ ∀ request : Headers,
      rules.admitted? rule (Headers.first? request "origin") = admittedOrigin? entries request := by
  rw [ofEntries?]
  by_cases any : entries.contains anyOrigin = true
  · refine ⟨rules.every, if_pos any, fun request => ?_⟩
    rw [lawful.admitted?_every, admittedOrigin?, if_pos any]
  · have free : anyOrigin ∉ entries.filter isHeaderValue := fun mem =>
      any (List.contains_iff_mem.2 (List.mem_filter.1 mem).1)
    obtain ⟨rule, made⟩ := Option.isSome_iff_exists.1 ((lawful.isSome_ofList? _).2 free)
    refine ⟨rule, (if_neg any).trans made, fun request => ?_⟩
    rw [lawful.admitted?_of_ofList? made, admittedOrigin?, if_neg any]
    refine congrArg (Option.filter · _) (funext fun origin => Bool.eq_iff_iff.2 ?_)
    simp [and_comm]

end OriginRules

/-! ## Entries -/

namespace Http

variable {entries entries' : List String} {request : Headers} {origin : String}

theorem admittedOrigin?_of_mem (any : anyOrigin ∈ entries) :
    admittedOrigin? entries request = some anyOrigin :=
  if_pos (List.contains_iff_mem.2 any)

/-- **An entry that can be a header has the bytes of the origin.** -/
def IsListed (entries : List String) (origin : String) : Prop :=
  ∃ entry ∈ entries, isHeaderValue entry = true ∧ Utf8.encode entry = Utf8.encode origin

/-- **An origin is admitted just if it is the one that asks and is listed.** -/
theorem admittedOrigin?_eq_some_iff (listed : anyOrigin ∉ entries) :
    admittedOrigin? entries request = some origin ↔
      Headers.first? request "origin" = some origin ∧ IsListed entries origin := by
  rw [admittedOrigin?, if_neg (mt List.contains_iff_mem.1 listed), Option.filter_eq_some_iff]
  refine and_congr_right fun _ => ?_
  rw [Bool.and_eq_true, List.contains_iff_mem]
  constructor
  · rintro ⟨valid, mem⟩
    exact ⟨origin, mem, valid, rfl⟩
  · rintro ⟨entry, mem, valid, bytes⟩
    exact Utf8.encode_inj.1 bytes ▸ ⟨valid, mem⟩

/-- **Entries that cannot be headers count for nothing**, nor does it count how often and in which
order the others are listed. -/
theorem admittedOrigin?_congr
    (same : ∀ entry, isHeaderValue entry = true → (entry ∈ entries ↔ entry ∈ entries')) :
    admittedOrigin? entries request = admittedOrigin? entries' request := by
  have any := same anyOrigin (by simp [isHeaderValue, anyOrigin])
  by_cases listed : anyOrigin ∈ entries
  · rw [admittedOrigin?_of_mem listed, admittedOrigin?_of_mem (any.1 listed)]
  · refine Option.ext fun origin => ?_
    rw [admittedOrigin?_eq_some_iff listed, admittedOrigin?_eq_some_iff (mt any.2 listed)]
    refine and_congr_right fun _ => exists_congr fun entry => ?_
    exact ⟨fun ⟨mem, valid, bytes⟩ => ⟨(same entry valid).1 mem, valid, bytes⟩,
      fun ⟨mem, valid, bytes⟩ => ⟨(same entry valid).2 mem, valid, bytes⟩⟩

/-- The origins that an answer admits. -/
def Response.admitted (response : Response) : List String :=
  Headers.values response.headers "access-control-allow-origin"

theorem Response.admitted_forOrigin (response : Response) :
    (response.forOrigin entries request).admitted =
      response.admitted ++ (admittedOrigin? entries request).toList := by
  have varied : (response.withHeader "vary" originDependence).admitted = response.admitted :=
    (Headers.Adds.one _ "vary" originDependence).values_eq (by decide +kernel)
  rw [← varied]
  exact values_withHeader?_self _ "access-control-allow-origin" _

end Http

/-! ## Answers -/

namespace Service

variable {service : Service} {snapshot : Snapshot} {generatedId : String} {request : Request}

/-- **Nothing further in admits an origin.** -/
theorem admitted_guarded : (service.guarded snapshot request).response.admitted = [] := by
  rw [guarded]
  split
  · exact Http.adds_preflight.values_eq_nil (by decide +kernel)
  · rw [within]
    split
    · have identified := adds_followRoute.trans (Response.adds_withHeader?
        (service.followRoute snapshot request).response requestIdHeader
        (Headers.first? request.headers requestIdHeader))
      exact identified.values_eq_nil (by decide +kernel)
    · rfl

/-- The id that a request is given is no origin. -/
theorem admittedOrigin?_withId (entries : List String) :
    admittedOrigin? entries (withId generatedId request).headers =
      admittedOrigin? entries request.headers := by
  rw [admittedOrigin?, admittedOrigin?, first?_withId (Text.lower_ne_of_head? (by decide))]

/-- **An answer admits what its configured origins admit.** -/
theorem admitted_respond
    (declared : Http.declaresTooMuch service.network.maxBodyBytes request.headers = false) :
    (service.respond snapshot generatedId request).response.admitted =
      (admittedOrigin? service.network.corsOrigins request.headers).toList := by
  have outside : ∀ (response : Response) (headers : Headers),
      (finish request (response.coded headers)).admitted = response.admitted := fun response headers =>
    ((response.adds_coded headers).trans (adds_finish request _)).values_eq (by decide +kernel)
  rw [response_of_guarded declared, outside, Response.admitted_forOrigin, admitted_guarded,
    List.nil_append, admittedOrigin?_withId]

/-- A request that declares too long a body is answered before any origin is admitted. -/
theorem admitted_of_declaresTooMuch
    (declared : Http.declaresTooMuch service.network.maxBodyBytes request.headers = true) :
    (service.respond snapshot generatedId request).response.admitted = [] := by
  have bare := (Response.adds_text 413 lengthLimitText).trans (adds_finish request _)
  rw [response_of_declaresTooMuch declared]
  exact bare.values_eq_nil (by decide +kernel)

/-- The service with other origins. -/
def withOrigins (service : Service) (origins : List String) : Service :=
  { service with network := { service.network with corsOrigins := origins } }

/-- Nothing further in looks at the origins. -/
theorem guarded_withOrigins (service : Service) (origins : List String) :
    (service.withOrigins origins).guarded = service.guarded := rfl

/-- Origins that admit the same come to the same. -/
theorem respond_withOrigins {origins : List String}
    (same : ∀ headers, admittedOrigin? origins headers =
      admittedOrigin? service.network.corsOrigins headers) :
    (service.withOrigins origins).respond snapshot generatedId request =
      service.respond snapshot generatedId request := by
  have marked : ∀ (response : Response) (headers : Headers), response.forOrigin origins headers =
      response.forOrigin service.network.corsOrigins headers := fun response headers => by
    rw [Response.forOrigin, Response.forOrigin, same]
  rw [respond, respond, exchange, exchange, guarded_withOrigins]
  simp only [withOrigins, marked]

/-- **Answers admit the origins that are configured, and no others**, whatever is configured.

* A rule is made of the origins, and every request that does not declare too long a body, with or
  without a route, is answered with what the rule admits to the first origin that it names.
* If `*` is configured, that is all origins.
* Otherwise it is the origin that asks, if an entry that can be a header has its bytes, and else none.
* Entries that cannot be headers could as well be left out, and the others be listed in any order and
  any number of times.
* A request that declares too long a body is refused, and no origin is admitted. -/
theorem admits_configured_origins {Rule : Type} (rules : OriginRules Rule) (lawful : rules.Lawful)
    (service : Service) :
    let origins := service.network.corsOrigins
    let admitted := fun snapshot generatedId request =>
      (service.respond snapshot generatedId request).response.admitted
    let passes := fun request : Request =>
      Http.declaresTooMuch service.network.maxBodyBytes request.headers = false
    (∃ rule, rules.ofEntries? origins = some rule ∧
      ∀ snapshot generatedId request, passes request → admitted snapshot generatedId request =
        (rules.admitted? rule (Headers.first? request.headers "origin")).toList) ∧
    (anyOrigin ∈ origins → ∀ snapshot generatedId request, passes request →
      admitted snapshot generatedId request = [anyOrigin]) ∧
    (anyOrigin ∉ origins → ∀ snapshot generatedId request, passes request →
      (admitted snapshot generatedId request).length ≤ 1 ∧
      ∀ origin, origin ∈ admitted snapshot generatedId request ↔
        Headers.first? request.headers "origin" = some origin ∧ Http.IsListed origins origin) ∧
    (∀ origins', (∀ entry, isHeaderValue entry = true → (entry ∈ origins' ↔ entry ∈ origins)) →
      ∀ snapshot generatedId request,
        (service.withOrigins origins').respond snapshot generatedId request =
          service.respond snapshot generatedId request) ∧
    ∀ snapshot generatedId request, ¬ passes request → admitted snapshot generatedId request = [] := by
  intro origins admitted passes
  refine ⟨?_, fun any snapshot generatedId request declared => ?_,
    fun listed snapshot generatedId request declared => ?_,
    fun origins' same snapshot generatedId request => ?_,
    fun snapshot generatedId request long => ?_⟩
  · obtain ⟨rule, made, admits⟩ := lawful.exists_ofEntries? origins
    refine ⟨rule, made, fun snapshot generatedId request declared => ?_⟩
    rw [admits]
    exact admitted_respond declared
  · exact (admitted_respond declared).trans (congrArg _ (Http.admittedOrigin?_of_mem any))
  · have admits : admitted snapshot generatedId request = _ := admitted_respond declared
    rw [admits]
    refine ⟨Option.length_toList_le, fun origin => ?_⟩
    exact Option.mem_toList.trans (Http.admittedOrigin?_eq_some_iff listed)
  · exact respond_withOrigins fun _ => Http.admittedOrigin?_congr same
  · exact admitted_of_declaresTooMuch (eq_true_of_ne_false long)

/-- Rules that are the lists themselves. -/
def listRules : OriginRules (Option (List String)) where
  every := none
  ofList? origins := if origins.contains anyOrigin then none else some (some origins)
  admitted?
    | none, _ => some anyOrigin
    | some origins, asking => asking.filter (origins.contains ·)

theorem lawful_listRules : listRules.Lawful where
  admitted?_every _ := rfl
  isSome_ofList? origins := by simp [listRules]
  admitted?_of_ofList? made asking := by
    obtain ⟨-, ⟨⟩⟩ := Option.ite_none_left_eq_some.1 made
    rfl

/-- An origin that is listed twice, and a text that is none. -/
def repeatedOrigins : List String := ["http://a", "no origin\n", "http://a"]

/-- A question about a path that leads nowhere, from a page that names two origins. -/
def originQuestion : Request :=
  ⟨"OPTIONS", "/nowhere", [⟨"origin", "http://a"⟩, ⟨"origin", "http://b"⟩], []⟩

/-- The first origin is admitted, as it would be if it were listed once, or if all were. -/
theorem originQuestion_is_admitted :
    let admitted := fun origins =>
      ((withOrigins {} origins).respond default "r1" originQuestion).response.admitted
    listRules.Lawful ∧ (listRules.ofEntries? repeatedOrigins).isSome = true ∧
      "http://a" ∈ admitted repeatedOrigins ∧ "http://b" ∉ admitted repeatedOrigins ∧
      admitted ["http://a"] = admitted repeatedOrigins ∧
      admitted [anyOrigin, "http://a"] = [anyOrigin] := by
  intro admitted
  have other : Text.lower "origin" ≠ Text.lower "content-length" :=
    Text.lower_ne_of_head? (by decide)
  have passes : Http.declaresTooMuch 1048576 originQuestion.headers = false := by
    simp [Http.declaresTooMuch, Http.declaredLength?, Headers.first?, Headers.values,
      originQuestion, other]
  have named : Headers.first? originQuestion.headers "origin" = some "http://a" := by
    simp [Headers.first?, Headers.values, originQuestion]
  have valid : isHeaderValue "http://a" = true := by simp [isHeaderValue]
  have invalid : isHeaderValue "no origin\n" = false := by simp [isHeaderValue]
  have same : ∀ entry, isHeaderValue entry = true →
      (entry ∈ ["http://a"] ↔ entry ∈ repeatedOrigins) := by
    intro entry header
    have text : entry ≠ "no origin\n" := fun same => absurd header (by rw [same, invalid]; decide)
    simp [repeatedOrigins, text]
  obtain ⟨⟨_, made, -⟩, -, admits, congr, -⟩ :=
    admits_configured_origins listRules lawful_listRules (withOrigins {} repeatedOrigins)
  obtain ⟨-, mem_iff⟩ := admits (by decide) default "r1" originQuestion passes
  obtain ⟨-, every, -⟩ :=
    admits_configured_origins listRules lawful_listRules (withOrigins {} [anyOrigin, "http://a"])
  have listed : "http://a" ∈ admitted repeatedOrigins :=
    (mem_iff "http://a").2 ⟨named, "http://a", List.mem_cons_self, valid, rfl⟩
  have unlisted : "http://b" ∉ admitted repeatedOrigins := fun mem =>
    absurd (named.symm.trans ((mem_iff "http://b").1 mem).1) (by decide)
  have once : admitted ["http://a"] = admitted repeatedOrigins :=
    congrArg (·.response.admitted) (congr ["http://a"] same default "r1" originQuestion)
  have all : admitted [anyOrigin, "http://a"] = [anyOrigin] :=
    every List.mem_cons_self default "r1" originQuestion passes
  exact ⟨lawful_listRules, Option.isSome_iff_exists.2 ⟨_, made⟩, listed, unlisted, once, all⟩

end Service

end PropertyGate
