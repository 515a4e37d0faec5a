import PropertyGate.Proofs.Json.Listing
import PropertyGate.Proofs.Patch.Unchanged
import PropertyGate.Proofs.Server.Resending
import PropertyGate.Proofs.Service.Precedence
import PropertyGate.Proofs.Service.Wiring

/-!
# Proofs/Server/ReadingBack — what was submitted is read back

A patch whose body writes every number as an integer of 64 bits is plain, so it is written as a text
that is read as the patch (`Values.isText_of_decode`).  Where nobody minds the patch it is approved as
it is and laid over what the post has; a post that has nothing has the patch afterwards.  So **the
answer to a patch, and what is then shown of its post, is one text, which is read as the patch**
(`patch_is_read_back`).
-/

namespace PropertyGate

open Http (Request Response)

/-- **The text stands for the values**: it is read as them, lists the keys of every object in the order
of their bytes, and whatever is read from it is written as it again. -/
structure Values.IsText (values : Values) (text : String) : Prop where
  decoded : Json.decode Values.decoder (Utf8.encode text) = .ok values
  ordered : ∃ listed, Json.decode Json.Decoder.listing (Utf8.encode text) = .ok listed ∧
    listed.InByteOrder
  rewritten : ∀ again, Json.decode Values.decoder (Utf8.encode text) = .ok again →
    Utf8.encode (Values.toJson again).print = Utf8.encode text

/-- **The document lists the values**: of what it lists for a key, the last stays, at every level. -/
def Values.LastListed (values : Values) (document : Bytes) : Prop :=
  ∃ members, Json.decode Json.Decoder.listing document = .ok (.object members) ∧
    ∀ key, values.get? key = (Entries.get? key members.reverse).map Json.Value.filed

/-- **Values that are read from a document that writes only integers are written as a text that
stands for them.** -/
theorem Values.isText_of_decode {values : Values} {document : Bytes}
    (integers : Json.WritesIntegers document)
    (decoded : Json.decode Values.decoder document = .ok values) :
    values.IsText (Values.toJson values).print := by
  have plain := Json.plain_of_decode_map integers decoded
  refine ⟨plain.decode_map, ⟨_, plain.decode_listing, plain.inByteOrder⟩, fun again read => ?_⟩
  obtain rfl := Except.ok.inj (plain.decode_map.symm.trans read)
  rfl

namespace Server

variable {service : Service} {machine : Machine} {server : Server} {patching reading : Sending}
  {segment post name name' : String} {patch : Values}

/-- **A patch that nobody minds is stored and shown as it is.** -/
theorem shows_patch (wired : service.registries = Definitions.registries)
    (wellFormed : server.definitions.WellFormed)
    (arrives : Precedence.Arrives service (server.snapshot patching.uptime) patching.generatedId
      patching.request segment)
    (understood : Precedence.Understood service patching.generatedId patching.request segment post
      name patch)
    (unguarded : server.definitions.Unguarded service.handlers service.pipeline patch) :
    let patched := server.step service machine patching.event
    patched.2.Shows 200 (Values.toJson patch).print ∧
      patched.1.store = server.store.lay post patch := by
  intro patched
  obtain ⟨approved, resolved, storable, same⟩ :=
    wellFormed.exists_approved_unchanged unguarded ⟨post, name⟩
  rw [← Service.pipelineOver_eq wired] at resolved
  have stored : server.store.commit server.definitions post approved =
      .ok (server.store.lay post patch) := same ▸ Store.commit_of_storable storable
  have applied : service.applyPatch (server.snapshot patching.uptime) ⟨post, name⟩ patch = _ :=
    Precedence.applyPatch_of_stored resolved stored
  obtain ⟨response, -, store⟩ := arrives.respond_of_understood understood
  rw [applied, same] at response store
  have shown : (server.outcome service patching.request patching.generatedId
      patching.uptime).response = _ := response
  refine ⟨⟨_, rfl, ?_, ?_⟩, store⟩
  · rw [shown, Service.status_dressed]
    rfl
  · rw [shown, Service.body_dressed arrives.toPatches.ne_head]
    rfl

/-- **A post is shown as it is stored.** -/
theorem shows_values (asks : reading.request.method = "GET")
    (running : server.health.state.isShuttingDown = false)
    (bounded : Precedence.Bounded service reading.request)
    (timely : 0 < service.network.requestTimeout)
    (identified : Service.Identifies service.network
      (Service.withId reading.generatedId reading.request) ⟨post, name⟩) :
    (server.step service machine reading.event).2.Shows 200
      (Values.toJson (server.store.values post)).print := by
  have asks' : (Service.withId reading.generatedId reading.request).method = "GET" :=
    (Service.method_withId ..).trans asks
  have route : service.followRoute (server.snapshot reading.uptime)
      (Service.withId reading.generatedId reading.request) = _ :=
    Service.followRoute_of_identifies asks' running identified
  obtain ⟨status, body⟩ :=
    Service.respond_of_shown asks (Precedence.bounded_iff.1 bounded) route timely
  exact ⟨_, rfl, status, body⟩

/-- **What was submitted is read back.** -/
theorem patch_is_read_back (service : Service) (machine : Machine) (server : Server)
    (patching reading : Sending)
    (wired : service.registries = Definitions.registries) (declarations : List Declaration)
    (declared : server.definitions = .ofDeclarations declarations)
    (arrives : Precedence.Arrives service (server.snapshot patching.uptime) patching.generatedId
      patching.request segment)
    (understood : Precedence.Understood service patching.generatedId patching.request segment post
      name patch)
    (integers : Json.WritesIntegers patching.request.body)
    (unguarded : server.definitions.Unguarded service.handlers service.pipeline patch)
    (fresh : server.store.values post = .empty)
    (asks : reading.request.method = "GET")
    (bounded : Precedence.Bounded service reading.request)
    (identified : Service.Identifies service.network
      (Service.withId reading.generatedId reading.request) ⟨post, name'⟩) :
    let patched := server.step service machine patching.event
    let shown := patched.1.step service machine reading.event
    patch.LastListed patching.request.body ∧
      ∃ text, patched.2.Shows 200 text ∧ shown.2.Shows 200 text ∧ patch.IsText text := by
  intro patched shown
  have wellFormed : server.definitions.WellFormed :=
    declared ▸ Definitions.wellFormed_ofDeclarations declarations
  obtain ⟨answer, stored⟩ : patched.2.Shows 200 (Values.toJson patch).print ∧ _ :=
    shows_patch wired wellFormed arrives understood unguarded
  have values : patched.1.store.values post = patch := by
    rw [stored, Store.values_lay_self, fresh]
    exact TextMap.overlay_empty patch
  have matching : Snapshot.Matches (patched.1.snapshot reading.uptime)
      (server.snapshot patching.uptime) := matches_step _ _
  have timely : 0 < service.network.requestTimeout :=
    Nat.zero_lt_of_lt (arrives.timely (Precedence.bounded_iff.1 understood.toBounded))
  have display : shown.2.Shows 200 (Values.toJson (patched.1.store.values post)).print :=
    shows_values asks (matching.admits.trans arrives.running) bounded timely identified
  rw [values] at display
  exact ⟨Json.exists_listing_of_decode_map understood.decoded, _, answer, display,
    Values.isText_of_decode integers understood.decoded⟩

/-- A service whose handler approves everything unchanged. -/
def lenientService : Service := { sampleService with handlers := .standard }

def lenientServer : Server where
  definitions := .ofDeclarations Service.sampleDeclarations

/-- Somebody sets a field twice; what stays has a list that is listed twice, and escapes. -/
def nestedRequest : Request :=
  { sampleRequest with
    body := ("\x7b\"f\":0, \"f\":\x7b\"b\":\"\\u00e9\\ud83d\\ude00\\n\",\"a\":[-1]," ++
      "\"a\":[18446744073709551615,true]\x7d\x7d").toList.map byte }

/-- What is read from it. -/
def nestedPatch : Values := (Json.decode Values.decoder nestedRequest.body).toOption.getD .empty

theorem decode_nestedRequest : Json.decode Values.decoder nestedRequest.body = .ok nestedPatch := by
  have reads : (Json.decode Values.decoder nestedRequest.body).toOption.isSome = true := by
    decide +kernel
  rw [nestedPatch]
  cases h : Json.decode Values.decoder nestedRequest.body with
  | error fault =>
    rw [h] at reads
    cases reads
  | ok values => rfl

theorem writesIntegers_nestedRequest : Json.WritesIntegers nestedRequest.body := by
  have numerals : Json.numerals .outside nestedRequest.body =
      [0, -1, 18446744073709551615].map fun n : Int => Utf8.encode n.repr := by decide +kernel
  intro numeral mem
  rw [numerals, List.mem_map] at mem
  obtain ⟨n, listed, rfl⟩ := mem
  have fits : ∀ n ∈ ([0, -1, 18446744073709551615] : List Int),
      -9223372036854775808 ≤ n ∧ n < 18446744073709551616 := by decide
  exact ⟨n, fits n listed, rfl⟩

theorem nestedRequest_understood : Precedence.Understood lenientService "r1" nestedRequest "p1" "p1"
    "u1" nestedPatch where
  declared length declared := by
    have none : Http.declaredLength? nestedRequest.headers = none := by decide +kernel
    rw [none] at declared
    cases declared
  spelled := rfl
  signed := by
    rw [Service.headers_withId (a := nestedRequest) (b := sampleRequest) rfl]
    exact Service.requester_eq_ok_iff_eq_some.1 requester_sampleRequest
  delivered := by decide +kernel
  nonempty := by decide
  alphanumeric := by simp
  decoded := decode_nestedRequest

theorem nestedRequest_arrives :
    Precedence.Arrives lenientService (lenientServer.snapshot 0) "r1" nestedRequest "p1" := by
  have asks : Service.Patches nestedRequest "p1" := ⟨rfl, by decide +kernel⟩
  refine ⟨asks, rfl, fun declared => (Service.elapsed_lt_iff asks.ne_preflight declared).2 ?_⟩
  rw [Service.followRoute_of_patches (Service.patches_withId_iff.2 asks), Service.admitWork]
  simp only [Service.patchPost, Precedence.patchRequest_of_understood nestedRequest_understood]
  decide +kernel

theorem unguarded_nestedPatch : lenientServer.definitions.Unguarded lenientService.handlers
    lenientService.pipeline nestedPatch := by
  have keys : nestedPatch.keys = ["f"] := by decide +kernel
  refine ⟨fun fieldId mem => ?_, by decide +kernel⟩
  rw [keys, List.mem_singleton] at mem
  subst mem
  exact ⟨⟨"g", contentFlaggingGroup⟩, ⟨⟨"f", "g", none⟩, rfl, rfl, rfl⟩, rfl⟩

/-- The field is read back as it was listed last, and its list too. -/
theorem nestedRequest_is_read_back :
    let patched := lenientServer.step lenientService (.working .empty) (.request nestedRequest "r1" 0)
    let shown := patched.1.step lenientService (.working .empty)
      (.request Service.spelledRequest "r1" 0)
    (∃ text, patched.2.Shows 200 text ∧ shown.2.Shows 200 text ∧ nestedPatch.IsText text) ∧
      (nestedPatch.get? "f").any (Json.Value.same (.object
        [("a", .array [.number (.integer 18446744073709551615), .bool true]),
          ("b", .text "é😀\n")])) = true := by
  intro patched shown
  have bounded : Precedence.Bounded lenientService Service.spelledRequest :=
    Precedence.bounded_iff.2 (by decide +kernel)
  obtain ⟨-, text, answer, display, isText⟩ := patch_is_read_back lenientService (.working .empty)
    lenientServer ⟨nestedRequest, "r1", 0⟩ ⟨Service.spelledRequest, "r1", 0⟩ rfl
    Service.sampleDeclarations rfl nestedRequest_arrives nestedRequest_understood
    writesIntegers_nestedRequest unguarded_nestedPatch rfl rfl bounded
    Service.spelledRequest_identifies
  exact ⟨⟨text, answer, display, isText⟩, by decide +kernel⟩

end Server

end PropertyGate
