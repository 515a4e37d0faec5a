import PropertyGate.Http.Coding
import PropertyGate.Http.Origin

/-!
# Proofs/Http/Headers — what is added to the headers of an answer

On its way out an answer only gains headers: whatever is done to it, its headers are kept and some are
put behind them (`Headers.Adds`).  So **what is read under a name is kept by whatever adds only
headers of other names** (`Headers.Adds.values_eq`), and an answer to which only such headers were
added has no value under it (`Headers.Adds.values_eq_nil`).
-/

namespace PropertyGate.Http

variable {names others : List String} {before between after : Headers} {asked name value : String}

namespace Headers

/-- **The headers after are those before and some more, each of a given name.** -/
def Adds (names : List String) (before after : Headers) : Prop :=
  ∃ added : Headers, after = before ++ added ∧ ∀ header ∈ added, header.name ∈ names

/-- What is read under a name stands in the order of the headers. -/
theorem values_append (headers more : Headers) (asked : String) :
    values (headers ++ more) asked = values headers asked ++ values more asked := by
  rw [values, values, values, List.filter_append, List.map_append]

/-- Headers of other names, whatever their case, give no value. -/
theorem values_of_ne {headers : Headers}
    (other : ∀ header ∈ headers, Text.lower header.name ≠ Text.lower asked) :
    values headers asked = [] := by
  rw [values, List.map_eq_nil_iff, List.filter_eq_nil_iff]
  exact fun header mem same => other header mem (eq_of_beq same)

namespace Adds

theorem refl (headers : Headers) : Adds names headers headers :=
  ⟨[], (List.append_nil _).symm, nofun⟩

/-- A header that is put behind the others is added. -/
theorem one (headers : Headers) (name value : String) :
    Adds [name] headers (headers ++ [⟨name, value⟩]) :=
  ⟨_, rfl, List.forall_mem_singleton.2 List.mem_cons_self⟩

/-- What is added in two steps has one of the names of either. -/
theorem trans (adds : Adds names before between) (adds' : Adds others between after) :
    Adds (names ++ others) before after := by
  obtain ⟨added, rfl, named⟩ := adds
  obtain ⟨more, rfl, named'⟩ := adds'
  refine ⟨added ++ more, List.append_assoc .., fun header mem => List.mem_append.2 ?_⟩
  exact (List.mem_append.1 mem).imp (named header) (named' header)

theorem mono (adds : Adds names before after) (wider : names ⊆ others) : Adds others before after := by
  obtain ⟨added, same, named⟩ := adds
  exact ⟨added, same, fun header mem => wider (named header mem)⟩

/-- **Headers of other names leave the values under a name as they are.** -/
theorem values_eq (adds : Adds names before after)
    (other : ∀ name ∈ names, Text.lower name ≠ Text.lower asked) :
    values after asked = values before asked := by
  obtain ⟨added, rfl, named⟩ := adds
  rw [values_append, values_of_ne fun header mem => other _ (named header mem), List.append_nil]

/-- Only headers of other names. -/
theorem values_eq_nil (adds : Adds names [] after)
    (other : ∀ name ∈ names, Text.lower name ≠ Text.lower asked) : values after asked = [] :=
  adds.values_eq other

end Adds

end Headers

open Headers

namespace Response

variable (response : Response)

/-- A header that may be missing is added where it is not. -/
theorem adds_withHeader? (name : String) (value : Option String) :
    Adds [name] response.headers (response.withHeader? name value).headers := by
  cases value with
  | none => exact .refl _
  | some value => exact .one _ name value

/-- Under its own name the value comes behind those that are there. -/
theorem values_withHeader?_self (name : String) (value : Option String) :
    values (response.withHeader? name value).headers name =
      values response.headers name ++ value.toList := by
  cases value with
  | none => exact (List.append_nil _).symm
  | some value =>
    have last : values [⟨name, value⟩] name = [value] := by simp [values]
    exact (values_append ..).trans (congrArg _ last)

/-- Coding a body tells what it depends on, and how it was coded if it was. -/
theorem adds_coded (request : Headers) :
    Adds ["vary", "content-encoding"] response.headers (response.coded request).headers := by
  have varied : Adds ["vary"] response.headers
      (response.withHeader "vary" "accept-encoding").headers := .one ..
  rw [coded]
  split
  · exact .refl _
  · dsimp only
    split
    · exact varied.trans (.one ..)
    · exact varied.mono (List.subset_append_left _ _)

/-- Marking an answer for pages of other origins tells what it depends on, and the origin if it is
admitted. -/
theorem adds_forOrigin (listed : List String) (request : Headers) :
    Adds ["vary", "access-control-allow-origin"] response.headers
      (response.forOrigin listed request).headers :=
  Adds.trans (.one _ "vary" originDependence) (adds_withHeader? _ _ _)

/-- An answer without a body has no header. -/
theorem adds_empty (status : UInt16) : Adds names [] (empty status).headers := .refl _

/-- An answer with a body has its type for a header. -/
theorem adds_text (status : UInt16) (body : String) :
    Adds ["content-type"] [] (text status body).headers := .one ..

theorem adds_json (status : UInt16) (document : Json.Value) :
    Adds ["content-type"] [] (json status document).headers := .one ..

end Response

/-- The answer to what may be asked from pages of other origins names the methods and the headers. -/
theorem adds_preflight :
    Adds ["access-control-allow-methods", "access-control-allow-headers"] [] preflight.headers :=
  Adds.trans (.one [] "access-control-allow-methods" "GET,PATCH") (.one ..)

end PropertyGate.Http
