import PropertyGate.Proofs.Json.Numerals

/-!
# Proofs/Json/Listing — of the members under one key the last stays

`Decoder.listing` reads a document with its members as they are listed, so that a key can come twice.
`Value.filed` then keeps, in every object, the last of the members under one key.  **Reading a document
is listing it and filing what is listed** (`value_eq_listing`), so that in a map that is decoded every
key has the value that the document lists last for it (`exists_listing_of_decode_map`).
-/

namespace PropertyGate.Json

/-- **Reads any document with all of its members**, as they are listed. -/
def Decoder.listing : Decoder Value := valueWith List.reverse

namespace Value

mutual

/-- **The document in which, of the members under one key, the last stays**, at every level. -/
def filed : Value → Value
  | .array items => .array (filedItems items)
  | .object members => .object (Entries.ofLatestFirst (filedMembers members).reverse)
  | .null => .null
  | .bool b => .bool b
  | .number n => .number n
  | .text s => .text s

def filedItems : List Value → List Value
  | [] => []
  | item :: rest => filed item :: filedItems rest

def filedMembers : List (String × Value) → List (String × Value)
  | [] => []
  | (key, value) :: rest => (key, filed value) :: filedMembers rest

end

theorem filedItems_eq_map (items : List Value) : filedItems items = items.map filed := by
  induction items with
  | nil => rfl
  | cons item rest ih => rw [filedItems, ih, List.map_cons]

theorem filedMembers_eq_map (members : List (String × Value)) :
    filedMembers members = members.map fun member => (member.1, filed member.2) := by
  induction members with
  | nil => rfl
  | cons member rest ih => rw [filedMembers, ih, List.map_cons]

@[simp] theorem filed_scalar (scalar : Scalar) : scalar.value.filed = scalar.value := by
  cases scalar <;> rfl

end Value

/-! ## Reading is listing and filing -/

variable {α β : Type} {read : Bytes → Reading α} {fuel depth : Nat} {input rest : Bytes}

/-- Reads a value and goes on with its image. -/
def readMap (f : α → β) (read : Bytes → Reading α) (input : Bytes) : Reading β :=
  (read input).map fun (value, rest) => (f value, rest)

theorem items_readMap (f : α → β) (before : List α) (first : Bool) :
    Decoder.items (readMap f read) fuel (before.map f) first input =
      readMap (List.map f) (Decoder.items read fuel before first) input := by
  induction fuel generalizing before first input with
  | zero => rfl
  | succ fuel ih =>
    rw [Decoder.items, readMap, Decoder.items]
    rcases nextItem first input with _ | ⟨_ | _, after⟩
    · rfl
    · simp only [Except.map, List.map_reverse]
    · simp only [readMap]
      rcases read after with _ | ⟨value, end'⟩
      · rfl
      · exact ih (value :: before) false

theorem members_readMap (f : α → β) {textFuel : Nat} (before : List (String × α)) (first : Bool) :
    Decoder.members (readMap f read) textFuel fuel
        (before.map fun member => (member.1, f member.2)) first input =
      readMap (List.map fun member => (member.1, f member.2))
        (Decoder.members read textFuel fuel before first) input := by
  induction fuel generalizing before first input with
  | zero => rfl
  | succ fuel ih =>
    rw [Decoder.members, readMap, Decoder.members]
    rcases nextKey first input with _ | ⟨_ | _, after⟩
    · rfl
    · rfl
    dsimp only
    rcases readText textFuel after with _ | ⟨key, behindKey⟩
    · rfl
    dsimp only
    rcases readColon behindKey with _ | behindColon
    · rfl
    simp only [readMap]
    rcases read behindColon with _ | ⟨value, end'⟩
    · rfl
    · exact ih ((key, value) :: before) false

/-- A level is read as it is listed and filed, if what is inside is. -/
theorem level_readMap (inside? : Option (Bytes → Reading Value)) :
    Decoder.level Entries.ofLatestFirst fuel (inside?.map (readMap Value.filed)) =
      readMap Value.filed (Decoder.level List.reverse fuel inside?) := by
  funext input
  change Decoder.level _ _ _ _ = (Decoder.level _ _ _ _).map _
  unfold Decoder.level
  rcases skipBlanks input with _ | ⟨b, after⟩
  · rfl
  dsimp only
  split
  · cases inside? with
    | none => rfl
    | some inside =>
      have filed : Decoder.items (readMap Value.filed inside) fuel [] true after =
          readMap (List.map Value.filed) (Decoder.items inside fuel [] true) after :=
        items_readMap Value.filed [] true
      dsimp only [Option.map_some]
      rw [filed, readMap]
      rcases Decoder.items inside fuel [] true after with _ | ⟨items, end'⟩
      · rfl
      · simp only [Except.map, Value.filed, Value.filedItems_eq_map]
  split
  · cases inside? with
    | none => rfl
    | some inside =>
      have filed : Decoder.members (readMap Value.filed inside) fuel fuel [] true after =
          readMap (List.map fun member => (member.1, member.2.filed))
            (Decoder.members inside fuel fuel [] true) after :=
        members_readMap Value.filed [] true
      dsimp only [Option.map_some]
      rw [filed, readMap]
      rcases Decoder.members inside fuel fuel [] true after with _ | ⟨members, end'⟩
      · rfl
      · simp only [Except.map, Value.filed, Value.filedMembers_eq_map, List.map_reverse,
          List.reverse_reverse]
  · rcases readScalar fuel (b :: after) with _ | ⟨scalar, end'⟩
    · rfl
    · simp only [Except.map, Value.filed_scalar]

/-- **Reading a document is listing it, and filing what is listed.** -/
theorem value_eq_listing (fuel depth : Nat) :
    Decoder.value fuel depth = readMap Value.filed (Decoder.listing fuel depth) := by
  rw [Decoder.value_eq_valueWith, Decoder.listing]
  induction depth with
  | zero => exact level_readMap none
  | succ depth ih =>
    rw [Decoder.valueWith, ih]
    exact level_readMap (some _)

/-- **The map that is decoded has, under every key, what the document lists last for it.** -/
theorem exists_listing_of_decode_map {document : Bytes} {map : TextMap Value}
    (h : decode (Decoder.map Decoder.value) document = .ok map) :
    ∃ members, decode Decoder.listing document = .ok (.object members) ∧
      ∀ key, map.get? key = (Entries.get? key members.reverse).map Value.filed := by
  obtain ⟨after, members, rest, lead, inside, ended, rfl⟩ := exists_members_of_decode_map h
  have listing : readMap (List.map fun member => (member.1, member.2.filed))
      (Decoder.members (Decoder.listing (document.length + 1) 126) (document.length + 1)
        (document.length + 1) [] true) after = .ok (members, rest) := by
    rw [← inside, value_eq_listing]
    exact (members_readMap Value.filed [] true).symm
  obtain ⟨⟨listed, rest'⟩, lists, same⟩ := map_eq_ok_iff.1 listing
  cases same
  refine ⟨listed.reverse, ?_, fun key => ?_⟩
  · have read : Decoder.listing (document.length + 1) maxDepth document =
        .ok (.object listed.reverse, rest) := by
      have brace : byte '{' ≠ byte '[' := by decide
      rw [Decoder.listing] at lists
      rw [maxDepth, Decoder.listing]
      unfold Decoder.valueWith Decoder.level
      simp only [lead, if_neg brace, if_pos, lists]
    rw [decode, read]
    dsimp only
    rw [ended]
  · rw [TextMap.get?_ofList, List.reverse_reverse, List.reverse_reverse]
    exact Entries.get?_map (fun _ => Value.filed) key listed

/-- **A plain document lists its members as they ascend.** -/
theorem Plain.decode_listing {value : Value} (plain : Plain maxDepth value) :
    Json.decode Decoder.listing value.bytes = .ok value :=
  plain.decode fun members _ => List.reverse_reverse members

end PropertyGate.Json
