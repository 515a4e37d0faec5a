/-!
# TextMap/Basic — maps keyed by text, in ascending key order

A `TextMap β` is an association list whose keys ascend strictly. Text is compared code point by
code point, which is the order of the UTF-8 encodings, so listing a map lists its keys in the order
of their bytes. Because the representation is canonical, two maps with the same look-ups are equal
(`TextMap.ext_get?`, in `TextMap/Lemmas`).

The operations live on plain lists of entries (`Entries`) first: the members of a JSON object are
such a list, and share them.
-/

namespace PropertyGate

universe u v

namespace Entries

variable {β : Type u} {γ : Type v}

/-- Keys ascend strictly; in particular no key occurs twice. -/
def Ascending (entries : List (String × β)) : Prop :=
  entries.Pairwise fun a b => a.1 < b.1

instance (entries : List (String × β)) : Decidable (Ascending entries) :=
  inferInstanceAs (Decidable (entries.Pairwise fun a b => a.1 < b.1))

/-- The value of the first entry filed under `key`. -/
def get? (key : String) : List (String × β) → Option β
  | [] => none
  | (k, v) :: rest => if k = key then some v else get? key rest

/-- Files `value` under `key`, in place of any value already there. -/
def insert (key : String) (value : β) : List (String × β) → List (String × β)
  | [] => [(key, value)]
  | (k, v) :: rest =>
    if key < k then (key, value) :: (k, v) :: rest
    else if key = k then (key, value) :: rest
    else (k, v) :: insert key value rest

/-- Files `value` under `key` unless `key` is taken. -/
def insertNew (key : String) (value : β) : List (String × β) → List (String × β)
  | [] => [(key, value)]
  | (k, v) :: rest =>
    if key < k then (key, value) :: (k, v) :: rest
    else if key = k then (k, v) :: rest
    else (k, v) :: insertNew key value rest

/-- The entries of a list given latest first: of several entries under one key the latest stays. -/
def ofLatestFirst (entries : List (String × β)) : List (String × β) :=
  entries.foldl (fun filed entry => insertNew entry.1 entry.2 filed) []

/-! ## Ascending keys are kept -/

theorem mem_insert {key : String} {value : β} {entry : String × β} {entries : List (String × β)} :
    entry ∈ insert key value entries → entry = (key, value) ∨ entry ∈ entries := by
  induction entries with
  | nil => simp [insert]
  | cons head rest ih =>
    obtain ⟨k, v⟩ := head
    rw [insert]
    split
    · exact fun h => List.mem_cons.1 h
    · split
      · intro h
        rcases List.mem_cons.1 h with h | h
        · exact .inl h
        · exact .inr (List.mem_cons_of_mem _ h)
      · intro h
        rcases List.mem_cons.1 h with h | h
        · exact .inr (h ▸ List.mem_cons_self)
        · exact (ih h).imp id (List.mem_cons_of_mem _)

theorem mem_insertNew {key : String} {value : β} {entry : String × β}
    {entries : List (String × β)} :
    entry ∈ insertNew key value entries → entry = (key, value) ∨ entry ∈ entries := by
  induction entries with
  | nil => simp [insertNew]
  | cons head rest ih =>
    obtain ⟨k, v⟩ := head
    rw [insertNew]
    split
    · exact fun h => List.mem_cons.1 h
    · split
      · exact .inr
      · intro h
        rcases List.mem_cons.1 h with h | h
        · exact .inr (h ▸ List.mem_cons_self)
        · exact (ih h).imp id (List.mem_cons_of_mem _)

theorem lt_of_not_lt_of_ne {a b : String} (hlt : ¬ a < b) (hne : a ≠ b) : b < a := by
  rcases Decidable.em (b < a) with h | h
  · exact h
  · exact absurd (String.le_antisymm (String.not_lt.1 h) (String.not_lt.1 hlt)) hne

theorem Ascending.insert {entries : List (String × β)} (h : Ascending entries) (key : String)
    (value : β) : Ascending (Entries.insert key value entries) := by
  induction entries with
  | nil => exact List.pairwise_singleton _ _
  | cons head rest ih =>
    obtain ⟨k, v⟩ := head
    have below : ∀ {entry : String × β}, entry ∈ rest → k < entry.1 :=
      List.rel_of_pairwise_cons h
    rw [Entries.insert]
    split
    · rename_i hlt
      refine List.Pairwise.cons (fun entry hentry => ?_) h
      rcases List.mem_cons.1 hentry with rfl | hentry
      · exact hlt
      · exact String.lt_trans hlt (below hentry)
    · split
      · rename_i heq
        subst heq
        exact List.Pairwise.cons (fun _ hentry => below hentry) h.of_cons
      · rename_i hlt hne
        refine List.Pairwise.cons (fun entry hentry => ?_) (ih h.of_cons)
        rcases mem_insert hentry with rfl | hentry
        · exact lt_of_not_lt_of_ne hlt hne
        · exact below hentry

theorem Ascending.insertNew {entries : List (String × β)} (h : Ascending entries) (key : String)
    (value : β) : Ascending (Entries.insertNew key value entries) := by
  induction entries with
  | nil => exact List.pairwise_singleton _ _
  | cons head rest ih =>
    obtain ⟨k, v⟩ := head
    have below : ∀ {entry : String × β}, entry ∈ rest → k < entry.1 :=
      List.rel_of_pairwise_cons h
    rw [Entries.insertNew]
    split
    · rename_i hlt
      refine List.Pairwise.cons (fun entry hentry => ?_) h
      rcases List.mem_cons.1 hentry with rfl | hentry
      · exact hlt
      · exact String.lt_trans hlt (below hentry)
    · split
      · exact h
      · rename_i hlt hne
        refine List.Pairwise.cons (fun entry hentry => ?_) (ih h.of_cons)
        rcases mem_insertNew hentry with rfl | hentry
        · exact lt_of_not_lt_of_ne hlt hne
        · exact below hentry

theorem ascending_foldl_insertNew (pending filed : List (String × β)) (h : Ascending filed) :
    Ascending (pending.foldl (fun filed entry => Entries.insertNew entry.1 entry.2 filed) filed) := by
  induction pending generalizing filed with
  | nil => exact h
  | cons entry rest ih => exact ih _ (h.insertNew _ _)

theorem ascending_ofLatestFirst (entries : List (String × β)) :
    Ascending (ofLatestFirst entries) :=
  ascending_foldl_insertNew entries [] List.Pairwise.nil

theorem Ascending.filter {entries : List (String × β)} (h : Ascending entries)
    (keep : String × β → Bool) : Ascending (entries.filter keep) :=
  List.Pairwise.filter keep h

theorem Ascending.mapValues {entries : List (String × β)} (h : Ascending entries)
    (f : String → β → γ) : Ascending (entries.map fun entry => (entry.1, f entry.1 entry.2)) :=
  List.pairwise_map.2 h

end Entries

/-- **A map from text to `β`**, kept in ascending key order. -/
structure TextMap (β : Type u) where
  /-- The entries, in ascending key order. -/
  entries : List (String × β)
  ascending : Entries.Ascending entries
deriving DecidableEq

namespace TextMap

variable {β : Type u} {γ : Type v}

/-- The map without entries. -/
def empty : TextMap β := ⟨[], List.Pairwise.nil⟩

instance : EmptyCollection (TextMap β) := ⟨empty⟩
instance : Inhabited (TextMap β) := ⟨empty⟩

def get? (map : TextMap β) (key : String) : Option β := Entries.get? key map.entries

def contains (map : TextMap β) (key : String) : Bool := (map.get? key).isSome

/-- Files `value` under `key`, in place of any value already there. -/
def insert (map : TextMap β) (key : String) (value : β) : TextMap β :=
  ⟨Entries.insert key value map.entries, map.ascending.insert key value⟩

/-- The map of a list of entries; of several entries under one key the last stays. -/
def ofList (entries : List (String × β)) : TextMap β :=
  ⟨Entries.ofLatestFirst entries.reverse, Entries.ascending_ofLatestFirst _⟩

/-- The keys, ascending. -/
def keys (map : TextMap β) : List String := map.entries.map (·.1)

/-- The values, in the order of their keys. -/
def values (map : TextMap β) : List β := map.entries.map (·.2)

def size (map : TextMap β) : Nat := map.entries.length

def isEmpty (map : TextMap β) : Bool := map.entries.isEmpty

/-- The entries whose key passes the test. -/
def filterKeys (map : TextMap β) (keep : String → Bool) : TextMap β :=
  ⟨map.entries.filter fun entry => keep entry.1, map.ascending.filter _⟩

/-- Every value replaced by its image; keys stay. -/
def mapValues (map : TextMap β) (f : String → β → γ) : TextMap γ :=
  ⟨map.entries.map fun entry => (entry.1, f entry.1 entry.2), map.ascending.mapValues f⟩

/-- `upper` laid over `map`: where both have a key, the value of `upper` shows. -/
def overlay (map upper : TextMap β) : TextMap β :=
  upper.entries.foldl (fun filed entry => filed.insert entry.1 entry.2) map

end TextMap

end PropertyGate
