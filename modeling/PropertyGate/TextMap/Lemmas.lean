import PropertyGate.TextMap.Basic

/-!
# TextMap/Lemmas — what the operations do to look-ups

The look-up `get?` is the one view of a map: every operation is described by what it does to it, and
**equal look-ups make equal maps** (`TextMap.ext_get?`).
-/

namespace PropertyGate

universe u v

namespace Entries

variable {β : Type u} {γ : Type v}

/-- An entry that is put in its place is found under its key, and the others as before. -/
theorem get?_insert (key probe : String) (value : β) (entries : List (String × β)) :
    get? probe (insert key value entries) =
      if key = probe then some value else get? probe entries := by
  induction entries with
  | nil => rfl
  | cons head rest ih =>
    obtain ⟨k, v⟩ := head
    rw [insert]
    split
    · rfl
    · split
      · rename_i heq
        subst heq
        by_cases h : key = probe <;> simp [get?, h]
      · rename_i hne
        by_cases hk : k = probe
        · subst hk
          simp [get?, hne]
        · simp [get?, hk, ih]

/-- Before the first entry there is none. -/
theorem get?_eq_none_of_lt {key : String} {entries : List (String × β)}
    (h : ∀ entry ∈ entries, key < entry.1) : get? key entries = none := by
  induction entries with
  | nil => rfl
  | cons head rest ih =>
    have hk := h head List.mem_cons_self
    rw [get?, if_neg (String.ne_of_lt hk).symm, ih fun e he => h e (List.mem_cons_of_mem _ he)]

theorem get?_insertNew {key probe : String} {value : β} {entries : List (String × β)}
    (h : Ascending entries) :
    get? probe (insertNew key value entries) =
      (get? probe entries).or (if key = probe then some value else none) := by
  induction entries with
  | nil => simp [insertNew, get?]
  | cons head rest ih =>
    obtain ⟨k, v⟩ := head
    have below : ∀ entry ∈ rest, k < entry.1 := fun _ => List.rel_of_pairwise_cons h
    rw [insertNew]
    split
    · rename_i hlt
      by_cases hkey : key = probe
      · subst hkey
        have hnone : get? key ((k, v) :: rest) = none := by
          refine get?_eq_none_of_lt fun entry hentry => ?_
          rcases List.mem_cons.1 hentry with rfl | hentry
          · exact hlt
          · exact String.lt_trans hlt (below entry hentry)
        rw [hnone]
        simp [get?]
      · rw [get?, if_neg hkey]
        simp [hkey]
    · split
      · rename_i heq
        subst heq
        by_cases hkey : key = probe <;> simp [get?, hkey]
      · by_cases hk : k = probe
        · simp [get?, hk]
        · rw [get?, if_neg hk, get?, if_neg hk, ih h.of_cons]

/-- **Where keys ascend, whatever is listed is found.** -/
theorem get?_eq_some_iff_mem {key : String} {value : β} {entries : List (String × β)}
    (h : Ascending entries) : get? key entries = some value ↔ (key, value) ∈ entries := by
  induction entries with
  | nil => simp [get?]
  | cons head rest ih =>
    obtain ⟨k, v⟩ := head
    have below : ∀ entry ∈ rest, k < entry.1 := fun _ => List.rel_of_pairwise_cons h
    rw [get?]
    split
    · rename_i hk
      subst hk
      constructor
      · intro hv
        cases hv
        exact List.mem_cons_self
      · intro hmem
        rcases List.mem_cons.1 hmem with heq | hmem
        · cases heq
          rfl
        · exact absurd (below _ hmem) (String.lt_irrefl k)
    · rename_i hk
      rw [ih h.of_cons]
      constructor
      · exact List.mem_cons_of_mem _
      · intro hmem
        rcases List.mem_cons.1 hmem with heq | hmem
        · cases heq
          exact absurd rfl hk
        · exact hmem

/-- **Ascending lists with the same look-ups are equal.** -/
theorem eq_of_get?_eq {a b : List (String × β)} (ha : Ascending a) (hb : Ascending b)
    (h : ∀ key, get? key a = get? key b) : a = b := by
  induction a generalizing b with
  | nil =>
    cases b with
    | nil => rfl
    | cons head rest =>
      have := h head.1
      simp [get?] at this
  | cons head rest ih =>
    obtain ⟨k, v⟩ := head
    cases b with
    | nil =>
      have := h k
      simp [get?] at this
    | cons head' rest' =>
      obtain ⟨k', v'⟩ := head'
      have below : ∀ entry ∈ rest, k < entry.1 := fun _ => List.rel_of_pairwise_cons ha
      have below' : ∀ entry ∈ rest', k' < entry.1 := fun _ => List.rel_of_pairwise_cons hb
      have hmem : (k, v) ∈ (k', v') :: rest' :=
        (get?_eq_some_iff_mem hb).1 (by rw [← h k]; simp [get?])
      have hmem' : (k', v') ∈ (k, v) :: rest :=
        (get?_eq_some_iff_mem ha).1 (by rw [h k']; simp [get?])
      have hhead : (k, v) = (k', v') := by
        rcases List.mem_cons.1 hmem with heq | hin
        · exact heq
        · rcases List.mem_cons.1 hmem' with heq' | hin'
          · exact heq'.symm
          · exact absurd (below' _ hin) (String.lt_asymm (below _ hin'))
      cases hhead
      congr 1
      refine ih ha.of_cons hb.of_cons fun key => ?_
      have hkey := h key
      rw [get?, get?] at hkey
      by_cases hk : k = key
      · subst hk
        rw [get?_eq_none_of_lt below, get?_eq_none_of_lt below']
      · simpa [hk] using hkey

/-- Of the entries that are kept, those are found that were found before. -/
theorem get?_filter (keep : String → Bool) (probe : String) (entries : List (String × β)) :
    get? probe (entries.filter fun entry => keep entry.1) =
      if keep probe then get? probe entries else none := by
  induction entries with
  | nil => simp [get?]
  | cons head rest ih =>
    obtain ⟨k, v⟩ := head
    by_cases hk : k = probe
    · subst hk
      by_cases hkeep : keep k <;> simp [get?, hkeep, ih]
    · by_cases hkeep : keep k <;> simp [get?, hkeep, hk, ih]

/-- Where values are replaced, the replaced value is found. -/
theorem get?_map (f : String → β → γ) (probe : String) (entries : List (String × β)) :
    get? probe (entries.map fun entry => (entry.1, f entry.1 entry.2)) =
      (get? probe entries).map (f probe) := by
  induction entries with
  | nil => rfl
  | cons head rest ih =>
    obtain ⟨k, v⟩ := head
    by_cases hk : k = probe
    · subst hk
      simp [get?]
    · simp [get?, hk, ih]

/-- What is listed first is found first. -/
theorem get?_append (key : String) (entries others : List (String × β)) :
    get? key (entries ++ others) = (get? key entries).or (get? key others) := by
  induction entries with
  | nil => rfl
  | cons head rest ih =>
    obtain ⟨k, v⟩ := head
    by_cases hk : k = key <;> simp [get?, hk, ih]

theorem get?_concat (key probe : String) (value : β) (entries : List (String × β)) :
    get? probe (entries ++ [(key, value)]) =
      (get? probe entries).or (if key = probe then some value else none) :=
  get?_append probe entries [(key, value)]

/-- Where no key occurs twice, reading from either end finds the same. -/
theorem get?_reverse {entries : List (String × β)} (h : Ascending entries) (probe : String) :
    get? probe entries.reverse = get? probe entries := by
  induction entries with
  | nil => rfl
  | cons head rest ih =>
    obtain ⟨k, v⟩ := head
    rw [List.reverse_cons, get?_concat, ih h.of_cons, get?]
    by_cases hk : k = probe
    · subst hk
      rw [get?_eq_none_of_lt fun _ hmem => List.rel_of_pairwise_cons h hmem]
      simp
    · simp [hk]

theorem get?_foldl_insertNew (pending : List (String × β)) {filed : List (String × β)}
    (h : Ascending filed) (probe : String) :
    get? probe (pending.foldl (fun filed entry => insertNew entry.1 entry.2 filed) filed) =
      (get? probe filed).or (get? probe pending) := by
  induction pending generalizing filed with
  | nil => simp [get?]
  | cons head rest ih =>
    obtain ⟨k, v⟩ := head
    rw [List.foldl_cons, ih (h.insertNew k v), get?_insertNew h, get?]
    by_cases hk : k = probe <;> simp [hk]

/-- Of entries given latest first, the first under a key is found. -/
theorem get?_ofLatestFirst (entries : List (String × β)) (probe : String) :
    get? probe (ofLatestFirst entries) = get? probe entries := by
  rw [ofLatestFirst, get?_foldl_insertNew entries List.Pairwise.nil]
  rfl

end Entries

namespace TextMap

variable {β : Type u} {γ : Type v}

/-- **A map is its look-ups.** -/
theorem ext_get? {a b : TextMap β} (h : ∀ key, a.get? key = b.get? key) : a = b := by
  obtain ⟨entries, ha⟩ := a
  obtain ⟨entries', hb⟩ := b
  obtain rfl : entries = entries' := Entries.eq_of_get?_eq ha hb h
  rfl

@[simp] theorem get?_empty (key : String) : (empty : TextMap β).get? key = none := rfl

/-- A value is found under its key in place of the one before. -/
theorem get?_insert (map : TextMap β) (key probe : String) (value : β) :
    (map.insert key value).get? probe = if key = probe then some value else map.get? probe :=
  Entries.get?_insert key probe value map.entries

@[simp] theorem get?_insert_self (map : TextMap β) (key : String) (value : β) :
    (map.insert key value).get? key = some value := by
  rw [get?_insert, if_pos rfl]

theorem get?_insert_of_ne (map : TextMap β) {key probe : String} (value : β) (h : key ≠ probe) :
    (map.insert key value).get? probe = map.get? probe := by
  rw [get?_insert, if_neg h]

/-- Of several entries under one key the last is found. -/
theorem get?_ofList (entries : List (String × β)) (probe : String) :
    (ofList entries).get? probe = Entries.get? probe entries.reverse :=
  Entries.get?_ofLatestFirst _ _

/-- What is filed under a key that is kept is found. -/
theorem get?_filterKeys (map : TextMap β) (keep : String → Bool) (probe : String) :
    (map.filterKeys keep).get? probe = if keep probe then map.get? probe else none :=
  Entries.get?_filter keep probe map.entries

/-- **The entries of a map are what is found in it.** -/
theorem mem_entries_iff {map : TextMap β} {key : String} {value : β} :
    (key, value) ∈ map.entries ↔ map.get? key = some value :=
  (Entries.get?_eq_some_iff_mem map.ascending).symm

theorem contains_iff_mem_keys {map : TextMap β} {key : String} :
    map.contains key = true ↔ key ∈ map.keys := by
  rw [contains, Option.isSome_iff_exists, keys, List.mem_map]
  constructor
  · rintro ⟨value, h⟩
    exact ⟨(key, value), mem_entries_iff.2 h, rfl⟩
  · rintro ⟨⟨k, value⟩, h, rfl⟩
    exact ⟨value, mem_entries_iff.1 h⟩

/-- **The keys ascend**, so that none is repeated. -/
theorem pairwise_keys (map : TextMap β) : map.keys.Pairwise (· < ·) :=
  List.pairwise_map.2 map.ascending

/-- No key is repeated. -/
theorem nodup_keys (map : TextMap β) : map.keys.Nodup := map.pairwise_keys.imp String.ne_of_lt

/-- Of entries that are filed one after the other, the last under a key is found. -/
theorem get?_foldl_insert (entries : List (String × β)) (map : TextMap β) (probe : String) :
    (entries.foldl (fun filed entry => filed.insert entry.1 entry.2) map).get? probe =
      (Entries.get? probe entries.reverse).or (map.get? probe) := by
  induction entries generalizing map with
  | nil => simp [Entries.get?]
  | cons head rest ih =>
    obtain ⟨k, v⟩ := head
    rw [List.foldl_cons, ih, List.reverse_cons, Entries.get?_concat, get?_insert]
    by_cases hk : k = probe <;> simp [hk]

/-- The upper map shows where it has a key, the lower one elsewhere. -/
theorem get?_overlay (map upper : TextMap β) (probe : String) :
    (map.overlay upper).get? probe = (upper.get? probe).or (map.get? probe) := by
  rw [overlay, get?_foldl_insert, Entries.get?_reverse upper.ascending]
  rfl

end TextMap

end PropertyGate
