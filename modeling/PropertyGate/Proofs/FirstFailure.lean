import PropertyGate.Patch.Call

/-!
# Proofs/FirstFailure — how far a list of checks gets

Items are checked one after the other, and the first that fails ends it.  `Passes` says that none
fails and what comes of each, `StopsAt` which one fails first; one of the two is always the case
(`passes_or_stopsAt`).  Whatever runs through a list in this way — `mapM`, `foldlM`, a traced
computation — is described by the two of them.
-/

namespace PropertyGate

variable {α β γ δ ε : Type}

/-- Every item passes the check, and `values` come of them. -/
inductive Passes (check : α → Except ε β) : (items : List α) → (values : List β) → Prop where
  | nil : Passes check [] []
  | cons {item : α} {items : List α} {value : β} {values : List β}
      (pass : check item = .ok value) (rest : Passes check items values) :
      Passes check (item :: items) (value :: values)

/-- **The first item that fails**, with its error: the items before it, `passed`, do pass. -/
inductive StopsAt (check : α → Except ε β) :
    (items passed : List α) → (failed : α) → (error : ε) → Prop where
  | here {item : α} {items : List α} {error : ε} (fail : check item = .error error) :
      StopsAt check (item :: items) [] item error
  | later {item failed : α} {items passed : List α} {value : β} {error : ε}
      (pass : check item = .ok value) (rest : StopsAt check items passed failed error) :
      StopsAt check (item :: items) (item :: passed) failed error

/-! ## Lists that pass -/

section Passes

variable {check : α → Except ε β} {item : α} {items items' : List α} {value : β} {values : List β}

/-- What comes of an item. -/
theorem Passes.exists_of_mem (h : Passes check items values) (hmem : item ∈ items) :
    ∃ value ∈ values, check item = .ok value := by
  induction h with
  | nil => cases hmem
  | @cons head _ first _ pass _ ih =>
    rcases List.mem_cons.1 hmem with rfl | hmem
    · exact ⟨first, List.mem_cons_self, pass⟩
    · obtain ⟨value, hvalue, hpass⟩ := ih hmem
      exact ⟨value, List.mem_cons_of_mem _ hvalue, hpass⟩

/-- What a value came of. -/
theorem Passes.exists_of_mem_values (h : Passes check items values) (hmem : value ∈ values) :
    ∃ item ∈ items, check item = .ok value := by
  induction h with
  | nil => cases hmem
  | @cons head _ first _ pass _ ih =>
    rcases List.mem_cons.1 hmem with rfl | hmem
    · exact ⟨head, List.mem_cons_self, pass⟩
    · obtain ⟨item, hitem, hpass⟩ := ih hmem
      exact ⟨item, List.mem_cons_of_mem _ hitem, hpass⟩

/-- What an item and its value have in common, the two lists have in common. -/
theorem Passes.map_eq {f : α → δ} {g : β → δ} (h : Passes check items values)
    (hsame : ∀ item value, check item = .ok value → f item = g value) :
    items.map f = values.map g := by
  induction h with
  | nil => rfl
  | cons pass _ ih => rw [List.map_cons, List.map_cons, hsame _ _ pass, ih]

theorem Passes.length_eq (h : Passes check items values) : items.length = values.length := by
  induction h with
  | nil => rfl
  | cons _ _ ih => rw [List.length_cons, List.length_cons, ih]

/-- Only one list of values can come of some items. -/
theorem Passes.values_eq {values' : List β} (h : Passes check items values)
    (h' : Passes check items values') : values = values' := by
  induction h generalizing values' with
  | nil =>
    cases h'
    rfl
  | cons pass _ ih =>
    cases h' with
    | cons pass' rest => rw [Except.ok.inj (pass.symm.trans pass'), ih rest]

/-- The checks, one by one, give the values. -/
theorem Passes.map_check_eq (h : Passes check items values) :
    items.map check = values.map .ok := h.map_eq fun _ _ pass => pass

/-- Another check passes where this one does, with values that follow from those of this one. -/
theorem Passes.transfer {check' : α → Except ε δ} {f : β → δ} (h : Passes check items values)
    (himp : ∀ item value, check item = .ok value → check' item = .ok (f value)) :
    Passes check' items (values.map f) := by
  induction h with
  | nil => exact .nil
  | cons pass _ ih => exact .cons (himp _ _ pass) ih

/-- Checking what sources are mapped to. -/
theorem passes_map_iff {f : δ → α} {sources : List δ} :
    Passes check (sources.map f) values ↔ Passes (check ∘ f) sources values := by
  constructor
  · intro h
    induction sources generalizing values with
    | nil =>
      cases h
      exact .nil
    | cons source rest ih =>
      cases h with
      | cons pass hrest => exact .cons pass (ih hrest)
  · intro h
    induction h with
    | nil => exact .nil
    | cons pass _ ih => exact .cons pass ih

theorem Passes.append {later : List α} {laterValues : List β} (h : Passes check items values)
    (h' : Passes check later laterValues) :
    Passes check (items ++ later) (values ++ laterValues) := by
  induction h with
  | nil => exact h'
  | cons pass _ ih => exact .cons pass ih

/-- Two checks in a row pass a list as the one passes it and then the other what came of it. -/
theorem passes_bind_iff {next : β → Except ε γ} {results : List γ} :
    Passes (fun item => check item >>= next) items results ↔
      ∃ values, Passes check items values ∧ Passes next values results := by
  constructor
  · intro h
    induction h with
    | nil => exact ⟨[], .nil, .nil⟩
    | @cons item _ _ _ pass _ ih =>
      obtain ⟨values, first, second⟩ := ih
      cases found : check item with
      | error error => exact nomatch (congrArg (· >>= next) found).symm.trans pass
      | ok value =>
        have after : next value = _ := (congrArg (· >>= next) found).symm.trans pass
        exact ⟨value :: values, .cons found first, .cons after second⟩
  · rintro ⟨values, first, second⟩
    induction first generalizing results with
    | nil =>
      cases second
      exact .nil
    | cons found _ ih =>
      cases second with
      | cons after rest => exact .cons ((congrArg (· >>= next) found).trans after) (ih rest)

end Passes

/-! ## Lists that stop -/

section StopsAt

variable {check : α → Except ε β} {item failed : α} {items passed : List α} {error : ε}

theorem StopsAt.check_failed (h : StopsAt check items passed failed error) :
    check failed = .error error := by
  induction h with
  | here fail => exact fail
  | later _ _ ih => exact ih

/-- The items before the first that fails pass. -/
theorem StopsAt.exists_passes (h : StopsAt check items passed failed error) :
    ∃ values, Passes check passed values := by
  induction h with
  | here => exact ⟨[], .nil⟩
  | later pass _ ih =>
    obtain ⟨values, passes⟩ := ih
    exact ⟨_, .cons pass passes⟩

/-- The items up to the first that fails come first. -/
theorem StopsAt.exists_append (h : StopsAt check items passed failed error) :
    ∃ rest, items = passed ++ failed :: rest := by
  induction h with
  | @here _ items => exact ⟨items, rfl⟩
  | later _ _ ih =>
    obtain ⟨rest, rfl⟩ := ih
    exact ⟨rest, rfl⟩

/-- Where the items before an item pass and it fails itself, it is the first that fails. -/
theorem Passes.stopsAt (h : Passes check passed values) (fail : check failed = .error error)
    (rest : List α) : StopsAt check (passed ++ failed :: rest) passed failed error := by
  induction h with
  | nil => exact .here fail
  | cons pass _ ih => exact .later pass ih

/-- The items up to the first that fails stop there as well. -/
theorem StopsAt.through_failed (h : StopsAt check items passed failed error) :
    StopsAt check (passed ++ [failed]) passed failed error := by
  induction h with
  | here fail => exact .here fail
  | later pass _ ih => exact .later pass ih

/-- **The first item that fails is the one that fails behind items that pass.** -/
theorem stopsAt_iff :
    StopsAt check items passed failed error ↔
      (∃ rest, items = passed ++ failed :: rest) ∧
        (∀ item ∈ passed, ∃ value, check item = .ok value) ∧ check failed = .error error := by
  constructor
  · intro h
    obtain ⟨values, passes⟩ := h.exists_passes
    refine ⟨h.exists_append, fun item hmem => ?_, h.check_failed⟩
    exact (passes.exists_of_mem hmem).imp fun _ pass => pass.2
  · rintro ⟨⟨rest, rfl⟩, earlier, fail⟩
    induction passed with
    | nil => exact .here fail
    | cons head passed ih =>
      obtain ⟨value, pass⟩ := earlier head List.mem_cons_self
      exact .later pass (ih fun item hmem => earlier item (List.mem_cons_of_mem _ hmem))

theorem StopsAt.mem (h : StopsAt check items passed failed error) : failed ∈ items := by
  obtain ⟨rest, rfl⟩ := h.exists_append
  exact List.mem_append_right _ List.mem_cons_self

/-- Checking what sources are mapped to stops where checking the sources does. -/
theorem StopsAt.exists_of_map {f : δ → α} {sources : List δ}
    (h : StopsAt check (sources.map f) passed failed error) :
    ∃ before source, passed = before.map f ∧ failed = f source ∧
      StopsAt (check ∘ f) sources before source error := by
  induction sources generalizing passed with
  | nil => cases h
  | cons head rest ih =>
    cases h with
    | here fail => exact ⟨[], head, rfl, rfl, .here fail⟩
    | later pass hrest =>
      obtain ⟨before, source, rfl, rfl, hstop⟩ := ih hrest
      exact ⟨head :: before, source, rfl, rfl, .later pass hstop⟩

/-- Checking sources stops where checking what they are mapped to does. -/
theorem StopsAt.map {f : δ → α} {sources before : List δ} {source : δ}
    (h : StopsAt (check ∘ f) sources before source error) :
    StopsAt check (sources.map f) (before.map f) (f source) error := by
  induction h with
  | here fail => exact .here fail
  | later pass _ ih => exact .later pass ih

/-- Another check stops where this one does if it passes and fails where this one does. -/
theorem StopsAt.transfer {check' : α → Except ε δ} (h : StopsAt check items passed failed error)
    (hpass : ∀ item value, check item = .ok value → ∃ value', check' item = .ok value')
    (hfail : ∀ item error, check item = .error error → check' item = .error error) :
    StopsAt check' items passed failed error := by
  induction h with
  | here fail => exact .here (hfail _ _ fail)
  | later pass _ ih =>
    obtain ⟨_, pass'⟩ := hpass _ _ pass
    exact .later pass' ih

end StopsAt

/-! ## One of the two -/

/-- **Either every item passes, or there is a first that fails.** -/
theorem passes_or_stopsAt (check : α → Except ε β) (items : List α) :
    (∃ values, Passes check items values) ∨
      ∃ passed failed error, StopsAt check items passed failed error := by
  induction items with
  | nil => exact .inl ⟨[], .nil⟩
  | cons item rest ih =>
    cases hitem : check item with
    | error error => exact .inr ⟨[], item, error, .here hitem⟩
    | ok value =>
      rcases ih with ⟨values, h⟩ | ⟨passed, failed, error, h⟩
      · exact .inl ⟨value :: values, .cons hitem h⟩
      · exact .inr ⟨item :: passed, failed, error, .later hitem h⟩

variable {check : α → Except ε β} {items items' passed : List α} {values : List β} {failed : α}
  {error : ε}

/-- Where every item can pass, every item does. -/
theorem exists_passes (h : ∀ item ∈ items, ∃ value, check item = .ok value) :
    ∃ values, Passes check items values := by
  rcases passes_or_stopsAt check items with hpass | ⟨_, failed, _, hstop⟩
  · exact hpass
  · obtain ⟨value, hvalue⟩ := h failed hstop.mem
    exact nomatch hvalue.symm.trans hstop.check_failed

theorem Passes.not_stopsAt (h : Passes check items values) :
    ¬ StopsAt check items passed failed error := by
  intro hstop
  obtain ⟨value, -, hvalue⟩ := h.exists_of_mem hstop.mem
  exact nomatch hvalue.symm.trans hstop.check_failed

/-- In another order the items pass as well, and the same values come of them. -/
theorem Passes.exists_of_perm (h : Passes check items values) (order : items'.Perm items) :
    ∃ values', Passes check items' values' ∧ values'.Perm values := by
  obtain ⟨values', h'⟩ := exists_passes fun item hmem =>
    (h.exists_of_mem (order.subset hmem)).imp fun _ found => found.2
  have recovered (found : List β) :
      (found.map (Except.ok (ε := ε))).filterMap Except.toOption = found := by
    rw [List.filterMap_map]
    exact List.filterMap_some
  refine ⟨values', h', ?_⟩
  rw [← recovered values', ← recovered values, ← h.map_check_eq, ← h'.map_check_eq]
  exact (order.map check).filterMap _

/-! ## Running through a list -/

theorem mapM_of_passes (h : Passes check items values) : items.mapM check = .ok values := by
  induction h with
  | nil => rfl
  | cons pass _ ih =>
    rw [List.mapM_cons, pass, ih]
    rfl

theorem mapM_of_stopsAt (h : StopsAt check items passed failed error) :
    items.mapM check = .error error := by
  induction h with
  | here fail =>
    rw [List.mapM_cons, fail]
    rfl
  | later pass _ ih =>
    rw [List.mapM_cons, pass, ih]
    rfl

theorem mapM_eq_ok_iff : items.mapM check = .ok values ↔ Passes check items values := by
  refine ⟨fun success => ?_, mapM_of_passes⟩
  rcases passes_or_stopsAt check items with ⟨_, h⟩ | ⟨_, _, _, h⟩
  · exact Except.ok.inj ((mapM_of_passes h).symm.trans success) ▸ h
  · exact nomatch success.symm.trans (mapM_of_stopsAt h)

/-- Collecting what comes of items that all pass is an ordinary fold. -/
theorem foldlM_of_passes {add : γ → α → β → γ} (h : Passes check items values) (start : γ) :
    items.foldlM (fun sum item => (check item).map (add sum item)) start =
      .ok ((items.zip values).foldl (fun sum pair => add sum pair.1 pair.2) start) := by
  induction h generalizing start with
  | nil => rfl
  | cons pass _ ih =>
    rw [List.foldlM_cons, pass]
    exact ih _

theorem foldlM_of_stopsAt {add : γ → α → β → γ} (h : StopsAt check items passed failed error)
    (start : γ) :
    items.foldlM (fun sum item => (check item).map (add sum item)) start = .error error := by
  induction h generalizing start with
  | here fail =>
    rw [List.foldlM_cons, fail]
    rfl
  | later pass _ ih =>
    rw [List.foldlM_cons, pass]
    exact ih _

/-- A computation fails with its first step, or after it. -/
theorem bind_eq_error_iff {first : Except ε α} {next : α → Except ε β} :
    first >>= next = .error error ↔
      first = .error error ∨ ∃ value, first = .ok value ∧ next value = .error error := by
  cases first with
  | error other =>
    change (Except.error other : Except ε β) = .error error ↔ _
    simp
  | ok value =>
    change next value = .error error ↔ _
    simp

/-- A computation succeeds with every step of it. -/
theorem bind_eq_ok_iff {first : Except ε α} {next : α → Except ε β} {result : β} :
    first >>= next = .ok result ↔ ∃ value, first = .ok value ∧ next value = .ok result := by
  cases first with
  | error other =>
    change (Except.error other : Except ε β) = .ok result ↔ _
    simp
  | ok value =>
    change next value = .ok result ↔ _
    simp

theorem map_eq_ok_iff {first : Except ε α} {next : α → β} {result : β} :
    first.map next = .ok result ↔ ∃ value, first = .ok value ∧ next value = result := by
  cases first <;> simp [Except.map]

/-- Folding one item more is one step more. -/
theorem foldlM_concat_eq_ok_iff {step : γ → α → Except ε γ} {item : α} {start result : γ} :
    (items ++ [item]).foldlM step start = .ok result ↔
      ∃ middle, items.foldlM step start = .ok middle ∧ step middle item = .ok result := by
  rw [List.foldlM_append, bind_eq_ok_iff]
  simp only [List.foldlM_cons, List.foldlM_nil, bind_pure]

/-- **A fold fails at the first item that is refused**, given what the items before it came to. -/
theorem foldlM_eq_error_iff {step : γ → α → Except ε γ} {start : γ} :
    items.foldlM step start = .error error ↔
      ∃ before item after middle, items = before ++ item :: after ∧
        before.foldlM step start = .ok middle ∧ step middle item = .error error := by
  induction items generalizing start with
  | nil => exact iff_of_false nofun (by simp)
  | cons head rest ih =>
    rw [List.foldlM_cons, bind_eq_error_iff]
    constructor
    · rintro (fail | ⟨first, success, fail⟩)
      · exact ⟨[], head, rest, start, rfl, rfl, fail⟩
      · obtain ⟨before, item, after, middle, rfl, upTo, refused⟩ := ih.1 fail
        refine ⟨head :: before, item, after, middle, rfl, ?_, refused⟩
        rw [List.foldlM_cons]
        exact bind_eq_ok_iff.2 ⟨first, success, upTo⟩
    · rintro ⟨_ | ⟨front, before⟩, item, after, middle, split, upTo, refused⟩
      · obtain ⟨rfl, rfl⟩ := List.cons.inj split
        cases upTo
        exact .inl refused
      · obtain ⟨rfl, rfl⟩ := List.cons.inj split
        rw [List.foldlM_cons] at upTo
        obtain ⟨first, success, upTo⟩ := bind_eq_ok_iff.1 upTo
        exact .inr ⟨first, success, ih.2 ⟨before, item, after, middle, rfl, upTo, refused⟩⟩

/-! ## Items in order -/

section Order

variable {precedes : α → α → Prop} {before after : List α} {item other : α}

/-- Where items stand in order, those that precede one of them stand before it. -/
theorem mem_before_of_precedes (asymm : ∀ a b, precedes a b → ¬ precedes b a)
    (ordered : (before ++ item :: after).Pairwise precedes) (mem : other ∈ before ++ item :: after)
    (earlier : precedes other item) : other ∈ before := by
  rcases List.mem_append.1 mem with mem | mem
  · exact mem
  · rcases List.mem_cons.1 mem with rfl | mem
    · exact absurd earlier (asymm _ _ earlier)
    · have behind := (List.pairwise_append.1 ordered).2.1
      exact absurd earlier (asymm _ _ (List.rel_of_pairwise_cons behind mem))

/-- **Where items stand in order, a search finds the first item that is sought.** -/
theorem findSome?_eq_some_iff_first (asymm : ∀ a b, precedes a b → ¬ precedes b a)
    {search : α → Option β} {result : β} (ordered : items.Pairwise precedes) :
    items.findSome? search = some result ↔
      ∃ item ∈ items, search item = some result ∧
        ∀ other ∈ items, precedes other item → search other = none := by
  rw [List.findSome?_eq_some_iff]
  constructor
  · rintro ⟨before, item, after, rfl, found, skipped⟩
    exact ⟨item, List.mem_append_right _ List.mem_cons_self, found, fun other mem earlier =>
      skipped other (mem_before_of_precedes asymm ordered mem earlier)⟩
  · rintro ⟨item, mem, found, first⟩
    obtain ⟨before, after, rfl⟩ := List.append_of_mem mem
    refine ⟨before, item, after, rfl, found, fun other earlier => ?_⟩
    exact first other (List.mem_append_left _ earlier)
      ((List.pairwise_append.1 ordered).2.2 other earlier item List.mem_cons_self)

/-- Where items ascend, those below one of them stand before it. -/
theorem mem_before_of_lt {keys : α → String}
    (ascending : (before ++ item :: after).Pairwise fun a b => keys a < keys b)
    (mem : other ∈ before ++ item :: after) (less : keys other < keys item) : other ∈ before :=
  mem_before_of_precedes (fun _ _ => String.lt_asymm) ascending mem less

/-- **Where items ascend, a search finds the smallest item that is sought.** -/
theorem findSome?_eq_some_iff_smallest (keys : α → String) {search : α → Option β} {result : β}
    (ascending : items.Pairwise fun a b => keys a < keys b) :
    items.findSome? search = some result ↔
      ∃ item ∈ items, search item = some result ∧
        ∀ other ∈ items, keys other < keys item → search other = none :=
  findSome?_eq_some_iff_first (fun _ _ => String.lt_asymm) ascending

/-- **Where items ascend, a search from their end finds the greatest item that is sought.** -/
theorem findSome?_reverse_eq_some_iff_greatest (keys : α → String) {search : α → Option β}
    {result : β} (ascending : items.Pairwise fun a b => keys a < keys b) :
    items.reverse.findSome? search = some result ↔
      ∃ item ∈ items, search item = some result ∧
        ∀ other ∈ items, keys item < keys other → search other = none := by
  have descending : items.reverse.Pairwise fun a b => keys b < keys a :=
    List.pairwise_reverse.2 ascending
  simpa only [List.mem_reverse] using
    findSome?_eq_some_iff_first (fun _ _ => String.lt_asymm) descending

end Order

/-! ## Traced computations -/

namespace Traced

theorem bind_of_ok {first : Traced ε α} {next : α → Traced ε β} {value : α}
    (h : first.result = .ok value) :
    first >>= next = ⟨first.calls ++ (next value).calls, (next value).result⟩ := by
  change Traced.bind first next = _
  rw [Traced.bind, h]

theorem bind_of_error {first : Traced ε α} {next : α → Traced ε β}
    (h : first.result = .error error) : first >>= next = ⟨first.calls, .error error⟩ := by
  change Traced.bind first next = _
  rw [Traced.bind, h]

instance : LawfulMonad (Traced ε) := by
  refine LawfulMonad.mk' _ ?idMap ?pureBind ?bindAssoc
  case idMap =>
    rintro _ ⟨calls, _ | _⟩
    · rfl
    · exact congrArg (Traced.mk · _) (List.append_nil calls)
  case pureBind =>
    intros
    rfl
  case bindAssoc =>
    rintro _ _ _ ⟨calls, _ | value⟩ next last
    · rfl
    · change Traced.bind (Traced.bind _ _) _ = Traced.bind _ fun _ => Traced.bind _ _
      rcases hnext : (next value).result with error | result
      · simp only [Traced.bind, hnext]
      · simp only [Traced.bind, hnext, List.append_assoc]

/-- Where every item passes, every call is made. -/
theorem mapM_of_passes {f : α → Traced ε β}
    (h : Passes (fun item => (f item).result) items values) :
    items.mapM f = ⟨items.flatMap fun item => (f item).calls, .ok values⟩ := by
  induction h with
  | nil => rfl
  | cons pass _ ih =>
    rw [List.mapM_cons, bind_of_ok pass, ih, bind_of_ok rfl]
    exact congrArg (Traced.mk · _) (congrArg _ (List.append_nil _))

/-- Otherwise the calls end with those for the first item that fails. -/
theorem mapM_of_stopsAt {f : α → Traced ε β}
    (h : StopsAt (fun item => (f item).result) items passed failed error) :
    items.mapM f = ⟨(passed ++ [failed]).flatMap fun item => (f item).calls, .error error⟩ := by
  induction h with
  | here fail =>
    rw [List.mapM_cons, bind_of_error fail]
    exact congrArg (Traced.mk · _) (List.append_nil _).symm
  | later pass _ ih =>
    rw [List.mapM_cons, bind_of_ok pass, ih, bind_of_error rfl]
    rfl

end Traced

end PropertyGate
