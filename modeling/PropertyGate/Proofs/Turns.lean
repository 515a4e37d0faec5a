/-!
# Proofs/Turns — systems that move step by step

Where several parties move in turns, what can happen is a relation between a state, the turn that is
taken, and the state after it.  `Turns` are taken one after the other, in any order that the relation
allows, so what holds after all turns holds after every interleaving.  **What every turn keeps, all
of them keep** (`Turns.keeps`), and **what comes to hold comes to hold at one of them**
(`Turns.exists_turn`).
-/

namespace PropertyGate

/-! ## Parties by their numbers -/

section Parties

variable {α : Type} {parties : List α} {party party' : α} {number other : Nat}

/-- Where one party has moved, the others are as they were. -/
theorem eq_or_of_set (h : (parties.set number party)[other]? = some party') :
    (other = number ∧ party' = party) ∨ (other ≠ number ∧ parties[other]? = some party') := by
  rw [List.getElem?_set] at h
  split at h
  · rename_i same
    split at h
    · exact .inl ⟨same.symm, (Option.some.inj h).symm⟩
    · cases h
  · rename_i different
    exact .inr ⟨Ne.symm different, h⟩

/-- Where one more party has come, the others are as they were. -/
theorem eq_or_of_concat (h : (parties ++ [party])[other]? = some party') :
    party' = party ∨ parties[other]? = some party' := by
  rw [List.getElem?_append] at h
  split at h
  · exact .inr h
  · exact .inl (List.mem_singleton.1 (List.mem_of_getElem? h))

/-- Whoever is there stays there when others come. -/
theorem getElem?_append_of_eq_some (h : parties[number]? = some party) (others : List α) :
    (parties ++ others)[number]? = some party :=
  (List.getElem?_append_left (List.getElem?_eq_some_iff.1 h).1).trans h

end Parties

/-! ## Turns -/

variable {σ τ : Type} {step : σ → τ → σ → Prop} {start middle stop : σ} {turns later : List τ}

/-- **The turns that are taken from one state to another.** -/
inductive Turns (step : σ → τ → σ → Prop) : σ → List τ → σ → Prop where
  | stay (state : σ) : Turns step state [] state
  | move {start middle stop : σ} {turn : τ} {turns : List τ} (first : step start turn middle)
      (rest : Turns step middle turns stop) : Turns step start (turn :: turns) stop

namespace Turns

theorem append (h : Turns step start turns middle) (h' : Turns step middle later stop) :
    Turns step start (turns ++ later) stop := by
  induction h with
  | stay => exact h'
  | move first _ ih => exact .move first (ih h')

/-- **What every turn keeps, all of them keep.** -/
theorem keeps (h : Turns step start turns stop) (holds : σ → Prop)
    (kept : ∀ {before turn after}, step before turn after → holds before → holds after)
    (initially : holds start) : holds stop := by
  induction h with
  | stay => exact initially
  | move first _ ih => exact ih (kept first initially)

/-- What was before a turn, and what after it. -/
theorem exists_of_mem {turn : τ} (h : Turns step start turns stop) (hmem : turn ∈ turns) :
    ∃ earlier before after later, turns = earlier ++ turn :: later ∧
      Turns step start earlier before ∧ step before turn after ∧ Turns step after later stop := by
  induction h with
  | stay => cases hmem
  | @move start middle _ head _ first rest ih =>
    rcases List.mem_cons.1 hmem with rfl | hmem
    · exact ⟨[], start, middle, _, rfl, .stay _, first, rest⟩
    · obtain ⟨earlier, before, after, later, rfl, reached, turned, left⟩ := ih hmem
      exact ⟨head :: earlier, before, after, later, rfl, .move first reached, turned, left⟩

/-- **Among the turns is one** that leads from `before` to `after`. -/
def Include (step : σ → τ → σ → Prop) (start : σ) (turns : List τ) (stop before : σ) (turn : τ)
    (after : σ) : Prop :=
  ∃ earlier later, turns = earlier ++ turn :: later ∧
    Turns step start earlier before ∧ step before turn after ∧ Turns step after later stop

/-- **What comes to hold comes to hold at one of the turns.** -/
theorem exists_turn (h : Turns step start turns stop) (holds : σ → Prop) (never : ¬ holds start)
    (eventually : holds stop) :
    ∃ earlier before turn after later, turns = earlier ++ turn :: later ∧
      Turns step start earlier before ∧ step before turn after ∧ Turns step after later stop ∧
      ¬ holds before ∧ holds after := by
  induction h with
  | stay => exact absurd eventually never
  | @move start middle _ turn _ first rest ih =>
    by_cases now : holds middle
    · exact ⟨[], start, turn, middle, _, rfl, .stay _, first, rest, never, now⟩
    · obtain ⟨earlier, before, turned, after, later, rfl, reached, step, left, no, yes⟩ :=
        ih now eventually
      exact ⟨turn :: earlier, before, turned, after, later, rfl, .move first reached, step, left, no,
        yes⟩

end Turns

end PropertyGate
