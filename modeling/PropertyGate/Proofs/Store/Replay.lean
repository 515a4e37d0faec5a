import Mathlib.Data.List.Induction
import PropertyGate.Proofs.Service.Patching

/-!
# Proofs/Store/Replay — writes laid over each other in their order

Every write lays values over those of one post.  After some writes a field of a post has the value of
the last of them that gave it one, and without such a write the value that it had at the start
(`get?_values_replay`).  Hence **what a post shows after some writes reflects each of them whole, as
far as no later one replaced it, and nothing else** (`reflects_replay`).
-/

namespace PropertyGate

/-- **A write**: values for a post, and the number of whoever wrote them. -/
structure Write where
  writer : Nat
  target : String
  values : Values

namespace Write

/-- The value that a write gives to a field of a post. -/
def value? (write : Write) (target fieldId : String) : Option Json.Value :=
  if write.target = target then write.values.get? fieldId else none

end Write

namespace Store

variable {start : Store} {writes : List Write} {target fieldId : String} {value : Json.Value}

/-- The store after some writes, one after the other. -/
def replay (start : Store) (writes : List Write) : Store :=
  writes.foldl (fun store write => store.lay write.target write.values) start

theorem replay_concat (write : Write) :
    start.replay (writes ++ [write]) = (start.replay writes).lay write.target write.values :=
  List.foldl_append ..

theorem get?_values_lay_write (store : Store) (write : Write) :
    ((store.lay write.target write.values).values target).get? fieldId =
      (write.value? target fieldId).or ((store.values target).get? fieldId) := by
  rw [Write.value?]
  split
  · rename_i same
    rw [same, get?_values_lay]
  · rename_i other
    rw [values_lay_of_ne (Ne.symm other), Option.none_or]

/-- **The last write that gives a field a value decides**, or else the start does. -/
theorem get?_values_replay (start : Store) (writes : List Write) (target fieldId : String) :
    ((start.replay writes).values target).get? fieldId =
      (writes.reverse.findSome? (·.value? target fieldId)).or
        ((start.values target).get? fieldId) := by
  induction writes using List.reverseRecOn with
  | nil => rfl
  | append_singleton writes write ih =>
    rw [replay_concat, get?_values_lay_write, ih, List.reverse_concat, List.findSome?_cons]
    cases write.value? target fieldId <;> rfl

/-- **What a post shows reflects some writes**: each of them whole where no later one gives the same
field a value, and nothing but them and what the post had at the start. -/
structure Reflects (start : Store) (writes : List Write) (target : String) (shown : Values) :
    Prop where
  whole : ∀ before write after, writes = before ++ write :: after → ∀ fieldId value,
    write.value? target fieldId = some value →
    (∀ later ∈ after, later.value? target fieldId = none) → shown.get? fieldId = some value
  only : ∀ fieldId value, shown.get? fieldId = some value →
    (∃ before write after, writes = before ++ write :: after ∧
      write.value? target fieldId = some value ∧
      ∀ later ∈ after, later.value? target fieldId = none) ∨
    ((start.values target).get? fieldId = some value ∧
      ∀ write ∈ writes, write.value? target fieldId = none)

theorem reflects_replay (start : Store) (writes : List Write) (target : String) :
    start.Reflects writes target ((start.replay writes).values target) := by
  constructor
  · rintro before write after rfl fieldId value given last
    have skipped : after.reverse.findSome? (·.value? target fieldId) = none :=
      List.findSome?_eq_none_iff.2 fun later hmem => last later (List.mem_reverse.1 hmem)
    rw [get?_values_replay, List.reverse_append, List.reverse_cons, List.append_assoc,
      List.findSome?_append, skipped, Option.none_or, List.singleton_append, List.findSome?_cons,
      given, Option.some_or]
  · intro fieldId value shows
    rw [get?_values_replay] at shows
    cases found : writes.reverse.findSome? (·.value? target fieldId) with
    | some latest =>
      rw [found, Option.some_or] at shows
      obtain rfl := Option.some.inj shows
      obtain ⟨after, write, before, split, given, skipped⟩ := List.findSome?_eq_some_iff.1 found
      refine .inl ⟨before.reverse, write, after.reverse, ?_, given, fun later hmem =>
        skipped later (List.mem_reverse.1 hmem)⟩
      rw [← List.reverse_reverse writes, split]
      simp
    | none =>
      rw [found, Option.none_or] at shows
      exact .inr ⟨shows, fun write hmem =>
        List.findSome?_eq_none_iff.1 found write (List.mem_reverse.2 hmem)⟩

end Store

end PropertyGate
