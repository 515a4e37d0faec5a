import PropertyGate.Policy.Registry

/-!
# Policy/Rule — simple policies as data

A `Rule` says in one line what a policy does with the values of a group; `Rule.handler` is the
handler that does it.
-/

namespace PropertyGate

/-- A simple policy. -/
inductive Rule where
  /-- Approves everything unchanged. -/
  | identity
  /-- Keeps the listed fields only. -/
  | allow (fields : List String)
  /-- Drops the listed fields. -/
  | deny (fields : List String)
  /-- Lays the given values over the pending ones. -/
  | overlay (values : Values)
  /-- Replaces every value by the post, the requester and the group that it was asked for. -/
  | context
  /-- Refuses. -/
  | reject (rejection : Rejection)
  /-- Refuses with a reason that starts with the name of the group. -/
  | forbid (message : String)
  /-- Crashes, with a text or without. -/
  | crash (text : Option String)

namespace Rule

/-- What the policy comes to. -/
def verdict (rule : Rule) (context : Context) (groupName : String) (values : Values) : Verdict :=
  match rule with
  | .identity => .approved values
  | .allow fields => .approved (values.filterKeys fun id => fields.contains id)
  | .deny fields => .approved (values.filterKeys fun id => !fields.contains id)
  | .overlay upper => .approved (TextMap.overlay values upper)
  | .context =>
    .approved (values.mapValues fun _ _ =>
      .array [.text context.target, .text context.requester, .text groupName])
  | .reject rejection => .rejected rejection
  | .forbid message => .rejected (.forbidden (groupName ++ " " ++ message))
  | .crash text => .crashed text

/-- The handler that follows the rule after a delay. -/
def handler (rule : Rule) (delay : Nat) : Handler := fun context groupName values =>
  ⟨delay, rule.verdict context groupName values⟩

end Rule

end PropertyGate
