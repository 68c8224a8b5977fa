import TagTemplate.Context

/-!
# What contexts report

A context fails only with what its options ask it to report: a name without a value where names must
have one, a member that does not exist where members must, and a member that is there but cannot
answer.
-/

namespace TagTemplate

/-- The errors that options let a context report. -/
inductive EvalOptions.Reports (o : EvalOptions) : EvalError → Prop
  /-- A name has no value, and names must have one. -/
  | undefinedIdentifier (name : String) (h : o.strictNames = true) :
    Reports o (.undefinedIdentifier name)
  /-- A member does not exist, and members must. -/
  | unknownMember (member : String) (h : o.strictMembers = true) : Reports o (.unknownMember member)
  /-- A member cannot answer. -/
  | reflection (member message : String) : Reports o (.reflection member message)

/-- Whatever a result fails for has the property. -/
def FailsWithin {α : Type} (P : EvalError → Prop) (result : Except EvalError α) : Prop :=
  ∀ error, result = .error error → P error

namespace FailsWithin

variable {α : Type} {P : EvalError → Prop}

/-- A value is no failure. -/
theorem ok (a : α) : FailsWithin P (.ok a) := nofun

/-- A failure that has the property. -/
theorem error {error : EvalError} (h : P error) :
    FailsWithin P (.error error : Except EvalError α) := fun _ he => by
  cases he
  exact h

end FailsWithin

namespace Context

variable {c : Context} {host after : Host} {name : String}

/-- A member that does not exist is reported if members must. -/
theorem reports_missingMember : FailsWithin c.options.Reports (c.missingMember name) := by
  unfold missingMember
  split
  · next h => exact .error (.unknownMember name h)
  · exact .ok _

/-- A name that does not resolve is reported if names must. -/
theorem reports_missingName : FailsWithin c.options.Reports (c.missingName name) := by
  unfold missingName
  split
  · next h => exact .error (.undefinedIdentifier name h)
  · exact .ok _

/-- Looking a name up fails only if the self object cannot answer. -/
theorem reports_value? : FailsWithin c.options.Reports (c.value? name) := by
  unfold value?
  split
  · exact .ok _
  · split
    · exact .ok _
    · split
      · exact .ok _
      · exact .error (.reflection _ _)

theorem reports_resolve : FailsWithin c.options.Reports (c.resolve name) := by
  unfold resolve
  split
  · next hv => exact .error (reports_value? _ hv)
  · exact .ok _
  · exact reports_missingName

theorem reports_member {target : Value} : FailsWithin c.options.Reports (c.member target name) := by
  unfold member
  split
  · exact .error (.reflection _ _)
  · exact .ok _
  · exact reports_missingMember

theorem reports_index {target key : Value} :
    FailsWithin c.options.Reports (c.index target key) := by
  unfold index
  split
  · exact .error (.reflection _ _)
  · exact .ok _

/-- What is made of an answer is reported if its absence is. -/
theorem reports_ofAnswer {missing : Except EvalError Value} {answer : MemberAnswer}
    (hm : FailsWithin c.options.Reports missing) :
    FailsWithin c.options.Reports (ofAnswer name missing answer) := by
  unfold ofAnswer
  split
  · exact .error (.reflection _ _)
  · exact .ok _
  · exact hm

theorem reports_invoke {target : Option Value} {args : List Value} :
    FailsWithin c.options.Reports (c.invoke target name args host).1 := by
  unfold invoke
  dsimp only
  split
  · exact reports_ofAnswer reports_missingMember
  · exact reports_ofAnswer reports_missingName
  · exact reports_missingName

end Context

end TagTemplate
