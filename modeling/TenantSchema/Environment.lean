import TenantSchema.Text.Basic

/-!
# Environment variables

The environment gives texts to names.  Setting a variable replaces its value; unsetting one
removes it.
-/

namespace TenantSchema

/-- The variables of an environment. -/
structure Environment where
  bindings : List (String × Text)
  deriving Repr, DecidableEq

namespace Environment

/-- An environment without variables. -/
def empty : Environment :=
  { bindings := [] }

/-- The value of a variable. -/
def get? (environment : Environment) (name : String) : Option Text :=
  (environment.bindings.find? (·.1 == name)).map (·.2)

/-- Remove a variable. -/
def unset (environment : Environment) (name : String) : Environment :=
  { bindings := environment.bindings.filter (·.1 != name) }

/-- Give a variable a value. -/
def set (environment : Environment) (name : String) (value : Text) : Environment :=
  { bindings := (environment.unset name).bindings ++ [(name, value)] }

/-- The value of a variable that has one and is not empty. -/
def getNonempty? (environment : Environment) (name : String) : Option Text :=
  (environment.get? name).filter (!·.isEmpty)

/-- A variable that was set has its new value. -/
@[simp] theorem get?_set_self
    (environment : Environment)
    (name : String)
    (value : Text) :
    (environment.set name value).get? name = some value := by
  have absent : (environment.bindings.filter (·.1 != name)).find? (·.1 == name) = none := by
    simp [List.find?_eq_none]
  simp [get?, set, unset, List.find?_append, absent]

end Environment

end TenantSchema
