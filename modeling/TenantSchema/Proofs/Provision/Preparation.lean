import TenantSchema.Proofs.Applier.Interruption
import TenantSchema.Proofs.Outcome
import TenantSchema.Provision

namespace TenantSchema

/-!
# Preparing a run

A run is prepared exactly if its name is accepted, the script can be read with that name in
the place of the placeholder, and one of the blocks creates the database.  Without that no
call is made, and nothing is planned.
-/

/-- What holds of a run that was prepared from a script and the name of a database. -/
structure PreparedFrom
    (settings : RunSettings)
    (script : Text)
    (name : Option Text)
    (substitution : Script.Substitution)
    (prepared : Prepared) : Prop where
  named :
    name = some prepared.name
  accepted :
    isValidName prepared.name = true
  substituted :
    Script.Substitution.of? prepared.name settings.placeholder = .ok substitution
  read :
    (Script.read substitution script).blocks = .ok prepared.blocks
  creates :
    prepared.blocks.find? (·.kind == .createDatabase) = some prepared.database

section

variable
  {settings : RunSettings}
  {script : Text}
  {name : Option Text}

theorem exists_preparedFrom
    {prepared : Prepared}
    (outcome : (prepare settings script name).outcome = .ok prepared) :
    ∃ substitution,
      PreparedFrom settings script name substitution prepared := by
  unfold prepare at outcome
  dsimp only at outcome
  cases accepted : name.filter isValidName with
  | none =>
      rw [accepted] at outcome
      cases outcome
  | some chosen =>
      rw [accepted] at outcome
      obtain ⟨isName, valid⟩ := Option.filter_eq_some_iff.mp accepted
      dsimp only at outcome
      cases substituted :
          Script.Substitution.of? chosen settings.placeholder with
      | error error =>
          rw [substituted] at outcome
          cases outcome
      | ok substitution =>
          rw [substituted] at outcome
          dsimp only at outcome
          cases read : (Script.read substitution script).blocks with
          | error error =>
              rw [read] at outcome
              cases outcome
          | ok blocks =>
              rw [read] at outcome
              dsimp only at outcome
              cases creates : blocks.find? (·.kind == .createDatabase) with
              | none =>
                  rw [creates] at outcome
                  cases outcome
              | some database =>
                  rw [creates] at outcome
                  cases outcome
                  exact ⟨substitution, isName, valid, substituted, read, creates⟩

theorem provisionOver_of_error
    (factory : ConnectionFactory)
    {error : RunError}
    (refused : (prepare settings script name).outcome = .error error) :
    (provisionOver factory settings script name).outcome = .error error ∧
      (provisionOver factory settings script name).history = [] := by
  simp only [provisionOver, refused, and_self]

theorem provisionOver_of_prepared
    (factory : ConnectionFactory)
    {prepared : Prepared}
    (outcome : (prepare settings script name).outcome = .ok prepared) :
    (provisionOver factory settings script name).outcome =
        (Provision.carryOut factory settings.previewLimit prepared).outcome ∧
      (provisionOver factory settings script name).history =
        (Provision.carryOut factory settings.previewLimit prepared).history := by
  simp only [provisionOver, outcome, and_self]

theorem plan_of_error
    {error : RunError}
    (refused : (prepare settings script name).outcome = .error error) :
    (plan settings script name).outcome = .error error := by
  simp only [plan, refused]

/-- The plan of a prepared run is the creation of the database and the rehearsal. -/
theorem exists_plan_of_prepared
    {prepared : Prepared}
    (outcome : (prepare settings script name).outcome = .ok prepared) :
    ∃ result,
      (rehearse prepared.blocks).result = .ok result ∧
        (plan settings script name).outcome = .ok {
          name := prepared.name
          blockCount := prepared.blocks.length
          statements :=
            prepared.database.text :: Applier.plannedStatements prepared.blocks
          result := result
        } := by
  obtain ⟨result, rehearsed⟩ := Applier.exists_result_of_rehearse prepared.blocks
  refine ⟨result, rehearsed, ?_⟩
  simp only [plan, outcome, rehearsed]
  rfl

/-- Planning fails exactly if the run cannot be prepared. -/
theorem prepare_of_plan_error
    {error : RunError}
    (refused : (plan settings script name).outcome = .error error) :
    (prepare settings script name).outcome = .error error := by
  cases preparation : (prepare settings script name).outcome with
  | error other =>
      rw [plan_of_error preparation] at refused
      cases refused
      rfl
  | ok prepared =>
      obtain ⟨result, _, planned⟩ := exists_plan_of_prepared preparation
      rw [planned] at refused
      cases refused

end

namespace Provision.Sample

/-- A script with two tables, the first of which refers to the second. -/
def script : Text :=
  ("CREATE DATABASE __database_name__;\n" ++
    "CREATE TABLE posts (author INT REFERENCES users (id)) ENGINE = InnoDB;\n" ++
    "CREATE TABLE users (id INT) ENGINE = InnoDB;").toList

def name : Text :=
  "acme".toList

def database : Block :=
  {
    kind := .createDatabase
    text := "CREATE DATABASE acme;".toList
    order := 0
    lineNumber := 1
  }

def posts : Block :=
  {
    kind := .createTable
    text :=
      "CREATE TABLE posts (author INT REFERENCES users (id)) ENGINE = InnoDB;".toList
    order := 1
    lineNumber := 2
  }

def users : Block :=
  {
    kind := .createTable
    text := "CREATE TABLE users (id INT) ENGINE = InnoDB;".toList
    order := 2
    lineNumber := 3
  }

def prepared : Prepared :=
  { name := name, blocks := [database, posts, users], database := database }

theorem prepare_script :
    (prepare .default script (some name)).outcome = .ok prepared := by
  have kept :
      (prepare .default script (some name)).outcome.toOption = some prepared := by
    decide +kernel
  exact eq_ok_of_toOption kept

end Provision.Sample

end TenantSchema
