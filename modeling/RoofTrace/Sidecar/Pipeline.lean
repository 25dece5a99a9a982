import RoofTrace.Contract.Models
import RoofTrace.Effects.Outcome

/-!
# Plumbing of the sidecar's routers

Exceptions, the version check of `pipeline_utils.py`, and the construction of validated
numbers. A handler is a computation in `Except Exception`: an `HTTPException` becomes the
response it names, any other exception a 500.
-/

namespace Sidecar

open Contract

/-- An exception raised in the sidecar. -/
inductive Exception where
  /-- `HTTPException(status_code, detail)` -/
  | http (statusCode : ℕ) (detail : String)
  | valueError (message : String)
  | attributeError
  /-- The error Pydantic raises when a model is built from invalid values. -/
  | validationError
  | eptNotFound
  /-- An exception of another type, by the name of its type. -/
  | other (type : String)
deriving DecidableEq

/-- `type(exc).__name__` -/
def Exception.typeName : Exception → String
  | .http _ _ => "HTTPException"
  | .valueError _ => "ValueError"
  | .attributeError => "AttributeError"
  | .validationError => "ValidationError"
  | .eptNotFound => "EptNotFound"
  | .other type => type

/-- `status.HTTP_422_UNPROCESSABLE_ENTITY` with a detail. -/
def unprocessable (detail : String) : Exception := .http 422 detail

/-- The major component of a `MAJOR.MINOR.PATCH` version. -/
def schemaMajor (version : String) : String :=
  String.ofList (version.toList.takeWhile (· ≠ '.'))

def checkPipelineVersion (reqVersion : String) : Except Exception Unit :=
  if schemaMajor reqVersion ≠ schemaMajor pipelineSchemaVersion then
    throw (.http 409
      s!"pipeline schema major mismatch: request {reqVersion} vs sidecar {pipelineSchemaVersion}")
  else
    return ()

/-- A value of a constrained field, or the validation error. -/
def validated {α : Type} (p : α → Prop) [DecidablePred p] (a : α) :
    Except Exception { a : α // p a } :=
  if h : p a then return ⟨a, h⟩ else throw .validationError

theorem validated_eq_ok_iff {α : Type} {p : α → Prop} [DecidablePred p] {a : α}
    {b : { a : α // p a }} :
  validated p a = .ok b ↔ a = b.val
  := by
  rw [validated]
  split
  · constructor
    · rintro ⟨⟩
      rfl
    · rintro rfl
      rfl
  · constructor
    · rintro ⟨⟩
    · rintro rfl
      apply absurd b.property
      assumption

end Sidecar
