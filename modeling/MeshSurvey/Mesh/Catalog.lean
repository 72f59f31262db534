import MeshSurvey.Failure
import MeshSurvey.Mesh.Object
import MeshSurvey.Text.Split

/-!
# Catalogs

A catalog lists the kinds that a reader wants to have recognized. A JSON object says itself of which
kind it is. It is looked up by its group and the name of its kind, whatever its version; when the
catalog has that kind, the object has to be one of the kind, and otherwise it is kept as it is.
-/

namespace MeshSurvey

/-- A list of kinds. A kind may be listed more than once. -/
structure Catalog where
  /-- The kinds, in the order in which they were added. -/
  kinds : List Kind
  deriving DecidableEq, Repr, Inhabited

namespace Catalog

/-- The catalog without kinds. -/
def empty : Catalog := ⟨[]⟩

/-- The catalog of all six kinds. -/
def mesh : Catalog := ⟨Kind.all⟩

/-- The catalog with one more kind. -/
def register (c : Catalog) (k : Kind) : Catalog := ⟨c.kinds ++ [k]⟩

/-- The kind with a type URL. -/
def byTypeUrl (c : Catalog) (url : String) : Option Kind := c.kinds.find? (·.typeUrl = url)

/-- The kind with a group and a name. -/
def byGroupKind (c : Catalog) (group kind : String) : Option Kind :=
  c.kinds.find? fun k ↦ k.gvk.group = group ∧ k.gvk.kind = kind

/-- The group that a version of the API belongs to: what stands before its last slash. -/
def groupOf (apiVersion : String) : String :=
  match Text.cutLast '/' apiVersion.toList with
  | some (group, _) => String.ofList group
  | none => ""

/-- Reads an object that names its own version and kind. -/
def decodeJson (c : Catalog) (v : Json) : Except Failure MeshObject :=
  match (v.member? "apiVersion").bind Json.string?, (v.member? "kind").bind Json.string? with
  | some apiVersion, some kind =>
    match c.byGroupKind (groupOf apiVersion) kind with
    | some k => (k.ofJson v).mapError (.json k.typeUrl)
    | none =>
      ((Dynamic.ofJson apiVersion kind v).map .unrecognized).mapError
        (.json (apiVersion ++ "/" ++ kind))
  | _, _ => .error (.protocol "object without apiVersion/kind")

end Catalog

end MeshSurvey
