import SavedGames.Json.Reader

/-! Records: values with named fields. In a text a record is an object whose members may come in
any order, with members of other names among them, or an array of the fields in their order. -/
namespace SavedGames.Json

/-- What stands for a field that the text leaves out. -/
inductive Absence (α : Type) where
  | refused
  /-- An object may leave the field out, an array may not. -/
  | fromObject (value : α)
  | fromAny (value : α)

structure Field (α : Type) where
  name : String
  read : Reader α
  absence : Absence α

namespace Field

def required (name : String) (read : Reader α) : Field α := ⟨name, read, .refused⟩

/-- A value or null, which an object may leave out. -/
def nullable (name : String) (read : Reader α) : Field (Option α) :=
  ⟨name, read.optional, .fromObject none⟩

def withDefault (name : String) (read : Reader α) (value : α) : Field α :=
  ⟨name, read, .fromAny value⟩

end Field

/-- The fields of a record, in the order in which they are declared. -/
inductive Fields : List Type → Type 1 where
  | nil : Fields []
  | cons (field : Field α) (fields : Fields τ) : Fields (α :: τ)

def Values : List Type → Type
  | [] => Unit
  | α :: τ => α × Values τ

/-- The values found so far. -/
def Draft : List Type → Type
  | [] => Unit
  | α :: τ => Option α × Draft τ

namespace Fields

def blank : Fields τ → Draft τ
  | nil => ()
  | cons _ fields => (none, fields.blank)

def count : Fields τ → Nat
  | nil => 0
  | cons _ fields => fields.count + 1

/-- Puts a member into its place; nothing if no field has its name. -/
def place? (room : Nat) (name : String) (value : Node) :
    Fields τ → Draft τ → Option (Except Fault (Draft τ))
  | nil, _ => none
  | cons field fields, (found, rest) =>
    if field.name = name then
      some <|
        if found.isSome then .error (.unfit (.duplicateField name))
        else (field.read room value).map fun a => (some a, rest)
    else (fields.place? room name value rest).map fun d => d.map fun rest => (found, rest)

def placeAll (room : Nat) (fields : Fields τ) :
    Draft τ → List (Option String × Node) → Except Fault (Draft τ)
  | draft, [] => .ok draft
  | _, (none, _) :: _ => .error .malformed
  | draft, (some name, value) :: members =>
    match fields.place? room name value draft with
    | some placed => do fields.placeAll room (← placed) members
    | none => if value.isSound then fields.placeAll room draft members else .error .malformed

def complete : Fields τ → Draft τ → Except Fault (Values τ)
  | nil, _ => .ok ()
  | cons field fields, (found, rest) => do
    let a ← match found, field.absence with
      | some a, _ => .ok a
      | none, .refused => .error (.unfit (.missingField field.name))
      | none, .fromObject a => .ok a
      | none, .fromAny a => .ok a
    let as ← fields.complete rest
    return (a, as)

def readMembers (fields : Fields τ) (room : Nat) (members : List (Option String × Node))
    (closed : Bool) : Except Fault (Values τ) := do
  let draft ← fields.placeAll room fields.blank members
  if closed then fields.complete draft else .error .malformed

/-- Reads the fields in their order and gives the elements that are left. `short` is the fault when
no element is left for the field with the given index. -/
def readItems (room : Nat) (closed : Bool) (short : Nat → Fault) :
    Fields τ → Nat → List Node → Except Fault (Values τ × List Node)
  | nil, _, items => .ok ((), items)
  | cons field fields, index, [] =>
    if closed then
      match field.absence with
      | .fromAny a => do
        let (as, rest) ← fields.readItems room closed short (index + 1) []
        return ((a, as), rest)
      | _ => .error (short index)
    else .error .malformed
  | cons field fields, index, item :: items => do
    let a ← field.read room item
    let (as, rest) ← fields.readItems room closed short (index + 1) items
    return ((a, as), rest)

end Fields

def record (name : String) (fields : Fields τ) (build : Values τ → α) : Reader α :=
  fun room node =>
    match room, node with
    | 0, .arr _ _ => .error .malformed
    | 0, .obj _ _ => .error .malformed
    | room + 1, .arr items closed => do
      let short := fun index => .unfit (.wrongLength index (.record name fields.count))
      let (values, rest) ← fields.readItems room closed short 0 items
      if closed ∧ rest = [] then .ok (build values) else .error .malformed
    | room + 1, .obj members closed => (fields.readMembers room members closed).map build
    | _, node => .error (node.mismatch (.record name))

end SavedGames.Json
