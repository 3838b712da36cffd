import SavedGames.Json.Record

/-! Values of one of several kinds. A tagged record names its kind in the field `kind`, at any
place among its fields; a choice is the bare name of its kind, or an object with that name as its
only key. -/
namespace SavedGames.Json

/-- One kind of a tagged record: how it is read from the elements, or from the members, that are
left besides the kind. -/
structure Variant (α : Type) where
  tag : String
  ofItems : Nat → List Node → Except Fault α
  ofMembers : Nat → List (Option String × Node) → Except Fault α

namespace Variant

/-- The label stands for the variant in messages. -/
def withFields (tag label : String) (fields : Fields τ) (build : Values τ → α) : Variant α where
  tag := tag
  ofItems room items := do
    let short := fun index => .unfit (.wrongLength index (.variant label fields.count))
    let (values, rest) ← fields.readItems room true short 0 items
    if rest = [] then .ok (build values)
    else .error (.unfit (.wrongLength items.length (.exactly fields.count)))
  ofMembers room members := (fields.readMembers room members true).map build

def named? (variants : List (Variant α)) (tag : String) : Except Fault (Variant α) :=
  match variants.find? fun v => v.tag = tag with
  | some variant => .ok variant
  | none => .error (.unfit (.unknownVariant tag (variants.map Variant.tag)))

def ofTag (variants : List (Variant α)) (node : Node) : Except Fault (Variant α) :=
  match node with
  | .str (some tag) => named? variants tag
  | _ => .error (node.mismatch .variantName)

end Variant

def kindKey : String := "kind"

/-- The kind of an object and its other members, which are kept until all have been seen. -/
def splitKind (variants : List (Variant α)) (room : Nat) :
    Option (Variant α) → List (Option String × Node) → List (Option String × Node) →
      Except Fault (Option (Variant α) × List (Option String × Node))
  | kind, kept, [] => .ok (kind, kept.reverse)
  | _, _, (none, _) :: _ => .error .malformed
  | kind, kept, (some key, value) :: members =>
    if key = kindKey then
      if kind.isSome then .error (.unfit (.duplicateField kindKey))
      else do splitKind variants room (some (← Variant.ofTag variants value)) kept members
    else if value.isKeepable room then
      splitKind variants room kind ((some key, value) :: kept) members
    else .error .malformed

def tagged (name : String) (variants : List (Variant α)) : Reader α := fun room node =>
  match room, node with
  | 0, .arr _ _ => .error .malformed
  | 0, .obj _ _ => .error .malformed
  | _ + 1, .arr [] closed =>
    .error (if closed then .unfit (.missingField kindKey) else .malformed)
  | room + 1, .arr (first :: items) closed => do
    let variant ← Variant.ofTag variants first
    if Node.areKeepable room items ∧ closed then variant.ofItems room items
    else .error .malformed
  | room + 1, .obj members closed => do
    let (kind, rest) ← splitKind variants room none [] members
    match closed, kind with
    | true, some variant => variant.ofMembers room rest
    | true, none => .error (.unfit (.missingField kindKey))
    | false, _ => .error .malformed
  | _, node => .error (node.mismatch (.tagged name))

/-- One kind of a choice, with a content or without. -/
inductive Alternative (α : Type) where
  | plain (name : String) (value : α)
  | holding (name : String) (read : Reader α)

namespace Alternative

def name : Alternative α → String
  | plain name _ => name
  | holding name _ => name

def named? (alternatives : List (Alternative α)) (name : String) :
    Except Fault (Alternative α) :=
  match alternatives.find? fun a => a.name = name with
  | some alternative => .ok alternative
  | none => .error (.unfit (.unknownVariant name (alternatives.map Alternative.name)))

def ofBareName : Alternative α → Except Fault α
  | plain _ value => .ok value
  | holding _ _ => .error (.unfit (.wrongType .unitVariant .variantWithContent))

def ofContent (room : Nat) (content : Node) : Alternative α → Except Fault α
  | plain _ value =>
    match content with
    | .null => .ok value
    | _ => .error (content.mismatch .null)
  | holding _ read => read room content

end Alternative

def choice (alternatives : List (Alternative α)) : Reader α := fun room node =>
  match room, node with
  | _, .str (some name) => do (← Alternative.named? alternatives name).ofBareName
  | 0, _ => .error .malformed
  | room + 1, .obj ((some name, content) :: members) closed => do
    let alternative ← Alternative.named? alternatives name
    let a ← alternative.ofContent room content
    if members.isEmpty ∧ closed then .ok a else .error .malformed
  | _, _ => .error .malformed

end SavedGames.Json
