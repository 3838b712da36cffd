import Mathlib
import SavedGames.Proofs.Json.Record

/-!
# Records inside a value

A shape tells where the records of a written value stand and which of their members may be left
out. A file may arrange the members of each record as it likes, with foreign members among them.
Members are taken out at places, each of them a path of member names and of positions in lists.
-/
namespace SavedGames.Json

inductive Step where
  | member (name : String)
  | item (index : Nat)
  deriving DecidableEq, Repr

abbrev Place := List Step

/-- A set of places in a value. -/
abbrev Places := Place → Bool

namespace Places

def none : Places := fun _ => false

/-- The places below a step, as seen from there. -/
def under (places : Places) (step : Step) : Places := fun path => places (step :: path)

/-- The value of a field whose member is taken out if it is one of the places. -/
def kept (places : Places) (name : String) (value fallback : α) : α :=
  if places [.member name] then fallback else value

@[simp] theorem under_none (step : Step) : none.under step = none := rfl

@[simp] theorem kept_none (name : String) (value fallback : α) :
    none.kept name value fallback = value := rfl

@[simp] theorem kept_self (places : Places) (name : String) (value : α) :
    places.kept name value value = value := ite_self _

theorem of_mem_kept {places : Places} {name : String} {as : List α} {a : α}
    (h : a ∈ places.kept name as []) : a ∈ as := by
  unfold kept at h
  split at h
  · cases h
  · exact h

end Places

/-- What stands at a place. -/
def at? : Json → Place → Option Json
  | json, [] => some json
  | .obj members, .member name :: path => do (← members.lookup name).at? path
  | .arr items, .item index :: path => do (← items[index]?).at? path
  | _, _ :: _ => none

/-- The value with the members at these places taken out. -/
def without : Json → Places → Json
  | .arr items, places => .arr (withoutItems 0 items places)
  | .obj members, places => .obj (withoutMembers members places)
  | json, _ => json
where
  withoutItems (index : Nat) : List Json → Places → List Json
    | [], _ => []
    | item :: items, places =>
      without item (places.under (.item index)) :: withoutItems (index + 1) items places
  withoutMembers : List (String × Json) → Places → List (String × Json)
    | [], _ => []
    | (name, value) :: members, places =>
      if places [.member name] then withoutMembers members places
      else (name, without value (places.under (.member name))) :: withoutMembers members places

inductive Presence where
  | required
  | optional
  deriving DecidableEq, Repr

inductive Shape where
  /-- Nothing inside is a record. -/
  | whole
  | list (item : Shape)
  /-- An object with the name of its kind as its only key. -/
  | variant (kinds : List (String × Shape))
  | record (members : List (String × Presence × Shape))
  deriving Repr

namespace Shape

/-- Whether the member of a record at the place may be left out; nothing if no member of a record
stands there. -/
def member? : Shape → Place → Option Presence
  | record members, [.member name] => (members.lookup name).map Prod.fst
  | record members, .member name :: path => do (← members.lookup name).2.member? path
  | variant kinds, .member name :: path => do (← kinds.lookup name).member? path
  | list shape, .item _ :: path => shape.member? path
  | _, _ => none

mutual

/-- The tree holds the value as it is written, but each record in it may have its members in
another order and foreign members among them. -/
inductive Rearranges : Shape → Json → Node → Prop
  | same (shape : Shape) (json : Json) : Rearranges shape json json.node
  | list {shape : Shape} {items : List Json} {nodes : List Node}
      (each : RearrangesItems shape items nodes) :
      Rearranges (.list shape) (.arr items) (.arr nodes true)
  | variant {kinds : List (String × Shape)} {name : String} {shape : Shape} {json : Json}
      {node : Node} (known : kinds.lookup name = some shape)
      (content : Rearranges shape json node) :
      Rearranges (.variant kinds) (.obj [(name, json)]) (.obj [(some name, node)] true)
  | record {shapes : List (String × Presence × Shape)} {members : List (String × Json)}
      {own foreign mixed : List (Option String × Node)}
      (each : RearrangesMembers shapes members own)
      (unknown : ∀ m ∈ foreign, ∃ name, m.1 = some name ∧ shapes.lookup name = none)
      (mix : mixed.Perm (own ++ foreign)) :
      Rearranges (.record shapes) (.obj members) (.obj mixed true)

inductive RearrangesItems : Shape → List Json → List Node → Prop
  | nil {shape : Shape} : RearrangesItems shape [] []
  | cons {shape : Shape} {json : Json} {node : Node} {items : List Json} {nodes : List Node}
      (head : Rearranges shape json node) (tail : RearrangesItems shape items nodes) :
      RearrangesItems shape (json :: items) (node :: nodes)

inductive RearrangesMembers : List (String × Presence × Shape) → List (String × Json) →
    List (Option String × Node) → Prop
  | nil {shapes : List (String × Presence × Shape)} : RearrangesMembers shapes [] []
  | cons {shapes : List (String × Presence × Shape)} {name : String} {presence : Presence}
      {shape : Shape} {json : Json} {node : Node} {members : List (String × Json)}
      {nodes : List (Option String × Node)}
      (known : shapes.lookup name = some (presence, shape)) (head : Rearranges shape json node)
      (tail : RearrangesMembers shapes members nodes) :
      RearrangesMembers shapes ((name, json) :: members) ((some name, node) :: nodes)

end

end Shape

section Without

variable {places : Places}

theorem withoutItems_eq (items : List Json) (index : Nat) :
    without.withoutItems index items places =
      items.mapIdx fun i item => item.without (places.under (.item (index + i))) := by
  induction items generalizing index with
  | nil => rfl
  | cons item items ih =>
    rw [without.withoutItems, List.mapIdx_cons, ih]
    simp only [Nat.add_zero, Nat.add_right_comm, Nat.add_assoc]

/-- What is left of a list: its items with what lies below them taken out. -/
theorem without_arr (items : List Json) :
    (arr items).without places =
      arr (items.mapIdx fun i item => item.without (places.under (.item i))) := by
  simp [without, withoutItems_eq]

theorem lookup_withoutMembers (members : List (String × Json)) (name : String) :
    (without.withoutMembers members places).lookup name =
      if places [.member name] then none
      else (members.lookup name).map fun json => json.without (places.under (.member name)) := by
  induction members with
  | nil => simp [without.withoutMembers]
  | cons m members ih =>
    obtain ⟨first, json⟩ := m
    by_cases here : name = first
    · subst here
      by_cases gone : places [.member name] <;> simp [without.withoutMembers, gone, ih]
    · by_cases gone : places [.member first] <;>
        simp [without.withoutMembers, gone, lookup_cons_ne here, ih]

theorem withoutMembers_names (members : List (String × Json)) :
    ((without.withoutMembers members places).map Prod.fst).Sublist (members.map Prod.fst) := by
  induction members with
  | nil => exact .slnil
  | cons m members ih =>
    rw [without.withoutMembers]
    split
    · exact ih.cons _
    · exact ih.cons_cons _

mutual

theorem without_none : ∀ json : Json, json.without .none = json
  | .null | .bool _ | .int _ | .str _ => rfl
  | .arr items => congrArg arr (withoutItems_none 0 items)
  | .obj members => congrArg obj (withoutMembers_none members)

theorem withoutItems_none : ∀ (index : Nat) (items : List Json),
    without.withoutItems index items .none = items
  | _, [] => rfl
  | index, item :: items =>
    congrArg₂ List.cons (without_none item) (withoutItems_none (index + 1) items)

theorem withoutMembers_none : ∀ members : List (String × Json),
    without.withoutMembers members .none = members
  | [] => rfl
  | (name, value) :: members =>
    congrArg₂ List.cons (congrArg (Prod.mk name) (without_none value))
      (withoutMembers_none members)

end

end Without

namespace Shape

section Inversion

variable {shape : Shape} {shapes : List (String × Presence × Shape)} {node : Node}
  {members : List (String × Json)} {own mixed : List (Option String × Node)}

theorem Rearranges.of_whole {json : Json} (h : Rearranges .whole json node) : node = json.node := by
  cases h
  rfl

theorem Rearranges.of_null (h : Rearranges shape .null node) : node = .null := by
  cases h
  rfl

theorem Rearranges.ne_null (h : Rearranges shape (.obj members) node) : node ≠ .null := by
  cases h <;> nofun

theorem RearrangesItems.forall₂ {items : List Json} {nodes : List Node}
    (h : RearrangesItems shape items nodes) : List.Forall₂ shape.Rearranges items nodes := by
  induction items generalizing nodes with
  | nil =>
    cases h
    exact .nil
  | cons item items ih =>
    cases h with
    | cons head tail => exact .cons head (ih tail)

theorem Rearranges.of_list {items : List Json} (h : Rearranges (.list shape) (.arr items) node) :
    ∃ nodes, node = .arr nodes true ∧ List.Forall₂ shape.Rearranges items nodes := by
  cases h with
  | same => exact ⟨items.map Json.node, by simp [Json.node], by simp [Rearranges.same]⟩
  | list each => exact ⟨_, rfl, each.forall₂⟩

theorem Rearranges.of_variant {kinds : List (String × Shape)} {name : String} {json : Json}
    (known : kinds.lookup name = some shape)
    (h : Rearranges (.variant kinds) (.obj [(name, json)]) node) :
    ∃ content, node = .obj [(some name, content)] true ∧ shape.Rearranges json content := by
  cases h with
  | same => exact ⟨json.node, by simp [Json.node], .same shape json⟩
  | variant found content =>
    obtain rfl := Option.some.inj (found.symm.trans known)
    exact ⟨_, rfl, content⟩

/-- The members of an object give each member of the record what it was written as, and nothing if
it was not written. No name of the record comes twice, and all keys are texts. -/
structure Arranges (shapes : List (String × Presence × Shape)) (members : List (String × Json))
    (mixed : List (Option String × Node)) : Prop where
  named : ∀ m ∈ mixed, m.1.isSome = true
  once : ∀ name, (shapes.lookup name).isSome = true →
    (mixed.map Prod.fst).count (some name) ≤ 1
  holds : ∀ name presence shape, shapes.lookup name = some (presence, shape) →
    Option.Rel shape.Rearranges (members.lookup name) (mixed.lookup (some name))

theorem RearrangesMembers.same (known : ∀ m ∈ members, (shapes.lookup m.1).isSome = true) :
    RearrangesMembers shapes members (members.map fun m => (some m.1, m.2.node)) := by
  induction members with
  | nil => exact .nil
  | cons m members ih =>
    obtain ⟨here, others⟩ := List.forall_mem_cons.mp known
    obtain ⟨⟨presence, shape⟩, found⟩ := Option.isSome_iff_exists.mp here
    exact .cons found (.same shape m.2) (ih others)

theorem RearrangesMembers.keys (h : RearrangesMembers shapes members own) :
    own.map Prod.fst = members.map fun m => some m.1 := by
  induction members generalizing own with
  | nil =>
    cases h
    rfl
  | cons m members ih =>
    cases h with
    | cons known head tail => simp [ih tail]

theorem RearrangesMembers.lookup {name : String} {presence : Presence}
    (h : RearrangesMembers shapes members own)
    (known : shapes.lookup name = some (presence, shape)) :
    Option.Rel shape.Rearranges (members.lookup name) (own.lookup (some name)) := by
  induction members generalizing own with
  | nil =>
    cases h
    exact .none
  | cons m members ih =>
    cases h with
    | @cons _ first _ _ json node _ _ found head tail =>
      by_cases here : name = first
      · subst here
        obtain ⟨-, rfl⟩ := Prod.mk.inj (Option.some.inj (found.symm.trans known))
        simpa using Option.Rel.some head
      · have differ : some name ≠ some first := by simpa using here
        rw [lookup_cons_ne here, lookup_cons_ne differ]
        exact ih tail

theorem Rearranges.of_record (h : Rearranges (.record shapes) (.obj members) node)
    (distinct : (members.map Prod.fst).Nodup)
    (known : ∀ m ∈ members, (shapes.lookup m.1).isSome = true) :
    ∃ mixed, node = .obj mixed true ∧ Arranges shapes members mixed := by
  obtain ⟨own, foreign, mixed, rfl, each, unknown, mix⟩ : ∃ own foreign mixed,
      node = .obj mixed true ∧ RearrangesMembers shapes members own ∧
      (∀ m ∈ foreign, ∃ name, m.1 = some name ∧ shapes.lookup name = none) ∧
      mixed.Perm (own ++ foreign) := by
    cases h with
    | same => exact ⟨_, [], _, by rw [Json.node, memberNodes_eq], .same known, by simp, by simp⟩
    | record each unknown mix => exact ⟨_, _, _, rfl, each, unknown, mix⟩
  have absent : ∀ name, (shapes.lookup name).isSome = true → some name ∉ foreign.map Prod.fst := by
    intro name here hm
    obtain ⟨m, mem, eq⟩ := List.mem_map.mp hm
    obtain ⟨other, key, none⟩ := unknown m mem
    obtain rfl : name = other := Option.some.inj (eq.symm.trans key)
    simp [none] at here
  have once : ∀ name, (shapes.lookup name).isSome = true →
      ((own ++ foreign).map Prod.fst).count (some name) ≤ 1 := by
    intro name here
    have single : (members.map fun m => some m.1).Nodup := by
      simpa [Function.comp_def] using distinct.map (Option.some_injective _)
    rw [List.map_append, List.count_append, each.keys,
      List.count_eq_zero_of_not_mem (absent name here)]
    exact List.nodup_iff_count_le_one.mp single _
  refine ⟨mixed, rfl, ?_, fun name here => ?_, fun name presence shape found => ?_⟩
  · intro m hm
    rcases List.mem_append.mp (mix.subset hm) with hm | hm
    · have key : m.1 ∈ members.map fun m => some m.1 := each.keys ▸ List.mem_map_of_mem hm
      obtain ⟨_, -, eq⟩ := List.mem_map.mp key
      simp [← eq]
    · obtain ⟨name, eq, -⟩ := unknown m hm
      simp [eq]
  · rw [(mix.map _).count_eq]
    exact once name here
  · have here : (shapes.lookup name).isSome = true := by simp [found]
    rw [← lookup_eq_of_perm mix.symm (once name here), List.lookup_append,
      lookup_eq_none.mpr (absent name here), Option.or_none]
    exact each.lookup found

end Inversion

end Shape
end SavedGames.Json
