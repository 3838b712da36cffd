import Mathlib
import SavedGames.Proofs.Json.Reading
import SavedGames.Proofs.Json.Shape

/-!
# Readers of arranged and incomplete values

`read.Tolerates shape depth json places a` says what the reader makes of the value once the members
at these places are taken out, however the records are arranged: it gives `a` if all of them may be
left out, and refuses if one has to be there. Each reader has a law for the shape that its value is
written in.
-/
namespace SavedGames.Json

variable {α β : Type} {depth : Nat} {shape : Shape} {json : Json} {places : Places}

namespace Shape

/-- Every place is that of a member that may be left out. -/
def AllOptional (shape : Shape) (places : Places) : Prop :=
  ∀ path, places path = true → shape.member? path = some .optional

/-- A member that has to be there is taken out by itself. -/
structure Misses (shape : Shape) (json : Json) (places : Places) (path : Place) : Prop where
  taken : places path = true
  required : shape.member? path = some .required
  present : (json.at? path).isSome = true
  outermost : ∀ outer, places outer = true → outer <+: path → outer = path

theorem member?_nil : ∀ shape : Shape, shape.member? [] = none
  | whole | list _ | variant _ | record _ => rfl

/-- A member that is missing is missing as seen from the step above it, too. -/
theorem Misses.under {step : Step} {path : Place} {outer inner : Shape} {json value : Json}
    (h : outer.Misses json places (step :: path))
    (required : outer.member? (step :: path) = inner.member? path)
    (there : json.at? (step :: path) = value.at? path) :
    inner.Misses value (places.under step) path where
  taken := h.taken
  required := required ▸ h.required
  present := there ▸ h.present
  outermost := fun prior taken before =>
    (List.cons.inj (h.outermost (step :: prior) taken (List.cons_prefix_cons.mpr ⟨rfl, before⟩))).2

theorem Misses.of_list {items : List Json} {path : Place}
    (h : (list shape).Misses (.arr items) places path) :
    ∃ i item below, items[i]? = some item ∧ shape.Misses item (places.under (.item i)) below := by
  have required := h.required
  have present := h.present
  cases path with
  | nil => simp [member?_nil] at required
  | cons step path =>
    cases step with
    | member name => simp [member?] at required
    | item i =>
      cases there : items[i]? with
      | none => simp [at?, there] at present
      | some item => exact ⟨i, item, path, there, h.under rfl (by simp [at?, there])⟩

/-- The name of its kind is no member of a value that can be missing. -/
theorem Misses.of_variant {kinds : List (String × Shape)} {name : String} {path : Place}
    (known : kinds.lookup name = some shape)
    (h : (variant kinds).Misses (.obj [(name, json)]) places path) :
    places [.member name] = false ∧
      ∃ below, shape.Misses json (places.under (.member name)) below := by
  have required := h.required
  have present := h.present
  cases path with
  | nil => simp [member?_nil] at required
  | cons step path =>
    cases step with
    | item i => simp [member?] at required
    | member other =>
      obtain rfl : other = name := by
        by_contra differ
        simp [at?, lookup_cons_ne differ] at present
      refine ⟨Bool.eq_false_iff.mpr fun taken => ?_, path,
        h.under (by simp [member?, known]) (by simp [at?])⟩
      obtain ⟨-, rfl⟩ := List.cons.inj (h.outermost _ taken (by simp))
      simp [member?, known, member?_nil] at required

end Shape

open Shape

structure Reader.Tolerates (read : Reader α) (shape : Shape) (depth : Nat) (json : Json)
    (places : Places) (a : α) : Prop where
  gives : shape.AllOptional places → ∀ node, shape.Rearranges (json.without places) node →
    node.isSound = true → read.Gives depth node a
  refuses : ∀ path, shape.Misses json places path →
    ∀ node, shape.Rearranges (json.without places) node → ∀ room b, read room node ≠ .ok b

namespace Reader

variable {read : Reader α} {a : α}

theorem Gives.tolerates (h : read.Gives depth json.node a) :
    read.Tolerates .whole depth json places a where
  gives spared node arranged _ := by
    have empty : places = .none := by
      funext path
      cases taken : places path with
      | false => rfl
      | true => exact absurd (spared path taken) (by simp [member?])
    rw [empty, without_none] at arranged
    exact arranged.of_whole ▸ h
  refuses path missed := absurd missed.required (by simp [member?])

theorem Tolerates.map (f : α → β) (h : read.Tolerates shape depth json places a) :
    (read.map f).Tolerates shape depth json places (f a) where
  gives spared node arranged sound := (h.gives spared node arranged sound).map f
  refuses path missed node arranged room b ok := by
    cases inner : read room node with
    | error fault => simp [Reader.map, inner, Except.map] at ok
    | ok a => exact h.refuses path missed node arranged room a inner

/-- A value that is written as an object may be missing. -/
theorem tolerates_optional {write : α → Json} {reset : Places → α → α} {o : Option α}
    (h : ∀ a ∈ o, read.Tolerates shape depth (write a) places (reset places a))
    (object : ∀ a, ∃ members, write a = .obj members) :
    read.optional.Tolerates shape depth (Json.optional write o) places (o.map (reset places)) := by
  cases o with
  | none =>
    refine ⟨fun _ node arranged _ room _ => ?_, fun path missed => ?_⟩
    · obtain rfl := Rearranges.of_null arranged
      rfl
    · have required := missed.required
      cases path with
      | nil => simp [member?_nil] at required
      | cons step path => exact absurd missed.present (by simp [Json.optional, at?])
  | some a =>
    have there := h a rfl
    have step (node : Node) (room : Nat)
        (arranged : shape.Rearranges ((write a).without places) node) :
        read.optional room node = (read room node).map some := by
      obtain ⟨members, eq⟩ := object a
      rw [eq] at arranged
      have present := Rearranges.ne_null arranged
      cases node <;> first | rfl | exact absurd rfl present
    refine ⟨fun spared node arranged sound room hr => ?_,
      fun path missed node arranged room b => ?_⟩
    · rw [step node room arranged, there.gives spared node arranged sound room hr]
      rfl
    · intro ok
      rw [step node room arranged] at ok
      cases inner : read room node with
      | error fault => simp [inner, Except.map] at ok
      | ok a => exact there.refuses path missed node arranged room a inner

/-- A list is read if each item is. -/
theorem all_eq_ok {read : Node → Except Fault α} {nodes : List Node} {as : List α} :
    all read nodes = .ok as ↔ List.Forall₂ (fun node a => read node = .ok a) nodes as := by
  induction nodes generalizing as with
  | nil => cases as <;> simp [all]
  | cons node nodes ih =>
    cases first : read node with
    | error fault => cases as <;> simp [all, first, bind, Except.bind]
    | ok a =>
      cases others : all read nodes with
      | error fault =>
        have none (bs : List α) :
            ¬ List.Forall₂ (fun node a => read node = .ok a) nodes bs := by simp [← ih, others]
        cases as <;> simp [all, first, others, none, bind, Except.bind]
      | ok bs =>
        cases as with
        | nil => simp [all, first, others, bind, Except.bind, pure, Except.pure]
        | cons b as =>
          simp [all, first, others, ← ih, bind, Except.bind, pure, Except.pure]

theorem isSound_of_areSound {nodes : List Node} (h : Node.areSound nodes = true) :
    ∀ node ∈ nodes, node.isSound = true := by
  induction nodes with
  | nil => simp
  | cons node nodes ih =>
    rw [Node.areSound, Bool.and_eq_true] at h
    exact List.forall_mem_cons.mpr ⟨h.1, ih h.2⟩

theorem tolerates_list {write : α → Json} {reset : Places → α → α} {as : List α}
    (h : ∀ a ∈ as, ∀ places, read.Tolerates shape depth (write a) places (reset places a)) :
    (list read).Tolerates (.list shape) (depth + 1) (.arr (as.map write)) places
      (as.mapIdx fun i => reset (places.under (.item i))) where
  gives spared node arranged sound room hr := by
    obtain ⟨room, rfl⟩ := Nat.exists_eq_add_of_le' (Nat.one_le_of_lt hr)
    rw [without_arr] at arranged
    obtain ⟨nodes, rfl, each⟩ := arranged.of_list
    obtain ⟨size, each⟩ := List.forall₂_iff_get.mp each
    have sound := isSound_of_areSound (by simpa [Node.isSound] using sound)
    have items : all (read room) nodes =
        .ok (as.mapIdx fun i => reset (places.under (.item i))) := by
      refine all_eq_ok.mpr (List.forall₂_iff_get.mpr ⟨by simpa using size.symm, fun i hn ha => ?_⟩)
      have inside : i < as.length := by simpa using ha
      have there := each i (by simpa using inside) hn
      simp only [List.get_eq_getElem, List.getElem_mapIdx, List.getElem_map] at there ⊢
      exact (h _ (List.getElem_mem inside) _).gives (fun path => spared (.item i :: path)) _ there
        (sound _ (List.getElem_mem hn)) room (by omega)
    simp [list, items, bind, Except.bind]
  refuses path missed node arranged room b ok := by
    obtain ⟨i, item, below, there, missed⟩ := missed.of_list
    rw [List.getElem?_map, Option.map_eq_some_iff] at there
    obtain ⟨a, there, rfl⟩ := there
    obtain ⟨inside, rfl⟩ := List.getElem?_eq_some_iff.mp there
    rw [without_arr] at arranged
    obtain ⟨nodes, rfl, each⟩ := arranged.of_list
    obtain ⟨size, each⟩ := List.forall₂_iff_get.mp each
    have hn : i < nodes.length := by
      rw [← size]
      simpa using inside
    have arranged := each i (by simpa using inside) hn
    simp only [List.get_eq_getElem, List.getElem_mapIdx, List.getElem_map] at arranged
    cases room with
    | zero => simp [list] at ok
    | succ room =>
      cases items : all (read room) nodes with
      | error fault => simp [list, items, bind, Except.bind] at ok
      | ok bs =>
        obtain ⟨size, each⟩ := List.forall₂_iff_get.mp (all_eq_ok.mp items)
        exact (h _ (List.getElem_mem inside) _).refuses below missed _ arranged room _
          (each i hn (size ▸ hn))

theorem tolerates_choice {alternatives : List (Alternative α)} {kinds : List (String × Shape)}
    {name : String} {a : α}
    (found : Alternative.named? alternatives name = .ok (.holding name read))
    (known : kinds.lookup name = some shape)
    (h : read.Tolerates shape depth json (places.under (.member name)) a) :
    (choice alternatives).Tolerates (.variant kinds) (depth + 1) (.obj [(name, json)]) places
      a := by
  have below (path : Place) : (Shape.variant kinds).member? (.member name :: path) =
      shape.member? path := by simp [member?, known]
  have there (kept : places [.member name] = false) : (Json.obj [(name, json)]).without places =
      .obj [(name, json.without (places.under (.member name)))] := by
    simp [without, without.withoutMembers, kept]
  refine ⟨fun spared node arranged sound room hr => ?_, fun path missed node arranged room b => ?_⟩
  · obtain ⟨room, rfl⟩ := Nat.exists_eq_add_of_le' (Nat.one_le_of_lt hr)
    have kept : places [.member name] = false := by
      refine Bool.eq_false_iff.mpr fun taken => ?_
      simpa [below, member?_nil] using spared _ taken
    rw [there kept] at arranged
    obtain ⟨content, rfl, inside⟩ := arranged.of_variant known
    have sound : content.isSound = true := by simpa [Node.isSound, Node.membersSound] using sound
    have read := h.gives (fun path taken => below path ▸ spared _ taken) content inside sound room
      (by omega)
    simp [choice, found, Alternative.ofContent, read, bind, Except.bind]
  · intro ok
    obtain ⟨kept, below, missed⟩ := missed.of_variant known
    rw [there kept] at arranged
    obtain ⟨content, rfl, inside⟩ := arranged.of_variant known
    cases room with
    | zero => simp [choice] at ok
    | succ room =>
      cases inner : read room content with
      | error fault =>
        simp [choice, found, Alternative.ofContent, inner, bind, Except.bind] at ok
      | ok a => exact h.refuses below missed content inside room a inner

end Reader

end SavedGames.Json
