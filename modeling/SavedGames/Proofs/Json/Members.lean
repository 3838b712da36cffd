import Mathlib
import SavedGames.Proofs.Json.Record
import SavedGames.Proofs.Json.Tolerance

/-!
# Records with members missing, moved or added

A record is read from its members in any order, with foreign members among them and without members
that may be left out. A field whose member is taken out has the value that the record gives to an
absent field; a record without a member that has to be there is refused.
-/
namespace SavedGames.Json

variable {α : Type} {depth : Nat} {shape : Shape} {json : Json} {places : Places}

open Shape

/-- A record as it is written, field by field, with the values that are read once the members at
these places are taken out. -/
inductive Fields.Tolerates (depth : Nat) (places : Places) :
    {τ : List Type} → Fields τ → List (String × Presence × Shape) → List (String × Json) →
      Values τ → Prop where
  | nil : Tolerates depth places .nil [] [] ()
  | required {α : Type} {τ : List Type} {name : String} {read : Reader α} {fields : Fields τ}
      {shape : Shape} {shapes : List (String × Presence × Shape)} {json : Json}
      {members : List (String × Json)} {a : α} {values : Values τ}
      (value : read.Tolerates shape depth json (places.under (.member name)) a)
      (rest : Tolerates depth places fields shapes members values) :
      Tolerates depth places (.cons (.required name read) fields)
        ((name, .required, shape) :: shapes) ((name, json) :: members) (a, values)
  | present {α : Type} {τ : List Type} {field : Field α} {fields : Fields τ} {shape : Shape}
      {shapes : List (String × Presence × Shape)} {json : Json} {members : List (String × Json)}
      {a fallback : α} {values : Values τ}
      (value : field.read.Tolerates shape depth json (places.under (.member field.name)) a)
      (missing : field.absence.value? = some fallback)
      (rest : Tolerates depth places fields shapes members values) :
      Tolerates depth places (.cons field fields) ((field.name, .optional, shape) :: shapes)
        ((field.name, json) :: members) (places.kept field.name a fallback, values)
  | absent {α : Type} {τ : List Type} {field : Field α} {fields : Fields τ} {shape : Shape}
      {shapes : List (String × Presence × Shape)} {members : List (String × Json)} {a : α}
      {values : Values τ} (missing : field.absence.value? = some a)
      (rest : Tolerates depth places fields shapes members values) :
      Tolerates depth places (.cons field fields) ((field.name, .optional, shape) :: shapes)
        members (a, values)

namespace Fields

variable {τ : List Type} {fields : Fields τ} {shapes : List (String × Presence × Shape)}
  {members : List (String × Json)} {values : Values τ} {mixed : List (Option String × Node)}
  {room : Nat}

/-- A member that is not taken out if it has to be there, and below which nothing is taken out that
has to be there. -/
structure Meets (places : Places) (members : List (String × Json))
    (mixed : List (Option String × Node)) (name : String) (presence : Presence) (shape : Shape) :
    Prop where
  there : places [.member name] = true → presence = .optional
  below : places [.member name] = false → shape.AllOptional (places.under (.member name))
  holds : Option.Rel shape.Rearranges ((without.withoutMembers members places).lookup name)
    (mixed.lookup (some name))

section Lookup

variable {name : String} {presence : Presence}

/-- A member that is written and not taken out is found. -/
theorem lookup_written
    (holds : Option.Rel shape.Rearranges ((without.withoutMembers members places).lookup name)
      (mixed.lookup (some name)))
    (kept : places [.member name] = false) (written : members.lookup name = some json) :
    ∃ node, mixed.lookup (some name) = some node ∧
      shape.Rearranges (json.without (places.under (.member name))) node := by
  rw [lookup_withoutMembers, kept, if_neg Bool.false_ne_true, written] at holds
  revert holds
  cases mixed.lookup (some name) with
  | none => exact nofun
  | some node => exact fun | .some there => ⟨node, rfl, there⟩

theorem lookup_missing
    (holds : Option.Rel shape.Rearranges ((without.withoutMembers members places).lookup name)
      (mixed.lookup (some name)))
    (missing : places [.member name] = true ∨ members.lookup name = none) :
    mixed.lookup (some name) = none := by
  have gone : (without.withoutMembers members places).lookup name = none := by
    rw [lookup_withoutMembers]
    rcases missing with taken | absent
    · rw [if_pos taken]
    · rw [absent, Option.map_none, ite_self]
  rw [gone] at holds
  revert holds
  cases mixed.lookup (some name) with
  | none => exact fun _ => rfl
  | some node => exact nofun

theorem Meets.of_tail {first : String}
    (h : Meets places ((first, json) :: members) mixed name presence shape)
    (differ : name ≠ first) : Meets places members mixed name presence shape where
  there := h.there
  below := h.below
  holds := by simpa only [lookup_withoutMembers, lookup_cons_ne differ] using h.holds

theorem isSound_of_lookup {key : Option String} {node : Node}
    (sound : ∀ m ∈ mixed, m.2.isSound = true) (found : mixed.lookup key = some node) :
    node.isSound = true := by
  obtain ⟨before, after, rfl, -⟩ := List.lookup_eq_some_iff.mp found
  exact sound (key, node) (by simp)

/-- No name of a field comes twice, and everything follows the grammar. -/
theorem admits_of_count (named : ∀ m ∈ mixed, m.1.isSome = true)
    (once : ∀ name ∈ fields.names, (mixed.map Prod.fst).count (some name) ≤ 1)
    (sound : ∀ m ∈ mixed, m.2.isSound = true) : fields.Admits mixed := by
  induction mixed with
  | nil => trivial
  | cons m mixed ih =>
    obtain ⟨here, others⟩ := List.forall_mem_cons.mp named
    obtain ⟨follows, rest⟩ := List.forall_mem_cons.mp sound
    obtain ⟨_ | key, node⟩ := m
    · simp at here
    · refine ⟨?_, ih others (fun name hn => ?_) rest⟩
      · split
        · rename_i known
          have single := once key known
          rw [List.map_cons, List.count_cons_self] at single
          exact List.count_eq_zero.mp (by omega)
        · exact follows
      · exact (List.count_le_count_cons ..).trans (once name hn)

end Lookup

namespace Tolerates

/-- A field that is written if it has another value than an absent field. -/
theorem memberIf {α : Type} {field : Field α} {a fallback : α} {present : Bool}
    {all : List (String × Json)}
    (value : present = true →
      field.read.Tolerates shape depth json (places.under (.member field.name)) a)
    (none : present = false → a = fallback) (missing : field.absence.value? = some fallback)
    (rest : Tolerates depth places fields shapes members values)
    (split : all = Json.memberIf present field.name json ++ members) :
    Tolerates depth places (.cons field fields) ((field.name, .optional, shape) :: shapes) all
      (places.kept field.name a fallback, values) := by
  subst split
  cases present with
  | true => exact .present (value rfl) missing rest
  | false =>
    obtain rfl := none rfl
    rw [Places.kept_self]
    exact .absent missing rest

theorem names_shapes (h : Tolerates depth places fields shapes members values) :
    shapes.map Prod.fst = fields.names := by
  induction h with
  | nil => rfl
  | required _ _ ih | present _ _ _ ih | absent _ _ ih => simp [names, Field.required, ih]

theorem names_members (h : Tolerates depth places fields shapes members values) :
    (members.map Prod.fst).Sublist fields.names := by
  induction h with
  | nil => exact .slnil
  | required _ _ ih => exact ih.cons_cons _
  | present _ _ _ ih => exact ih.cons_cons _
  | absent _ _ ih => exact ih.cons _

theorem known_of_mem {name : String} (h : Tolerates depth places fields shapes members values)
    (named : name ∈ fields.names) : (shapes.lookup name).isSome = true := by
  rw [Option.isSome_iff_ne_none, Ne, lookup_eq_none, h.names_shapes]
  exact not_not.mpr named

/-- A later field has another name. -/
theorem ne_of_lookup {name other : String} {x : Presence × Shape}
    (h : Tolerates depth places fields shapes members values) (alone : name ∉ fields.names)
    (known : shapes.lookup other = some x) : other ≠ name := by
  rintro rfl
  rw [← h.names_shapes, ← lookup_eq_none, known] at alone
  cases alone

theorem not_written {name : String} (h : Tolerates depth places fields shapes members values)
    (alone : name ∉ fields.names) : members.lookup name = none :=
  lookup_eq_none.mpr fun mem => alone (h.names_members.subset mem)

/-- What holds of all members of a record holds of those of the later fields. -/
theorem meets_tail {first : String} {x : Presence × Shape}
    (rest : Tolerates depth places fields shapes members values) (alone : first ∉ fields.names)
    (meets : ∀ name presence shape, ((first, x) :: shapes).lookup name = some (presence, shape) →
      Meets places ((first, json) :: members) mixed name presence shape) :
    ∀ name presence shape, shapes.lookup name = some (presence, shape) →
      Meets places members mixed name presence shape := by
  intro name presence shape known
  have differ := rest.ne_of_lookup alone known
  exact (meets name presence shape (by rwa [lookup_cons_ne differ])).of_tail differ

theorem finds (h : Tolerates depth places fields shapes members values)
    (nodup : fields.names.Nodup) (hr : depth ≤ room) (sound : ∀ m ∈ mixed, m.2.isSound = true)
    (meets : ∀ name presence shape, shapes.lookup name = some (presence, shape) →
      Meets places members mixed name presence shape) :
    fields.Finds room mixed values := by
  induction h with
  | nil => trivial
  | @required _ _ name read fields shape shapes json members a values value rest ih =>
    obtain ⟨alone, nodup⟩ := List.nodup_cons.mp nodup
    have here := meets name .required shape List.lookup_cons_self
    have kept : places [.member name] = false :=
      Bool.eq_false_iff.mpr fun taken => nomatch here.there taken
    obtain ⟨node, found, arranged⟩ := lookup_written here.holds kept List.lookup_cons_self
    refine ⟨?_, ih nodup (rest.meets_tail alone meets)⟩
    simpa [Field.Finds, Field.required, found] using
      value.gives (here.below kept) node arranged (isSound_of_lookup sound found) room hr
  | @present _ _ field fields shape shapes json members a fallback values value missing rest ih =>
    obtain ⟨alone, nodup⟩ := List.nodup_cons.mp nodup
    have here := meets field.name .optional shape List.lookup_cons_self
    refine ⟨?_, ih nodup (rest.meets_tail alone meets)⟩
    cases kept : places [.member field.name] with
    | true =>
      have found := lookup_missing here.holds (.inl kept)
      simpa [Field.Finds, found, Places.kept, kept] using missing
    | false =>
      obtain ⟨node, found, arranged⟩ := lookup_written here.holds kept List.lookup_cons_self
      simpa [Field.Finds, found, Places.kept, kept] using
        value.gives (here.below kept) node arranged (isSound_of_lookup sound found) room hr
  | @absent _ _ field fields shape shapes members a values missing rest ih =>
    obtain ⟨alone, nodup⟩ := List.nodup_cons.mp nodup
    have here := meets field.name .optional shape List.lookup_cons_self
    have found := lookup_missing here.holds (.inr (rest.not_written alone))
    refine ⟨by simpa [Field.Finds, found] using missing,
      ih nodup fun other presence shape known => ?_⟩
    exact meets other presence shape (by rwa [lookup_cons_ne (rest.ne_of_lookup alone known)])

/-- The members do not give every field a value if one that has to be there is missing, or if one
that is there cannot be read. -/
theorem not_finds {name : String} {presence : Presence} {others : Values τ}
    (h : Tolerates depth places fields shapes members values) (nodup : fields.names.Nodup)
    (known : shapes.lookup name = some (presence, shape))
    (written : members.lookup name = some json)
    (bad : presence = .required ∧ mixed.lookup (some name) = none ∨
      ∃ path node, shape.Misses json (places.under (.member name)) path ∧
        mixed.lookup (some name) = some node ∧
        shape.Rearranges (json.without (places.under (.member name))) node) :
    ¬ fields.Finds room mixed others := by
  intro finds
  induction h with
  | nil => simp at known
  | @required _ _ first read fields shape' shapes json' members a values value rest ih =>
    obtain ⟨alone, nodup⟩ := List.nodup_cons.mp nodup
    by_cases here : name = first
    · subst here
      obtain ⟨rfl, rfl⟩ : .required = presence ∧ shape' = shape := by simpa using known
      obtain rfl : json' = json := by simpa using written
      rcases bad with ⟨-, missing⟩ | ⟨path, node, missed, found, arranged⟩
      · simpa [Field.Finds, Field.required, missing, Absence.value?] using finds.1
      · have read := finds.1
        simp only [Field.Finds, Field.required, found] at read
        exact value.refuses path missed node arranged room _ read
    · exact ih nodup (by rwa [lookup_cons_ne here] at known)
        (by rwa [lookup_cons_ne here] at written) finds.2
  | @present _ _ field fields shape' shapes json' members a fallback values value missing rest ih =>
    obtain ⟨alone, nodup⟩ := List.nodup_cons.mp nodup
    by_cases here : name = field.name
    · subst here
      obtain ⟨rfl, rfl⟩ : .optional = presence ∧ shape' = shape := by simpa using known
      obtain rfl : json' = json := by simpa using written
      rcases bad with ⟨required, -⟩ | ⟨path, node, missed, found, arranged⟩
      · cases required
      · have read := finds.1
        simp only [Field.Finds, found] at read
        exact value.refuses path missed node arranged room _ read
    · exact ih nodup (by rwa [lookup_cons_ne here] at known)
        (by rwa [lookup_cons_ne here] at written) finds.2
  | @absent _ _ field fields shape' shapes members a values missing rest ih =>
    obtain ⟨alone, nodup⟩ := List.nodup_cons.mp nodup
    have here : name ≠ field.name := by
      rintro rfl
      simp [rest.not_written alone] at written
    exact ih nodup (by rwa [lookup_cons_ne here] at known) written finds.2

end Tolerates
end Fields

namespace Shape

variable {shapes : List (String × Presence × Shape)} {name : String} {presence : Presence}

theorem member?_here (known : shapes.lookup name = some (presence, shape)) :
    (record shapes).member? [.member name] = some presence := by
  simp [member?, known]

theorem member?_below (known : shapes.lookup name = some (presence, shape)) (step : Step)
    (path : Place) :
    (record shapes).member? (.member name :: step :: path) = shape.member? (step :: path) := by
  simp [member?, known]

/-- Below a member that is not taken out itself, only members that may be left out are missing. -/
theorem AllOptional.under (h : (record shapes).AllOptional places)
    (known : shapes.lookup name = some (presence, shape)) (kept : places [.member name] = false) :
    shape.AllOptional (places.under (.member name)) := by
  intro path taken
  cases path with
  | nil => exact absurd taken (by simp [Places.under, kept])
  | cons step path => exact member?_below known step path ▸ h _ taken

/-- The missing member is one of the record, or it is missing in one of them. -/
theorem Misses.of_record {members : List (String × Json)} {path : Place}
    (h : (record shapes).Misses (.obj members) places path) :
    ∃ name presence shape json, shapes.lookup name = some (presence, shape) ∧
      members.lookup name = some json ∧
      (presence = .required ∧ places [.member name] = true ∨
        places [.member name] = false ∧
          ∃ below, shape.Misses json (places.under (.member name)) below) := by
  have required := h.required
  have present := h.present
  cases path with
  | nil => simp [member?_nil] at required
  | cons step path =>
    cases step with
    | item i => simp [member?] at required
    | member name =>
      cases known : shapes.lookup name with
      | none => cases path <;> simp [member?, known] at required
      | some found =>
        obtain ⟨presence, shape⟩ := found
        cases written : members.lookup name with
        | none => simp [at?, written] at present
        | some json =>
          refine ⟨name, presence, shape, json, known, written, ?_⟩
          cases path with
          | nil =>
            rw [member?_here known, Option.some.injEq] at required
            exact .inl ⟨required, h.taken⟩
          | cons step path =>
            refine .inr ⟨Bool.eq_false_iff.mpr fun taken => ?_, step :: path,
              h.under (member?_below known step path) (by simp [at?, written])⟩
            simpa using h.outermost _ taken (by simp)

end Shape

namespace Fields.Tolerates

variable {τ : List Type} {fields : Fields τ} {shapes : List (String × Presence × Shape)}
  {members : List (String × Json)} {values : Values τ} {mixed : List (Option String × Node)}
  {room : Nat}

theorem finds_of_allOptional (h : fields.Tolerates depth places shapes members values)
    (nodup : fields.names.Nodup) (hr : depth ≤ room) (sound : ∀ m ∈ mixed, m.2.isSound = true)
    (arranges : Arranges shapes (without.withoutMembers members places) mixed)
    (spared : (Shape.record shapes).AllOptional places) : fields.Finds room mixed values := by
  refine h.finds nodup hr sound fun name presence shape known => ?_
  refine ⟨fun taken => ?_, spared.under known, arranges.holds name presence shape known⟩
  exact Option.some.inj (member?_here known ▸ spared _ taken)

theorem not_finds_of_misses {path : Place} {others : Values τ}
    (h : fields.Tolerates depth places shapes members values) (nodup : fields.names.Nodup)
    (arranges : Arranges shapes (without.withoutMembers members places) mixed)
    (missed : (Shape.record shapes).Misses (.obj members) places path) :
    ¬ fields.Finds room mixed others := by
  obtain ⟨name, presence, shape, json, known, written, missing⟩ := missed.of_record
  have holds := arranges.holds name presence shape known
  refine h.not_finds nodup known written ?_
  rcases missing with ⟨required, taken⟩ | ⟨kept, below, missed⟩
  · exact .inl ⟨required, lookup_missing holds (.inl taken)⟩
  · obtain ⟨node, found, inside⟩ := lookup_written holds kept written
    exact .inr ⟨below, node, missed, found, inside⟩

end Fields.Tolerates

namespace Reader

theorem isSound_of_membersSound {members : List (Option String × Node)}
    (h : Node.membersSound members = true) : ∀ m ∈ members, m.2.isSound = true := by
  induction members with
  | nil => simp
  | cons m members ih =>
    rw [Node.membersSound, Bool.and_eq_true] at h
    exact List.forall_mem_cons.mpr ⟨h.1, ih h.2⟩

theorem tolerates_record {τ : List Type} {fields : Fields τ} {build : Values τ → α} {a : α}
    {shapes : List (String × Presence × Shape)} {members : List (String × Json)} (name : String)
    (values : Values τ) (built : build values = a) (nodup : fields.names.Nodup)
    (h : fields.Tolerates depth places shapes members values) :
    (record name fields build).Tolerates (.record shapes) (depth + 1) (.obj members) places a := by
  have left : ∀ node, (Shape.record shapes).Rearranges ((Json.obj members).without places) node →
      ∃ mixed, node = .obj mixed true ∧
        Arranges shapes (without.withoutMembers members places) mixed := by
    intro node arranged
    have written : ((without.withoutMembers members places).map Prod.fst).Sublist fields.names :=
      (withoutMembers_names members).trans h.names_members
    refine arranged.of_record (nodup.sublist written) fun m hm => ?_
    exact h.known_of_mem (written.subset (List.mem_map_of_mem hm))
  refine ⟨fun spared node arranged sound room hr => ?_, fun path missed node arranged room b => ?_⟩
  · obtain ⟨room, rfl⟩ := Nat.exists_eq_add_of_le' (Nat.one_le_of_lt hr)
    obtain ⟨mixed, rfl, arranges⟩ := left node arranged
    have sound := isSound_of_membersSound (by simpa [Node.isSound] using sound)
    have admits := Fields.admits_of_count arranges.named
      (fun name hn => arranges.once name (h.known_of_mem hn)) sound
    have read := Fields.readMembers_eq nodup admits
      (h.finds_of_allOptional nodup (Nat.le_of_succ_le_succ hr) sound arranges spared)
    simp [record, read, Except.map, built]
  · intro ok
    obtain ⟨mixed, rfl, arranges⟩ := left node arranged
    cases room with
    | zero => simp [record] at ok
    | succ room =>
      cases read : fields.readMembers room mixed true with
      | error fault => simp [record, read, Except.map] at ok
      | ok others =>
        exact h.not_finds_of_misses nodup arranges missed (Fields.finds_of_readMembers nodup read)

end Reader

end SavedGames.Json
