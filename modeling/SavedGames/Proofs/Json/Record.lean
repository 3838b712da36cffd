import Mathlib
import SavedGames.Proofs.Json.Reading
import SavedGames.Proofs.Lists

/-!
# Laws of the records

An object gives each field of a record what stands under the name of the field, wherever it stands.
A member of another name is passed over, as long as it follows the grammar.
-/
namespace SavedGames.Json

variable {α : Type} {τ : List Type} {depth room : Nat} {members : List (Option String × Node)}

/-- What an object that leaves the field out stands for. -/
def Absence.value? : Absence α → Option α
  | refused => none
  | fromObject a => some a
  | fromAny a => some a

namespace Field

variable {field : Field α} {a : α}

/-- The value that the members give to the field. -/
def Finds (field : Field α) (room : Nat) (members : List (Option String × Node)) (a : α) : Prop :=
  match members.lookup (some field.name) with
  | some node => field.read room node = .ok a
  | none => field.absence.value? = some a

theorem finds_cons_self {node : Node} :
    field.Finds room ((some field.name, node) :: members) a ↔ field.read room node = .ok a := by
  simp [Finds]

theorem finds_cons_ne {name : String} {node : Node} (other : field.name ≠ name) :
    field.Finds room ((some name, node) :: members) a ↔ field.Finds room members a := by
  have differ : some field.name ≠ some name := by simpa using other
  rw [Finds, Finds, lookup_cons_ne differ]

theorem finds_absent (absent : some field.name ∉ members.map Prod.fst) :
    field.Finds room members a ↔ field.absence.value? = some a := by
  have none : members.lookup (some field.name) = none := lookup_eq_none.mpr absent
  simp [Finds, none]

end Field

namespace Fields

variable {fields : Fields τ} {values : Values τ}

def names : {τ : List Type} → Fields τ → List String
  | _, nil => []
  | _, cons field fields => field.name :: fields.names

def Finds (room : Nat) (members : List (Option String × Node)) :
    {τ : List Type} → Fields τ → Values τ → Prop
  | _, nil, _ => True
  | _, cons field fields, (a, as) => field.Finds room members a ∧ fields.Finds room members as

/-- A field has its value already and comes no more, or it will find it among the members. -/
def Awaits (room : Nat) (members : List (Option String × Node)) :
    {τ : List Type} → Fields τ → Draft τ → Values τ → Prop
  | _, nil, _, _ => True
  | _, cons field fields, (some b, draft), (a, as) =>
    (b = a ∧ some field.name ∉ members.map Prod.fst) ∧ fields.Awaits room members draft as
  | _, cons field fields, (none, draft), (a, as) =>
    field.Finds room members a ∧ fields.Awaits room members draft as

/-- No name of a field comes twice, and members of other names can be passed over. -/
def Admits (fields : Fields τ) : List (Option String × Node) → Prop
  | [] => True
  | (none, _) :: _ => False
  | (some name, node) :: members =>
    (if name ∈ fields.names then some name ∉ members.map Prod.fst else node.isSound) ∧
      fields.Admits members

theorem awaits_blank (h : fields.Finds room members values) :
    fields.Awaits room members fields.blank values := by
  induction fields with
  | nil => trivial
  | cons field fields ih => exact ⟨h.1, ih h.2⟩

theorem Finds.cons {name : String} {node : Node} (h : fields.Finds room members values)
    (other : name ∉ fields.names) :
    fields.Finds room ((some name, node) :: members) values := by
  induction fields with
  | nil => trivial
  | cons field fields ih =>
    obtain ⟨here, others⟩ := not_or.mp (List.mem_cons.not.mp other)
    exact ⟨(Field.finds_cons_ne (Ne.symm here)).mpr h.1, ih h.2 others⟩

theorem Awaits.skip {draft : Draft τ} {name : String} {node : Node}
    (h : fields.Awaits room ((some name, node) :: members) draft values)
    (other : name ∉ fields.names) : fields.Awaits room members draft values := by
  induction fields with
  | nil => trivial
  | cons field fields ih =>
    obtain ⟨here, others⟩ := not_or.mp (List.mem_cons.not.mp other)
    obtain ⟨found, draft⟩ := draft
    cases found with
    | none => exact ⟨(Field.finds_cons_ne (Ne.symm here)).mp h.1, ih h.2 others⟩
    | some b =>
      obtain ⟨⟨rfl, absent⟩, h⟩ := h
      exact ⟨⟨rfl, fun hm => absent (List.mem_cons_of_mem _ hm)⟩, ih h others⟩

theorem place?_other {draft : Draft τ} {name : String} {node : Node}
    (other : name ∉ fields.names) : fields.place? room name node draft = none := by
  induction fields with
  | nil => rfl
  | cons field fields ih =>
    obtain ⟨here, others⟩ := not_or.mp (List.mem_cons.not.mp other)
    obtain ⟨found, draft⟩ := draft
    simp [place?, Ne.symm here, ih others]

/-- A member of a known name goes to the field of this name, which has no value yet. -/
theorem place?_known {draft : Draft τ} {name : String} {node : Node}
    (nodup : fields.names.Nodup) (known : name ∈ fields.names)
    (once : some name ∉ members.map Prod.fst)
    (h : fields.Awaits room ((some name, node) :: members) draft values) :
    ∃ next, fields.place? room name node draft = some (.ok next) ∧
      fields.Awaits room members next values := by
  induction fields with
  | nil => simp [names] at known
  | cons field fields ih =>
    obtain ⟨alone, nodup⟩ := List.nodup_cons.mp nodup
    obtain ⟨found, draft⟩ := draft
    obtain ⟨a, as⟩ := values
    by_cases here : field.name = name
    · subst here
      cases found with
      -- a field that has its value comes no more
      | some b => exact absurd (List.mem_cons_self) h.1.2
      | none =>
        have read := Field.finds_cons_self.mp h.1
        refine ⟨(some a, draft), ?_, ⟨rfl, once⟩, h.2.skip alone⟩
        simp [place?, read, Except.map]
    · have later : name ∈ fields.names := (List.mem_cons.mp known).resolve_left (Ne.symm here)
      cases found with
      | some b =>
        obtain ⟨⟨rfl, absent⟩, h⟩ := h
        obtain ⟨next, placed, awaits⟩ := ih nodup later h
        refine ⟨(some b, next), by simp [place?, here, placed, Except.map], ⟨rfl, ?_⟩, awaits⟩
        exact fun hm => absent (List.mem_cons_of_mem _ hm)
      | none =>
        obtain ⟨next, placed, awaits⟩ := ih nodup later h.2
        refine ⟨(none, next), by simp [place?, here, placed, Except.map], ?_, awaits⟩
        exact (Field.finds_cons_ne here).mp h.1

theorem placeAll_eq {draft : Draft τ} (nodup : fields.names.Nodup) (admits : fields.Admits members)
    (h : fields.Awaits room members draft values) :
    ∃ next, fields.placeAll room draft members = .ok next ∧ fields.Awaits room [] next values := by
  induction members generalizing draft with
  | nil => exact ⟨draft, rfl, h⟩
  | cons member members ih =>
    obtain ⟨_ | name, node⟩ := member
    · exact admits.elim
    · obtain ⟨here, admits⟩ := admits
      by_cases known : name ∈ fields.names
      · rw [if_pos known] at here
        obtain ⟨draft, placed, awaits⟩ := place?_known nodup known here h
        obtain ⟨next, run, awaits⟩ := ih admits awaits
        exact ⟨next, by simp [placeAll, placed, run, bind, Except.bind], awaits⟩
      · rw [if_neg known] at here
        obtain ⟨next, run, awaits⟩ := ih admits (h.skip known)
        exact ⟨next, by simp [placeAll, place?_other known, here, run], awaits⟩

theorem complete_eq {draft : Draft τ} (h : fields.Awaits room [] draft values) :
    fields.complete draft = .ok values := by
  induction fields with
  | nil => rfl
  | cons field fields ih =>
    obtain ⟨found, draft⟩ := draft
    obtain ⟨a, as⟩ := values
    cases found with
    | some b =>
      obtain ⟨⟨rfl, -⟩, h⟩ := h
      simp only [complete, ih h]
      rfl
    | none =>
      have value : field.absence.value? = some a := h.1
      simp only [complete, ih h.2]
      cases absence : field.absence with
      | refused => simp [absence, Absence.value?] at value
      | fromObject b | fromAny b =>
        obtain rfl : b = a := by simpa [absence, Absence.value?] using value
        rfl

/-- An object is read by the names of the fields alone. -/
theorem readMembers_eq (nodup : fields.names.Nodup) (admits : fields.Admits members)
    (h : fields.Finds room members values) :
    fields.readMembers room members true = .ok values := by
  obtain ⟨draft, run, awaits⟩ := placeAll_eq nodup admits (awaits_blank h)
  simp [readMembers, run, complete_eq awaits, bind, Except.bind]

section Converse

theorem finds_of_awaits_blank (h : fields.Awaits room members fields.blank values) :
    fields.Finds room members values := by
  induction fields with
  | nil => trivial
  | cons field fields ih => exact ⟨h.1, ih h.2⟩

theorem Awaits.cons {draft : Draft τ} {name : String} {node : Node}
    (h : fields.Awaits room members draft values) (other : name ∉ fields.names) :
    fields.Awaits room ((some name, node) :: members) draft values := by
  induction fields with
  | nil => trivial
  | cons field fields ih =>
    obtain ⟨here, others⟩ := not_or.mp (List.mem_cons.not.mp other)
    obtain ⟨found, draft⟩ := draft
    cases found with
    | none => exact ⟨(Field.finds_cons_ne (Ne.symm here)).mpr h.1, ih h.2 others⟩
    | some b =>
      obtain ⟨⟨rfl, absent⟩, h⟩ := h
      exact ⟨⟨rfl, by simpa [Ne.symm here] using absent⟩, ih h others⟩

theorem not_mem_names_of_place? {draft : Draft τ} {name : String} {node : Node}
    (h : fields.place? room name node draft = none) : name ∉ fields.names := by
  induction fields with
  | nil => simp [names]
  | cons field fields ih =>
    obtain ⟨found, draft⟩ := draft
    by_cases here : field.name = name
    · simp [place?, here] at h
    · simp only [place?, if_neg here, Option.map_eq_none_iff] at h
      simpa [names, Ne.symm here] using ih h

theorem awaits_of_place? {draft next : Draft τ} {name : String} {node : Node}
    (nodup : fields.names.Nodup) (placed : fields.place? room name node draft = some (.ok next))
    (h : fields.Awaits room members next values) :
    fields.Awaits room ((some name, node) :: members) draft values := by
  induction fields with
  | nil => simp [place?] at placed
  | cons field fields ih =>
    obtain ⟨alone, nodup⟩ := List.nodup_cons.mp nodup
    obtain ⟨found, draft⟩ := draft
    obtain ⟨a, as⟩ := values
    by_cases here : field.name = name
    · subst here
      cases found with
      | some b => simp [place?] at placed
      | none =>
        cases read : field.read room node with
        | error fault => simp [place?, read, Except.map] at placed
        | ok b =>
          simp only [place?, read, Except.map, if_true, Option.isSome_none, Bool.false_eq_true,
            if_false, Option.some.injEq] at placed
          obtain rfl : (some b, draft) = next := Except.ok.inj placed
          obtain ⟨⟨rfl, -⟩, h⟩ := h
          exact ⟨Field.finds_cons_self.mpr read, h.cons alone⟩
    · simp only [place?, if_neg here, Option.map_eq_some_iff] at placed
      obtain ⟨later, placed, eq⟩ := placed
      cases later with
      | error fault => simp [Except.map] at eq
      | ok rest =>
        obtain rfl : (found, rest) = next := Except.ok.inj eq
        cases found with
        | none => exact ⟨(Field.finds_cons_ne here).mpr h.1, ih nodup placed h.2⟩
        | some b =>
          obtain ⟨⟨rfl, absent⟩, h⟩ := h
          exact ⟨⟨rfl, by simpa [here] using absent⟩, ih nodup placed h⟩

theorem complete_cons {field : Field α} (found : Option α) (draft : Draft τ) :
    complete (cons field fields) (found, draft) =
      match found.or field.absence.value? with
      | some a => (fields.complete draft).map fun as => (a, as)
      | none => .error (.unfit (.missingField field.name)) := by
  cases found <;> cases absence : field.absence <;> cases rest : fields.complete draft <;>
    simp only [complete, absence, rest] <;> rfl

theorem awaits_of_complete {draft : Draft τ} (h : fields.complete draft = .ok values) :
    fields.Awaits room [] draft values := by
  induction fields with
  | nil => trivial
  | cons field fields ih =>
    obtain ⟨found, draft⟩ := draft
    obtain ⟨a, as⟩ := values
    rw [complete_cons] at h
    cases value : found.or field.absence.value? with
    | none => simp [value] at h
    | some b =>
      cases rest : fields.complete draft with
      | error fault => simp [value, rest, Except.map] at h
      | ok bs =>
        simp only [value, rest, Except.map] at h
        obtain ⟨rfl, rfl⟩ : b = a ∧ bs = as := Prod.mk.inj (Except.ok.inj h)
        cases found with
        | some c => exact ⟨⟨by simpa using value, by simp⟩, ih rest⟩
        | none => exact ⟨by simpa [Field.Finds] using value, ih rest⟩

theorem awaits_of_placeAll {draft next : Draft τ} (nodup : fields.names.Nodup)
    (placed : fields.placeAll room draft members = .ok next)
    (completed : fields.complete next = .ok values) :
    fields.Awaits room members draft values := by
  induction members generalizing draft with
  | nil =>
    obtain rfl : draft = next := by simpa [placeAll] using placed
    exact awaits_of_complete completed
  | cons member members ih =>
    obtain ⟨_ | name, node⟩ := member
    · simp [placeAll] at placed
    · cases found : fields.place? room name node draft with
      | none =>
        by_cases sound : node.isSound
        · simp only [placeAll, found, sound, if_true] at placed
          exact (ih placed).cons (not_mem_names_of_place? found)
        · simp [placeAll, found, sound] at placed
      | some result =>
        cases result with
        | error fault => simp [placeAll, found, bind, Except.bind] at placed
        | ok draft' =>
          simp only [placeAll, found, bind, Except.bind] at placed
          exact awaits_of_place? nodup found (ih placed)

/-- An object that is read gives each field what stands under its name. -/
theorem finds_of_readMembers {closed : Bool} (nodup : fields.names.Nodup)
    (read : fields.readMembers room members closed = .ok values) :
    fields.Finds room members values := by
  cases placed : fields.placeAll room fields.blank members with
  | error fault => simp [readMembers, placed, bind, Except.bind] at read
  | ok draft =>
    cases closed with
    | false => simp [readMembers, placed, bind, Except.bind] at read
    | true =>
      simp only [readMembers, placed, bind, Except.bind, if_true] at read
      exact finds_of_awaits_blank (awaits_of_placeAll nodup placed read)

end Converse

end Fields

/-- The members that a record is written as: in the order of the fields, with some left out. -/
inductive Written (depth : Nat) :
    {τ : List Type} → Fields τ → Values τ → List (String × Json) → Prop where
  | nil : Written depth .nil () []
  | present {α : Type} {τ : List Type} {field : Field α} {fields : Fields τ} {a : α}
      {values : Values τ} {json : Json} {members : List (String × Json)}
      (read : field.read.Gives depth json.node a) (rest : Written depth fields values members) :
      Written depth (.cons field fields) (a, values) ((field.name, json) :: members)
  | absent {α : Type} {τ : List Type} {field : Field α} {fields : Fields τ} {a : α}
      {values : Values τ} {members : List (String × Json)}
      (value : field.absence.value? = some a) (rest : Written depth fields values members) :
      Written depth (.cons field fields) (a, values) members

namespace Written

variable {fields : Fields τ} {values : Values τ} {members : List (String × Json)}

theorem memberIf {field : Field α} {a : α} {present : Bool} {json : Json}
    {all : List (String × Json)}
    (read : present = .true → field.read.Gives depth json.node a)
    (value : present = .false → field.absence.value? = some a)
    (rest : Written depth fields values members)
    (split : all = Json.memberIf present field.name json ++ members) :
    Written depth (.cons field fields) (a, values) all := by
  subst split
  cases present with
  | true => exact .present (read rfl) rest
  | false => exact .absent (value rfl) rest

/-- A value that is left out when there is none. -/
theorem optional {name : String} {read : Reader α} {write : α → Json} {o : Option α}
    {all : List (String × Json)} (h : ∀ a ∈ o, read.Gives depth (write a).node a)
    (full : ∀ a, (write a).node ≠ .null) (rest : Written depth fields values members)
    (split : all = Json.memberIf o.isSome name (Json.optional write o) ++ members) :
    Written depth (.cons (.withDefault name read.optional none) fields) (o, values) all := by
  refine memberIf (fun _ => Reader.gives_optional h full) (fun missing => ?_) rest split
  have none : o = none := by simpa using missing
  rw [none]
  rfl

/-- A list that is left out when it is empty. -/
theorem list {name : String} {read : Reader α} {write : α → Json} {as : List α}
    {all : List (String × Json)} (h : ∀ a ∈ as, read.Gives depth (write a).node a)
    (rest : Written (depth + 1) fields values members)
    (split : all = Json.memberIf (!as.isEmpty) name (.arr (as.map write)) ++ members) :
    Written (depth + 1) (.cons (.withDefault name (.list read) []) fields) (as, values) all := by
  refine memberIf (fun _ => Reader.gives_list h) (fun missing => ?_) rest split
  have nil : as = [] := by simpa using missing
  rw [nil]
  rfl

theorem names_sublist (h : Written depth fields values members) :
    (members.map Prod.fst).Sublist fields.names := by
  induction h with
  | nil => exact .slnil
  | present _ _ ih => exact ih.cons_cons _
  | absent _ _ ih => exact ih.cons _

theorem finds (h : Written depth fields values members) (hr : depth ≤ room)
    (nodup : fields.names.Nodup) :
    fields.Finds room (members.map fun m => (some m.1, m.2.node)) values := by
  induction h with
  | nil => trivial
  | present read rest ih =>
    obtain ⟨alone, nodup⟩ := List.nodup_cons.mp nodup
    exact ⟨Field.finds_cons_self.mpr (read room hr), (ih nodup).cons alone⟩
  | absent value rest ih =>
    obtain ⟨alone, nodup⟩ := List.nodup_cons.mp nodup
    refine ⟨(Field.finds_absent fun hm => alone ?_).mpr value, ih nodup⟩
    exact rest.names_sublist.subset (by simpa using hm)

theorem admits (h : Written depth fields values members) (nodup : fields.names.Nodup) :
    fields.Admits (members.map fun m => (some m.1, m.2.node)) := by
  have known := h.names_sublist.subset
  have once := nodup.sublist h.names_sublist
  clear h
  induction members with
  | nil => trivial
  | cons member members ih =>
    obtain ⟨alone, once⟩ := List.nodup_cons.mp once
    refine ⟨?_, ih (fun name hm => known (List.mem_cons_of_mem _ hm)) once⟩
    rw [if_pos (known List.mem_cons_self)]
    simpa using alone

theorem readMembers (h : Written depth fields values members) (room : Nat) (hr : depth ≤ room)
    (nodup : fields.names.Nodup) :
    fields.readMembers room (members.map fun m => (some m.1, m.2.node)) true = .ok values :=
  Fields.readMembers_eq nodup (h.admits nodup) (h.finds hr nodup)

end Written

theorem Reader.gives_record {name : String} {fields : Fields τ} {build : Values τ → α} {a : α}
    {members : List (String × Json)} (values : Values τ) (built : build values = a)
    (nodup : fields.names.Nodup) (h : Written depth fields values members) :
    Gives (record name fields build) (depth + 1) (Json.obj members).node a := by
  intro room hr
  obtain ⟨room, rfl⟩ := Nat.exists_eq_add_of_le' (Nat.one_le_of_lt hr)
  have read := h.readMembers room (by omega) nodup
  simp [record, Json.node, memberNodes_eq, read, Except.map, built]

section Tagged

variable {variants : List (Variant α)} {variant : Variant α} {label : String}

theorem splitKind_known {kept : List (Option String × Node)}
    (h : ∀ m ∈ members, m.1.isSome ∧ m.1 ≠ some kindKey ∧ m.2.isKeepable room) :
    splitKind variants room (some variant) kept members =
      .ok (some variant, kept.reverse ++ members) := by
  induction members generalizing kept with
  | nil => simp [splitKind]
  | cons member members ih =>
    obtain ⟨⟨named, other, keepable⟩, others⟩ := List.forall_mem_cons.mp h
    obtain ⟨_ | key, value⟩ := member
    · simp at named
    · have differ : key ≠ kindKey := fun eq => other (congrArg some eq)
      rw [splitKind, if_neg differ, if_pos keepable, ih others]
      simp

/-- A kind that comes first is known before any other member is looked at. -/
theorem Reader.gives_tagged {name tag : String} {fields : Fields τ} {build : Values τ → α} {a : α}
    {members : List (String × Json)}
    (known : Variant.named? variants tag = .ok (.withFields tag label fields build))
    (values : Values τ) (built : build values = a) (nodup : fields.names.Nodup)
    (other : kindKey ∉ fields.names) (h : Written depth fields values members)
    (keepable : ∀ m ∈ members, ∀ room, depth ≤ room → m.2.node.isKeepable room) :
    (tagged name variants).Gives (depth + 1)
      (Json.obj ((kindKey, .str tag) :: members)).node a := by
  intro room hr
  obtain ⟨room, rfl⟩ := Nat.exists_eq_add_of_le' (Nat.one_le_of_lt hr)
  have kept : ∀ m ∈ members.map fun m => (some m.1, m.2.node),
      m.1.isSome ∧ m.1 ≠ some kindKey ∧ m.2.isKeepable room := by
    intro _ hm
    obtain ⟨m, mem, rfl⟩ := List.mem_map.mp hm
    have named : m.1 ∈ fields.names := h.names_sublist.subset (List.mem_map_of_mem mem)
    have differ : m.1 ≠ kindKey := fun eq => other (eq ▸ named)
    exact ⟨rfl, by simpa using differ, keepable m mem room (by omega)⟩
  have read := h.readMembers room (by omega) nodup
  have split : splitKind variants room none []
      ((some kindKey, .str (some tag)) :: members.map fun m => (some m.1, m.2.node)) =
      .ok (some (.withFields tag label fields build),
        members.map fun m => (some m.1, m.2.node)) := by
    simp only [splitKind, if_true, Option.isSome_none, Bool.false_eq_true, if_false,
      Variant.ofTag, known, bind, Except.bind]
    exact splitKind_known kept
  simp only [Json.node, memberNodes_eq, List.map_cons, tagged, split, bind, Except.bind,
    Variant.withFields, read, Except.map, built]

end Tagged

end SavedGames.Json
