import Mathlib
import SavedGames.Json.Choice
import SavedGames.Proofs.Json.Printed
import SavedGames.Proofs.TextMap

/-!
# Laws of the readers

`read.Gives depth node a` says that the reader takes the tree for `a` as long as `depth` more
containers may be opened. Each reader has a law for the tree that its value is written as. A record
is read by the names of its fields: the order of the members does not matter, and members of other
names are passed over.
-/
namespace SavedGames.Json

variable {α β : Type} {depth : Nat} {node : Node} {a : α}

namespace Reader

def Gives (read : Reader α) (depth : Nat) (node : Node) (a : α) : Prop :=
  ∀ room, depth ≤ room → read room node = .ok a

theorem within_gives {low high n : Int} {expected : Expected} (hl : low ≤ n) (hh : n < high)
    (least : -2 ^ 63 ≤ low) (most : high ≤ 2 ^ 64) :
    (within low high expected).Gives depth (Json.int n).node n := by
  intro room _
  have value := Numeral.value?_ofInt (least.trans hl) (hh.trans_le most)
  simp [within, Json.node, value, hl, hh]

theorem gives_bool (b : Bool) : bool.Gives depth (Json.bool b).node b := fun _ _ => rfl

theorem gives_text (s : String) : text.Gives depth (Json.str s).node s := fun _ _ => rfl

theorem Gives.map {read : Reader α} (f : α → β) (h : read.Gives depth node a) :
    (read.map f).Gives depth node (f a) := fun room hr => by
  simp [Reader.map, h room hr, Except.map]

theorem Gives.refine {read : Reader α} {f : α → Except String β} {b : β}
    (h : read.Gives depth node a) (hf : f a = .ok b) :
    (read.refine f).Gives depth node b := fun room hr => by
  simp [Reader.refine, h room hr, hf, bind, Except.bind]

theorem gives_int32 (n : Int32) : int32.Gives depth (Json.int32 n).node n := by
  have least : -0x80000000 ≤ n.toInt := n.le_toInt
  have most : n.toInt < 0x80000000 := n.toInt_lt
  have read : (within (-0x80000000) 0x80000000 .int32).Gives depth (Json.int n.toInt).node
      n.toInt := within_gives least most (by norm_num) (by norm_num)
  have given := read.map Int32.ofInt
  rwa [Int32.ofInt_toInt] at given

theorem gives_uint64 (n : UInt64) : uint64.Gives depth (Json.natural n.toNat).node n := by
  have bound := n.toNat_lt
  have read : (within 0 0x10000000000000000 .unsigned).Gives depth (Json.int n.toNat).node
      n.toNat := within_gives (by omega) (by omega) (by norm_num) (by norm_num)
  have given := read.map fun n => UInt64.ofNat n.toNat
  rwa [Int.toNat_natCast, UInt64.ofNat_toNat] at given

/-- A value that is never written as null may be missing. -/
theorem gives_optional {read : Reader α} {write : α → Json} {o : Option α}
    (h : ∀ a ∈ o, read.Gives depth (write a).node a) (full : ∀ a, (write a).node ≠ .null) :
    read.optional.Gives depth (Json.optional write o).node o := by
  intro room hr
  cases o with
  | none => rfl
  | some a =>
    have there := h a rfl room hr
    have full := full a
    simp only [Json.optional]
    revert there full
    cases (write a).node <;> simp [Reader.optional, Except.map]
    all_goals intro there; rw [there]

theorem all_eq {read : Node → Except Fault α} {write : α → Json} {as : List α}
    (h : ∀ a ∈ as, read (write a).node = .ok a) :
    all read (as.map fun a => (write a).node) = .ok as := by
  induction as with
  | nil => rfl
  | cons a as ih =>
    have first := h a (by simp)
    have others := ih fun b hb => h b (by simp [hb])
    simp [all, first, others, bind, Except.bind, pure, Except.pure]

theorem gives_list {read : Reader α} {write : α → Json} {as : List α}
    (h : ∀ a ∈ as, read.Gives depth (write a).node a) :
    (list read).Gives (depth + 1) (Json.arr (as.map write)).node as := by
  intro room hr
  obtain ⟨room, rfl⟩ := Nat.exists_eq_add_of_le' (Nat.one_le_of_lt hr)
  have items := all_eq fun a ha => h a ha room (by omega)
  simp [list, Json.node, List.map_map, Function.comp_def, items, bind, Except.bind]

theorem entries_eq {read : Node → Except Fault α} {write : α → Json} (found : TextMap α)
    {rest : List (String × α)} (h : ∀ e ∈ rest, read (write e.2).node = .ok e.2)
    (sorted : (found.entries ++ rest).Pairwise fun a b => a.1 < b.1) :
    entries read found (rest.map fun e => (some e.1, (write e.2).node)) =
      .ok ⟨found.entries ++ rest, sorted⟩ := by
  induction rest generalizing found with
  | nil => simp [entries]
  | cons e rest ih =>
    have first := h e (by simp)
    have put : (found.insert e.1 e.2).entries = found.entries ++ [e] :=
      TextMap.insert_last fun d hd => (List.pairwise_append.mp sorted).2.2 d hd e (by simp)
    have still : ((found.insert e.1 e.2).entries ++ rest).Pairwise fun a b => a.1 < b.1 := by
      simpa [put] using sorted
    have others := ih _ (fun d hd => h d (by simp [hd])) still
    simp only [List.map_cons, entries, first, bind, Except.bind, others]
    simp [put]

theorem gives_table {read : Reader α} {write : α → Json} {m : TextMap α}
    (h : ∀ e ∈ m.entries, read.Gives depth (write e.2).node e.2) :
    (table read).Gives (depth + 1)
      (Json.obj (m.entries.map fun e => (e.1, write e.2))).node m := by
  intro room hr
  obtain ⟨room, rfl⟩ := Nat.exists_eq_add_of_le' (Nat.one_le_of_lt hr)
  have found := entries_eq .empty (fun e he => h e he room (by omega)) m.sorted
  simp only [table, Json.node, memberNodes_eq, List.map_map, Function.comp_def, found, bind,
    Except.bind]
  rfl

end Reader

end SavedGames.Json
