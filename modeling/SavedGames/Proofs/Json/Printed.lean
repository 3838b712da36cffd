import Mathlib
import SavedGames.Json.Printer
import SavedGames.Proofs.Decimal
import SavedGames.Proofs.Json.Grammar

/-!
# Written values are read as their trees

`Json.node` is the tree that a value stands for. Both written forms of the value, the compact and
the indented one, spell that tree, so the scanner gives it back from either.
-/
namespace SavedGames.Json
open Document

namespace Numeral

def ofInt (n : Int) : Numeral := ⟨n < 0, Decimal.digits n.natAbs, [], none⟩

theorem spells_ofInt (n : Int) : SpellsNumeral (ofInt n) (Decimal.write n) := by
  have digits : AllDigits (ofInt n).whole :=
    ⟨Decimal.digits_ne_nil _, fun _ h => Decimal.isDigit_of_mem_digits h⟩
  have written := SpellsNumeral.mk digits Decimal.no_leading_zero .absent .absent
  by_cases negative : n < 0 <;> simpa [ofInt, Decimal.write, negative] using written

theorem le_ofDigitChars (cs : List Char) (m : Nat) : m ≤ Nat.ofDigitChars 10 cs m := by
  induction cs generalizing m with
  | nil => simp
  | cons c cs ih =>
    rw [Nat.ofDigitChars_cons]
    exact le_trans (by omega) (ih _)

/-- Digits are gathered whole as long as their number has 64 bits. -/
theorem gather_eq {cs : List Char} {m : Nat} (h : Nat.ofDigitChars 10 cs m < twoTo 64) :
    gather m cs = (Nat.ofDigitChars 10 cs m, 0) := by
  induction cs generalizing m with
  | nil => simp [gather]
  | cons c cs ih =>
    rw [Nat.ofDigitChars_cons] at h ⊢
    have fits : ¬ twoTo 64 ≤ m * 10 + (c.toNat - '0'.toNat) := by
      have := le_ofDigitChars cs (10 * m + (c.toNat - '0'.toNat))
      omega
    rw [gather, if_neg fits, Nat.mul_comm m 10]
    exact ih h

theorem value?_ofInt {n : Int} (low : -2 ^ 63 ≤ n) (high : n < 2 ^ 64) :
    (ofInt n).value? = some (.integer n) := by
  have whole : twoTo 64 = 2 ^ 64 := rfl
  have half : twoTo 63 = 2 ^ 63 := rfl
  have size : n.natAbs < twoTo 64 := by rw [whole]; omega
  have gathered : gather 0 (Decimal.digits n.natAbs) = (n.natAbs, 0) := by
    rw [gather_eq] <;> rw [Decimal.ofDigitChars_digits]
    exact size
  by_cases negative : n < 0
  · have inside : 0 < n.natAbs ∧ n.natAbs ≤ twoTo 63 := by rw [half]; omega
    have back : -(n.natAbs : Int) = n := by omega
    simp only [value?, ofInt, gathered, decide_eq_true negative, inside, and_self, or_true,
      if_true, back]
  · have back : (n.natAbs : Int) = n := by omega
    simp only [value?, ofInt, gathered, decide_eq_false negative, Bool.not_false, true_or,
      and_self, if_true, Bool.false_eq_true, if_false, back]

end Numeral

section Trees

/-- The tree of a value. -/
def node : Json → Node
  | .null => .null
  | .bool b => .bool b
  | .int n => .num (.ofInt n)
  | .str s => .str (some s)
  | .arr items => .arr (itemNodes items) true
  | .obj members => .obj (memberNodes members) true
where
  itemNodes : List Json → List Node
    | [] => []
    | item :: items => node item :: itemNodes items
  memberNodes : List (String × Json) → List (Option String × Node)
    | [] => []
    | (name, value) :: members => (some name, node value) :: memberNodes members

@[simp] theorem itemNodes_eq (items : List Json) : node.itemNodes items = items.map node := by
  induction items with
  | nil => rfl
  | cons item items ih => simp [node.itemNodes, ih]

@[simp] theorem memberNodes_eq (members : List (String × Json)) :
    node.memberNodes members = members.map fun m => (some m.1, m.2.node) := by
  induction members with
  | nil => rfl
  | cons m members ih => simp [node.memberNodes, ih]

end Trees

section Texts

theorem hex_digit {n : Nat} (h : n < 16) : Hex.value? (Hex.digit n) = some n := by
  interval_cases n <;> decide

theorem codeUnit?_control {c : Char} (h : c.toNat < 0x20) :
    codeUnit? '0' '0' (Hex.digit (c.toUInt8.toNat / 16)) (Hex.digit (c.toUInt8.toNat % 16)) =
      some c.toNat := by
  have byte : c.toUInt8.toNat = c.toNat :=
    (UInt32.toNat_toUInt8 c.val).trans (Nat.mod_eq_of_lt (by simpa using by omega))
  have zero : Hex.value? '0' = some 0 := by decide
  simp only [codeUnit?, byte, zero, hex_digit (show c.toNat / 16 < 16 by omega),
    hex_digit (show c.toNat % 16 < 16 by omega)]
  simp
  omega

theorem characters?_code {n : Nat} {us : List TextUnit} (h : n < 0xD800) :
    characters? (.code n :: us) = (characters? us).map (Char.ofNat n :: ·) := by
  have leading : isLeading n = false := by simp [isLeading]; omega
  have trailing : isTrailing n = false := by simp [isTrailing]; omega
  cases us with
  | nil => simp [characters?, leading, trailing]
  | cons u us => cases u <;> simp [characters?, leading, trailing]

/-- An escaped character is one unit, which stands for the character. -/
theorem spells_escaped (c : Char) :
    ∃ u, SpellsUnit u (escaped c) ∧
      ∀ us, characters? (u :: us) = (characters? us).map (c :: ·) := by
  unfold escaped
  split
  case h_8 quote slash _ _ _ _ _ =>
    split
    · rename_i control
      refine ⟨.code c.toNat, .code (codeUnit?_control control), fun us => ?_⟩
      rw [characters?_code (by omega), Char.ofNat_toNat]
    · rename_i printed
      exact ⟨.char c, .plain (by omega) quote slash, fun _ => rfl⟩
  all_goals exact ⟨_, .short rfl, fun _ => rfl⟩

theorem spells_text (cs : List Char) :
    ∃ us, SpellsUnits us (cs.flatMap escaped) ∧ characters? us = some cs := by
  induction cs with
  | nil => exact ⟨[], .nil, rfl⟩
  | cons c cs ih =>
    obtain ⟨us, spelled, read⟩ := ih
    obtain ⟨u, head, one⟩ := spells_escaped c
    exact ⟨u :: us, .cons head spelled, by rw [one, read, Option.map_some]⟩

/-- A quoted text, as a text or as the key of a member. -/
theorem spells_quoted (s : String) :
    ∃ us cs, SpellsUnits us cs ∧ text? us = some s ∧ quoted s = '"' :: (cs ++ ['"']) := by
  obtain ⟨us, spelled, read⟩ := spells_text s.toList
  exact ⟨us, _, spelled, by simp [text?, read], rfl⟩

end Texts

section Layout

variable {gap right after : List Char}

theorem spellsItems_separated (hg : AllBlank gap) (ha : AllBlank after) {items : List Node}
    {parts : List (List Char)} (h : List.Forall₂ Spells items parts) (hne : items ≠ []) :
    SpellsItems items (separated (',' :: gap) parts ++ after) := by
  induction h with
  | nil => exact absurd rfl hne
  | @cons item part items parts head tail ih =>
    cases tail with
    | nil => exact .last head ha
    | cons next tail =>
      have others := ih (List.cons_ne_nil _ _)
      simpa [separated] using SpellsItems.more head allBlank_nil hg others

/-- A key, a colon and a value. -/
def SpellsMember (right : List Char) (m : String × Node) (part : List Char) : Prop :=
  ∃ cs, Spells m.2 cs ∧ part = quoted m.1 ++ ':' :: (right ++ cs)

theorem spellsMembers_separated (hg : AllBlank gap) (hr : AllBlank right) (ha : AllBlank after)
    {members : List (String × Node)} {parts : List (List Char)}
    (h : List.Forall₂ (SpellsMember right) members parts) (hne : members ≠ []) :
    SpellsMembers (members.map fun m => (some m.1, m.2))
      (separated (',' :: gap) parts ++ after) := by
  induction h with
  | nil => exact absurd rfl hne
  | @cons m part members parts head tail ih =>
    obtain ⟨cs, spelled, rfl⟩ := head
    obtain ⟨us, key, unit, read, eq⟩ := spells_quoted m.1
    rw [eq]
    cases tail with
    | nil =>
      simpa [separated, read] using SpellsMembers.last unit allBlank_nil hr spelled ha
    | cons next tail =>
      have others := ih (List.cons_ne_nil _ _)
      simpa [separated, read] using
        SpellsMembers.more unit allBlank_nil hr spelled allBlank_nil hg others

theorem allBlank_newline (depth : Nat) : AllBlank (newline depth) := by
  intro c hc
  simp only [newline, List.mem_cons, List.mem_replicate] at hc
  rcases hc with rfl | ⟨-, rfl⟩ <;> decide

theorem spells_bool (b : Bool) :
    Spells (.bool b) (if b then "true".toList else "false".toList) := by
  cases b
  · exact .false
  · exact .true

mutual

theorem spells_compact : ∀ j : Json, Spells j.node j.compact
  | .null => .null
  | .bool b => spells_bool b
  | .int n => .num (Numeral.spells_ofInt n)
  | .str s => by
    obtain ⟨us, cs, unit, read, eq⟩ := spells_quoted s
    simpa only [node, compact, eq, read] using Spells.str unit
  | .arr [] => .emptyArr allBlank_nil
  | .arr (item :: items) => by
    have parts := spellsItems_separated allBlank_nil allBlank_nil
      (spells_compactItems (item :: items)) (by simp)
    simpa [node, compact] using Spells.arr allBlank_nil parts
  | .obj [] => .emptyObj allBlank_nil
  | .obj (m :: members) => by
    have parts := spellsMembers_separated allBlank_nil allBlank_nil allBlank_nil
      (spells_compactMembers (m :: members)) (by simp)
    simpa [node, compact, Function.comp_def] using Spells.obj allBlank_nil parts

theorem spells_compactItems : ∀ items : List Json,
    List.Forall₂ Spells (items.map node) (compact.compactItems items)
  | [] => .nil
  | item :: items => .cons (spells_compact item) (spells_compactItems items)

theorem spells_compactMembers : ∀ members : List (String × Json),
    List.Forall₂ (SpellsMember []) (members.map fun m => (m.1, m.2.node))
      (compact.compactMembers members)
  | [] => .nil
  | (_, value) :: members =>
    .cons ⟨_, spells_compact value, by simp⟩ (spells_compactMembers members)

end

theorem allBlank_space : AllBlank [' '] := by simp [AllBlank, isBlank]

mutual

theorem spells_indented : ∀ (depth : Nat) (j : Json), Spells j.node (j.indented depth)
  | _, .null => .null
  | _, .bool b => spells_bool b
  | _, .int n => .num (Numeral.spells_ofInt n)
  | _, .str s => by
    obtain ⟨us, cs, unit, read, eq⟩ := spells_quoted s
    simpa only [node, indented, eq, read] using Spells.str unit
  | _, .arr [] => .emptyArr allBlank_nil
  | depth, .arr (item :: items) => by
    have parts := spellsItems_separated (allBlank_newline (depth + 1)) (allBlank_newline depth)
      (spells_indentedItems (depth + 1) (item :: items)) (by simp)
    simpa [node, indented, block, indented.indentedItems] using
      Spells.arr (allBlank_newline (depth + 1)) parts
  | _, .obj [] => .emptyObj allBlank_nil
  | depth, .obj (m :: members) => by
    have parts := spellsMembers_separated (allBlank_newline (depth + 1)) allBlank_space
      (allBlank_newline depth) (spells_indentedMembers (depth + 1) (m :: members)) (by simp)
    simpa [node, indented, block, indented.indentedMembers, Function.comp_def] using
      Spells.obj (allBlank_newline (depth + 1)) parts

theorem spells_indentedItems : ∀ (depth : Nat) (items : List Json),
    List.Forall₂ Spells (items.map node) (indented.indentedItems depth items)
  | _, [] => .nil
  | depth, item :: items => .cons (spells_indented depth item) (spells_indentedItems depth items)

theorem spells_indentedMembers : ∀ (depth : Nat) (members : List (String × Json)),
    List.Forall₂ (SpellsMember [' ']) (members.map fun m => (m.1, m.2.node))
      (indented.indentedMembers depth members)
  | _, [] => .nil
  | depth, (_, value) :: members =>
    .cons ⟨_, spells_indented depth value, by simp⟩ (spells_indentedMembers depth members)

end

/-- Both written forms of a value spell its tree. -/
theorem writes_text (pretty : Bool) (j : Json) : Writes (j.text pretty) j.node := by
  cases pretty with
  | false =>
    refine ⟨[], j.compact, [], ?_, allBlank_nil, allBlank_nil, spells_compact j⟩
    simp [text, compactText]
  | true =>
    refine ⟨[], j.indented 0, [], ?_, allBlank_nil, allBlank_nil, spells_indented 0 j⟩
    simp [text, prettyText]

/-- Reading a written value to its end gives its tree, whichever form it was written in. -/
theorem ofText_text (pretty : Bool) (j : Json) :
    Document.ofText (j.text pretty) = ⟨j.node, true⟩ := (writes_text pretty j).ofText_eq

end Layout

end SavedGames.Json
