import Mathlib
import SavedGames.Options
import SavedGames.Proofs.Change
import SavedGames.Proofs.Decimal
import SavedGames.Proofs.TextMap

/-!
# Packed options are read back

An option set holds only settings that are read back as themselves, and neither a key nor a packed
setting contains a separator. So the packed text splits into its pairs again, which come in
ascending order of their keys.
-/
namespace SavedGames

namespace Setting

theorem int32?_flagged (b : Bool) (cs : List Char) : Decimal.int32? (flagChar b :: cs) = none := by
  cases b <;> simp [flagChar, Decimal.int32?, Decimal.integer?, Decimal.natural?]

theorem write_ne_flag (n : Int32) (b : Bool) : Decimal.write n.toInt ≠ [flagChar b] := by
  intro eq
  have read := Decimal.int32?_write n
  rw [eq, int32?_flagged] at read
  cases read

theorem unpack_pack {s : Setting} (h : s.isAmbiguous = false) : unpack s.pack = s := by
  cases s with
  | flag b => cases b <;> rfl
  | number n =>
    have notTrue : Decimal.write n.toInt ≠ ['t'] := write_ne_flag n true
    have notFalse : Decimal.write n.toInt ≠ ['f'] := write_ne_flag n false
    simp only [pack, unpack, if_neg notTrue, if_neg notFalse, Decimal.int32?_write]
  | flaggedNumber b n =>
    have read := Decimal.int32?_write n
    have number := int32?_flagged b (Decimal.write n.toInt)
    have digits := Decimal.write_ne_nil n.toInt
    cases b <;> simp_all [pack, unpack, flagChar, flagged?]
  | text s => simpa [isAmbiguous, pack] using h

theorem isSeparator_flagChar (b : Bool) : isSeparator (flagChar b) = false := by
  cases b <;> decide

theorem isSeparator_of_isDigit {c : Char} (digit : c.isDigit = true) : isSeparator c = false := by
  by_contra separator
  simp only [isSeparator, Bool.not_eq_false, Bool.or_eq_true, beq_iff_eq] at separator
  rcases separator with rfl | rfl <;> exact absurd digit (by decide)

theorem isSeparator_of_mem_write {n : Int} {c : Char} (h : c ∈ Decimal.write n) :
    isSeparator c = false := by
  rcases Decimal.of_mem_write h with rfl | digit
  · decide
  · exact isSeparator_of_isDigit digit

/-- No packed setting contains a comma or an equals sign. -/
theorem isSeparator_of_mem_pack {s : Setting} (h : s.hasSeparator = false) {c : Char}
    (hc : c ∈ s.pack) : isSeparator c = false := by
  cases s with
  | flag b =>
    obtain rfl := List.mem_singleton.mp hc
    exact isSeparator_flagChar b
  | number n => exact isSeparator_of_mem_write hc
  | flaggedNumber b n =>
    rcases List.mem_cons.mp hc with rfl | hc
    · exact isSeparator_flagChar b
    · exact isSeparator_of_mem_write hc
  | text s => exact Bool.eq_false_iff.mpr (List.any_eq_false.mp h c hc)

end Setting

namespace Options

theorem pieces_plain {cs : List Char} (h : ',' ∉ cs) : pieces cs = [cs] := by
  induction cs with
  | nil => rfl
  | cons c cs ih =>
    obtain ⟨here, others⟩ := not_or.mp (List.mem_cons.not.mp h)
    rw [pieces, if_neg (Ne.symm here), ih others]

theorem pieces_comma {cs rest : List Char} (h : ',' ∉ cs) :
    pieces (cs ++ ',' :: rest) = cs :: pieces rest := by
  induction cs with
  | nil => simp [pieces]
  | cons c cs ih =>
    obtain ⟨here, others⟩ := not_or.mp (List.mem_cons.not.mp h)
    rw [List.cons_append, pieces, if_neg (Ne.symm here), ih others]

theorem pieces_joined {ps : List (List Char)} (some : ps ≠ []) (h : ∀ p ∈ ps, ',' ∉ p) :
    pieces (joined ps) = ps := by
  induction ps with
  | nil => exact absurd rfl some
  | cons p ps ih =>
    have here := h p (by simp)
    cases ps with
    | nil => exact pieces_plain here
    | cons q qs =>
      rw [joined, pieces_comma here, ih (by simp) fun r hr => h r (by simp [hr])]
      simp

theorem splitPair?_eq {key value : List Char} (h : '=' ∉ key) :
    splitPair? (key ++ '=' :: value) = some (key, value) := by
  induction key with
  | nil => simp [splitPair?]
  | cons c key ih =>
    obtain ⟨here, others⟩ := not_or.mp (List.mem_cons.not.mp h)
    simp [splitPair?, Ne.symm here, ih others]

theorem isSeparator_of_isKey {key : String} (h : isKey key) {c : Char} (hc : c ∈ key.toList) :
    Setting.isSeparator c = false := by
  have all : key.toList.all isKeyChar = true := (Bool.and_eq_true_iff.mp h).2
  have keyChar := List.all_eq_true.mp all c hc
  by_contra separator
  simp only [Setting.isSeparator, Bool.not_eq_false, Bool.or_eq_true, beq_iff_eq] at separator
  rcases separator with rfl | rfl <;> exact absurd keyChar (by decide)

variable {e : String × Setting}

theorem comma_not_mem_packPair (key : isKey e.1) (packable : e.2.isPackable) :
    ',' ∉ packPair e := by
  have plain : e.2.hasSeparator = false := by simp_all [Setting.isPackable]
  intro mem
  rcases List.mem_append.mp mem with mem | mem
  · exact absurd (isSeparator_of_isKey key mem) (by decide)
  · rcases List.mem_cons.mp mem with eq | mem
    · exact absurd eq (by decide)
    · exact absurd (Setting.isSeparator_of_mem_pack plain mem) (by decide)

theorem insert_of_packable (o : Options) (key : isKey e.1) (packable : e.2.isPackable) :
    (insert e.1 e.2).on o = (.ok (), o.put e.1 e.2 key packable) := by
  rw [insert, dif_pos key, dif_pos packable]
  rfl

/-- An option is refused before anything is changed. -/
theorem insert_of_not_packable (o : Options) (refused : ¬ (isKey e.1 ∧ e.2.isPackable)) :
    ∃ fault, (insert e.1 e.2).on o = (.error fault, o) := by
  by_cases key : isKey e.1 = true
  · have unpackable : ¬ e.2.isPackable = true := fun packable => refused ⟨key, packable⟩
    rw [insert, dif_pos key, dif_neg unpackable]
    exact ⟨_, rfl⟩
  · rw [insert, dif_neg key]
    exact ⟨_, rfl⟩

theorem splitPair?_packPair (key : isKey e.1) :
    splitPair? (packPair e) = some (e.1.toList, e.2.pack) :=
  splitPair?_eq fun mem => absurd (isSeparator_of_isKey key mem) (by decide)

/-- A packed pair is put behind the settings of smaller keys. -/
theorem parsePiece_packPair (packed : String) {o : Options} (key : isKey e.1)
    (packable : e.2.isPackable) (below : ∀ d ∈ o.settings.entries, d.1 < e.1) :
    ∃ next, parsePiece packed o (packPair e) = .ok next ∧
      next.settings.entries = o.settings.entries ++ [e] := by
  have read : Setting.unpack e.2.pack = e.2 :=
    Setting.unpack_pack (by simp_all [Setting.isPackable])
  have inserted := Change.changed_eq_ok.mpr (insert_of_packable o key packable)
  refine ⟨o.put e.1 e.2 key packable, ?_, TextMap.insert_last below⟩
  rw [parsePiece, splitPair?_packPair key]
  simp [TextMap.contains_above below, read, inserted, Except.mapError]

theorem parsePieces_packPair (packed : String) {o : Options} {rest : List (String × Setting)}
    (packable : ∀ e ∈ rest, isKey e.1 ∧ e.2.isPackable)
    (sorted : (o.settings.entries ++ rest).Pairwise fun a b => a.1 < b.1) :
    ∃ next, parsePieces packed o (rest.map packPair) = .ok next ∧
      next.settings.entries = o.settings.entries ++ rest := by
  induction rest generalizing o with
  | nil => exact ⟨o, rfl, by simp⟩
  | cons e rest ih =>
    obtain ⟨key, fits⟩ := packable e (by simp)
    have below : ∀ d ∈ o.settings.entries, d.1 < e.1 := fun d hd =>
      (List.pairwise_append.mp sorted).2.2 d hd e (by simp)
    obtain ⟨o', parsed, entries⟩ := parsePiece_packPair packed key fits below
    have sorted' : (o'.settings.entries ++ rest).Pairwise fun a b => a.1 < b.1 := by
      simpa [entries] using sorted
    obtain ⟨next, others, all⟩ := ih (fun d hd => packable d (by simp [hd])) sorted'
    exact ⟨next, by simp [parsePieces, parsed, others], by simp [all, entries]⟩

theorem ext_entries {o p : Options} (h : o.settings.entries = p.settings.entries) : o = p := by
  obtain ⟨⟨_, _⟩, _⟩ := o
  obtain ⟨⟨_, _⟩, _⟩ := p
  cases h
  rfl

theorem toList_pack (o : Options) : o.pack.toList = joined (o.settings.entries.map packPair) := by
  rw [pack, String.toList_ofList, packChars]

/-- The commas of a packed text stand between its pairs. -/
theorem pieces_pack {o : Options} (some : o.settings.entries ≠ []) :
    pieces o.pack.toList = o.settings.entries.map packPair := by
  rw [toList_pack]
  refine pieces_joined (by simpa using some) fun p hp => ?_
  obtain ⟨e, he, rfl⟩ := List.mem_map.mp hp
  obtain ⟨key, packable⟩ := o.packable e he
  exact comma_not_mem_packPair key packable

/-- An option set is read back from its packed text. -/
theorem parse_packed (o : Options) : parse o.pack = .ok o := by
  by_cases none : o.settings.entries = []
  · have empty : o = Options.empty := ext_entries none
    rw [parse, toList_pack, none, List.map_nil, joined, if_pos rfl, empty]
  · have split := pieces_pack none
    have filled : o.pack.toList ≠ [] := by
      intro nil
      rw [nil] at split
      have mem : [] ∈ o.settings.entries.map packPair := by simp [← split, pieces]
      obtain ⟨e, -, bare⟩ := List.mem_map.mp mem
      simp [packPair] at bare
    obtain ⟨next, parsed, entries⟩ :=
      parsePieces_packPair (o := Options.empty) o.pack o.packable o.settings.sorted
    rw [parse, if_neg filled, split, parsed, ext_entries entries]

end Options

end SavedGames
